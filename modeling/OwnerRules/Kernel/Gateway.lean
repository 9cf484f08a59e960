import OwnerRules.Errno
import OwnerRules.MapPath
import OwnerRules.OwnerMap
import OwnerRules.Kernel.Command

namespace OwnerRules.Kernel

inductive Call
  | objGet (path : MapPath) (flags : UInt32)
  | lookup (fd : Int32) (uid : UInt32)
  | update (fd : Int32) (uid : UInt32) (entry : Entry) (flags : UInt64)
  | delete (fd : Int32) (uid : UInt32)
  deriving DecidableEq

namespace Call

def command : Call → Command
  | objGet .. => .objGet
  | lookup .. => .lookup
  | update .. => .update
  | delete .. => .delete

abbrev Answer : Call → Type
  | objGet .. => Int32
  | lookup .. => Entry
  | update .. => Unit
  | delete .. => Unit

end Call

structure Gateway (σ : Type) where
  serve : (c : Call) → σ → Except Errno c.Answer × σ

structure Exchange where
  call : Call
  answer : Except Errno call.Answer

namespace Gateway

variable {σ : Type}

def recorded (g : Gateway σ) : Gateway (σ × List Exchange) where
  serve c s :=
    let (answer, k) := g.serve c s.1
    (answer, k, s.2 ++ [⟨c, answer⟩])

end Gateway

end OwnerRules.Kernel

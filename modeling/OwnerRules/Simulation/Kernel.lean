import OwnerRules.Kernel.Syscall
/-!
A simulated kernel with one owner map, which can be made to fail and to be edited by others. It
serves typed calls, and invocations in bytes.
-/
namespace OwnerRules

open Kernel

structure Injection where
  errno : Int32
  times : Option Nat
  ret : Int64
  deriving DecidableEq

structure SimulatedKernel where
  map : OwnerMap
  nextFd : Int64
  openFd : Option Int64
  injections : Command → Option Injection
  /-- Edits by others that come right after the next look-up. -/
  race : List Edit
  okRet : Int64

inductive Effect
  | refused (errno : Int32) (ret : Int64)
  | opened (fd : Int64)
  | found (entry : Entry)
  | done
  deriving DecidableEq

namespace Effect

def failed (e : Errno) : Effect := refused (Int32.ofNat e.number) (-1)

end Effect

namespace SimulatedKernel

def ofEntries (entries : List (UInt32 × Entry)) : SimulatedKernel where
  map := .ofList entries
  nextFd := 77
  openFd := none
  injections _ := none
  race := []
  okRet := 0

def setInjection (k : SimulatedKernel) (c : Command) (i : Option Injection) : SimulatedKernel :=
  { k with injections := fun d => if d = c then i else k.injections d }

def takeInjection (k : SimulatedKernel) (c : Command) : Option (Injection × SimulatedKernel) :=
  match k.injections c with
  | none => none
  | some i =>
    match i.times with
    | none => some (i, k)
    | some 0 => none
    | some (n + 1) => some (i, k.setInjection c (some { i with times := some n }))

def isOpen (k : SimulatedKernel) (fd : Int32) : Bool :=
  k.openFd.any fun f => f.toUInt64.toUInt32 = fd.toUInt32

def lookupElement (k : SimulatedKernel) (uid : UInt32) : Effect × SimulatedKernel :=
  match k.map.get? uid with
  | none => (.failed .ENOENT, k)
  | some entry => (.found entry, { k with map := k.map.editAll k.race, race := [] })

def updateElement (k : SimulatedKernel) (uid : UInt32) (entry : Entry) (flags : UInt64) :
    Effect × SimulatedKernel :=
  if Flag.exist < flags then (.failed .EINVAL, k)
  else if flags = Flag.noExist ∧ (k.map.get? uid).isSome then (.failed .EEXIST, k)
  else if flags = Flag.exist ∧ (k.map.get? uid).isNone then (.failed .ENOENT, k)
  else (.done, { k with map := k.map.insert uid entry })

def deleteElement (k : SimulatedKernel) (uid : UInt32) : Effect × SimulatedKernel :=
  match k.map.get? uid with
  | none => (.failed .ENOENT, k)
  | some _ => (.done, { k with map := k.map.erase uid })

def perform (k : SimulatedKernel) : Call → Effect × SimulatedKernel
  | .objGet .. => (.opened k.nextFd, { k with openFd := some k.nextFd })
  | .lookup fd uid => if k.isOpen fd then k.lookupElement uid else (.failed .EBADF, k)
  | .update fd uid entry flags =>
    if k.isOpen fd then k.updateElement uid entry flags else (.failed .EBADF, k)
  | .delete fd uid => if k.isOpen fd then k.deleteElement uid else (.failed .EBADF, k)

def run (k : SimulatedKernel) (c : Call) : Effect × SimulatedKernel :=
  match k.takeInjection c.command with
  | some (i, k) => (.refused i.errno i.ret, k)
  | none => k.perform c

end SimulatedKernel

namespace Effect

def answer (e : Effect) (c : Call) : Except Errno c.Answer :=
  match e, c with
  | refused errno _, _ => .error (.ofNumber errno.toInt)
  | opened fd, .objGet .. => .ok fd.toInt32
  | found entry, .lookup .. => .ok entry
  | done, .update .. => .ok ()
  | done, .delete .. => .ok ()
  | _, _ => .error .EINVAL

/-- The effect as it comes back from the system call. What a look-up finds is written where the
record points. -/
def reply (okRet : Int64) (attr : List UInt8) : Effect → Reply
  | refused errno ret => ⟨ret, errno, []⟩
  | opened fd => ⟨fd, 0, []⟩
  | found entry => ⟨okRet, 0, [(Attributes.valueOf attr, entry.toBytes)]⟩
  | done => ⟨okRet, 0, []⟩

end Effect

namespace SimulatedKernel

def gateway : Gateway SimulatedKernel where
  serve c k :=
    let (e, k') := k.run c
    (e.answer c, k')

def syscall : Syscall SimulatedKernel where
  invoke i k :=
    match i.call? with
    | none => ((Effect.failed .EINVAL).reply k.okRet i.attr, k)
    | some c =>
      let (e, k') := k.run c
      (e.reply k.okRet i.attr, k')

end SimulatedKernel

end OwnerRules

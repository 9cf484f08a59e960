import OwnerRules.Kernel.Attributes
import OwnerRules.Kernel.Gateway
/-!
The gateway over `bpf(2)`: each typed call becomes an attribute record with the memory it points
to, and each return value is read back as an answer or an error number. Main statement: the call
can be read back from its bytes.
-/
namespace OwnerRules.Kernel

structure Invocation where
  command : UInt32
  attr : List UInt8
  memory : List (UInt64 × List UInt8)
  deriving DecidableEq

structure Reply where
  ret : Int64
  errno : Int32
  written : List (UInt64 × List UInt8)
  deriving DecidableEq

structure Syscall (σ : Type) where
  invoke : Invocation → σ → Reply × σ

/-- Where the caller keeps the path, key and value that its records point to. -/
structure Placement where
  path : UInt64
  key : UInt64
  value : UInt64
  path_ne : path ≠ 0
  key_ne : key ≠ 0
  value_ne : value ≠ 0
  key_ne_value : key ≠ value

def Placement.default : Placement :=
  ⟨0x1000, 0x2000, 0x3000, by decide, by decide, by decide, by decide⟩

namespace Invocation

def size (i : Invocation) : UInt32 := UInt32.ofNat i.attr.length

def ofCall (p : Placement) : Call → Invocation
  | .objGet path flags =>
    ⟨Command.objGet.number, Attributes.objGet p.path flags, [(p.path, path.bytes ++ [0])]⟩
  | .lookup fd uid =>
    ⟨Command.lookup.number, Attributes.element fd.toUInt32 p.key p.value 0,
      [(p.key, keyBytes uid)]⟩
  | .update fd uid entry flags =>
    ⟨Command.update.number, Attributes.element fd.toUInt32 p.key p.value flags,
      [(p.key, keyBytes uid), (p.value, entry.toBytes)]⟩
  | .delete fd uid =>
    ⟨Command.delete.number, Attributes.element fd.toUInt32 p.key 0 0, [(p.key, keyBytes uid)]⟩

def pointee (i : Invocation) (address : UInt64) : List UInt8 := (i.memory.lookup address).getD []

def path (i : Invocation) : MapPath :=
  ⟨(i.pointee (Attributes.pathOf i.attr)).takeWhile (· ≠ 0)⟩

def key (i : Invocation) : List UInt8 := i.pointee (Attributes.keyOf i.attr)

def value (i : Invocation) : List UInt8 := i.pointee (Attributes.valueOf i.attr)

def call? (i : Invocation) : Option Call :=
  (Command.ofNumber? i.command).map fun
    | .objGet => .objGet i.path (Attributes.fileFlagsOf i.attr)
    | .lookup => .lookup (Attributes.fdOf i.attr).toInt32 (uidOfBytes i.key)
    | .update =>
      .update (Attributes.fdOf i.attr).toInt32 (uidOfBytes i.key) (.ofBytes i.value)
        (Attributes.flagsOf i.attr)
    | .delete => .delete (Attributes.fdOf i.attr).toInt32 (uidOfBytes i.key)

section Element

variable (p : Placement) (fd : Int32) (uid : UInt32)

theorem key_lookup : (ofCall p (.lookup fd uid)).key = keyBytes uid := by
  simp [key, pointee, ofCall, Attributes.keyOf_element]

theorem key_update (entry : Entry) (flags : UInt64) :
    (ofCall p (.update fd uid entry flags)).key = keyBytes uid := by
  simp [key, pointee, ofCall, Attributes.keyOf_element]

theorem value_update (entry : Entry) (flags : UInt64) :
    (ofCall p (.update fd uid entry flags)).value = entry.toBytes := by
  simp [value, pointee, ofCall, Attributes.valueOf_element, List.lookup_cons,
    beq_eq_false_iff_ne.2 p.key_ne_value.symm]

theorem key_delete : (ofCall p (.delete fd uid)).key = keyBytes uid := by
  simp [key, pointee, ofCall, Attributes.keyOf_element]

end Element

theorem path_objGet (p : Placement) {path : MapPath} (h : path.hasNul = false) (flags : UInt32) :
    (ofCall p (.objGet path flags)).path = path := by
  have hb : ∀ b ∈ path.bytes, b ≠ 0 := by
    intro b hb hz
    simp [MapPath.hasNul, hz ▸ hb] at h
  simp only [Invocation.path, pointee, ofCall, Attributes.pathOf_objGet, List.lookup_cons,
    beq_self_eq_true, Option.getD_some]
  rw [List.takeWhile_append_of_pos (by simpa using hb)]
  simp

theorem call?_ofCall (p : Placement) {c : Call}
    (h : ∀ path flags, c = .objGet path flags → path.hasNul = false) :
    (ofCall p c).call? = some c := by
  cases c with
  | objGet path flags =>
    have hp := path_objGet p (h path flags rfl) flags
    simp only [call?, hp]
    simp [ofCall, Command.ofNumber?, Command.all, Command.number, Attributes.fileFlagsOf_objGet]
  | lookup fd uid =>
    simp only [call?, key_lookup]
    simp [ofCall, Command.ofNumber?, Command.all, Command.number, Attributes.fdOf_element,
      uidOfBytes_keyBytes]
  | update fd uid entry flags =>
    simp only [call?, key_update, value_update]
    simp [ofCall, Command.ofNumber?, Command.all, Command.number, Attributes.fdOf_element,
      Attributes.flagsOf_element, uidOfBytes_keyBytes, Entry.ofBytes_toBytes]
  | delete fd uid =>
    simp only [call?, key_delete]
    simp [ofCall, Command.ofNumber?, Command.all, Command.number, Attributes.fdOf_element,
      uidOfBytes_keyBytes]

end Invocation

namespace Reply

def pointee (r : Reply) (address : UInt64) : List UInt8 := (r.written.lookup address).getD []

/-- Any negative return value is a failure. A look-up reads the caller's own buffer, which holds
zeros where nothing was written, and a descriptor that does not fit is refused. -/
def answer (r : Reply) (p : Placement) (c : Call) : Except Errno c.Answer :=
  if r.ret < 0 then .error (.ofNumber r.errno.toInt)
  else
    match c with
    | .objGet .. => if 0x7FFFFFFF < r.ret then .error .EBADF else .ok r.ret.toInt32
    | .lookup .. => .ok (.ofBytes (r.pointee p.value))
    | .update .. => .ok ()
    | .delete .. => .ok ()

end Reply

namespace Syscall

variable {σ : Type}

def gateway (k : Syscall σ) (p : Placement) : Gateway σ where
  serve c s :=
    let (reply, s) := k.invoke (.ofCall p c) s
    (reply.answer p c, s)

def recorded (k : Syscall σ) : Syscall (σ × List Invocation) where
  invoke i s :=
    let (reply, k) := k.invoke i s.1
    (reply, k, s.2 ++ [i])

end Syscall

end OwnerRules.Kernel

import OwnerRules.Errno

namespace OwnerRules

inductive MapCapability
  | bpf
  | netAdmin
  | sysAdmin
  deriving DecidableEq

namespace MapCapability

def all : List MapCapability := [bpf, netAdmin, sysAdmin]

def number : MapCapability → Nat
  | bpf => 39
  | netAdmin => 12
  | sysAdmin => 21

def name : MapCapability → String
  | bpf => "CAP_BPF"
  | netAdmin => "CAP_NET_ADMIN"
  | sysAdmin => "CAP_SYS_ADMIN"

end MapCapability

structure Capabilities where
  effective : Option (List Nat)

namespace Capabilities

def empty : Capabilities := ⟨some []⟩

def held (c : Capabilities) : Option (List MapCapability) :=
  c.effective.map fun ns => MapCapability.all.filter fun m => ns.contains m.number

def describe (c : Capabilities) : String :=
  "effective caps: " ++ match c.held with
    | none => "(unable to read)"
    | some [] => "(none)"
    | some ms => ",".intercalate (ms.map MapCapability.name)

def hintFor (c : Capabilities) (e : Errno) : String :=
  if e = .EPERM ∨ e = .EACCES then c.describe else ""

end Capabilities

end OwnerRules

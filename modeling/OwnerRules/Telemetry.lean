import OwnerRules.Removal

namespace OwnerRules

structure Telemetry where
  outcomes : Outcome → Nat
  kernelErrors : Kernel.Command → Nat
  mapOpens : Nat
  mapOpen : Bool

namespace Telemetry

def zero : Telemetry := ⟨fun _ => 0, fun _ => 0, 0, false⟩

def countOutcome (t : Telemetry) (o : Outcome) : Telemetry :=
  { t with outcomes := fun p => if p = o then t.outcomes p + 1 else t.outcomes p }

def countKernelError (t : Telemetry) (c : Kernel.Command) : Telemetry :=
  { t with kernelErrors := fun d => if d = c then t.kernelErrors d + 1 else t.kernelErrors d }

def countMapOpen (t : Telemetry) : Telemetry :=
  { t with mapOpens := t.mapOpens + 1, mapOpen := true }

def outcomeCounts (t : Telemetry) : List (String × Nat) :=
  (Outcome.all.map fun o => (o.name, t.outcomes o)).filter (·.2 ≠ 0)

def kernelErrorCounts (t : Telemetry) : List (String × Nat) :=
  ([.delete, .lookup, .update, .objGet].map fun c : Kernel.Command =>
    (c.name, t.kernelErrors c)).filter (·.2 ≠ 0)

structure Family where
  name : String
  help : String
  kind : String
  samples : List (String × Nat)

namespace Family

def labelled (name help label : String) (counts : List (String × Nat)) : Family :=
  ⟨name, help, "counter",
    counts.map fun c => ("\x7b" ++ label ++ "=\"" ++ c.1 ++ "\"\x7d", c.2)⟩

def lines (f : Family) : List String :=
  if f.samples.isEmpty then []
  else
    ("# HELP " ++ f.name ++ " " ++ f.help) :: ("# TYPE " ++ f.name ++ " " ++ f.kind) ::
      f.samples.map fun s => f.name ++ s.1 ++ " " ++ toString s.2

end Family

def families (t : Telemetry) : List Family :=
  [.labelled "uid_owner_bridge_kernel_errors_total" "Unexpected bpf(2) failures by operation"
      "operation" t.kernelErrorCounts,
    ⟨"uid_owner_bridge_map_open", "Whether the uid owner map is open (1) or not (0)", "gauge",
      [("", t.mapOpen.toNat)]⟩,
    ⟨"uid_owner_bridge_map_opens_total", "Times the uid owner map was opened", "counter",
      [("", t.mapOpens)]⟩,
    .labelled "uid_owner_bridge_outcomes_total" "uid owner rule removals by outcome"
      "outcome" t.outcomeCounts]

def exposition (t : Telemetry) : String :=
  String.join (t.families.flatMap Family.lines |>.map (· ++ "\n"))

end Telemetry

end OwnerRules

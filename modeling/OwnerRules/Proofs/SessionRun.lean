import OwnerRules.Proofs.Operation
import OwnerRules.Simulation.Session

namespace OwnerRules

open Kernel

namespace Session

variable {κ : Type}

def finish (g : Gateway (Observed κ)) (s : Session κ) (steps : List Step) : Session κ :=
  steps.foldl (fun s t => (s.clearTrace.step g t).2) s

@[simp] theorem finish_cons (g : Gateway (Observed κ)) (s : Session κ) (t : Step)
    (steps : List Step) : s.finish g (t :: steps) = (s.clearTrace.step g t).2.finish g steps := rfl

theorem clearRules_course (s : Session Exchange) (path : MapPath) (uid : UInt32) (rules : UInt64) :
    ∃ (c : Course) (k : SimulatedKernel),
      c.Possible s.bridge.descriptor path rules.toUInt32 ∧
      SimulatedKernel.gateway.Serves s.kernel (c.exchanges path uid rules.toUInt32) k ∧
      (s.clearTrace.step typedGateway (.clearRules path uid rules)).1 =
        .ofRemoval (c.answer path) ∧
      (s.clearTrace.step typedGateway (.clearRules path uid rules)).2.kernel = k := by
  obtain ⟨c, k, hp, hserves, hc, -⟩ :=
    s.clearTrace.bridge.clearRules_course typedGateway path uid rules
  refine ⟨c, k.1, hp, (SimulatedKernel.gateway.serves_recorded.mp hserves).1, ?_, ?_⟩
  · simp only [step, withBridge, hc]
  · simp only [step, withBridge, hc, kernel, Course.kernel_leave]

theorem exists_report {g : Gateway (Observed κ)} {P : Session κ → Prop} {steps : List Step}
    (hstep : ∀ t ∈ steps, ∀ s, P s → P (s.clearTrace.step g t).2) {s : Session κ} (hs : P s)
    {r : StepReport κ} (hr : r ∈ run g s steps) : ∃ s' result, P s' ∧ r = s'.report result := by
  induction steps generalizing s with
  | nil => cases hr
  | cons t steps ih =>
    have hnext : P (s.clearTrace.step g t).2 := hstep t List.mem_cons_self s hs
    rcases List.mem_cons.mp hr with rfl | hr
    · exact ⟨_, _, hnext, rfl⟩
    · exact ih (fun u hu => hstep u (List.mem_cons_of_mem t hu)) hnext hr

end Session

end OwnerRules

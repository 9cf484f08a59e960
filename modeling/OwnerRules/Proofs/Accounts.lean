import OwnerRules.Proofs.StepOperation

namespace OwnerRules

open Kernel

def Failure.kernelCommand? : Failure → Option Command
  | .kernel c _ => some c
  | .invalidPath _ => none

theorem Failure.kernelCommand?_eq_some {f : Failure} {c : Command}
    (h : f.kernelCommand? = some c) : ∃ e, f = .kernel c e := by
  cases f with
  | invalidPath s => cases h
  | kernel d e =>
    obtain rfl := Option.some.inj h
    exact ⟨e, rfl⟩

def Finished.failedCommand? (f : Finished) : Option Command :=
  f.failure?.bind Failure.kernelCommand?

variable {σ : Type}

namespace Telemetry

theorem countOutcome_outcomes (t : Telemetry) (o p : Outcome) :
    (t.countOutcome o).outcomes p = t.outcomes p + if some o = some p then 1 else 0 := by
  by_cases h : p = o
  · simp [countOutcome, h]
  · simp [countOutcome, h, Ne.symm h]

theorem countKernelError_kernelErrors (t : Telemetry) (c d : Command) :
    (t.countKernelError c).kernelErrors d =
      t.kernelErrors d + if some c = some d then 1 else 0 := by
  by_cases h : d = c
  · simp [countKernelError, h]
  · simp [countKernelError, h, Ne.symm h]

end Telemetry

structure Bridge.OpensCounted (b : Bridge σ) : Prop where
  mapOpens : b.telemetry.mapOpens = b.descriptor.isSome.toNat
  mapOpen : b.telemetry.mapOpen = b.descriptor.isSome

namespace Opening

variable {path : MapPath}

theorem outcomes_leave (o : Opening) (b : Bridge σ) :
    (o.leave path b).telemetry.outcomes = b.telemetry.outcomes := by
  cases o <;> rfl

theorem kernelErrors_leave (o : Opening) (b : Bridge σ) (c : Command) :
    (o.leave path b).telemetry.kernelErrors c = b.telemetry.kernelErrors c +
      if Finished.failedCommand? ⟨.openMap path, o.answer path⟩ = some c then 1 else 0 := by
  cases o with
  | failed e => exact b.telemetry.countKernelError_kernelErrors .objGet c
  | _ => rfl

theorem opensCounted_leave {o : Opening} {b : Bridge σ} (hb : b.OpensCounted)
    (ho : o.Possible b.descriptor path) : (o.leave path b).OpensCounted := by
  cases o with
  | opened fd =>
    refine ⟨?_, rfl⟩
    have h := hb.mapOpens
    rw [ho.1] at h
    simp [leave, Bridge.fill, Bridge.emit, Telemetry.countMapOpen, h]
  | _ => exact ⟨hb.mapOpens, hb.mapOpen⟩

end Opening

namespace Clearing

variable {uid mask : UInt32}

theorem outcomes_leave (c : Clearing) (path : MapPath) (rules : UInt64) (b : Bridge σ)
    (o : Outcome) :
    (c.leave uid mask b).telemetry.outcomes o = b.telemetry.outcomes o +
      if Finished.outcome? ⟨.clearRules path uid rules, c.answer⟩ = some o then 1 else 0 := by
  cases c with
  | lookupFailed e => rfl
  | _ => exact b.telemetry.countOutcome_outcomes _ o

theorem kernelErrors_leave (c : Clearing) (path : MapPath) (rules : UInt64) (b : Bridge σ)
    (d : Command) :
    (c.leave uid mask b).telemetry.kernelErrors d = b.telemetry.kernelErrors d +
      if Finished.failedCommand? ⟨.clearRules path uid rules, c.answer⟩ = some d then 1 else 0 := by
  cases c with
  | lookupFailed e => exact b.telemetry.countKernelError_kernelErrors .lookup d
  | updateFailed found e => exact b.telemetry.countKernelError_kernelErrors .update d
  | deleteFailed found e => exact b.telemetry.countKernelError_kernelErrors .delete d
  | _ => rfl

theorem opensCounted_leave {c : Clearing} {b : Bridge σ} (hb : b.OpensCounted) :
    (c.leave uid mask b).OpensCounted := by
  cases c <;> exact ⟨hb.mapOpens, hb.mapOpen⟩

end Clearing

namespace Course

variable {path : MapPath} {uid mask : UInt32} {d : Option Int32}

theorem outcomes_leave {c : Course} (h : c.Possible d path mask) (rules : UInt64) (b : Bridge σ)
    (o : Outcome) :
    (c.leave path uid mask b).telemetry.outcomes o = b.telemetry.outcomes o +
      if Finished.outcome? ⟨.clearRules path uid rules, c.answer path⟩ = some o then 1 else 0 := by
  cases c with
  | stopped p =>
    cases p with
    | cached fd => cases h.2
    | opened fd => cases h.2
    | unsupported => exact b.telemetry.countOutcome_outcomes _ o
    | _ => rfl
  | reached p fd c =>
    rw [leave, c.outcomes_leave path rules, p.outcomes_leave]
    rfl

theorem kernelErrors_leave {c : Course} (h : c.Possible d path mask) (rules : UInt64)
    (b : Bridge σ) (e : Command) :
    (c.leave path uid mask b).telemetry.kernelErrors e = b.telemetry.kernelErrors e +
      if Finished.failedCommand? ⟨.clearRules path uid rules, c.answer path⟩ = some e then 1
      else 0 := by
  cases c with
  | stopped p =>
    cases p with
    | cached fd => cases h.2
    | opened fd => cases h.2
    | failed n => exact b.telemetry.countKernelError_kernelErrors .objGet e
    | _ => rfl
  | reached p fd c =>
    -- An opening that goes on to the entry has not failed.
    have hopen : (p.leave path b).telemetry.kernelErrors e = b.telemetry.kernelErrors e := by
      cases p with
      | failed n => cases h.2.1
      | _ => rfl
    rw [leave, c.kernelErrors_leave path rules, hopen]
    rfl

theorem deferred_of_answer {c : Course} {r : Removal} {f : Failure} (hr : c.answer path = .ok r)
    (hf : r.deferred = some f) : r.outcome = .applied ∧ ∃ command e, f = .kernel command e := by
  cases c with
  | stopped o =>
    rw [answer] at hr
    cases ho : o.answer path with
    | error e => simp [ho, Except.map] at hr
    | ok a =>
      simp only [ho, Except.map, Except.ok.injEq] at hr
      rw [← hr] at hf
      cases hf
  | reached o fd c =>
    have hr : c.answer = .ok r := hr
    cases c with
    | lookupFailed e => cases hr
    | updateFailed found e =>
      cases hr
      cases hf
      exact ⟨rfl, .update, e, rfl⟩
    | deleteFailed found e =>
      cases hr
      cases hf
      exact ⟨rfl, .delete, e, rfl⟩
    | _ =>
      cases hr
      cases hf

theorem opensCounted_leave {c : Course} {b : Bridge σ} (hb : b.OpensCounted)
    (h : c.Possible b.descriptor path mask) : (c.leave path uid mask b).OpensCounted := by
  cases c with
  | stopped p =>
    have hopen := p.opensCounted_leave hb h.1
    rw [leave]
    split
    · exact ⟨hopen.mapOpens, hopen.mapOpen⟩
    · exact hopen
  | reached p fd c => exact c.opensCounted_leave (p.opensCounted_leave hb h.1)

end Course

namespace Bridge

theorem counts_perform (b : Bridge σ) (g : Gateway σ) (op : Operation) :
    (∀ o, (b.perform g op).2.telemetry.outcomes o = b.telemetry.outcomes o +
      if (b.finished g op).outcome? = some o then 1 else 0) ∧
    ∀ c, (b.perform g op).2.telemetry.kernelErrors c = b.telemetry.kernelErrors c +
      if (b.finished g op).failedCommand? = some c then 1 else 0 := by
  cases op with
  | openMap path =>
    obtain ⟨o, k, -, -, he, -⟩ := b.openMap_opening g path
    rw [finished, perform, he]
    refine ⟨?_, fun c => o.kernelErrors_leave _ c⟩
    intro p
    rw [o.outcomes_leave]
    cases o <;> rfl
  | clearRules path uid rules =>
    obtain ⟨c, k, hp, -, he, -⟩ := b.clearRules_course g path uid rules
    rw [finished, perform, he]
    exact ⟨fun o => c.outcomes_leave hp rules _ o, fun e => c.kernelErrors_leave hp rules _ e⟩

theorem OpensCounted.perform {b : Bridge σ} (hb : b.OpensCounted) (g : Gateway σ)
    (op : Operation) : (b.perform g op).2.OpensCounted := by
  cases op with
  | openMap path =>
    obtain ⟨o, k, hp, -, he, -⟩ := b.openMap_opening g path
    rw [Bridge.perform, he]
    exact o.opensCounted_leave (b := { b with kernel := k }) ⟨hb.mapOpens, hb.mapOpen⟩ hp
  | clearRules path uid rules =>
    obtain ⟨c, k, hp, -, he, -⟩ := b.clearRules_course g path uid rules
    rw [Bridge.perform, he]
    exact c.opensCounted_leave (b := { b with kernel := k }) ⟨hb.mapOpens, hb.mapOpen⟩ hp

theorem kernelErrors_of_expected {b : Bridge σ} {g : Gateway σ} {op : Operation}
    (h : ∀ x ∈ b.exchanges g op, ∀ e, x.errno? = some e → x.call.command.Expects e) :
    (b.perform g op).2.telemetry.kernelErrors = b.telemetry.kernelErrors := by
  funext c
  rw [(b.counts_perform g op).2 c, if_neg, Nat.add_zero]
  intro hc
  obtain ⟨f, hf, hcommand⟩ := Option.bind_eq_some_iff.mp hc
  obtain ⟨e, rfl⟩ := f.kernelCommand?_eq_some hcommand
  obtain ⟨x, hx, rfl, he, hne⟩ := (b.failure?_eq_kernel_iff g op c e).mp hf
  exact hne (h x hx e he)

theorem counts_of_deferred {b : Bridge σ} {g : Gateway σ} {path : MapPath} {uid : UInt32}
    {rules : UInt64} {r : Removal} {f : Failure} (hr : (b.clearRules g path uid rules).1 = .ok r)
    (hf : r.deferred = some f) :
    ∃ c e, r.outcome = .applied ∧ f = .kernel c e ∧
      (b.clearRules g path uid rules).2.telemetry.outcomes .applied =
        b.telemetry.outcomes .applied + 1 ∧
      (b.clearRules g path uid rules).2.telemetry.kernelErrors c =
        b.telemetry.kernelErrors c + 1 := by
  obtain ⟨course, k, -, -, he, -⟩ := b.clearRules_course g path uid rules
  obtain ⟨ho, c, e, rfl⟩ := course.deferred_of_answer ((congrArg Prod.fst he).symm.trans hr) hf
  obtain ⟨houtcomes, herrors⟩ := b.counts_perform g (.clearRules path uid rules)
  have houtcome : (b.finished g (.clearRules path uid rules)).outcome? = some .applied := by
    rw [finished, perform, hr]
    exact congrArg some ho
  have herror : (b.finished g (.clearRules path uid rules)).failedCommand? = some c := by
    rw [finished, perform, hr, Finished.failedCommand?, Finished.failure?, hf]
    rfl
  refine ⟨c, e, ho, rfl, ?_, ?_⟩
  · rw [← perform, houtcomes, if_pos houtcome]
  · rw [← perform, herrors, if_pos herror]

/-- The counts tell how many of these operations ended in each way. -/
structure Accounts (b : Bridge σ) (done : List Finished) : Prop where
  outcomes : ∀ o, b.telemetry.outcomes o = done.countP fun f => f.outcome? = some o
  kernelErrors : ∀ c, b.telemetry.kernelErrors c = done.countP fun f => f.failedCommand? = some c
  opens : b.OpensCounted

theorem Accounts.perform {b : Bridge σ} {done : List Finished} (hb : b.Accounts done)
    (g : Gateway σ) (op : Operation) :
    (b.perform g op).2.Accounts (done ++ [b.finished g op]) := by
  obtain ⟨houtcomes, herrors⟩ := b.counts_perform g op
  refine ⟨?_, ?_, hb.opens.perform g op⟩
  · intro o
    rw [houtcomes, hb.outcomes, List.countP_append, List.countP_singleton]
    simp
  · intro c
    rw [herrors, hb.kernelErrors, List.countP_append, List.countP_singleton]
    simp

end Bridge

namespace Session

variable {κ : Type}

def carriedOut (g : Gateway (Observed κ)) : Session κ → List Step → List Finished
  | _, [] => []
  | s, t :: ts =>
    ((t.operation? s.config).map (s.clearTrace.bridge.finished g)).toList ++
      carriedOut g (s.clearTrace.step g t).2 ts

theorem accounts_step {g : Gateway (Observed κ)} {s : Session κ} {done : List Finished}
    (hs : s.bridge.Accounts done) (t : Step) :
    (s.step g t).2.bridge.Accounts
      (done ++ ((t.operation? s.config).map (s.bridge.finished g)).toList) := by
  cases h : t.operation? s.config with
  | some op =>
    rw [step_of_operation h]
    exact hs.perform g op
  | none =>
    obtain ⟨hd, ht⟩ := keeps_of_no_operation h g
    rw [Option.map_none, Option.toList_none, List.append_nil]
    refine ⟨?_, ?_, ?_, ?_⟩
    · rw [ht]
      exact hs.outcomes
    · rw [ht]
      exact hs.kernelErrors
    · rw [ht, hd]
      exact hs.opens.mapOpens
    · rw [ht, hd]
      exact hs.opens.mapOpen

theorem accounts_run {g : Gateway (Observed κ)} {s : Session κ} {done : List Finished}
    (hs : s.bridge.Accounts done) {steps : List Step} {n : Nat} {r : StepReport κ}
    (hr : (s.run g steps)[n]? = some r) :
    ∃ (s' : Session κ) (result : StepResult), r = s'.report result ∧
      s'.bridge.Accounts (done ++ s.carriedOut g (steps.take (n + 1))) := by
  -- What was done before is general, since each step adds what it carried out.
  induction steps generalizing s done n with
  | nil => simp [run] at hr
  | cons t steps ih =>
    have hclear : s.clearTrace.bridge.Accounts done :=
      ⟨hs.outcomes, hs.kernelErrors, hs.opens.mapOpens, hs.opens.mapOpen⟩
    have hnext := accounts_step (g := g) hclear t
    cases n with
    | zero =>
      obtain rfl := Option.some.inj hr
      have hone : s.carriedOut g [t] =
          ((t.operation? s.config).map (s.clearTrace.bridge.finished g)).toList := List.append_nil _
      refine ⟨_, _, rfl, ?_⟩
      rw [List.take_succ_cons, List.take_zero, hone]
      exact hnext
    | succ n =>
      obtain ⟨s', result, rfl, haccounts⟩ := ih hnext hr
      refine ⟨s', result, rfl, ?_⟩
      rw [List.append_assoc] at haccounts
      exact haccounts

theorem telemetry_of_steps (g : Gateway (Observed κ)) (s : Session κ)
    (hd : s.bridge.descriptor = none) (ht : s.bridge.telemetry = .zero) (steps : List Step) :
    (∀ n r, (s.run g steps)[n]? = some r →
      let done := s.carriedOut g (steps.take (n + 1))
      (∀ o, r.telemetry.outcomes o = done.countP fun f => f.outcome? = some o) ∧
      (∀ c, r.telemetry.kernelErrors c = done.countP fun f => f.failedCommand? = some c) ∧
      r.telemetry.mapOpens = r.cached.isSome.toNat ∧ r.telemetry.mapOpen = r.cached.isSome) ∧
    ∀ (s : Session κ) (t : Step),
      (t.operation? s.config = none →
        (s.step g t).2.bridge.telemetry = s.bridge.telemetry) ∧
      ∀ op, t.operation? s.config = some op →
        (s.step g t).1 = t.shows (s.bridge.finished g op) ∧
        ((∀ x ∈ s.bridge.exchanges g op, ∀ e, x.errno? = some e → x.call.command.Expects e) →
          (s.step g t).2.bridge.telemetry.kernelErrors = s.bridge.telemetry.kernelErrors) ∧
        ∀ path uid rules r f, op = .clearRules path uid rules →
          (s.bridge.clearRules g path uid rules).1 = .ok r → r.deferred = some f →
          ∃ c e, r.outcome = .applied ∧ f = .kernel c e ∧
            (s.step g t).2.bridge.telemetry.outcomes .applied =
              s.bridge.telemetry.outcomes .applied + 1 ∧
            (s.step g t).2.bridge.telemetry.kernelErrors c =
              s.bridge.telemetry.kernelErrors c + 1 := by
  constructor
  · intro n r hr
    have hstart : s.bridge.Accounts [] := by
      refine ⟨?_, ?_, ?_, ?_⟩ <;> simp [hd, ht, Telemetry.zero]
    obtain ⟨s', result, rfl, haccounts⟩ := accounts_run hstart hr
    exact ⟨haccounts.outcomes, haccounts.kernelErrors, haccounts.opens.mapOpens,
      haccounts.opens.mapOpen⟩
  · intro s t
    refine ⟨fun h => (keeps_of_no_operation h g).2, ?_⟩
    intro op h
    rw [step_of_operation h]
    refine ⟨rfl, Bridge.kernelErrors_of_expected, ?_⟩
    rintro path uid rules r f rfl hr hf
    exact Bridge.counts_of_deferred hr hf

theorem telemetry_of_deferred_failure :
    let s : Session Exchange := .start [(7, ⟨3, 5⟩)] true
    let steps : List Step :=
      [.fail .update ⟨12, none, -1⟩, .answerHost ⟨[47]⟩ 7 1, .openMap ⟨[47]⟩,
        .clearRules ⟨[47]⟩ 8 1]
    let done := s.carriedOut typedGateway steps
    s.bridge.descriptor = none ∧ s.bridge.telemetry = .zero ∧
      done.map Finished.outcome? = [some .applied, none, some .notFound] ∧
      done.map Finished.failedCommand? = [some .update, none, none] ∧
      ∃ r, (s.run typedGateway steps)[3]? = some r ∧ r.telemetry.outcomes .applied = 1 ∧
        r.telemetry.kernelErrors .update = 1 ∧ r.telemetry.mapOpens = 1 := by
  intro s steps done
  have h := telemetry_of_steps typedGateway s rfl rfl steps
  obtain ⟨houtcomes, herrors, hopens, -⟩ := h.1 3 _ rfl
  refine ⟨rfl, rfl, rfl, rfl, _, rfl, ?_, ?_, ?_⟩
  · rw [houtcomes]
    rfl
  · rw [herrors]
    rfl
  · rw [hopens]
    rfl

end Session

end OwnerRules

import OwnerRules.Proofs.HealthyKernel
import OwnerRules.Proofs.SessionRun

namespace OwnerRules

open Kernel

/-- The removal has done all that it was asked for. -/
def Removal.Complete (r : Removal) : Prop := r.deferred = none ∧ r.outcome ≠ .unsupported

instance (r : Removal) : Decidable r.Complete := inferInstanceAs (Decidable (_ ∧ _))

namespace OwnerMap

def ClearedAt (m m' : OwnerMap) (uid mask : UInt32) : Prop :=
  ∀ u, m'.get? u = (m.get? u).bind (Entry.clear (if u = uid then mask else 0))

variable {m m' : OwnerMap} {uid mask : UInt32}

theorem bind_clear_zero (o : Option Entry) : o.bind (Entry.clear 0) = o := by
  cases o with
  | none => rfl
  | some e => exact e.clear_zero

theorem clearedAt_of_get? (hsame : m'.get? uid = (m.get? uid).bind (Entry.clear mask))
    (hother : ∀ u, u ≠ uid → m'.get? u = m.get? u) : m.ClearedAt m' uid mask := by
  intro u
  by_cases hu : u = uid
  · rw [if_pos hu, hu, hsame]
  · rw [if_neg hu, bind_clear_zero, hother u hu]

end OwnerMap

namespace Clearing

variable {m m' : OwnerMap} {fd : Int32} {uid mask : UInt32}

theorem clearedAt {c : Clearing} (hp : c.Possible mask)
    (h : m.Follows (c.exchanges fd uid mask) m') :
    ((∃ r, c.answer = .ok r ∧ r.Complete) ∧ m.ClearedAt m' uid mask) ∨
      ((∀ r, c.answer = .ok r → ¬ r.Complete) ∧ m' = m) := by
  cases c with
  | absent =>
    obtain ⟨n, ⟨hnone, rfl⟩, rfl⟩ := h
    refine .inl ⟨⟨_, rfl, by decide⟩, OwnerMap.clearedAt_of_get? ?_ fun u hu => rfl⟩
    rw [hnone rfl]
    rfl
  | lookupFailed e =>
    obtain ⟨n, ⟨-, rfl⟩, rfl⟩ := h
    refine .inr ⟨?_, rfl⟩
    rintro r ⟨⟩
  | noMatch found =>
    obtain ⟨n, ⟨hfound, rfl⟩, rfl⟩ := h
    have hp : found.rule &&& mask = 0 := hp
    refine .inl ⟨⟨_, rfl, by decide⟩, OwnerMap.clearedAt_of_get? ?_ fun u hu => rfl⟩
    rw [hfound, Option.bind_some, Entry.clear, if_pos hp]
  | updated found =>
    obtain ⟨n, ⟨hfound, rfl⟩, n, rfl, rfl⟩ := h
    refine .inl ⟨⟨_, rfl, by decide⟩, OwnerMap.clearedAt_of_get? ?_ ?_⟩
    · rw [OwnerMap.get?_insert, if_pos rfl, hfound, Option.bind_some, Entry.clear, if_neg hp.1,
        if_neg (show ¬ found.rule &&& ~~~mask = 0 from hp.2)]
    · intro u hu
      rw [OwnerMap.get?_insert, if_neg hu]
  | updateFailed found e =>
    obtain ⟨n, ⟨-, rfl⟩, n, rfl, rfl⟩ := h
    refine .inr ⟨?_, rfl⟩
    rintro r ⟨rfl⟩ ⟨hd, -⟩
    cases hd
  | deleted found =>
    obtain ⟨n, ⟨hfound, rfl⟩, n, rfl, rfl⟩ := h
    refine .inl ⟨⟨_, rfl, by decide⟩, OwnerMap.clearedAt_of_get? ?_ ?_⟩
    · rw [OwnerMap.get?_erase, if_pos rfl, hfound, Option.bind_some, Entry.clear, if_neg hp.1,
        if_pos (show found.rule &&& ~~~mask = 0 from hp.2)]
    · intro u hu
      rw [OwnerMap.get?_erase, if_neg hu]
  | alreadyDeleted found =>
    -- Nobody else removes the entry between the look-up and the write.
    obtain ⟨n, ⟨hfound, rfl⟩, n, ⟨hnone, rfl⟩, rfl⟩ := h
    rw [hnone rfl] at hfound
    cases hfound
  | deleteFailed found e =>
    obtain ⟨n, ⟨-, rfl⟩, n, ⟨-, rfl⟩, rfl⟩ := h
    refine .inr ⟨?_, rfl⟩
    rintro r ⟨rfl⟩ ⟨hd, -⟩
    cases hd

end Clearing

theorem Opening.eq_of_follows {o : Opening} {path : MapPath} {m m' : OwnerMap}
    (h : m.Follows (o.exchanges path) m') : m' = m := by
  cases o with
  | cached fd => exact h.symm
  | invalidPath => exact h.symm
  | _ =>
    obtain ⟨n, rfl, rfl⟩ := h
    rfl

namespace Course

variable {m m' : OwnerMap} {d : Option Int32} {path : MapPath} {uid mask : UInt32}

theorem clearedAt {c : Course} (hp : c.Possible d path mask)
    (h : m.Follows (c.exchanges path uid mask) m') :
    ((∃ r, c.answer path = .ok r ∧ r.Complete) ∧ m.ClearedAt m' uid mask) ∨
      ((∀ r, c.answer path = .ok r → ¬ r.Complete) ∧ m' = m) := by
  cases c with
  | stopped o =>
    refine .inr ⟨?_, o.eq_of_follows h⟩
    rintro r hr ⟨-, hu⟩
    cases o with
    | unsupported =>
      cases hr
      exact hu rfl
    | cached fd => cases hp.2
    | opened fd => cases hp.2
    | _ => cases hr
  | reached o fd c =>
    obtain ⟨n, ho, hc⟩ := OwnerMap.follows_append.mp h
    obtain rfl := o.eq_of_follows ho
    exact c.clearedAt hp.2.2 hc

end Course

theorem SimulatedKernel.Due.complete {k k' : SimulatedKernel} {uid mask : UInt32} {c : Clearing}
    (h : k.Due uid mask c k') : ∃ r, c.answer = .ok r ∧ r.Complete := by
  cases h <;> exact ⟨_, rfl, by decide⟩

def Step.clears (u : UInt32) : Step → StepResult → UInt32
  | .clearRules _ uid rules, .removal r => if u = uid ∧ r.Complete then rules.toUInt32 else 0
  | _, _ => 0

/-- A removal, or a change of the failures injected. -/
def Step.Undisturbed : Step → Prop
  | .clearRules .. => True
  | .fail c i => i.Honest c
  | .mend _ => True
  | _ => False

theorem Step.clears_of_complete (u : UInt32) (path : MapPath) (uid : UInt32) (rules : UInt64)
    {a : Except Failure Removal} (h : ∃ r, a = .ok r ∧ r.Complete) :
    Step.clears u (.clearRules path uid rules) (.ofRemoval a) =
      if u = uid then rules.toUInt32 else 0 := by
  obtain ⟨r, rfl, hr⟩ := h
  simp [StepResult.ofRemoval, clears, hr]

theorem Step.clears_of_not_complete (u : UInt32) (path : MapPath) (uid : UInt32) (rules : UInt64)
    {a : Except Failure Removal} (h : ∀ r, a = .ok r → ¬ r.Complete) :
    Step.clears u (.clearRules path uid rules) (.ofRemoval a) = 0 := by
  cases a with
  | error f => rfl
  | ok r => simp [StepResult.ofRemoval, clears, h r rfl]

theorem Step.clears_eq_zero_or (u : UInt32) (t : Step) (result : StepResult) :
    t.clears u result = 0 ∨ ∃ path uid rules, t = .clearRules path uid rules ∧
      t.clears u result = if u = uid then rules.toUInt32 else 0 := by
  unfold clears
  split
  · next path uid rules r =>
    by_cases hr : r.Complete
    · exact .inr ⟨path, uid, rules, rfl, by simp only [hr, and_true]⟩
    · exact .inl (if_neg fun h => hr h.2)
  · exact .inl rfl

namespace Session

def clearedBits (u : UInt32) (done : List (Step × StepReport Exchange)) : UInt32 :=
  done.foldr (fun p bits => p.1.clears u p.2.result ||| bits) 0

theorem step_undisturbed {s : Session Exchange} (hs : s.kernel.Quiet) {t : Step}
    (ht : t.Undisturbed) :
    (s.clearTrace.step typedGateway t).2.kernel.Quiet ∧
    ∀ u, (s.clearTrace.step typedGateway t).2.kernel.map.get? u = (s.kernel.map.get? u).bind
      (Entry.clear (t.clears u (s.clearTrace.step typedGateway t).1)) := by
  have hsame (u : UInt32) : s.kernel.map.get? u = (s.kernel.map.get? u).bind (Entry.clear 0) :=
    (OwnerMap.bind_clear_zero _).symm
  cases t with
  | clearRules path uid rules =>
    obtain ⟨c, k, hp, hserves, hresult, hkernel⟩ := s.clearRules_course path uid rules
    obtain ⟨hfollows, hquiet⟩ := hs.serves hserves
    rw [hkernel, hresult]
    refine ⟨hquiet, ?_⟩
    intro u
    obtain ⟨hdone, hcleared⟩ | ⟨hfailed, hmap⟩ := c.clearedAt hp hfollows
    · rw [Step.clears_of_complete u path uid rules hdone]
      exact hcleared u
    · rw [Step.clears_of_not_complete u path uid rules hfailed, hmap]
      exact hsame u
  | fail c i =>
    refine ⟨hs.setInjection ?_, hsame⟩
    rintro j ⟨rfl⟩
    exact ht
  | mend c =>
    refine ⟨hs.setInjection ?_, hsame⟩
    rintro j ⟨⟩
  | _ => exact ht.elim

theorem get?_finish {s : Session Exchange} (hs : s.kernel.Quiet) {steps : List Step}
    (h : ∀ t ∈ steps, t.Undisturbed) (u : UInt32) :
    (s.finish typedGateway steps).kernel.map.get? u = (s.kernel.map.get? u).bind
      (Entry.clear (clearedBits u (steps.zip (s.run typedGateway steps)))) := by
  induction steps generalizing s with
  | nil => exact (OwnerMap.bind_clear_zero _).symm
  | cons t steps ih =>
    obtain ⟨hquiet, hstep⟩ := step_undisturbed hs (h t List.mem_cons_self)
    rw [finish_cons, ih hquiet fun t ht => h t (List.mem_cons_of_mem _ ht), hstep u,
      Option.bind_assoc]
    simp only [Entry.clear_clear]
    rfl

theorem complete_of_ready {s : Session Exchange} {path : MapPath}
    (h : (s.bridge.withKernel s.kernel).Ready path) (uid : UInt32) (rules : UInt64) :
    ∃ r, (s.clearTrace.step typedGateway (.clearRules path uid rules)).1 = .removal r ∧
      r.Complete := by
  obtain ⟨c, k, hp, hserves, hresult, -⟩ := s.clearRules_course path uid rules
  have hcourse : ((s.bridge.withKernel s.kernel).clearRules SimulatedKernel.gateway path uid
      rules).1 = c.answer path := by
    rw [Bridge.clearRules_eq (b := s.bridge.withKernel s.kernel) hp hserves]
  obtain ⟨o, fd, n, c', k', -, -, -, hdue, -, hanswer, -⟩ := h.clearRules_due uid rules
  obtain ⟨r, hr, hc⟩ := hdue.complete
  rw [← hcourse, hanswer, hr] at hresult
  exact ⟨r, hresult, hc⟩

theorem or_clearedBits {u bits : UInt32} {done : List (Step × StepReport Exchange)}
    (h : ∀ p ∈ done, p.1.clears u p.2.result = 0 ∨ p.1.clears u p.2.result = bits) :
    bits ||| clearedBits u done = bits := by
  induction done with
  | nil => exact UInt32.or_zero
  | cons p done ih =>
    have hrest := ih fun q hq => h q (List.mem_cons_of_mem p hq)
    have hp := h p List.mem_cons_self
    change bits ||| (p.1.clears u p.2.result ||| clearedBits u done) = bits
    rcases hp with hp | hp
    · rw [hp, UInt32.zero_or, hrest]
    · rw [hp, hrest, UInt32.or_self]

theorem clears_or_clearedBits {u : UInt32} {done : List (Step × StepReport Exchange)}
    {p : Step × StepReport Exchange} (hp : p ∈ done) :
    p.1.clears u p.2.result ||| clearedBits u done = clearedBits u done := by
  induction done with
  | nil => cases hp
  | cons q done ih =>
    change p.1.clears u p.2.result ||| (q.1.clears u q.2.result ||| clearedBits u done) =
      q.1.clears u q.2.result ||| clearedBits u done
    rcases List.mem_cons.mp hp with rfl | hp
    · rw [← UInt32.or_assoc, UInt32.or_self]
    · rw [← UInt32.or_assoc, UInt32.or_comm (p.1.clears u p.2.result), UInt32.or_assoc, ih hp]

theorem clearedBits_of_retries {uid : UInt32} {rules : UInt64}
    {done : List (Step × StepReport Exchange)}
    (hall : ∀ path u rs report, (.clearRules path u rs, report) ∈ done → u = uid ∧ rs = rules)
    {path : MapPath} {report : StepReport Exchange} {r : Removal}
    (hone : (.clearRules path uid rules, report) ∈ done) (hr : report.result = .removal r)
    (hc : r.Complete) (u : UInt32) :
    clearedBits u done = if u = uid then rules.toUInt32 else 0 := by
  have hclears : Step.clears u (.clearRules path uid rules) report.result =
      if u = uid then rules.toUInt32 else 0 := by
    rw [hr]
    exact Step.clears_of_complete u path uid rules ⟨r, rfl, hc⟩
  have hupper : (if u = uid then rules.toUInt32 else 0) ||| clearedBits u done =
      if u = uid then rules.toUInt32 else 0 := by
    apply or_clearedBits
    rintro ⟨t, report'⟩ hp
    obtain h | ⟨path', u', rs, rfl, h⟩ := t.clears_eq_zero_or u report'.result
    · exact .inl h
    · obtain ⟨rfl, rfl⟩ := hall path' u' rs report' hp
      exact .inr h
  have hlower := clears_or_clearedBits (u := u) hone
  rw [hclears, hupper] at hlower
  exact hlower.symm

theorem finish_eq_of_clearedBits {s : Session Exchange} (hs : s.kernel.Quiet)
    {steps steps' : List Step} (h : ∀ t ∈ steps, t.Undisturbed) (h' : ∀ t ∈ steps', t.Undisturbed)
    (hbits : ∀ u, clearedBits u (steps.zip (s.run typedGateway steps)) =
      clearedBits u (steps'.zip (s.run typedGateway steps'))) :
    (s.finish typedGateway steps).kernel.map = (s.finish typedGateway steps').kernel.map := by
  apply OwnerMap.ext_get?
  intro u
  rw [get?_finish hs h u, get?_finish hs h' u, hbits u]

theorem finish_of_retries {s : Session Exchange} (hs : s.kernel.Quiet)
    (hk : s.kernel.Healthy) (hd : s.bridge.descriptor = none) {steps : List Step}
    (h : ∀ t ∈ steps, t.Undisturbed) {uid : UInt32} {rules : UInt64}
    (hall : ∀ path u rs, .clearRules path u rs ∈ steps → u = uid ∧ rs = rules) {path : MapPath}
    {report : StepReport Exchange} {r : Removal}
    (hone : (.clearRules path uid rules, report) ∈ steps.zip (s.run typedGateway steps))
    (hr : report.result = .removal r) (hc : r.Complete) {path' : MapPath}
    (hpath : path'.hasNul = false) :
    (s.finish typedGateway steps).kernel.map =
      (s.finish typedGateway [.clearRules path' uid rules]).kernel.map := by
  apply finish_eq_of_clearedBits hs h
  · intro t ht
    rw [List.mem_singleton.mp ht]
    trivial
  · intro u
    have hready : (s.bridge.withKernel s.kernel).Ready path' :=
      ⟨hk, fun _ => hpath, fun fd hfd => absurd (hd.symm.trans hfd) (by simp)⟩
    obtain ⟨r', hr', hc'⟩ := complete_of_ready hready uid rules
    rw [clearedBits_of_retries (fun path u rs report hp => hall path u rs (List.of_mem_zip hp).1)
      hone hr hc u]
    refine (clearedBits_of_retries ?_ List.mem_cons_self hr' hc' u).symm
    intro path u rs report hp
    have hstep := congrArg Prod.fst (List.mem_singleton.mp hp)
    obtain ⟨rfl, rfl, rfl⟩ := Step.clearRules.inj hstep
    exact ⟨rfl, rfl⟩

end Session

theorem map_of_removals (entries : List (UInt32 × Entry)) (serializes : Bool) (steps : List Step)
    (h : ∀ t ∈ steps, t.Undisturbed) :
    let s : Session Exchange := .start entries serializes
    let done (steps : List Step) := steps.zip (s.run Session.typedGateway steps)
    let final (steps : List Step) := (s.finish Session.typedGateway steps).kernel.map
    (∀ u, (final steps).get? u = ((OwnerMap.ofList entries).get? u).bind
      (Entry.clear (Session.clearedBits u (done steps)))) ∧
    (∀ steps', (∀ t ∈ steps', t.Undisturbed) →
      (∀ u, Session.clearedBits u (done steps) = Session.clearedBits u (done steps')) →
      final steps = final steps') ∧
    ∀ uid rules, (∀ path u rs, .clearRules path u rs ∈ steps → u = uid ∧ rs = rules) →
      (∃ path report r, (.clearRules path uid rules, report) ∈ done steps ∧
        report.result = .removal r ∧ r.Complete) →
      ∀ path, path.hasNul = false → final steps = final [.clearRules path uid rules] := by
  intro s done final
  have hs : s.kernel.Quiet := SimulatedKernel.quiet_ofEntries entries
  have hhealthy : s.kernel.Healthy := by
    rintro c i ⟨⟩
  refine ⟨Session.get?_finish hs h, ?_, ?_⟩
  · intro steps' h' hbits
    exact Session.finish_eq_of_clearedBits hs h h' hbits
  · rintro uid rules hall ⟨path, report, r, hone, hr, hc⟩ path' hpath
    exact Session.finish_of_retries hs hhealthy rfl h hall hone hr hc hpath

theorem map_of_second_try :
    let entries : List (UInt32 × Entry) := [(7, ⟨3, 5⟩)]
    let steps : List Step := [.fail .update ⟨2, some 1, -1⟩, .clearRules ⟨[47]⟩ 7 1,
      .clearRules ⟨[47]⟩ 7 1]
    let s : Session Exchange := .start entries false
    let done := steps.zip (s.run Session.typedGateway steps)
    let final (steps : List Step) := (s.finish Session.typedGateway steps).kernel.map
    (∀ t ∈ steps, t.Undisturbed) ∧ Session.clearedBits 7 done = 1 ∧
      (final steps).get? 7 = some ⟨3, 4⟩ ∧ final steps = final [.clearRules ⟨[47]⟩ 7 1] := by
  intro entries steps s done final
  have h : ∀ t ∈ steps, t.Undisturbed := by
    simp [steps, Step.Undisturbed, Injection.Honest]
  obtain ⟨hget, -, hretry⟩ := map_of_removals entries false steps h
  refine ⟨h, by decide, ?_, hretry 7 1 ?_ ?_ ⟨[47]⟩ rfl⟩
  · exact (hget 7).trans (by decide)
  · simp [steps]
  · exact ⟨_, _, _, .tail _ (.tail _ (.head _)), rfl, by decide⟩

end OwnerRules

import OwnerRules.Proofs.KernelStep
import OwnerRules.Proofs.SessionRun

namespace OwnerRules

open Kernel

variable {σ : Type}

def Kernel.Call.Ruled : Call → Prop
  | .update _ _ entry _ => entry.rule ≠ 0
  | _ => True

theorem Course.exchanges_of_write {d : Option Int32} {path : MapPath} {uid mask : UInt32}
    {c : Course} (h : c.Possible d path mask) {x : Exchange} (hx : x ∈ c.exchanges path uid mask)
    (hw : x.call.command = .update ∨ x.call.command = .delete) :
    ∃ opens fd found, c.exchanges path uid mask = opens ++ [⟨.lookup fd uid, .ok found⟩, x] ∧
      found.rule &&& mask ≠ 0 ∧
      ((x.call = .update fd uid (found.without mask) Flag.any ∧ (found.without mask).rule ≠ 0) ∨
        (x.call = .delete fd uid ∧ (found.without mask).rule = 0)) := by
  have hopen (o : Opening) : x ∉ o.exchanges path := by
    intro hm
    rw [o.call_of_mem_exchanges hm] at hw
    simp [Call.command] at hw
  cases c with
  | stopped o => exact absurd hx (hopen o)
  | reached o fd c =>
    have hlookup (l) : x ≠ ⟨.lookup fd uid, l⟩ := by
      rintro rfl
      simp [Call.command] at hw
    replace hx := (List.mem_append.mp hx).resolve_left (hopen o)
    obtain ⟨l, hc⟩ | ⟨found, a, hm, hr, hc⟩ | ⟨found, a, hm, hr, hc⟩ :=
      c.exchanges_cases h.2.2 fd uid
    · rw [hc] at hx
      exact absurd (List.mem_singleton.mp hx) (hlookup l)
    · obtain rfl : x = ⟨.update fd uid (found.without mask) Flag.any, a⟩ := by
        simpa [hc, hlookup] using hx
      exact ⟨o.exchanges path, fd, found, congrArg _ hc, hm, .inl ⟨rfl, hr⟩⟩
    · obtain rfl : x = ⟨.delete fd uid, a⟩ := by
        simpa [hc, hlookup] using hx
      exact ⟨o.exchanges path, fd, found, congrArg _ hc, hm, .inr ⟨rfl, hr⟩⟩

theorem Bridge.exchanges_ruled (b : Bridge σ) (g : Gateway σ) (op : Operation) :
    ∀ x ∈ b.exchanges g op, x.call.Ruled := by
  intro x hx
  cases op with
  | openMap path =>
    obtain ⟨o, k, -, -, -, he⟩ := b.openMap_opening g path
    rw [o.call_of_mem_exchanges (he ▸ hx)]
    trivial
  | clearRules path uid rules =>
    obtain ⟨c, k, hp, -, -, he⟩ := b.clearRules_course g path uid rules
    by_cases hw : x.call.command = .update ∨ x.call.command = .delete
    · obtain ⟨opens, fd, found, -, -, ⟨hc, hr⟩ | ⟨hc, -⟩⟩ := c.exchanges_of_write hp (he ▸ hx) hw
      · rw [hc]
        exact hr
      · rw [hc]
        trivial
    · cases hc : x.call with
      | update fd u entry flags => exact absurd (.inl (by rw [hc]; rfl)) hw
      | _ => trivial

def OwnerMap.Ruled (m : OwnerMap) : Prop := ∀ p ∈ m.toList, p.2.rule ≠ 0

def Edit.Ruled (e : Edit) : Prop := ∀ entry, e.entry = some entry → entry.rule ≠ 0

namespace OwnerMap

theorem ruled_insert {m : OwnerMap} {entry : Entry} (hm : m.Ruled) (he : entry.rule ≠ 0)
    (uid : UInt32) : (m.insert uid entry).Ruled := by
  intro p hp
  rcases Slots.mem_insert hp with rfl | hp
  · exact he
  · exact hm p hp

theorem ruled_erase {m : OwnerMap} (hm : m.Ruled) (uid : UInt32) : (m.erase uid).Ruled := by
  intro p hp
  exact hm p (List.mem_filter.mp hp).1

theorem ruled_edit {m : OwnerMap} (hm : m.Ruled) {e : Edit} (he : e.Ruled) : (m.edit e).Ruled := by
  unfold edit
  cases h : e.entry with
  | none => exact ruled_erase hm e.uid
  | some entry => exact ruled_insert hm (he entry h) e.uid

theorem ruled_editAll {m : OwnerMap} (hm : m.Ruled) {es : List Edit} (he : ∀ e ∈ es, e.Ruled) :
    (m.editAll es).Ruled := by
  induction es generalizing m with
  | nil => exact hm
  | cons e es ih =>
    apply ih (ruled_edit hm (he e List.mem_cons_self))
    intro f hf
    exact he f (List.mem_cons_of_mem e hf)

theorem ruled_ofList {entries : List (UInt32 × Entry)} (h : ∀ p ∈ entries, p.2.rule ≠ 0) :
    (ofList entries).Ruled := by
  have hfold : ∀ m : OwnerMap, m.Ruled →
      (entries.foldl (fun m p => m.insert p.1 p.2) m).Ruled := by
    induction entries with
    | nil => exact fun m hm => hm
    | cons p entries ih =>
      intro m hm
      apply ih (fun q hq => h q (List.mem_cons_of_mem p hq))
      exact ruled_insert hm (h p List.mem_cons_self) p.1
  exact hfold empty (by simp [Ruled, empty, toList])

end OwnerMap

structure SimulatedKernel.Ruled (k : SimulatedKernel) : Prop where
  map : k.map.Ruled
  race : ∀ e ∈ k.race, e.Ruled

namespace SimulatedKernel

theorem Ruled.steps {k k' : SimulatedKernel} {c : Call} {e : Effect} (hk : k.Ruled) (hc : c.Ruled)
    (h : k.Steps c e k') : k'.Ruled := by
  cases h with
  | injected times hi => exact ⟨hk.map, hk.race⟩
  | opened path flags => exact ⟨hk.map, hk.race⟩
  | found hfd hsome => exact ⟨OwnerMap.ruled_editAll hk.map hk.race, by simp⟩
  | stored uid entry flags hfd => exact ⟨OwnerMap.ruled_insert hk.map hc uid, hk.race⟩
  | erased hfd hsome => exact ⟨OwnerMap.ruled_erase hk.map _, hk.race⟩
  | _ => exact hk

theorem Ruled.run {k : SimulatedKernel} (hk : k.Ruled) {c : Call} (hc : c.Ruled) :
    (k.run c).2.Ruled :=
  hk.steps hc (k.steps_run c)

end SimulatedKernel

def Step.Ruled : Step → Prop
  | .call c => c.Ruled
  | .put e => e.Ruled
  | .race es => ∀ e ∈ es, e.Ruled
  | _ => True

def Kernel.Gateway.RelaysRules {κ : Type} (g : Gateway (Observed κ)) : Prop :=
  ∀ c : Call, c.Ruled → ∀ s : Observed κ, s.1.Ruled → (g.serve c s).2.1.Ruled

namespace Session

theorem typedGateway_relaysRules : typedGateway.RelaysRules :=
  fun _ hc _ hs => hs.run hc

theorem exists_call_ofCall (p : Placement) (c : Call) :
    ∃ c' : Call, (Invocation.ofCall p c).call? = some c' ∧ (c.Ruled → c'.Ruled) := by
  cases c with
  | objGet path flags =>
    let i := Invocation.ofCall p (.objGet path flags)
    exact ⟨.objGet i.path (Attributes.fileFlagsOf i.attr), rfl, fun _ => trivial⟩
  | lookup fd uid => exact ⟨_, Invocation.call?_ofCall p (by simp), id⟩
  | update fd uid entry flags => exact ⟨_, Invocation.call?_ofCall p (by simp), id⟩
  | delete fd uid => exact ⟨_, Invocation.call?_ofCall p (by simp), id⟩

theorem byteGateway_relaysRules (p : Placement) : (byteGateway p).RelaysRules := by
  intro c hc s hs
  obtain ⟨c', hcall, hr⟩ := exists_call_ofCall p c
  have hserve : ((byteGateway p).serve c s).2.1 = (s.1.run c').2 := by
    simp only [byteGateway, Syscall.gateway, Syscall.recorded, SimulatedKernel.syscall, hcall]
  rw [hserve]
  exact hs.run (hr hc)

variable {κ : Type} {g : Gateway (Observed κ)}

theorem perform_ruled (hg : g.RelaysRules) {b : Bridge (Observed κ)} (hb : b.kernel.1.Ruled)
    (op : Operation) : (b.perform g op).2.kernel.1.Ruled := by
  apply (b.perform_serves g op).preserves (P := fun k => k.1.Ruled) _ hb
  intro x hx k hk
  exact hg x.call (b.exchanges_ruled g op x hx) k hk

theorem runRequest_ruled {α : Type} (hg : g.RelaysRules) {s : Session κ} (hs : s.kernel.Ruled)
    (json : String) (path : MapPath) (after : Removal → Except Failure α)
    (f : Except Failure α → StepResult) : (s.runRequest g json path after f).2.kernel.Ruled := by
  unfold runRequest
  split
  · exact hs
  · next r _ =>
    exact perform_ruled hg hs (.clearRules (r.mapPath.getD path) r.uid.toUInt32 r.rules)

theorem step_ruled (hg : g.RelaysRules) {s : Session κ} (hs : s.kernel.Ruled) {t : Step}
    (ht : t.Ruled) : (s.clearTrace.step g t).2.kernel.Ruled := by
  have hb : s.clearTrace.bridge.kernel.1.Ruled := hs
  cases t with
  | clearRules path uid rules => exact perform_ruled hg hb (.clearRules path uid rules)
  | request json path => exact runRequest_ruled (s := s.clearTrace) hg hs json path _ _
  | openMap path => exact perform_ruled hg hb (.openMap path)
  | call c => exact hg c ht _ hb
  | put e => exact ⟨OwnerMap.ruled_edit hs.map ht, hs.race⟩
  | race es => exact ⟨hs.map, ht⟩
  | answerHost path uid rules =>
    exact perform_ruled hg hb (.clearRules path uid.toUInt32 rules.toUInt64)
  | clearForHost path uid rules =>
    exact perform_ruled hg hb (.clearRules path uid.toUInt32 rules.toUInt64)
  | execute json => exact runRequest_ruled (s := s.clearTrace) hg hs json _ _ _
  | startLogging format =>
    simp only [step, startLogging]
    split <;> exact hs
  | _ => exact ⟨hs.map, hs.race⟩

theorem run_ruled (hg : g.RelaysRules) {s : Session κ} (hs : s.kernel.Ruled) {steps : List Step}
    (ht : ∀ t ∈ steps, t.Ruled) : ∀ r ∈ s.run g steps, ∀ p ∈ r.entries, p.2.rule ≠ 0 := by
  intro r hr
  obtain ⟨s', result, hs', rfl⟩ :=
    exists_report (P := fun s => s.kernel.Ruled) (fun t h _ hs => step_ruled hg hs (ht t h)) hs hr
  exact hs'.map

end Session

variable {g : Gateway σ} {b : Bridge σ} {path : MapPath} {uid : UInt32} {rules : UInt64}

theorem Bridge.update_of_clearRules {x : Exchange}
    (hx : x ∈ b.exchanges g (.clearRules path uid rules)) {fd : Int32} {u : UInt32} {entry : Entry}
    {flags : UInt64} (hu : x.call = .update fd u entry flags) :
    ∃ opens found,
      b.exchanges g (.clearRules path uid rules) = opens ++ [⟨.lookup fd uid, .ok found⟩, x] ∧
      u = uid ∧ flags = Flag.any ∧ entry.iif = found.iif ∧
      entry.rule = found.rule &&& ~~~rules.toUInt32 ∧ entry.rule ≠ 0 ∧
      entry.rule &&& found.rule = entry.rule ∧ entry.rule ≠ found.rule := by
  obtain ⟨c, k, hp, -, -, he⟩ := b.clearRules_course g path uid rules
  rw [he] at hx ⊢
  obtain ⟨opens, fd', found, hc, hm, ⟨hcall, hr⟩ | ⟨hcall, -⟩⟩ :=
    c.exchanges_of_write hp hx (.inl (by rw [hu]; rfl))
  · rw [hu] at hcall
    obtain ⟨rfl, rfl, rfl, rfl⟩ := Call.update.inj hcall
    exact ⟨opens, found, hc, rfl, rfl, rfl, rfl, hr, RuleMask.and_not_and_self _ _,
      RuleMask.and_not_ne_self hm⟩
  · rw [hu] at hcall
    cases hcall

theorem Bridge.delete_of_clearRules {x : Exchange}
    (hx : x ∈ b.exchanges g (.clearRules path uid rules)) {fd : Int32} {u : UInt32}
    (hu : x.call = .delete fd u) :
    ∃ opens found,
      b.exchanges g (.clearRules path uid rules) = opens ++ [⟨.lookup fd uid, .ok found⟩, x] ∧
      u = uid ∧ found.rule ≠ 0 ∧ found.rule &&& rules.toUInt32 = found.rule := by
  obtain ⟨c, k, hp, -, -, he⟩ := b.clearRules_course g path uid rules
  rw [he] at hx ⊢
  obtain ⟨opens, fd', found, hc, hm, ⟨hcall, -⟩ | ⟨hcall, hr⟩⟩ :=
    c.exchanges_of_write hp hx (.inr (by rw [hu]; rfl))
  · rw [hu] at hcall
    cases hcall
  · rw [hu] at hcall
    obtain ⟨rfl, rfl⟩ := Call.delete.inj hcall
    exact ⟨opens, found, hc, rfl, RuleMask.ne_zero_of_and hm, RuleMask.and_eq_self_of_and_not hr⟩

/-- The bridge is in any state here, so this is what it does at every point of a run. -/
theorem removals_keep_rules (g : Gateway σ) (b : Bridge σ) (path : MapPath) (uid : UInt32)
    (rules : UInt64) (entries : List (UInt32 × Entry)) (steps : List Step)
    (hentries : ∀ p ∈ entries, p.2.rule ≠ 0) (hsteps : ∀ t ∈ steps, t.Ruled) :
    let xs := b.exchanges g (.clearRules path uid rules)
    (∀ x ∈ xs, ∀ fd u entry flags, x.call = .update fd u entry flags →
      ∃ opens found, xs = opens ++ [⟨.lookup fd uid, .ok found⟩, x] ∧ u = uid ∧
        flags = Flag.any ∧ entry.iif = found.iif ∧
        entry.rule = found.rule &&& ~~~rules.toUInt32 ∧ entry.rule ≠ 0 ∧
        entry.rule &&& found.rule = entry.rule ∧ entry.rule ≠ found.rule) ∧
    (∀ x ∈ xs, ∀ fd u, x.call = .delete fd u →
      ∃ opens found, xs = opens ++ [⟨.lookup fd uid, .ok found⟩, x] ∧ u = uid ∧
        found.rule ≠ 0 ∧ found.rule &&& rules.toUInt32 = found.rule) ∧
    (∀ s : Session Exchange, s.kernel = .ofEntries entries →
      ∀ r ∈ s.run Session.typedGateway steps, ∀ p ∈ r.entries, p.2.rule ≠ 0) ∧
    ∀ (place : Placement) (s : Session Invocation), s.kernel = .ofEntries entries →
      ∀ r ∈ s.run (Session.byteGateway place) steps, ∀ p ∈ r.entries, p.2.rule ≠ 0 := by
  have hstart : (SimulatedKernel.ofEntries entries).Ruled :=
    ⟨OwnerMap.ruled_ofList hentries, by simp [SimulatedKernel.ofEntries]⟩
  refine ⟨?_, ?_, ?_, ?_⟩
  · intro x hx fd u entry flags hu
    exact Bridge.update_of_clearRules hx hu
  · intro x hx fd u hu
    exact Bridge.delete_of_clearRules hx hu
  · intro s hs
    exact Session.run_ruled Session.typedGateway_relaysRules (hs ▸ hstart) hsteps
  · intro place s hs
    exact Session.run_ruled (Session.byteGateway_relaysRules place) (hs ▸ hstart) hsteps

theorem removals_keep_rules_race :
    let entries : List (UInt32 × Entry) := [(7, ⟨3, 5⟩)]
    let steps : List Step := [.race [⟨7, some ⟨3, 2⟩⟩], .clearRules ⟨[47]⟩ 7 1]
    let reports := (Session.start entries false).run Session.typedGateway steps
    reports.map (·.entries) = [[(7, ⟨3, 5⟩)], [(7, ⟨3, 4⟩)]] ∧
      ∀ r ∈ reports, ∀ p ∈ r.entries, p.2.rule ≠ 0 := by
  intro entries steps reports
  have hentries : ∀ p ∈ entries, p.2.rule ≠ 0 := by decide
  have hsteps : ∀ t ∈ steps, t.Ruled := by
    simp [steps, Step.Ruled, Edit.Ruled]
  have h := removals_keep_rules SimulatedKernel.gateway (.start (.ofEntries entries) false) ⟨[47]⟩ 7
    1 entries steps hentries hsteps
  exact ⟨rfl, h.2.2.1 _ rfl⟩

end OwnerRules

import OwnerRules.Proofs.HealthyKernel

namespace OwnerRules

open Kernel

namespace Kernel.Command

def Writes (c : Command) : Prop := c = .update ∨ c = .delete

end Kernel.Command

theorem OwnerMap.edit_get? (m : OwnerMap) (uid : UInt32) : m.edit ⟨uid, m.get? uid⟩ = m := by
  apply ext_get?
  intro u
  rw [get?_edit]
  split
  · next hu => rw [hu]
  · rfl

theorem Opening.exists_mem_append_iff (o : Opening) (path : MapPath) (xs : List Exchange)
    {P : Command → Prop} (hP : ¬ P .objGet) :
    (∃ x ∈ o.exchanges path ++ xs, P x.call.command) ↔ ∃ x ∈ xs, P x.call.command := by
  constructor
  · rintro ⟨x, hx, h⟩
    rcases List.mem_append.mp hx with hx | hx
    · rw [o.call_of_mem_exchanges hx] at h
      exact absurd h hP
    · exact ⟨x, hx, h⟩
  · rintro ⟨x, hx, h⟩
    exact ⟨x, List.mem_append_right _ hx, h⟩

namespace SimulatedKernel.Due

variable {k k' : SimulatedKernel} {uid mask : UInt32} {c : Clearing}

theorem outcome (h : k.Due uid mask c k') (fd : Int32) :
    ∃ o, c.answer = .ok ⟨o, none⟩ ∧
      (o = .notFound ↔ k.map.get? uid = none) ∧
      (o = .noMatch ↔ ∃ e, k.map.get? uid = some e ∧ e.rule &&& mask = 0) ∧
      (o = .applied ↔ ∃ e, k.map.get? uid = some e ∧ e.rule &&& mask ≠ 0) ∧
      ((∃ x ∈ c.exchanges fd uid mask, x.call.command.Writes) ↔ o = .applied) := by
  cases h with
  | absent hnone =>
    exact ⟨_, rfl, by simp [hnone, Clearing.exchanges, Call.command, Command.Writes]⟩
  | noMatch found hfound hm =>
    exact ⟨_, rfl, by simp [hfound, hm, Clearing.exchanges, Call.command, Command.Writes]⟩
  | updated found hfound hm hr =>
    exact ⟨_, rfl, by simp [hfound, hm, Clearing.exchanges, Call.command, Command.Writes]⟩
  | deleted found stays hfound hm hr hstays =>
    exact ⟨_, rfl, by simp [hfound, hm, Clearing.exchanges, Call.command, Command.Writes]⟩
  | alreadyDeleted found hfound hm hr hgone =>
    exact ⟨_, rfl, by simp [hfound, hm, Clearing.exchanges, Call.command, Command.Writes]⟩

theorem writes (h : k.Due uid mask c k') (fd : Int32) :
    ((∃ x ∈ c.exchanges fd uid mask, x.call.command = .update) ↔
      ∃ e, k.map.get? uid = some e ∧ e.rule &&& mask ≠ 0 ∧ e.rule &&& ~~~mask ≠ 0) ∧
    ((∃ x ∈ c.exchanges fd uid mask, x.call.command = .delete) ↔
      ∃ e, k.map.get? uid = some e ∧ e.rule &&& mask ≠ 0 ∧ e.rule &&& ~~~mask = 0) := by
  cases h with
  | absent hnone => simp [hnone, Clearing.exchanges, Call.command]
  | noMatch found hfound hm => simp [hfound, hm, Clearing.exchanges, Call.command]
  | updated found hfound hm hr =>
    have hr : found.rule &&& ~~~mask ≠ 0 := hr
    simp [hfound, hm, hr, Clearing.exchanges, Call.command]
  | deleted found stays hfound hm hr hstays =>
    have hr : found.rule &&& ~~~mask = 0 := hr
    simp [hfound, hm, hr, Clearing.exchanges, Call.command]
  | alreadyDeleted found hfound hm hr hgone =>
    have hr : found.rule &&& ~~~mask = 0 := hr
    simp [hfound, hm, hr, Clearing.exchanges, Call.command]

theorem map_of_no_race (h : k.Due uid mask c k') (hrace : k.race = []) :
    k'.map = k.map.edit ⟨uid, (k.map.get? uid).bind (Entry.clear mask)⟩ := by
  have hsame := k.map.edit_get? uid
  have hcleared {found : Entry} (hfound : k.map.get? uid = some found)
      (hm : found.rule &&& mask ≠ 0) :
      k'.map = k.map.edit ⟨uid, (k.map.get? uid).bind (Entry.clear mask)⟩ := by
    rw [h.map_eq hfound hm, hrace, hfound]
    rfl
  cases h with
  | absent hnone =>
    rw [hnone] at hsame ⊢
    exact hsame.symm
  | noMatch found hfound hm =>
    rw [hfound] at hsame ⊢
    rw [Option.bind_some, Entry.clear, if_pos hm, hsame, overtaken_of_no_race hrace]
  | updated found hfound hm hr => exact hcleared hfound hm
  | deleted found stays hfound hm hr hstays => exact hcleared hfound hm
  | alreadyDeleted found hfound hm hr hgone => exact hcleared hfound hm

theorem again (h : k.Due uid mask c k') (hrace : k.race = [])
    (hcleared : ∀ e, k.map.get? uid = some e → e.rule &&& mask = 0) (fd : Int32) :
    k' = k ∧ (∀ x ∈ c.exchanges fd uid mask, ¬ x.call.command.Writes) ∧
      (c.answer = .ok ⟨.noMatch, none⟩ ∨ c.answer = .ok ⟨.notFound, none⟩) := by
  cases h with
  | absent hnone =>
    exact ⟨rfl, by simp [Clearing.exchanges, Call.command, Command.Writes], .inr rfl⟩
  | noMatch found hfound hm =>
    exact ⟨overtaken_of_no_race hrace,
      by simp [Clearing.exchanges, Call.command, Command.Writes], .inl rfl⟩
  | updated found hfound hm hr => exact absurd (hcleared found hfound) hm
  | deleted found stays hfound hm hr hstays => exact absurd (hcleared found hfound) hm
  | alreadyDeleted found hfound hm hr hgone => exact absurd (hcleared found hfound) hm

end SimulatedKernel.Due

open SimulatedKernel (gateway)

namespace Bridge.Ready

variable {b : Bridge SimulatedKernel} {path : MapPath}

theorem outcome (h : b.Ready path) (uid : UInt32) (rules : UInt64) :
    ∃ o, (b.clearRules gateway path uid rules).1 = .ok ⟨o, none⟩ ∧
      (o = .notFound ↔ b.kernel.map.get? uid = none) ∧
      (o = .noMatch ↔ ∃ e, b.kernel.map.get? uid = some e ∧ e.rule &&& rules.toUInt32 = 0) ∧
      (o = .applied ↔ ∃ e, b.kernel.map.get? uid = some e ∧ e.rule &&& rules.toUInt32 ≠ 0) ∧
      ((∃ x ∈ b.exchanges gateway (.clearRules path uid rules), x.call.command.Writes) ↔
        o = .applied) := by
  obtain ⟨o, fd, n, c, k, -, -, -, hdue, hxs, hanswer, -, -⟩ := h.clearRules_due uid rules
  obtain ⟨outcome, houtcome, hnotFound, hnoMatch, happlied, hwrites⟩ := hdue.outcome fd
  refine ⟨outcome, hanswer.trans houtcome, hnotFound, hnoMatch, happlied, ?_⟩
  rw [← hwrites, hxs]
  exact o.exists_mem_append_iff path _ (by simp [Command.Writes])

theorem writes (h : b.Ready path) (uid : UInt32) (rules : UInt64) :
    ((∃ x ∈ b.exchanges gateway (.clearRules path uid rules), x.call.command = .update) ↔
      ∃ e, b.kernel.map.get? uid = some e ∧ e.rule &&& rules.toUInt32 ≠ 0 ∧
        e.rule &&& ~~~rules.toUInt32 ≠ 0) ∧
    ((∃ x ∈ b.exchanges gateway (.clearRules path uid rules), x.call.command = .delete) ↔
      ∃ e, b.kernel.map.get? uid = some e ∧ e.rule &&& rules.toUInt32 ≠ 0 ∧
        e.rule &&& ~~~rules.toUInt32 = 0) := by
  obtain ⟨o, fd, n, c, k, -, -, -, hdue, hxs, -⟩ := h.clearRules_due uid rules
  obtain ⟨hupdate, hdelete⟩ := hdue.writes fd
  rw [hxs]
  constructor
  · exact (o.exists_mem_append_iff path _ (P := (· = .update)) (by simp)).trans hupdate
  · exact (o.exists_mem_append_iff path _ (P := (· = .delete)) (by simp)).trans hdelete

theorem map_after (h : b.Ready path) (hrace : b.kernel.race = []) (uid : UInt32)
    (rules : UInt64) :
    (b.clearRules gateway path uid rules).2.kernel.map =
      b.kernel.map.edit ⟨uid, (b.kernel.map.get? uid).bind (Entry.clear rules.toUInt32)⟩ := by
  obtain ⟨o, fd, n, c, k, -, -, -, hdue, -, -, hkernel, -⟩ := h.clearRules_due uid rules
  rw [hkernel]
  exact hdue.map_of_no_race hrace

theorem get?_after (h : b.Ready path) (hrace : b.kernel.race = []) (uid : UInt32) (rules : UInt64)
    (u : UInt32) :
    (b.clearRules gateway path uid rules).2.kernel.map.get? u =
      if u = uid then (b.kernel.map.get? uid).bind (Entry.clear rules.toUInt32)
      else b.kernel.map.get? u := by
  rw [h.map_after hrace, OwnerMap.get?_edit]

theorem exists_of_left (h : b.Ready path) (hrace : b.kernel.race = []) {uid : UInt32}
    {rules : UInt64} {left : Entry}
    (hleft : (b.clearRules gateway path uid rules).2.kernel.map.get? uid = some left) :
    ∃ found, b.kernel.map.get? uid = some found ∧ left = found.without rules.toUInt32 := by
  rw [h.get?_after hrace, if_pos rfl] at hleft
  obtain ⟨found, hfound, hclear⟩ := Option.bind_eq_some_iff.mp hleft
  exact ⟨found, hfound, Entry.clear_eq_some hclear⟩

theorem again (h : b.Ready path) (hd : b.descriptor ≠ none) (hrace : b.kernel.race = [])
    (uid : UInt32) (rules : UInt64)
    (hcleared : ∀ e, b.kernel.map.get? uid = some e → e.rule &&& rules.toUInt32 = 0) :
    (b.clearRules gateway path uid rules).2.kernel = b.kernel ∧
      (∀ x ∈ b.exchanges gateway (.clearRules path uid rules), ¬ x.call.command.Writes) ∧
      ((b.clearRules gateway path uid rules).1 = .ok ⟨.noMatch, none⟩ ∨
        (b.clearRules gateway path uid rules).1 = .ok ⟨.notFound, none⟩) := by
  obtain ⟨o, fd, n, c, k, -, hn, -, hdue, hxs, hanswer, hkernel, -⟩ := h.clearRules_due uid rules
  obtain rfl := hn hd
  obtain ⟨rfl, hwrites, hagain⟩ := hdue.again hrace hcleared fd
  rw [hkernel, hxs, hanswer]
  refine ⟨rfl, ?_, hagain⟩
  intro x hx
  rcases List.mem_append.mp hx with hx | hx
  · rw [o.call_of_mem_exchanges hx]
    rintro (hc | hc) <;> cases hc
  · exact hwrites x hx

end Bridge.Ready

theorem outcome_and_map_of_removal {b : Bridge SimulatedKernel} {path : MapPath} (h : b.Ready path)
    (hrace : b.kernel.race = []) (uid : UInt32) (rules : UInt64) :
    let mask := rules.toUInt32
    let xs := b.exchanges gateway (.clearRules path uid rules)
    let found := b.kernel.map.get? uid
    let after := (b.clearRules gateway path uid rules).2
    let left := after.kernel.map.get? uid
    let again := after.clearRules gateway path uid rules
    (∃ o, (b.clearRules gateway path uid rules).1 = .ok ⟨o, none⟩ ∧
      (o = .notFound ↔ found = none) ∧
      (o = .noMatch ↔ ∃ e, found = some e ∧ e.rule &&& mask = 0) ∧
      (o = .applied ↔ ∃ e, found = some e ∧ e.rule &&& mask ≠ 0) ∧
      ((∃ x ∈ xs, x.call.command.Writes) ↔ o = .applied)) ∧
    ((∃ x ∈ xs, x.call.command = .update) ↔
      ∃ e, found = some e ∧ e.rule &&& mask ≠ 0 ∧ e.rule &&& ~~~mask ≠ 0) ∧
    ((∃ x ∈ xs, x.call.command = .delete) ↔
      ∃ e, found = some e ∧ e.rule ≠ 0 ∧ e.rule &&& mask = e.rule) ∧
    (∀ u, u ≠ uid → after.kernel.map.get? u = b.kernel.map.get? u) ∧
    (∀ e', left = some e' → e'.rule &&& mask = 0 ∧
      ∃ e, found = some e ∧ e'.iif = e.iif ∧ e'.rule &&& ~~~mask = e.rule &&& ~~~mask) ∧
    (∀ e, found = some e → left = none → e.rule &&& mask ≠ 0 ∧ e.rule &&& ~~~mask = 0) ∧
    again.2.kernel = after.kernel ∧
    (∀ x ∈ after.exchanges gateway (.clearRules path uid rules), ¬ x.call.command.Writes) ∧
    (again.1 = .ok ⟨.noMatch, none⟩ ∨ again.1 = .ok ⟨.notFound, none⟩) := by
  intro mask xs found after left again
  obtain ⟨hupdate, hdelete⟩ := h.writes uid rules
  obtain ⟨hready, hd, hquiet⟩ := h.after uid rules path
  have hcleared (e' : Entry) (he' : left = some e') : e'.rule &&& mask = 0 := by
    obtain ⟨e, -, rfl⟩ := h.exists_of_left hrace he'
    exact e.without_and mask
  refine ⟨h.outcome uid rules, hupdate, hdelete.trans ?_, ?_, ?_, ?_,
    hready.again hd (hquiet hrace) uid rules hcleared⟩
  · constructor
    · rintro ⟨e, he, hm, hr⟩
      exact ⟨e, he, RuleMask.ne_zero_of_and hm, RuleMask.and_eq_self_of_and_not hr⟩
    · rintro ⟨e, he, hne, hm⟩
      refine ⟨e, he, ?_, RuleMask.and_eq_self_iff.mp hm⟩
      rw [show e.rule &&& rules.toUInt32 = e.rule from hm]
      exact hne
  · intro u hu
    exact (h.get?_after hrace uid rules u).trans (if_neg hu)
  · intro e' he'
    obtain ⟨e, he, rfl⟩ := h.exists_of_left hrace he'
    exact ⟨hcleared _ he', e, he, rfl, e.without_and_not mask⟩
  · intro e he hgone
    have hleft := (h.get?_after hrace uid rules uid).trans (if_pos rfl)
    rw [show b.kernel.map.get? uid = some e from he, Option.bind_some] at hleft
    exact Entry.clear_eq_none (hleft.symm.trans hgone)

theorem outcome_and_map_of_partial_removal :
    let k : SimulatedKernel :=
      { SimulatedKernel.ofEntries [(7, ⟨-3, 5⟩), (8, ⟨0, 1⟩)] with
        openFd := some 77
        injections := fun _ => some ⟨13, some 0, -1⟩ }
    let b : Bridge SimulatedKernel := { Bridge.start k true with descriptor := some 77 }
    let r := b.clearRules gateway ⟨[0]⟩ 7 0xFFFFFFFF00000001
    b.Ready ⟨[0]⟩ ∧ b.kernel.race = [] ∧ r.1 = .ok ⟨.applied, none⟩ ∧
      r.2.kernel.map.get? 7 = some ⟨-3, 4⟩ ∧ r.2.kernel.map.get? 8 = some ⟨0, 1⟩ ∧
      (r.2.clearRules gateway ⟨[0]⟩ 7 0xFFFFFFFF00000001).2.kernel = r.2.kernel := by
  intro k b r
  have h : b.Ready ⟨[0]⟩ := by
    refine ⟨?_, ?_, ?_⟩
    · rintro c i ⟨rfl⟩
      rfl
    · rintro ⟨⟩
    · rintro fd ⟨rfl⟩
      decide
  obtain ⟨⟨o, hr, -, -, happlied, -⟩, -, -, hother, -, -, hagain, -⟩ :=
    outcome_and_map_of_removal h rfl 7 0xFFFFFFFF00000001
  obtain rfl : o = .applied := happlied.mpr ⟨⟨-3, 5⟩, by decide, by decide⟩
  exact ⟨h, rfl, hr, by decide, hother 8 (by decide), hagain⟩

end OwnerRules

import OwnerRules.Proofs.RemovalOutcome

namespace OwnerRules

open Kernel
open SimulatedKernel (gateway)

namespace OwnerMap

theorem get?_editAll_of_untouched (m : OwnerMap) {es : List Edit} {u : UInt32}
    (h : ∀ e ∈ es, e.uid ≠ u) : (m.editAll es).get? u = m.get? u := by
  induction es generalizing m with
  | nil => rfl
  | cons e es ih =>
    have hrest := ih (m.edit e) fun f hf => h f (List.mem_cons_of_mem e hf)
    have hne : u ≠ e.uid := (h e List.mem_cons_self).symm
    rw [get?_edit, if_neg hne] at hrest
    exact hrest

theorem edit_eq_edit_iff (m : OwnerMap) (uid : UInt32) (a b : Option Entry) :
    m.edit ⟨uid, a⟩ = m.edit ⟨uid, b⟩ ↔ a = b := by
  constructor
  · intro h
    have hget := congrArg (get? · uid) h
    simpa only [get?_edit, if_true] using hget
  · rintro rfl
    rfl

end OwnerMap

namespace Entry

theorem clear_eq_clear {e f : Entry} {mask : UInt32} (hf : f.rule &&& mask ≠ 0)
    (hiif : e.iif = f.iif) (hrest : e.rule &&& ~~~mask = f.rule &&& ~~~mask) (hne : e.rule ≠ 0) :
    e.clear mask = f.clear mask := by
  have hwithout : e.without mask = f.without mask := by rw [without, without, hiif, hrest]
  -- An entry that has no requested bit left is not written at all, and holds the rest already.
  by_cases he : e.rule &&& mask = 0
  · have hkept := RuleMask.and_not_eq_self_of_and he
    have hleft : f.rule &&& ~~~mask ≠ 0 := by rwa [← hrest, hkept]
    rw [clear, if_pos he, clear, if_neg hf, if_neg hleft, ← hwithout, without, hkept]
  · rw [clear, clear, if_neg he, if_neg hf, hwithout, hrest]

end Entry

namespace Bridge

variable {b : Bridge SimulatedKernel} {path : MapPath}

def overtaken (b : Bridge SimulatedKernel) : Bridge SimulatedKernel :=
  { b with kernel := b.kernel.overtaken }

namespace Ready

theorem overtaken (h : b.Ready path) : b.overtaken.Ready path := ⟨h.healthy, h.path, h.descriptor⟩

theorem raced (h : b.Ready path) {uid : UInt32} {rules : UInt64} {found : Entry}
    (hfound : b.kernel.map.get? uid = some found) (hm : found.rule &&& rules.toUInt32 ≠ 0) :
    (b.clearRules gateway path uid rules).1 = .ok ⟨.applied, none⟩ ∧
      (b.clearRules gateway path uid rules).2.kernel.map =
        (b.kernel.map.editAll b.kernel.race).edit ⟨uid, found.clear rules.toUInt32⟩ := by
  obtain ⟨o, hanswer, -, -, happlied, -⟩ := h.outcome uid rules
  obtain rfl : o = .applied := happlied.mpr ⟨found, hfound, hm⟩
  obtain ⟨-, fd, n, c, k, -, -, -, hdue, -, -, hkernel, -⟩ := h.clearRules_due uid rules
  rw [hkernel]
  exact ⟨hanswer, hdue.map_eq hfound hm⟩

theorem map_eq_overtaken_iff (h : b.Ready path) {uid : UInt32} {rules : UInt64} {found : Entry}
    (hfound : b.kernel.map.get? uid = some found) (hm : found.rule &&& rules.toUInt32 ≠ 0) :
    (b.clearRules gateway path uid rules).2.kernel.map =
        (b.overtaken.clearRules gateway path uid rules).2.kernel.map ↔
      ((b.kernel.map.editAll b.kernel.race).get? uid).bind (Entry.clear rules.toUInt32) =
        found.clear rules.toUInt32 := by
  have hserial := h.overtaken.map_after rfl uid rules
  rw [(h.raced hfound hm).2, hserial, eq_comm]
  exact OwnerMap.edit_eq_edit_iff _ uid _ _

end Ready

end Bridge

theorem map_of_raced_removal {b : Bridge SimulatedKernel} {path : MapPath} (h : b.Ready path)
    {uid : UInt32} {rules : UInt64} {found : Entry}
    (hfound : b.kernel.map.get? uid = some found) (hm : found.rule &&& rules.toUInt32 ≠ 0) :
    let rest := found.rule &&& ~~~rules.toUInt32
    let slot := if rest = 0 then none else some ⟨found.iif, rest⟩
    let edited := b.kernel.map.editAll b.kernel.race
    let raced := b.clearRules gateway path uid rules
    let serial :=
      Bridge.clearRules { b with kernel := { b.kernel with map := edited, race := [] } } gateway
        path uid rules
    raced.1 = .ok ⟨.applied, none⟩ ∧
    raced.2.kernel.map = edited.edit ⟨uid, slot⟩ ∧
    (∀ u, u ≠ uid → raced.2.kernel.map.get? u = edited.get? u) ∧
    (raced.2.kernel.map = serial.2.kernel.map ↔
      (edited.get? uid).bind (Entry.clear rules.toUInt32) = slot) ∧
    ((∀ e ∈ b.kernel.race, e.uid ≠ uid) → raced.2.kernel.map = serial.2.kernel.map) ∧
    (∀ e, edited.get? uid = some e → e.iif = found.iif → e.rule &&& ~~~rules.toUInt32 = rest →
      e.rule ≠ 0 → raced.2.kernel.map = serial.2.kernel.map) ∧
    (edited.get? uid = none → rest = 0 → raced.2.kernel.map = serial.2.kernel.map) := by
  intro rest slot edited raced serial
  have hslot : found.clear rules.toUInt32 = slot := by
    rw [Entry.clear, if_neg hm]
    rfl
  obtain ⟨hanswer, hmap⟩ := h.raced hfound hm
  have hserial := h.map_eq_overtaken_iff hfound hm
  rw [hslot] at hmap hserial
  refine ⟨hanswer, hmap, ?_, hserial, ?_, ?_, ?_⟩
  · intro u hu
    rw [show raced.2.kernel.map = _ from hmap, OwnerMap.get?_edit, if_neg hu]
  · intro huntouched
    apply hserial.mpr
    rw [OwnerMap.get?_editAll_of_untouched _ huntouched, hfound]
    exact hslot
  · intro e he hiif hrest hne
    apply hserial.mpr
    rw [show b.kernel.map.editAll b.kernel.race = edited from rfl, he, ← hslot]
    exact Entry.clear_eq_clear hm hiif hrest hne
  · intro hgone hrest
    apply hserial.mpr
    rw [show b.kernel.map.editAll b.kernel.race = edited from rfl, hgone]
    exact (if_pos hrest).symm

theorem map_of_removal_raced_by_deletion :
    let k : SimulatedKernel :=
      { SimulatedKernel.ofEntries [(7, ⟨3, 5⟩), (8, ⟨0, 1⟩)] with
        race := [⟨7, none⟩, ⟨8, some ⟨0, 2⟩⟩] }
    let b := Bridge.start k false
    let raced := b.clearRules gateway ⟨[47]⟩ 7 1
    b.Ready ⟨[47]⟩ ∧ b.kernel.map.get? 7 = some ⟨3, 5⟩ ∧
      (5 : UInt32) &&& (1 : UInt64).toUInt32 ≠ 0 ∧
      raced.1 = .ok ⟨.applied, none⟩ ∧ raced.2.kernel.map.get? 7 = some ⟨3, 4⟩ ∧
      raced.2.kernel.map.get? 8 = some ⟨0, 2⟩ ∧
      raced.2.kernel.map ≠ (b.overtaken.clearRules gateway ⟨[47]⟩ 7 1).2.kernel.map := by
  intro k b raced
  have h : b.Ready ⟨[47]⟩ := by
    refine ⟨?_, fun _ => rfl, ?_⟩
    · rintro c i ⟨⟩
    · rintro fd ⟨⟩
  have hfound : b.kernel.map.get? 7 = some ⟨3, 5⟩ := by decide
  have hm : (5 : UInt32) &&& (1 : UInt64).toUInt32 ≠ 0 := by decide
  obtain ⟨hanswer, hmap, hother, hserial, -⟩ := map_of_raced_removal h hfound hm
  refine ⟨h, hfound, hm, hanswer, ?_, (hother 8 (by decide)).trans (by decide), ?_⟩
  · exact (congrArg (OwnerMap.get? · 7) hmap).trans (by decide)
  · intro heq
    exact absurd (hserial.mp heq) (by decide)

end OwnerRules

import OwnerRules.OwnerMap

namespace OwnerRules

namespace RuleMask

theorem and_or_and_not (r m : UInt32) : r &&& m ||| r &&& ~~~m = r := by
  apply UInt32.toBitVec_inj.mp
  ext i hi
  simp only [UInt32.toBitVec_or, UInt32.toBitVec_and, UInt32.toBitVec_not, BitVec.getElem_or,
    BitVec.getElem_and, BitVec.getElem_not]
  cases r.toBitVec[i] <;> cases m.toBitVec[i] <;> rfl

theorem and_or_distrib (r a b : UInt32) : r &&& (a ||| b) = r &&& a ||| r &&& b :=
  UInt32.toBitVec_inj.mp BitVec.and_or_distrib_left

theorem and_not_or (r a b : UInt32) : r &&& ~~~(a ||| b) = r &&& ~~~a &&& ~~~b := by
  apply UInt32.toBitVec_inj.mp
  ext i hi
  simp only [UInt32.toBitVec_or, UInt32.toBitVec_and, UInt32.toBitVec_not, BitVec.getElem_or,
    BitVec.getElem_and, BitVec.getElem_not]
  cases r.toBitVec[i] <;> cases a.toBitVec[i] <;> cases b.toBitVec[i] <;> rfl

variable {r m : UInt32}

theorem and_eq_self_of_and_not (h : r &&& ~~~m = 0) : r &&& m = r := by
  have hs := and_or_and_not r m
  rwa [h, UInt32.or_zero] at hs

theorem and_eq_self_iff : r &&& m = r ↔ r &&& ~~~m = 0 := by
  constructor
  · intro h
    rw [← h, UInt32.and_assoc, UInt32.and_not_self, UInt32.and_zero]
  · exact and_eq_self_of_and_not

theorem and_not_eq_self_of_and (h : r &&& m = 0) : r &&& ~~~m = r := by
  have hs := and_or_and_not r m
  rwa [h, UInt32.zero_or] at hs

theorem and_not_ne_self (h : r &&& m ≠ 0) : r &&& ~~~m ≠ r := by
  intro he
  apply h
  rw [← he, UInt32.and_assoc, UInt32.not_and_self, UInt32.and_zero]

theorem ne_zero_of_and (h : r &&& m ≠ 0) : r ≠ 0 := by
  rintro rfl
  exact h UInt32.zero_and

theorem and_not_and_self (r m : UInt32) : r &&& ~~~m &&& r = r &&& ~~~m := by
  rw [UInt32.and_comm r, UInt32.and_assoc, UInt32.and_self]

end RuleMask

namespace Entry

def without (e : Entry) (mask : UInt32) : Entry := { e with rule := e.rule &&& ~~~mask }

theorem without_without (e : Entry) (a b : UInt32) :
    (e.without a).without b = e.without (a ||| b) := by
  simp only [without, RuleMask.and_not_or]

/-- What clearing should leave: an entry without the bits stays, also when it has no rule at all. -/
def clear (mask : UInt32) (e : Entry) : Option Entry :=
  if e.rule &&& mask = 0 then some e
  else if e.rule &&& ~~~mask = 0 then none
  else some (e.without mask)

theorem clear_eq_some {e left : Entry} {mask : UInt32} (h : e.clear mask = some left) :
    left = e.without mask := by
  unfold clear at h
  split at h
  · next hm =>
    obtain rfl := Option.some.inj h
    rw [without, RuleMask.and_not_eq_self_of_and hm]
  split at h
  · cases h
  · exact (Option.some.inj h).symm

theorem clear_eq_none {e : Entry} {mask : UInt32} (h : e.clear mask = none) :
    e.rule &&& mask ≠ 0 ∧ e.rule &&& ~~~mask = 0 := by
  unfold clear at h
  split at h
  · cases h
  · next hm =>
    split at h
    · next hr => exact ⟨hm, hr⟩
    · cases h

theorem without_and (e : Entry) (mask : UInt32) : (e.without mask).rule &&& mask = 0 := by
  rw [without, UInt32.and_assoc, UInt32.not_and_self, UInt32.and_zero]

theorem without_and_not (e : Entry) (mask : UInt32) :
    (e.without mask).rule &&& ~~~mask = e.rule &&& ~~~mask := by
  rw [without, UInt32.and_assoc, UInt32.and_self]

theorem clear_zero (e : Entry) : e.clear 0 = some e := by
  simp [clear]

theorem clear_clear (e : Entry) (a b : UInt32) :
    (e.clear a).bind (clear b) = e.clear (a ||| b) := by
  by_cases ha : e.rule &&& a = 0
  · have hn := RuleMask.and_not_eq_self_of_and ha
    simp [clear, ha, hn, RuleMask.and_or_distrib, RuleMask.and_not_or, without]
  · by_cases hn : e.rule &&& ~~~a = 0
    · simp [clear, ha, hn, RuleMask.and_or_distrib, RuleMask.and_not_or]
    · have hleft : e.clear a = some (e.without a) := by rw [clear, if_neg ha, if_neg hn]
      have hab : ¬ e.rule &&& (a ||| b) = 0 := by
        simp [RuleMask.and_or_distrib, ha]
      rw [hleft, Option.bind_some, clear, clear, if_neg hab, RuleMask.and_not_or]
      by_cases hb : e.rule &&& ~~~a &&& b = 0
      · have hkeep := RuleMask.and_not_eq_self_of_and hb
        rw [if_pos (show (e.without a).rule &&& b = 0 from hb), hkeep, if_neg hn,
          ← without_without]
        exact congrArg (fun r => some { e with rule := r }) hkeep.symm
      · rw [if_neg (show ¬ (e.without a).rule &&& b = 0 from hb), without_without]
        rfl

end Entry

end OwnerRules

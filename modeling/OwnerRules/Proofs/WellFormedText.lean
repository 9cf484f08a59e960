import OwnerRules.MapPath

namespace OwnerRules

namespace Text.Utf8

theorem toNat_ofNat {v : Nat} (hv : v.isValidChar) : (Char.ofNat v).val.toNat = v := by
  rw [Char.ofNat, dif_pos hv]
  rfl

theorem ofNat_eq {n : Nat} {b : UInt8} (h : n = b.toNat) : UInt8.ofNat n = b := by
  rw [h, UInt8.ofNat_toNat]

section Lengths

variable {v : Nat} {b₁ b₂ b₃ b₄ : UInt8}

theorem utf8EncodeChar_one (h : v = b₁.toNat) (hlt : b₁.toNat < 0x80) :
    String.utf8EncodeChar (Char.ofNat v) = [b₁] := by
  rw [String.utf8EncodeChar, toNat_ofNat (Or.inl (by omega))]
  simp [show v ≤ 127 by omega, ofNat_eq h]

theorem utf8EncodeChar_two (hlow : 0x80 ≤ v) (hhigh : v < 0x800)
    (h₁ : v / 64 + 192 = b₁.toNat) (h₂ : v % 64 + 128 = b₂.toNat) :
    String.utf8EncodeChar (Char.ofNat v) = [b₁, b₂] := by
  have hv : v / 64 % 32 = v / 64 := by omega
  rw [String.utf8EncodeChar, toNat_ofNat (Or.inl (by omega))]
  simp only [show ¬ v ≤ 127 by omega, show v ≤ 2047 by omega, if_true, if_false, hv, ofNat_eq h₁,
    ofNat_eq h₂]

theorem utf8EncodeChar_three (hlow : 0x800 ≤ v) (hhigh : v < 0x10000)
    (hv : v.isValidChar) (h₁ : v / 4096 + 224 = b₁.toNat) (h₂ : v / 64 % 64 + 128 = b₂.toNat)
    (h₃ : v % 64 + 128 = b₃.toNat) :
    String.utf8EncodeChar (Char.ofNat v) = [b₁, b₂, b₃] := by
  have hm : v / 4096 % 16 = v / 4096 := by omega
  rw [String.utf8EncodeChar, toNat_ofNat hv]
  simp only [show ¬ v ≤ 127 by omega, show ¬ v ≤ 2047 by omega, show v ≤ 65535 by omega, if_true,
    if_false, hm, ofNat_eq h₁, ofNat_eq h₂, ofNat_eq h₃]

theorem utf8EncodeChar_four (hlow : 0x10000 ≤ v) (hhigh : v < 0x110000)
    (h₁ : v / 262144 + 240 = b₁.toNat) (h₂ : v / 4096 % 64 + 128 = b₂.toNat)
    (h₃ : v / 64 % 64 + 128 = b₃.toNat) (h₄ : v % 64 + 128 = b₄.toNat) :
    String.utf8EncodeChar (Char.ofNat v) = [b₁, b₂, b₃, b₄] := by
  have hm : v / 262144 % 8 = v / 262144 := by omega
  rw [String.utf8EncodeChar, toNat_ofNat (Or.inr (by omega))]
  simp only [show ¬ v ≤ 127 by omega, show ¬ v ≤ 2047 by omega, show ¬ v ≤ 65535 by omega,
    if_false, hm, ofNat_eq h₁, ofNat_eq h₂, ofNat_eq h₃, ofNat_eq h₄]

end Lengths

def Begun (taken : List UInt8) (value : Nat) : Nat → Nat → Nat → Prop
  | 0, low, high => ∀ b : UInt8, low ≤ b.toNat → b.toNat ≤ high →
      String.utf8EncodeChar (Char.ofNat (value * 64 + b.toNat % 64)) = taken ++ [b]
  | m + 1, low, high => ∀ b : UInt8, low ≤ b.toNat → b.toNat ≤ high →
      Begun (taken ++ [b]) (value * 64 + b.toNat % 64) m 0x80 0xBF

def Taken (taken : List UInt8) : Option Pending → Prop
  | none => taken = []
  | some p => Begun taken p.value p.more p.low p.high

inductive Stepped (taken : List UInt8) : Step → Prop
  | broken {step : Step} (h : none ∈ step.1) : Stepped taken step
  | completed {c : Char} (h : String.utf8EncodeChar c = taken) : Stepped taken ([some c], none)
  | begun {p : Pending} (h : Taken taken (some p)) : Stepped taken ([], some p)

theorem stepped_start (b : UInt8) : Stepped [b] (start b) := by
  unfold start
  dsimp only
  split
  · exact .completed (utf8EncodeChar_one rfl (by omega))
  split
  · exact .broken (by simp)
  split
  · refine .begun fun b₂ hl₂ hh₂ => ?_
    dsimp only at *
    exact utf8EncodeChar_two (by omega) (by omega) (by omega) (by omega)
  split
  · refine .begun fun b₂ hl₂ hh₂ b₃ hl₃ hh₃ => ?_
    dsimp only at *
    -- These keep the value above the shorter forms and out of the surrogates.
    have hlow : b.toNat = 0xE0 → 0xA0 ≤ b₂.toNat := fun hb => by simpa [hb] using hl₂
    have hhigh : b.toNat = 0xED → b₂.toNat ≤ 0x9F := fun hb => by simpa [hb] using hh₂
    have hb₂ : 0x80 ≤ b₂.toNat ∧ b₂.toNat ≤ 0xBF := by grind
    exact utf8EncodeChar_three (by omega) (by omega) (by simp only [Nat.isValidChar]; omega)
      (by omega) (by omega) (by omega)
  split
  · refine .begun fun b₂ hl₂ hh₂ b₃ hl₃ hh₃ b₄ hl₄ hh₄ => ?_
    dsimp only at *
    -- These keep the value above the shorter forms and up to the last character.
    have hlow : b.toNat = 0xF0 → 0x90 ≤ b₂.toNat := fun hb => by simpa [hb] using hl₂
    have hhigh : b.toNat = 0xF4 → b₂.toNat ≤ 0x8F := fun hb => by simpa [hb] using hh₂
    have hb₂ : 0x80 ≤ b₂.toNat ∧ b₂.toNat ≤ 0xBF := by grind
    exact utf8EncodeChar_four (by omega) (by omega) (by omega) (by omega) (by omega) (by omega)
  · exact .broken (by simp)

theorem stepped_advance {taken : List UInt8} {p : Option Pending} (h : Taken taken p) (b : UInt8) :
    Stepped (taken ++ [b]) (advance b p) := by
  cases p with
  | none =>
    obtain rfl : taken = [] := h
    exact stepped_start b
  | some p =>
    obtain ⟨value, more, low, high⟩ := p
    by_cases hb : low ≤ b.toNat ∧ b.toNat ≤ high
    · cases more with
      | zero =>
        simp only [advance, hb, and_self, if_true]
        exact .completed (h b hb.1 hb.2)
      | succ m =>
        simp only [advance, hb, and_self, if_true]
        exact .begun (h b hb.1 hb.2)
    · exact .broken (by simp [advance, hb])

theorem encode_of_parts {taken bs : List UInt8} {p : Option Pending} {s : List Char}
    (hp : Taken taken p) (h : parts p bs = s.map some) : encode s = taken ++ bs := by
  -- Induction on the bytes left; the invariant is that those taken spell what is pending.
  induction bs generalizing taken p s with
  | nil =>
    cases p with
    | none =>
      obtain rfl : taken = [] := hp
      obtain rfl : s = [] := by simpa [parts] using h.symm
      rfl
    | some p => cases s <;> simp [parts] at h
  | cons b bs ih =>
    have hstep := stepped_advance hp b
    rw [parts] at h
    generalize advance b p = step at hstep h
    cases hstep with
    | broken hnone =>
      have hmem : none ∈ s.map some := h ▸ List.mem_append_left _ hnone
      simp at hmem
    | completed hc =>
      cases s with
      | nil => simp at h
      | cons d t =>
        obtain ⟨rfl, ht⟩ : _ = d ∧ parts none bs = t.map some := by simpa using h
        have hrest := @ih [] none t rfl ht
        rw [encode] at hrest ⊢
        rw [List.flatMap_cons, hc, hrest, List.nil_append, List.append_assoc, List.singleton_append]
    | begun hq => rw [ih hq h, List.append_assoc, List.singleton_append]

theorem eq_map_some_of_mapM {cs : List (Option Char)} {s : List Char} (h : cs.mapM id = some s) :
    cs = s.map some := by
  induction cs generalizing s with
  | nil =>
    obtain rfl : [] = s := by simpa using h
    rfl
  | cons c cs ih =>
    simp only [List.mapM_cons, id, Option.bind_eq_bind, Option.bind_eq_some_iff, Option.pure_def,
      Option.some.injEq] at h
    obtain ⟨d, rfl, t, ht, rfl⟩ := h
    rw [List.map_cons, ih ht]

theorem decode?_eq_some_iff {bs : List UInt8} {s : List Char} :
    decode? bs = some s ↔ bs = encode s := by
  constructor
  · intro h
    exact (encode_of_parts (p := none) rfl (eq_map_some_of_mapM h)).symm
  · rintro rfl
    exact decode?_encode s

end Text.Utf8

namespace MapPath

def IsText (p : MapPath) : Prop := ∃ s : String, p = ofString s

theorem text?_eq_some_iff {p : MapPath} {s : String} : p.text? = some s ↔ p = ofString s := by
  constructor
  · intro h
    obtain ⟨cs, hcs, rfl⟩ := Option.map_eq_some_iff.mp h
    have hbytes := Text.Utf8.decode?_eq_some_iff.mp hcs
    rw [ofString, String.toList_ofList, ← hbytes]
  · rintro rfl
    exact text?_ofString s

theorem text?_eq_none_iff {p : MapPath} : p.text? = none ↔ ¬ p.IsText := by
  simp [IsText, ← text?_eq_some_iff, Option.eq_none_iff_forall_ne_some]

end MapPath

end OwnerRules

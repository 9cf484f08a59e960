import OwnerRules.RuleMask
import OwnerRules.Proofs.RuleBits

namespace OwnerRules

namespace Rule

theorem toBitVec_bit (r : Rule) : r.bit.toBitVec = BitVec.twoPow 32 r.ctorIdx := by
  cases r <;> rfl

theorem and_bit_of_ne_zero {mask : UInt32} {r : Rule} (h : mask &&& r.bit ≠ 0) :
    mask &&& r.bit = r.bit := by
  have hand := BitVec.and_twoPow mask.toBitVec r.ctorIdx
  rw [← toBitVec_bit, ← UInt32.toBitVec_and] at hand
  split at hand
  · exact UInt32.toBitVec_inj.mp hand
  · exact absurd (UInt32.toBitVec_inj.mp hand) h

end Rule

namespace RuleMask

inductive Piece
  | nothing
  | rule (r : Rule)
  | number (bits : UInt32)
  deriving DecidableEq

namespace Piece

def bits : Piece → UInt32
  | nothing => 0
  | rule r => r.bit
  | number bits => bits

def text : Piece → String
  | nothing => "NO_MATCH"
  | rule r => r.name
  | number bits => "0x" ++ String.ofList (Text.hex bits.toNat)

def ofText? : List Char → Option Piece
  | '0' :: 'x' :: d :: ds =>
    (Text.ofHex? 0 (d :: ds)).bind fun n =>
      if n < UInt32.size then some (number (.ofNat n)) else none
  | word =>
    if word = "NO_MATCH".toList then some nothing
    else (Rule.all.find? fun r => r.name.toList = word).map rule

def readAll? (s : String) : Option (List Piece) := (s.toList.splitOn '|').mapM ofText?

def union (ps : List Piece) : UInt32 := ps.foldr (fun p mask => p.bits ||| mask) 0

/-- Rules stand by increasing bits, and a number stands last and has only bits without a name. -/
inductive Ordered : List Piece → Prop
  | nothing : Ordered [nothing]
  | rules {rs : List Rule} : rs.Pairwise (fun r s => r.bit < s.bit) → Ordered (rs.map rule)
  | rest {rs : List Rule} {bits : UInt32} : rs.Pairwise (fun r s => r.bit < s.bit) →
      bits ≠ 0 → (∀ r : Rule, bits &&& r.bit = 0) → Ordered (rs.map rule ++ [number bits])

theorem toList_text_number (bits : UInt32) :
    (number bits).text.toList = '0' :: 'x' :: Text.hex bits.toNat := by
  simp only [text, String.toList_append, String.toList_ofList]
  rfl

theorem ofText?_text (p : Piece) : ofText? p.text.toList = some p := by
  cases p with
  | nothing => decide
  | rule r => cases r <;> decide
  | number bits =>
    have hread := Text.ofHex?_hex bits.toNat
    have hdigits : Text.hex bits.toNat ≠ [] := Nat.toDigits_ne_nil
    rw [toList_text_number]
    obtain ⟨d, ds, hcons⟩ := List.exists_cons_of_ne_nil hdigits
    rw [hcons] at hread ⊢
    rw [ofText?, hread, Option.bind_some, if_pos bits.toNat_lt, UInt32.ofNat_toNat]

theorem bar_not_mem_text (p : Piece) : '|' ∉ p.text.toList := by
  cases p with
  | nothing => decide
  | rule r => cases r <;> decide
  | number bits =>
    intro hmem
    rw [toList_text_number] at hmem
    have hdigit : '|' ∈ Text.hex bits.toNat := by simpa using hmem
    obtain ⟨v, hv⟩ := Text.hexValue?_of_mem (Text.ofHex?_hex bits.toNat) _ hdigit
    rw [show Text.hexValue? '|' = none by decide] at hv
    cases hv

theorem mapM_ofText? (ps : List Piece) :
    (ps.map fun p => p.text.toList).mapM ofText? = some ps := by
  induction ps with
  | nil => rfl
  | cons p ps ih => simp [ofText?_text, ih]

theorem readAll?_intercalate {ps : List Piece} (h : ps ≠ []) :
    readAll? ("|".intercalate (ps.map text)) = some ps := by
  have hbar : "|".toList = ['|'] := by decide
  rw [readAll?, String.toList_intercalate, hbar, List.map_map, List.splitOn_intercalate]
  · exact mapM_ofText? ps
  · intro l hl
    obtain ⟨p, -, rfl⟩ := List.mem_map.mp hl
    exact p.bar_not_mem_text
  · simpa using h

theorem union_append (ps qs : List Piece) : union (ps ++ qs) = union ps ||| union qs := by
  induction ps with
  | nil => exact UInt32.zero_or.symm
  | cons p ps ih =>
    have hstep : ∀ ps, union (p :: ps) = p.bits ||| union ps := fun _ => rfl
    rw [List.cons_append, hstep, hstep, ih, UInt32.or_assoc]

theorem union_filter (mask : UInt32) (rs : List Rule) :
    union ((rs.filter fun r => mask &&& r.bit != 0).map rule) =
      mask &&& union (rs.map rule) := by
  induction rs with
  | nil => exact UInt32.and_zero.symm
  | cons r rs ih =>
    -- A rule has one bit, so a mask that meets it at all has the whole of it.
    have hstep : mask &&& union ((r :: rs).map rule) =
        mask &&& r.bit ||| mask &&& union (rs.map rule) := and_or_distrib mask r.bit _
    rw [hstep, ← ih]
    by_cases h : mask &&& r.bit = 0
    · rw [List.filter_cons_of_neg (by simp [h]), h, UInt32.zero_or]
    · rw [List.filter_cons_of_pos (by simp [h]), Rule.and_bit_of_ne_zero h]
      rfl

end Piece

open Piece

def pieces (mask : UInt32) : List Piece :=
  if mask = 0 then [nothing]
  else (Rule.all.filter fun r => mask &&& r.bit != 0).map rule ++
    if unnamed mask = 0 then [] else [number (unnamed mask)]

theorem describe_eq (mask : UInt32) :
    describe mask = "|".intercalate ((pieces mask).map text) := by
  unfold describe pieces
  split
  · rfl
  · rw [List.map_append, List.map_map, apply_ite (List.map text)]
    rfl

theorem unnamed_eq (mask : UInt32) : unnamed mask = mask &&& ~~~ union (Rule.all.map rule) := rfl

theorem unnamed_and_bit (mask : UInt32) (r : Rule) : unnamed mask &&& r.bit = 0 := by
  have hbit : ~~~ union (Rule.all.map rule) &&& r.bit = 0 := by
    cases r <;> decide
  rw [unnamed_eq, UInt32.and_assoc, hbit, UInt32.and_zero]

theorem union_pieces (mask : UInt32) : union (pieces mask) = mask := by
  unfold pieces
  split
  · next h => exact h.symm
  · have hrest : union (if unnamed mask = 0 then [] else [number (unnamed mask)]) =
        unnamed mask := by
      split
      · next h => exact h.symm
      · exact UInt32.or_zero
    rw [union_append, union_filter, hrest, unnamed_eq, and_or_and_not]

theorem ordered_pieces (mask : UInt32) : Ordered (pieces mask) := by
  have hrules : (Rule.all.filter fun r => mask &&& r.bit != 0).Pairwise
      fun r s => r.bit < s.bit :=
    List.Pairwise.filter _ (by decide)
  unfold pieces
  split
  · exact .nothing
  split
  · rw [List.append_nil]
    exact .rules hrules
  · next h => exact .rest hrules h (unnamed_and_bit mask)

theorem pieces_ne_nil (mask : UInt32) : pieces mask ≠ [] := by
  intro h
  have hzero : mask = 0 := by
    rw [← union_pieces mask, h]
    rfl
  rw [hzero] at h
  cases h

theorem readAll?_describe (mask : UInt32) : readAll? (describe mask) = some (pieces mask) := by
  rw [describe_eq]
  exact readAll?_intercalate (pieces_ne_nil mask)

theorem describe_injective : Function.Injective describe := by
  intro a b h
  have hread := readAll?_describe a
  rw [h, readAll?_describe] at hread
  rw [← union_pieces a, ← union_pieces b, Option.some.inj hread]

theorem pieces_of_description :
    (∀ mask, ∃ ps, readAll? (describe mask) = some ps ∧ union ps = mask ∧ Ordered ps) ∧
    Function.Injective describe ∧
    Rule.all.map (fun r => (r.name, r.bit)) =
      [("HAPPY_BOX", 0x1), ("PENALTY_BOX", 0x2), ("DOZABLE", 0x4), ("STANDBY", 0x8),
        ("POWERSAVE", 0x10), ("RESTRICTED", 0x20), ("LOW_POWER_STANDBY", 0x40),
        ("IIF_MATCH", 0x80), ("LOCKDOWN_VPN", 0x100)] :=
  ⟨fun mask => ⟨pieces mask, readAll?_describe mask, union_pieces mask, ordered_pieces mask⟩,
    describe_injective, rfl⟩

example : readAll? "DOZABLE|0x100000" = some [.rule .dozable, .number 0x100000] := by decide

end RuleMask

end OwnerRules

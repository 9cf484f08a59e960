import OwnerRules.Text.Hex
import OwnerRules.Text.Hidden

namespace OwnerRules.Text.Quoted

def escape (c : Char) : List Char :=
  match c with
  | '\x00' => ['\\', '0']
  | '\t' => ['\\', 't']
  | '\n' => ['\\', 'n']
  | '\r' => ['\\', 'r']
  | '"' => ['\\', '"']
  | '\\' => ['\\', '\\']
  | c => if isHidden c then '\\' :: 'u' :: '{' :: hex c.toNat ++ ['}'] else [c]

def encode (s : List Char) : List Char := s.flatMap escape

def quote (s : List Char) : List Char := '"' :: encode s ++ ['"']

def plainEscape? : Char → Option Char
  | '0' => some '\x00'
  | 't' => some '\t'
  | 'n' => some '\n'
  | 'r' => some '\r'
  | '"' => some '"'
  | '\\' => some '\\'
  | _ => none

def decodeFrom : Option Nat → List Char → Option (List Char)
  | none, [] => some []
  | none, '\\' :: 'u' :: '{' :: r => decodeFrom (some 0) r
  | none, '\\' :: e :: r => (plainEscape? e).bind fun c => (decodeFrom none r).map (c :: ·)
  | none, c :: r => if c = '\\' ∨ c = '"' then none else (decodeFrom none r).map (c :: ·)
  | some n, '}' :: r => (decodeFrom none r).map (Char.ofNat n :: ·)
  | some n, d :: r => (hexValue? d).bind fun v => decodeFrom (some (n * 16 + v)) r
  | some _, [] => none

def decode (t : List Char) : Option (List Char) := decodeFrom none t

theorem hexValue?_ne_brace {c : Char} {v : Nat} (h : hexValue? c = some v) : c ≠ '}' := by
  rintro rfl
  revert h
  simp [show hexValue? '}' = none by decide]

theorem decodeFrom_digits {n m : Nat} {ds : List Char} (r : List Char) (h : ofHex? n ds = some m) :
    decodeFrom (some n) (ds ++ '}' :: r) = (decodeFrom none r).map (Char.ofNat m :: ·) := by
  induction ds generalizing n with
  | nil =>
    obtain rfl : n = m := by simpa [ofHex?] using h
    rfl
  | cons d ds ih =>
    simp only [ofHex?, Option.bind_eq_some_iff] at h
    obtain ⟨v, hv, h⟩ := h
    rw [List.cons_append, decodeFrom, hv, Option.bind_some, ih h]
    exact hexValue?_ne_brace hv

theorem decodeFrom_escape (c : Char) (r : List Char) :
    decodeFrom none (escape c ++ r) = (decodeFrom none r).map (c :: ·) := by
  unfold escape
  split
  all_goals try rfl
  next h0 ht hn hr hq hb =>
    split
    · simp only [List.cons_append, List.append_assoc, List.nil_append, decodeFrom]
      rw [decodeFrom_digits r (ofHex?_hex c.toNat), Char.ofNat_toNat]
    · rw [List.cons_append, List.nil_append, decodeFrom]
      · simp [show c ≠ '\\' from fun h => hb h, show c ≠ '"' from fun h => hq h]
      · rintro _ rfl
        exact absurd rfl hb
      · rintro _ _ rfl
        exact absurd rfl hb

theorem decode_encode (s : List Char) : decode (encode s) = some s := by
  unfold decode
  induction s with
  | nil => rfl
  | cons c s ih =>
    rw [encode, List.flatMap_cons, decodeFrom_escape, ← encode, ih, Option.map_some]

end OwnerRules.Text.Quoted

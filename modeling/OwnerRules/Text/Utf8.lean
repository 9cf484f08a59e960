/-!
UTF-8 with a strict and a lossy reading. Both are views of `parts`, which splits a byte string into
characters and maximal ill-formed parts. Main statement: the parts of an encoded text are its
characters.
-/
namespace OwnerRules.Text.Utf8

def encode (s : List Char) : List UInt8 := s.flatMap String.utf8EncodeChar

/-- A character whose first bytes have been read: their bits, how many bytes come after the next
one, and the bounds on the next one. -/
structure Pending where
  value : Nat
  more : Nat
  low : Nat
  high : Nat
  deriving DecidableEq

abbrev Step := List (Option Char) × Option Pending

def start (b : UInt8) : Step :=
  let n := b.toNat
  if n < 0x80 then ([some (Char.ofNat n)], none)
  else if n < 0xC2 then ([none], none)
  else if n < 0xE0 then ([], some ⟨n % 32, 0, 0x80, 0xBF⟩)
  else if n < 0xF0 then
    ([], some ⟨n % 16, 1, if n = 0xE0 then 0xA0 else 0x80, if n = 0xED then 0x9F else 0xBF⟩)
  else if n < 0xF5 then
    ([], some ⟨n % 8, 2, if n = 0xF0 then 0x90 else 0x80, if n = 0xF4 then 0x8F else 0xBF⟩)
  else ([none], none)

def advance (b : UInt8) : Option Pending → Step
  | none => start b
  | some p =>
    if p.low ≤ b.toNat ∧ b.toNat ≤ p.high then
      let value := p.value * 64 + b.toNat % 64
      match p.more with
      | 0 => ([some (Char.ofNat value)], none)
      | m + 1 => ([], some ⟨value, m, 0x80, 0xBF⟩)
    else (none :: (start b).1, (start b).2)

def parts : Option Pending → List UInt8 → List (Option Char)
  | none, [] => []
  | some _, [] => [none]
  | p, b :: bs => (advance b p).1 ++ parts (advance b p).2 bs

def decode? (bs : List UInt8) : Option (List Char) := (parts none bs).mapM id

def decodeLossy (bs : List UInt8) : List Char := (parts none bs).map (·.getD '\uFFFD')

theorem parts_none_cons (b : UInt8) (bs : List UInt8) :
    parts none (b :: bs) = (start b).1 ++ parts (start b).2 bs := rfl

theorem advance_some {p : Pending} {n : Nat} (hn : n < 256) (hl : p.low ≤ n) (hh : n ≤ p.high) :
    advance (UInt8.ofNat n) (some p) = match p.more with
      | 0 => ([some (Char.ofNat (p.value * 64 + n % 64))], none)
      | m + 1 => ([], some ⟨p.value * 64 + n % 64, m, 0x80, 0xBF⟩) := by
  have h : (UInt8.ofNat n).toNat = n := by simpa using hn
  simp only [advance, h, hl, hh, and_self, if_true]

theorem start_ascii {n : Nat} (hn : n < 0x80) :
    start (UInt8.ofNat n) = ([some (Char.ofNat n)], none) := by
  have h : (UInt8.ofNat n).toNat = n := by simp; omega
  simp only [start, h, hn, if_true]

theorem start_two {n : Nat} (hn : 2 ≤ n) (hn' : n < 32) :
    start (UInt8.ofNat (n + 192)) = ([], some ⟨n, 0, 0x80, 0xBF⟩) := by
  have h : (UInt8.ofNat (n + 192)).toNat = n + 192 := by simp; omega
  simp only [start, h]
  grind

theorem start_three {n : Nat} (hn : n < 16) :
    start (UInt8.ofNat (n + 224)) =
      ([], some ⟨n, 1, if n = 0 then 0xA0 else 0x80, if n = 13 then 0x9F else 0xBF⟩) := by
  have h : (UInt8.ofNat (n + 224)).toNat = n + 224 := by simp; omega
  simp only [start, h]
  grind

theorem start_four {n : Nat} (hn : n < 5) :
    start (UInt8.ofNat (n + 240)) =
      ([], some ⟨n, 2, if n = 0 then 0x90 else 0x80, if n = 4 then 0x8F else 0xBF⟩) := by
  have h : (UInt8.ofNat (n + 240)).toNat = n + 240 := by simp; omega
  simp only [start, h]
  grind

theorem parts_encodeChar (c : Char) (bs : List UInt8) :
    parts none (String.utf8EncodeChar c ++ bs) = some c :: parts none bs := by
  have hc : Char.ofNat c.val.toNat = c := Char.ofNat_toNat c
  have hv : c.val.toNat < 0xD800 ∨ 0xDFFF < c.val.toNat ∧ c.val.toNat < 0x110000 := c.valid
  unfold String.utf8EncodeChar
  generalize c.val.toNat = v at hc hv
  dsimp only
  split
  · rw [List.cons_append, parts_none_cons, start_ascii (show v < 0x80 by omega), hc]
    rfl
  split
  · have h : v / 64 % 32 * 64 + (v % 64 + 128) % 64 = v := by omega
    rw [List.cons_append, parts_none_cons, start_two (show 2 ≤ v / 64 % 32 by omega) (by omega)]
    simp only [List.cons_append, List.nil_append, parts]
    rw [advance_some (by omega) (by dsimp only; omega) (by dsimp only; omega)]
    simp only [h, hc, List.nil_append, List.cons_append]
  split
  · have h : (v / 4096 % 16 * 64 + (v / 64 % 64 + 128) % 64) * 64 + (v % 64 + 128) % 64 = v := by
      omega
    rw [List.cons_append, parts_none_cons, start_three (show v / 4096 % 16 < 16 by omega)]
    simp only [List.cons_append, List.nil_append, parts]
    rw [advance_some (by omega) (by grind) (by grind),
      advance_some (by omega) (by dsimp only; omega) (by dsimp only; omega)]
    simp only [h, hc, List.nil_append, List.cons_append]
  · have h : ((v / 262144 % 8 * 64 + (v / 4096 % 64 + 128) % 64) * 64 +
        (v / 64 % 64 + 128) % 64) * 64 + (v % 64 + 128) % 64 = v := by omega
    rw [List.cons_append, parts_none_cons, start_four (show v / 262144 % 8 < 5 by omega)]
    simp only [List.cons_append, List.nil_append, parts]
    rw [advance_some (by omega) (by grind) (by grind),
      advance_some (by omega) (by dsimp only; omega) (by dsimp only; omega),
      advance_some (by omega) (by dsimp only; omega) (by dsimp only; omega)]
    simp only [h, hc, List.nil_append, List.cons_append]

theorem parts_encode (s : List Char) : parts none (encode s) = s.map some := by
  induction s with
  | nil => rfl
  | cons c s ih =>
    rw [encode, List.flatMap_cons, parts_encodeChar, ← encode, ih, List.map_cons]

theorem decode?_encode (s : List Char) : decode? (encode s) = some s := by
  rw [decode?, parts_encode]
  induction s with
  | nil => rfl
  | cons c s ih => simp [ih]

theorem decodeLossy_encode (s : List Char) : decodeLossy (encode s) = s := by
  simp [decodeLossy, parts_encode, Function.comp_def]

end OwnerRules.Text.Utf8

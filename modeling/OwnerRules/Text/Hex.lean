namespace OwnerRules.Text

def hex (n : Nat) : List Char := Nat.toDigits 16 n

def hexValue? (c : Char) : Option Nat :=
  if '0' ≤ c ∧ c ≤ '9' then some (c.toNat - 48)
  else if 'a' ≤ c ∧ c ≤ 'f' then some (c.toNat - 87)
  else if 'A' ≤ c ∧ c ≤ 'F' then some (c.toNat - 55)
  else none

def ofHex? (n : Nat) : List Char → Option Nat
  | [] => some n
  | c :: cs => (hexValue? c).bind fun d => ofHex? (n * 16 + d) cs

theorem hexValue?_digitChar {d : Nat} (h : d < 16) : hexValue? d.digitChar = some d := by
  revert d
  decide

theorem ofHex?_append (n : Nat) (cs ds : List Char) :
    ofHex? n (cs ++ ds) = (ofHex? n cs).bind fun m => ofHex? m ds := by
  induction cs generalizing n with
  | nil => rfl
  | cons c cs ih =>
    simp only [List.cons_append, ofHex?]
    cases hexValue? c <;> simp [ih]

theorem hexValue?_of_mem {ds : List Char} {n m : Nat} (h : ofHex? n ds = some m) :
    ∀ d ∈ ds, ∃ v, hexValue? d = some v := by
  induction ds generalizing n with
  | nil => exact fun d hd => absurd hd List.not_mem_nil
  | cons d ds ih =>
    obtain ⟨v, hv, h⟩ := Option.bind_eq_some_iff.mp h
    exact List.forall_mem_cons.mpr ⟨⟨v, hv⟩, ih h⟩

theorem ofHex?_hex (n : Nat) : ofHex? 0 (hex n) = some n := by
  unfold hex
  induction n using Nat.strongRecOn with
  | ind n ih =>
    rw [Nat.toDigits_eq_if (by decide)]
    split
    · next h => simp [ofHex?, hexValue?_digitChar h]
    · next h =>
      rw [ofHex?_append, ih (n / 16) (by omega)]
      simp only [Option.bind_some, ofHex?, hexValue?_digitChar (Nat.mod_lt n (by decide))]
      congr 1
      omega

end OwnerRules.Text

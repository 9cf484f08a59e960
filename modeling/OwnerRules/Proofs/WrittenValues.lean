import OwnerRules.Json.Scalar

namespace OwnerRules.Json

inductive Closing : List Char → Prop
  | comma (rest : List Char) : Closing (',' :: rest)
  | brace (rest : List Char) : Closing ('}' :: rest)

def Reader.Takes {α : Type} (r : Reader α) (text : List Char) (a : α) : Prop :=
  ∀ rest, Closing rest → r (text ++ rest) = .ok (a, rest)

theorem Reader.Takes.map {α β : Type} {r : Reader α} {text : List Char} {a : α}
    (h : r.Takes text a) (f : α → β) :
    Reader.Takes (fun cs => (r cs).map fun p => (f p.1, p.2)) text (f a) := by
  intro rest hrest
  simp only [h rest hrest, Except.map]

theorem Closing.startsWithDigit {rest : List Char} (h : Closing rest) :
    startsWithDigit rest = false := by
  cases h <;> rfl

section Digits

theorem digits_append {ds rest : List Char} (hds : ∀ d ∈ ds, d.isDigit)
    (hrest : startsWithDigit rest = false) :
    digitsOf (ds ++ rest) = ds ∧ afterDigits (ds ++ rest) = rest := by
  rw [digitsOf, afterDigits, List.takeWhile_append_of_pos hds, List.dropWhile_append_of_pos hds]
  cases rest with
  | nil => simp
  | cons c rest =>
    have hc : c.isDigit = false := hrest
    simp [hc]

theorem le_ofDigitChars (m : Nat) (ds : List Char) : m ≤ Nat.ofDigitChars 10 ds m := by
  induction ds generalizing m with
  | nil => exact Nat.le_of_eq Nat.ofDigitChars_nil.symm
  | cons d ds ih =>
    rw [Nat.ofDigitChars_cons]
    have := ih (10 * m + (d.toNat - '0'.toNat))
    omega

theorem absorb_eq {m : Nat} {ds : List Char}
    (h : Nat.ofDigitChars 10 ds m < 0x10000000000000000) :
    absorb m ds = (Nat.ofDigitChars 10 ds m, []) := by
  induction ds generalizing m with
  | nil => rw [absorb, Nat.ofDigitChars_nil]
  | cons d ds ih =>
    rw [Nat.ofDigitChars_cons] at h ⊢
    have hm := le_ofDigitChars (10 * m + (d.toNat - '0'.toNat)) ds
    rw [absorb, Nat.mul_comm m 10, if_pos (Nat.lt_of_le_of_lt hm h), ih h]

theorem isDigit_of_mem {n : Nat} {d : Char} (h : d ∈ Nat.toDigits 10 n) : d.isDigit :=
  Nat.isDigit_of_mem_toDigits (by decide) (by decide) h

theorem exists_toDigits_eq_cons (n : Nat) :
    ∃ d ds, Nat.toDigits 10 n = d :: ds ∧ d.isDigit ∧ (n ≠ 0 → d ≠ '0') := by
  induction n using Nat.strongRecOn with
  | ind n ih =>
    by_cases hn : n < 10
    · refine ⟨n.digitChar, [], Nat.toDigits_of_lt_base hn, ?_, ?_⟩
      · exact isDigit_of_mem (by rw [Nat.toDigits_of_lt_base hn]; exact List.mem_singleton_self _)
      · intro h0
        have hchars : ∀ m : Fin 10, m.val ≠ 0 → m.val.digitChar ≠ '0' := by decide
        exact hchars ⟨n, hn⟩ h0
    · obtain ⟨d, ds, hd, hdigit, hzero⟩ := ih (n / 10) (by omega)
      refine ⟨d, ds ++ [(n % 10).digitChar], ?_, hdigit, fun _ => hzero (by omega)⟩
      rw [Nat.toDigits_of_base_le (by decide) (by omega), hd, List.cons_append]

theorem readAfterWhole_closing {rest : List Char} (h : Closing rest) (negative : Bool) (m : Nat) :
    readAfterWhole negative m 0 rest = .ok (ofWhole negative m, rest) := by
  cases h <;> rfl

theorem readMagnitude_toDigits {n : Nat} (hn : n < 0x10000000000000000) (negative : Bool)
    {rest : List Char} (hrest : Closing rest) :
    readMagnitude negative (Nat.toDigits 10 n ++ rest) = .ok (ofWhole negative n, rest) := by
  have hdigits : ∀ d ∈ Nat.toDigits 10 n, d.isDigit := fun d => isDigit_of_mem
  have hvalue : Nat.ofDigitChars 10 (Nat.toDigits 10 n) 0 = n := Nat.ofDigitChars_ten_toDigits
  obtain ⟨d, ds, hd, hdigit, hzero⟩ := exists_toDigits_eq_cons n
  have hstarts : startsWithDigit (Nat.toDigits 10 n ++ rest) = true := by
    rw [hd]
    exact hdigit
  -- A leading zero is read on its own, so the digits of zero are a case of their own.
  unfold readMagnitude
  split
  · next h => simp [hd] at h
  · next rest' h =>
    by_cases h0 : n = 0
    · subst h0
      obtain rfl : rest' = rest := by simpa [Nat.toDigits_zero] using h.symm
      rw [hrest.startsWithDigit, readAfterWhole_closing hrest]
      rfl
    · rw [hd, List.cons_append] at h
      exact absurd (List.cons.inj h).1 (hzero h0)
  · obtain ⟨hof, hafter⟩ := digits_append hdigits hrest.startsWithDigit
    rw [if_pos hstarts, hof, hafter, absorb_eq (by rwa [hvalue]), hvalue]
    exact readAfterWhole_closing hrest negative n

theorem readNumber_writeInteger {i : Int} (hlow : -0x8000000000000000 ≤ i)
    (hhigh : i < 0x10000000000000000) {rest : List Char} (hrest : Closing rest) :
    readNumber (writeInteger i ++ rest) = .ok (.integer i, rest) := by
  cases i with
  | ofNat n =>
    have hn : n < 0x10000000000000000 := Int.ofNat_lt.mp hhigh
    obtain ⟨d, ds, hd, hdigit, -⟩ := exists_toDigits_eq_cons n
    have hminus : d ≠ '-' := by
      rintro rfl
      cases hdigit
    rw [writeInteger, readNumber]
    · exact readMagnitude_toDigits hn false hrest
    · intro cs h
      rw [hd, List.cons_append] at h
      exact hminus (List.cons.inj h).1
  | negSucc n =>
    -- The digits after a sign are never those of zero, which would read as a float.
    have hn : n + 1 ≤ 0x8000000000000000 := by omega
    rw [writeInteger, List.cons_append, readNumber, readMagnitude_toDigits (by omega) true hrest,
      ofWhole, if_pos rfl, if_pos ⟨by omega, hn⟩]
    rfl

end Digits

theorem writeInteger_eq_cons (i : Int) :
    ∃ c cs, writeInteger i = c :: cs ∧ (c = '-' ∨ c.isDigit) ∧ isBlank c = false := by
  cases i with
  | ofNat n =>
    obtain ⟨d, ds, hd, hdigit, -⟩ := exists_toDigits_eq_cons n
    refine ⟨d, ds, hd, .inr hdigit, ?_⟩
    simp only [Char.isDigit, Bool.and_eq_true, decide_eq_true_eq, isBlank, Bool.or_eq_false_iff,
      decide_eq_false_iff_not] at hdigit ⊢
    refine ⟨⟨⟨?_, ?_⟩, ?_⟩, ?_⟩ <;> rintro rfl <;> exact absurd hdigit (by decide)
  | negSucc n => exact ⟨'-', _, rfl, .inl rfl, rfl⟩

theorem takes_readInteger {lo hi i : Int} (hlo : lo ≤ i) (hhi : i ≤ hi)
    (hlow : -0x8000000000000000 ≤ i) (hhigh : i < 0x10000000000000000) (expected : String) :
    (readInteger lo hi expected).Takes (writeInteger i) i := by
  intro rest hrest
  obtain ⟨c, cs, hc, hstart, hblank⟩ := writeInteger_eq_cons i
  have hskip : skipBlanks (writeInteger i ++ rest) = c :: (cs ++ rest) := by
    rw [hc, List.cons_append, skipBlanks, List.dropWhile_cons_of_neg (by simp [hblank])]
  have hnumber := readNumber_writeInteger hlow hhigh hrest
  rw [hc, List.cons_append] at hnumber
  simp only [readInteger, hskip, if_pos hstart, hnumber, bind, Except.bind,
    if_pos (And.intro hlo hhi)]

theorem takes_readInt32 (i : Int32) : readInt32.Takes (writeInteger i.toInt) i := by
  have hlow := i.le_toInt
  have hhigh := i.toInt_lt
  have h : (readInteger (-0x80000000) 0x7FFFFFFF "i32").Takes (writeInteger i.toInt) i.toInt :=
    takes_readInteger (by omega) (by omega) (by omega) (by omega) "i32"
  have hmap := h.map Int32.ofInt
  rwa [Int32.ofInt_toInt] at hmap

theorem takes_readUInt64 (n : UInt64) : readUInt64.Takes (writeInteger n.toNat) n := by
  have hn := n.toNat_lt
  have h : (readInteger 0 0xFFFFFFFFFFFFFFFF "u64").Takes (writeInteger n.toNat) n.toNat :=
    takes_readInteger (by omega) (by omega) (by omega) (by omega) "u64"
  have hmap := h.map fun i => UInt64.ofNat i.toNat
  rwa [Int.toNat_natCast, UInt64.ofNat_toNat] at hmap

theorem takes_readBool (b : Bool) : readBool.Takes (toString b).toList b := by
  intro rest _
  cases b <;> rfl

section Strings

theorem writeText_append (s : String) (rest : List Char) :
    writeText s ++ rest = '"' :: (s.toList.flatMap writeChar ++ '"' :: rest) := by
  simp [writeText]

theorem skipBlanks_writeText (s : String) (rest : List Char) :
    skipBlanks (writeText s ++ rest) = '"' :: (s.toList.flatMap writeChar ++ '"' :: rest) := by
  rw [writeText_append]
  rfl

theorem takes_readString (expected s : String) : (readString expected).Takes (writeText s) s := by
  intro rest _
  simp only [readString, skipBlanks_writeText, readText_writeText]

theorem takes_readPath (s : String) : readPath.Takes (writeText s) (.ofString s) :=
  (takes_readString "path string" s).map MapPath.ofString

theorem Reader.Takes.nullable {α : Type} {r : Reader α} {s : String} {a : α}
    (h : r.Takes (writeText s) a) : (readNullable r).Takes (writeText s) (some a) := by
  intro rest hrest
  have hr := h rest hrest
  rw [writeText_append] at hr
  rw [readNullable, skipBlanks_writeText]
  change (r ('"' :: (s.toList.flatMap writeChar ++ '"' :: rest))).map _ = _
  rw [hr]
  rfl

theorem takes_readVariant {α : Type} {ofName? : String → Option α} {name : String} {a : α}
    (h : ofName? name = some a) (expected : String) :
    (readVariant ofName? expected).Takes (writeText name) a := by
  intro rest _
  simp only [readVariant, skipBlanks_writeText, readText_writeText, pickVariant, h, bind,
    Except.bind, pure, Except.pure]

end Strings

end OwnerRules.Json

import OwnerRules.Proofs.WrittenValues

namespace OwnerRules.Json

section Grammar

inductive Whole : List Char → Prop
  | zero : Whole ['0']
  | digits {d : Char} {ds : List Char} (hd : d.isDigit = true) (hzero : d ≠ '0')
      (hds : ∀ c ∈ ds, c.isDigit = true) : Whole (d :: ds)

inductive Fraction : List Char → Prop
  | absent : Fraction []
  | digits {ds : List Char} (hne : ds ≠ []) (hds : ∀ c ∈ ds, c.isDigit = true) :
      Fraction ('.' :: ds)

inductive Exponent : List Char → Prop
  | absent : Exponent []
  | digits {e : Char} {sign ds : List Char} (he : e = 'e' ∨ e = 'E')
      (hsign : sign = [] ∨ sign = ['+'] ∨ sign = ['-']) (hne : ds ≠ [])
      (hds : ∀ c ∈ ds, c.isDigit = true) : Exponent (e :: (sign ++ ds))

inductive Magnitude : List Char → Prop
  | mk {w f e : List Char} (hw : Whole w) (hf : Fraction f) (he : Exponent e) :
      Magnitude (w ++ (f ++ e))

inductive Numeral : List Char → Prop
  | positive {l : List Char} (h : Magnitude l) : Numeral l
  | negative {l : List Char} (h : Magnitude l) : Numeral ('-' :: l)

inductive IntegerLiteral : List Char → Int → Prop
  | positive {w : List Char} (h : Whole w) : IntegerLiteral w (Nat.ofDigitChars 10 w 0)
  | negative {w : List Char} (h : Whole w) (hzero : w ≠ ['0']) :
      IntegerLiteral ('-' :: w) (-(Nat.ofDigitChars 10 w 0))

def Stops (rest : List Char) : Prop :=
  ∀ c t, rest = c :: t → c.isDigit = false ∧ c ≠ '.' ∧ c ≠ 'e' ∧ c ≠ 'E'

end Grammar

variable {cs l rest : List Char}

section Digits

theorem digits_split (cs : List Char) : digitsOf cs ++ afterDigits cs = cs :=
  List.takeWhile_append_dropWhile

theorem isDigit_of_mem_digitsOf {c : Char} (h : c ∈ digitsOf cs) : c.isDigit = true :=
  List.all_eq_true.mp List.all_takeWhile c h

theorem digitsOf_ne_nil (h : startsWithDigit cs = true) : digitsOf cs ≠ [] := by
  cases cs with
  | nil => cases h
  | cons c cs =>
    have hc : c.isDigit = true := h
    simp [digitsOf, hc]

theorem startsWithDigit_append {ds : List Char} (hne : ds ≠ [])
    (hds : ∀ c ∈ ds, c.isDigit = true) (rest : List Char) :
    startsWithDigit (ds ++ rest) = true := by
  cases ds with
  | nil => exact absurd rfl hne
  | cons d ds => exact hds d (List.mem_cons_self ..)

theorem startsWithDigit_afterDigits (cs : List Char) :
    startsWithDigit (afterDigits cs) = false := by
  induction cs with
  | nil => rfl
  | cons c cs ih =>
    rw [afterDigits, List.dropWhile_cons]
    split
    · exact ih
    · next hc => exact (Bool.not_eq_true _).mp hc

theorem Stops.of_startsWithDigit (hdigit : startsWithDigit rest = false)
    (hends : ∀ c t, rest = c :: t → c ≠ '.' ∧ c ≠ 'e' ∧ c ≠ 'E') : Stops rest := by
  rintro c t rfl
  exact ⟨hdigit, hends c t rfl⟩

theorem Stops.startsWithDigit (h : Stops rest) : startsWithDigit rest = false := by
  cases rest with
  | nil => rfl
  | cons c t => exact (h c t rfl).1

theorem startsWithDigit_exponent {e : List Char} (h : Exponent e) (hrest : Stops rest) :
    startsWithDigit (e ++ rest) = false := by
  cases h with
  | absent => exact hrest.startsWithDigit
  | digits he _ _ _ => rcases he with rfl | rfl <;> rfl

theorem startsWithDigit_fraction {f e : List Char} (hf : Fraction f) (he : Exponent e)
    (hrest : Stops rest) : startsWithDigit (f ++ (e ++ rest)) = false := by
  cases hf with
  | absent =>
    rw [List.nil_append]
    exact startsWithDigit_exponent he hrest
  | digits _ _ => rfl

end Digits

section Skipping

theorem Exponent.skip (hrest : Stops rest) {e : Char} {t : List Char}
    (h : Exponent (e :: t)) : skipExponent (t ++ rest) = .ok rest := by
  cases h with
  | @digits _ sign ds he hsign hne hds =>
    have hsplit : (splitSign (sign ++ ds ++ rest)).2 = ds ++ rest := by
      rcases hsign with rfl | rfl | rfl
      · cases ds with
        | nil => exact absurd rfl hne
        | cons d ds =>
          have hd := hds d (List.mem_cons_self ..)
          rw [List.nil_append, List.cons_append, splitSign]
          all_goals rintro t h
          all_goals cases h
          all_goals cases hd
      · rfl
      · rfl
    rw [skipExponent, hsplit, startsWithDigit_append hne hds, if_pos rfl,
      (digits_append hds hrest.startsWithDigit).2]

theorem exists_exponent (h : skipExponent cs = .ok rest) {e : Char} (he : e = 'e' ∨ e = 'E') :
    ∃ t, cs = t ++ rest ∧ Exponent (e :: t) := by
  unfold skipExponent at h
  dsimp only at h
  split at h
  · next hdigit =>
    cases h
    obtain ⟨sign, hcs, hsign⟩ : ∃ sign, cs = sign ++ (splitSign cs).2 ∧
        (sign = [] ∨ sign = ['+'] ∨ sign = ['-']) := by
      unfold splitSign
      split
      · exact ⟨['-'], rfl, by simp⟩
      · exact ⟨['+'], rfl, by simp⟩
      · exact ⟨[], rfl, by simp⟩
    refine ⟨sign ++ digitsOf (splitSign cs).2, ?_, ?_⟩
    · rw [List.append_assoc, digits_split, ← hcs]
    · exact .digits he hsign (digitsOf_ne_nil hdigit) fun c => isDigit_of_mem_digitsOf
  · cases h

theorem skipFraction_append {ds e : List Char} (hne : ds ≠ []) (hds : ∀ c ∈ ds, c.isDigit = true)
    (he : Exponent e) (hrest : Stops rest) : skipFraction (ds ++ (e ++ rest)) = .ok rest := by
  have hafter := (digits_append hds (startsWithDigit_exponent he hrest)).2
  rw [skipFraction, if_pos (startsWithDigit_append hne hds _), hafter]
  cases he with
  | absent =>
    rw [List.nil_append]
    split
    · exact absurd rfl (hrest _ _ rfl).2.2.1
    · exact absurd rfl (hrest _ _ rfl).2.2.2
    · rfl
  | @digits c sign ds hc hsign hne hds =>
    have hskip := Exponent.skip hrest (.digits hc hsign hne hds)
    rcases hc with rfl | rfl <;> exact hskip

theorem skipAfterWhole_append {f e : List Char} (hf : Fraction f) (he : Exponent e)
    (hrest : Stops rest) : skipAfterWhole (f ++ (e ++ rest)) = .ok rest := by
  cases hf with
  | absent =>
    cases he with
    | absent =>
      rw [List.nil_append, List.nil_append, skipAfterWhole]
      · rintro r rfl
        exact (hrest _ _ rfl).2.1 rfl
      · rintro r rfl
        exact (hrest _ _ rfl).2.2.1 rfl
      · rintro r rfl
        exact (hrest _ _ rfl).2.2.2 rfl
    | digits hc hsign hne hds =>
      have hskip := Exponent.skip hrest (.digits hc hsign hne hds)
      rcases hc with rfl | rfl <;> exact hskip
  | digits hne hds => exact skipFraction_append hne hds he hrest

theorem Magnitude.skip (h : Magnitude l) (hrest : Stops rest) :
    skipMagnitude (l ++ rest) = .ok rest := by
  obtain ⟨hw, hf, he⟩ := h
  have hstops := startsWithDigit_fraction hf he hrest
  rw [List.append_assoc, List.append_assoc]
  cases hw with
  | zero =>
    rw [List.singleton_append, skipMagnitude, hstops]
    exact skipAfterWhole_append hf he hrest
  | @digits d ds hd hzero hds =>
    have hall : ∀ c ∈ d :: ds, c.isDigit = true := List.forall_mem_cons.mpr ⟨hd, hds⟩
    rw [skipMagnitude, if_pos (startsWithDigit_append (List.cons_ne_nil d ds) hall _),
      (digits_append hall hstops).2]
    · exact skipAfterWhole_append hf he hrest
    · intro r h
      exact hzero (List.cons.inj h).1

theorem exists_exponent_part (h : skipFraction cs = .ok rest) :
    ∃ ds e, cs = ds ++ (e ++ rest) ∧ Fraction ('.' :: ds) ∧ Exponent e := by
  unfold skipFraction at h
  split at h
  · next hdigit =>
    have hfraction : Fraction ('.' :: digitsOf cs) :=
      .digits (digitsOf_ne_nil hdigit) fun c => isDigit_of_mem_digitsOf
    have hsplit := digits_split cs
    split at h
    · next r hr =>
      obtain ⟨t, rfl, he⟩ := exists_exponent h (.inl rfl)
      exact ⟨digitsOf cs, 'e' :: t, by rw [List.cons_append, ← hr, hsplit], hfraction, he⟩
    · next r hr =>
      obtain ⟨t, rfl, he⟩ := exists_exponent h (.inr rfl)
      exact ⟨digitsOf cs, 'E' :: t, by rw [List.cons_append, ← hr, hsplit], hfraction, he⟩
    · cases h
      exact ⟨digitsOf cs, [], by rw [List.nil_append, hsplit], hfraction, .absent⟩
  · cases h

theorem exists_after_whole (h : skipAfterWhole cs = .ok rest) :
    ∃ f e, cs = f ++ (e ++ rest) ∧ Fraction f ∧ Exponent e := by
  unfold skipAfterWhole at h
  split at h
  · obtain ⟨ds, e, rfl, hf, he⟩ := exists_exponent_part h
    exact ⟨'.' :: ds, e, rfl, hf, he⟩
  · obtain ⟨t, rfl, he⟩ := exists_exponent h (.inl rfl)
    exact ⟨[], 'e' :: t, rfl, .absent, he⟩
  · obtain ⟨t, rfl, he⟩ := exists_exponent h (.inr rfl)
    exact ⟨[], 'E' :: t, rfl, .absent, he⟩
  · cases h
    exact ⟨[], [], rfl, .absent, .absent⟩

theorem exists_whole (hcs : startsWithDigit cs = true) (hzero : ∀ r, cs ≠ '0' :: r) :
    Whole (digitsOf cs) := by
  cases cs with
  | nil => cases hcs
  | cons c cs =>
    have hc : c.isDigit = true := hcs
    have hdigits : digitsOf (c :: cs) = c :: digitsOf cs := by simp [digitsOf, hc]
    rw [hdigits]
    refine .digits hc ?_ fun d => isDigit_of_mem_digitsOf
    rintro rfl
    exact hzero cs rfl

theorem exists_magnitude (h : skipMagnitude cs = .ok rest) :
    ∃ l, cs = l ++ rest ∧ Magnitude l := by
  unfold skipMagnitude at h
  split at h
  · split at h
    · cases h
    · obtain ⟨f, e, rfl, hf, he⟩ := exists_after_whole h
      exact ⟨['0'] ++ (f ++ e), by simp, .mk .zero hf he⟩
  · next hzero =>
    split at h
    · next hdigit =>
      obtain ⟨f, e, hcs, hf, he⟩ := exists_after_whole h
      have hsplit := digits_split cs
      rw [hcs] at hsplit
      exact ⟨digitsOf cs ++ (f ++ e), by rw [List.append_assoc, List.append_assoc, hsplit],
        .mk (exists_whole hdigit hzero) hf he⟩
    · cases h

end Skipping

section Extent

theorem Whole.isDigit {w : List Char} (h : Whole w) : ∀ c ∈ w, c.isDigit = true := by
  cases h with
  | zero => simp
  | digits hd _ hds => exact List.forall_mem_cons.mpr ⟨hd, hds⟩

theorem Whole.startsWithDigit {w : List Char} (h : Whole w) (rest : List Char) :
    startsWithDigit (w ++ rest) = true := by
  cases h with
  | zero => rfl
  | digits hd _ _ => exact hd

theorem Magnitude.startsWithDigit (h : Magnitude l) (rest : List Char) :
    startsWithDigit (l ++ rest) = true := by
  obtain ⟨hw, _, _⟩ := h
  rw [List.append_assoc]
  exact hw.startsWithDigit _

theorem skipHead_of_startsWithDigit (h : startsWithDigit cs = true) :
    skipHead cs = (skipMagnitude cs).map fun rest => (none, rest) := by
  cases cs with
  | nil => cases h
  | cons c cs =>
    have hc : c.isDigit = true := h
    rw [skipHead, if_pos hc]
    · rfl
    all_goals
      rintro rfl
      cases hc

theorem Numeral.skip (h : Numeral l) (hrest : Stops rest) :
    skipHead (l ++ rest) = .ok (none, rest) := by
  cases h with
  | positive h => rw [skipHead_of_startsWithDigit (h.startsWithDigit rest), h.skip hrest]; rfl
  | negative h =>
    rw [List.cons_append, skipHead, h.skip hrest]
    rfl

theorem Numeral.eq_rest {l' rest' : List Char} (h : Numeral l) (hrest : Stops rest)
    (h' : Numeral l') (hrest' : Stops rest') (heq : l ++ rest = l' ++ rest') : rest' = rest := by
  have hskip := h.skip hrest
  rw [heq, h'.skip hrest'] at hskip
  cases hskip
  rfl

end Extent

section Integers

theorem isFloat_of_ofScaled {negative : Bool} {m : Nat} {e : Int} {n : Number}
    (h : ofScaled negative m e cs = .ok (n, rest)) : ∃ x, n = .float x := by
  obtain ⟨x, -, hx⟩ := map_eq_ok.mp h
  cases hx
  exact ⟨_, rfl⟩

theorem isFloat_of_readExponent {negative : Bool} {m : Nat} {e : Int} {n : Number}
    (h : readExponent negative m e cs = .ok (n, rest)) : ∃ x, n = .float x := by
  unfold readExponent at h
  dsimp only at h
  split at h
  · cases h
  split at h
  · exact isFloat_of_ofScaled h
  split at h
  · cases h
  · cases h
    exact ⟨_, rfl⟩

theorem isFloat_of_readFraction {negative : Bool} {m : Nat} {e : Int} {n : Number}
    (h : readFraction negative m e cs = .ok (n, rest)) : ∃ x, n = .float x := by
  unfold readFraction at h
  dsimp only at h
  split at h
  · cases h
  split at h
  · exact isFloat_of_readExponent h
  · exact isFloat_of_readExponent h
  · exact isFloat_of_ofScaled h

theorem ofWhole_eq_integer {negative : Bool} {m : Nat} {i : Int} :
    ofWhole negative m = .integer i ↔
      (negative = true → 0 < m ∧ m ≤ 0x8000000000000000) ∧
        i = if negative then -(m : Int) else m := by
  cases negative with
  | false => simp [ofWhole, eq_comm]
  | true =>
    by_cases hm : 0 < m ∧ m ≤ 0x8000000000000000
    · simp [ofWhole, hm, eq_comm]
    · simp [ofWhole, hm]

theorem readAfterWhole_eq_integer {negative : Bool} {m unread : Nat} {i : Int} :
    readAfterWhole negative m unread cs = .ok (.integer i, rest) ↔
      unread = 0 ∧ rest = cs ∧ ofWhole negative m = .integer i ∧
        ∀ c t, cs = c :: t → c ≠ '.' ∧ c ≠ 'e' ∧ c ≠ 'E' := by
  unfold readAfterWhole
  split
  · refine ⟨fun h => ?_, fun h => absurd rfl (h.2.2.2 _ _ rfl).1⟩
    obtain ⟨x, hx⟩ := isFloat_of_readFraction h
    cases hx
  · refine ⟨fun h => ?_, fun h => absurd rfl (h.2.2.2 _ _ rfl).2.1⟩
    obtain ⟨x, hx⟩ := isFloat_of_readExponent h
    cases hx
  · refine ⟨fun h => ?_, fun h => absurd rfl (h.2.2.2 _ _ rfl).2.2⟩
    obtain ⟨x, hx⟩ := isFloat_of_readExponent h
    cases hx
  · next hpoint hlower hupper =>
    have hends : ∀ c t, cs = c :: t → c ≠ '.' ∧ c ≠ 'e' ∧ c ≠ 'E' := by
      rintro c t rfl
      exact ⟨fun h => hpoint t (h ▸ rfl), fun h => hlower t (h ▸ rfl), fun h => hupper t (h ▸ rfl)⟩
    split
    · next hunread =>
      simp only [Except.ok.injEq, Prod.mk.injEq]
      exact ⟨fun h => ⟨hunread, h.2.symm, h.1, hends⟩, fun h => ⟨h.2.2.1, h.2.1.symm⟩⟩
    · next hunread =>
      refine ⟨fun h => ?_, fun h => absurd h.1 hunread⟩
      obtain ⟨x, hx⟩ := isFloat_of_ofScaled h
      cases hx

theorem absorb_all {m n : Nat} {ds : List Char} (hm : m < 0x10000000000000000)
    (h : absorb m ds = (n, [])) :
    n = Nat.ofDigitChars 10 ds m ∧ n < 0x10000000000000000 := by
  induction ds generalizing m with
  | nil =>
    cases h
    exact ⟨Nat.ofDigitChars_nil.symm, hm⟩
  | cons d ds ih =>
    rw [absorb] at h
    split at h
    · next hd =>
      rw [Nat.ofDigitChars_cons, Nat.mul_comm 10 m]
      exact ih hd h
    · cases h

theorem readMagnitude_eq_integer {negative : Bool} {i : Int} :
    readMagnitude negative cs = .ok (.integer i, rest) ↔
      ∃ w, cs = w ++ rest ∧ Whole w ∧ Stops rest ∧
        Nat.ofDigitChars 10 w 0 < 0x10000000000000000 ∧
        ofWhole negative (Nat.ofDigitChars 10 w 0) = .integer i := by
  constructor
  · intro h
    unfold readMagnitude at h
    split at h
    · cases h
    · split at h
      · cases h
      · next r hstart =>
        obtain ⟨-, rfl, hi, hends⟩ := readAfterWhole_eq_integer.mp h
        have hstops := Stops.of_startsWithDigit ((Bool.not_eq_true _).mp hstart) hends
        exact ⟨['0'], rfl, .zero, hstops, by decide, hi⟩
    · next hzero =>
      split at h
      · next hdigit =>
        obtain ⟨hunread, rfl, hi, hends⟩ := readAfterWhole_eq_integer.mp h
        have habsorb : absorb 0 (digitsOf cs) = ((absorb 0 (digitsOf cs)).1, []) :=
          Prod.ext rfl (List.eq_nil_of_length_eq_zero hunread)
        obtain ⟨hvalue, hlt⟩ := absorb_all (by decide) habsorb
        rw [hvalue] at hlt hi
        have hstops := Stops.of_startsWithDigit (startsWithDigit_afterDigits cs) hends
        exact ⟨digitsOf cs, (digits_split cs).symm, exists_whole hdigit hzero, hstops, hlt, hi⟩
      · cases h
  · rintro ⟨w, rfl, hw, hrest, hlt, hi⟩
    have hends : ∀ c t, rest = c :: t → c ≠ '.' ∧ c ≠ 'e' ∧ c ≠ 'E' := fun c t h => (hrest c t h).2
    have hafter : readAfterWhole negative (Nat.ofDigitChars 10 w 0) 0 rest =
        .ok (.integer i, rest) := readAfterWhole_eq_integer.mpr ⟨rfl, rfl, hi, hends⟩
    have hsplit := digits_append hw.isDigit hrest.startsWithDigit
    have hstarts := hw.startsWithDigit rest
    cases hw with
    | zero =>
      rw [List.singleton_append, readMagnitude, hrest.startsWithDigit]
      exact hafter
    | @digits d ds hd hzero hds =>
      rw [readMagnitude, if_pos hstarts, hsplit.1, hsplit.2, absorb_eq hlt]
      · exact hafter
      · exact List.cons_ne_nil d _
      · intro r h
        exact hzero (List.cons.inj h).1

theorem Whole.ofDigitChars_pos {w : List Char} (h : Whole w) (hzero : w ≠ ['0']) :
    0 < Nat.ofDigitChars 10 w 0 := by
  cases h with
  | zero => exact absurd rfl hzero
  | @digits d ds hd hd0 _ =>
    rw [Nat.ofDigitChars_cons]
    have hle := le_ofDigitChars (10 * 0 + (d.toNat - '0'.toNat)) ds
    have hlow : 48 ≤ d.toNat := (Char.isDigit_iff_toNat.mp hd).1
    have hne : d.toNat ≠ 48 := fun h => hd0 (Char.toNat_inj.mp h)
    have h0 : '0'.toNat = 48 := rfl
    omega

theorem readNumber_eq_integer {i : Int} :
    readNumber cs = .ok (.integer i, rest) ↔
      ∃ l, cs = l ++ rest ∧ IntegerLiteral l i ∧ Stops rest ∧
        -0x8000000000000000 ≤ i ∧ i < 0x10000000000000000 := by
  constructor
  · intro h
    unfold readNumber at h
    split at h
    · obtain ⟨w, rfl, hw, hrest, hlt, hi⟩ := readMagnitude_eq_integer.mp h
      obtain ⟨hbounds, rfl⟩ := ofWhole_eq_integer.mp hi
      have hbounds := hbounds rfl
      have hzero : w ≠ ['0'] := by
        rintro rfl
        exact absurd hbounds.1 (by decide)
      exact ⟨'-' :: w, rfl, .negative hw hzero, hrest, by simp only [if_true]; omega⟩
    · obtain ⟨w, rfl, hw, hrest, hlt, hi⟩ := readMagnitude_eq_integer.mp h
      obtain ⟨-, rfl⟩ := ofWhole_eq_integer.mp hi
      exact ⟨w, rfl, .positive hw, hrest, by simp only [Bool.false_eq_true, if_false]; omega⟩
  · rintro ⟨l, rfl, hl, hrest, hlow, hhigh⟩
    cases hl with
    | positive hw =>
      have hminus : ∀ r, l ++ rest ≠ '-' :: r := by
        intro r h
        have hstarts := hw.startsWithDigit rest
        rw [h] at hstarts
        cases hstarts
      rw [readNumber]
      · exact readMagnitude_eq_integer.mpr ⟨l, rfl, hw, hrest, by omega, rfl⟩
      · exact hminus
    | @negative w hw hzero =>
      have hpos := hw.ofDigitChars_pos hzero
      have hi : ofWhole true (Nat.ofDigitChars 10 w 0) = .integer (-(Nat.ofDigitChars 10 w 0)) :=
        ofWhole_eq_integer.mpr ⟨fun _ => by omega, rfl⟩
      exact readMagnitude_eq_integer.mpr ⟨w, rfl, hw, hrest, by omega, hi⟩

theorem IntegerLiteral.numeral {i : Int} (h : IntegerLiteral l i) : Numeral l := by
  have hmagnitude : ∀ {w}, Whole w → Magnitude w := fun {w} hw => by
    simpa using Magnitude.mk hw .absent .absent
  cases h with
  | positive h => exact .positive (hmagnitude h)
  | negative h _ => exact .negative (hmagnitude h)

end Integers

end OwnerRules.Json

import OwnerRules.Proofs.DocumentLaws
import OwnerRules.Proofs.WrittenRecords

namespace OwnerRules

namespace Json

def Numeric (l : List Char) : Prop := ∀ c ∈ l, c.isDigit = true ∨ c ∈ ['+', '-', '.', 'e', 'E']

section Numeric

variable {l b e rest : List Char} {v : Value}

theorem Numeric.numeral (hl : Numeric l) (h : Writes (.value v) l) : Numeral l := by
  obtain ⟨c, cs, rfl, hc, -⟩ := h.exists_head
  have hnumeric := hl c (List.mem_cons_self ..)
  cases h with
  | number h => exact h
  | text h => cases h <;> exact absurd hnumeric (by decide)
  | _ =>
    cases hc
    exact absurd hnumeric (by decide)

theorem Numeric.skipBlanks (hl : Numeric l) : skipBlanks (l ++ ['}']) = l ++ ['}'] := by
  cases l with
  | nil => rfl
  | cons c l => exact skipBlanks_cons (isBlank_of_numeric (hl c (List.mem_cons_self ..))) _

theorem exists_of_nextKey {k : Bool × List Char} (h : nextKey false rest = .ok k) :
    ∃ c r, Json.skipBlanks rest = c :: r ∧ (c = '}' ∨ c = ',') := by
  unfold nextKey at h
  split at h
  · cases h
  · next r hr => exact ⟨'}', r, hr, .inl rfl⟩
  · cases h
  · next r hr => exact ⟨',', r, hr, .inr rfl⟩
  · cases h

theorem Numeric.eq_value (hl : Numeric l) (hsplit : l ++ ['}'] = e ++ rest)
    {k : Bool × List Char} (hnext : nextKey false rest = .ok k) : l = e := by
  obtain ⟨c, r, hr, hc⟩ := exists_of_nextKey hnext
  rcases List.append_eq_append_iff.mp hsplit with ⟨u, rfl, hu⟩ | ⟨u, rfl, rfl⟩
  · cases u with
    | nil => exact (List.append_nil l).symm
    | cons d u =>
      obtain ⟨-, hrest⟩ := List.cons.inj hu
      rw [(List.append_eq_nil_iff.mp hrest.symm).2] at hr
      cases hr
  · cases u with
    | nil => exact List.append_nil e
    | cons d u =>
      have hd := hl d (List.mem_append_right e (List.mem_cons_self ..))
      rw [List.cons_append, skipBlanks_cons (isBlank_of_numeric hd)] at hr
      obtain ⟨rfl, -⟩ := List.cons.inj hr
      rcases hc with rfl | rfl <;> exact absurd hd (by decide)

theorem Shape.Laid.numeral_of_completes {ρ α : Type} {s : Shape ρ α} {slots : List (Slot ρ α)}
    (h : s.Laid slots) (hl : Numeric l) {first : Bool} {p : ρ} {cs r : List Char} {key : String}
    {a : α} (hnext : nextKey first cs = .ok (true, r))
    (htext : readText r = .ok (key, ':' :: (l ++ ['}'])))
    (hread : s.Completes first p cs rest a) : Numeral l := by
  obtain ⟨q, r', hmember, q', hothers, -⟩ := (completes_of_nextKey hnext).mp hread
  obtain ⟨key', r₁, r₂, htext', hcolon, b, v, e, rfl, hb, he⟩ := h.exists_of_readMember hmember
  cases htext.symm.trans htext'
  have hsplit : l ++ ['}'] = b ++ (e ++ r') :=
    Except.ok.inj ((readColon_append blanks_nil _).symm.trans hcolon)
  have hskip := congrArg Json.skipBlanks hsplit
  rw [hl.skipBlanks, skipBlanks_append hb, skipBlanks_value he] at hskip
  rw [readMembers_eq] at hothers
  obtain ⟨k, hnext', -⟩ := bind_eq_ok.1 hothers
  obtain rfl := hl.eq_value hskip hnext'
  exact hl.numeral he

end Numeric

section Written

def Written (m : String × List Char) (m' : Option String × Value) : Prop :=
  m'.1 = some m.1 ∧ Writes (.value m'.2) m.2

variable {ms : List (String × List Char)} {ms' : List (Option String × Value)} {l : List Char}
  {key : String}

theorem Written.member {m : String × List Char} {m' : Option String × Value} (h : Written m m') :
    Writes (.member m') (writeMember m) := by
  obtain ⟨k, v⟩ := m'
  obtain ⟨rfl, hv⟩ := h
  simpa [writeMember] using
    Writes.member blanks_nil (.of_writeText m.1) blanks_nil hv.bare

theorem writes_membersText {m : String × List Char} {m' : Option String × Value}
    (h : List.Forall₂ Written (m :: ms) (m' :: ms')) :
    Writes (.members (m' :: ms')) (membersText true (m :: ms)) := by
  induction ms generalizing m m' ms' with
  | nil =>
    cases h with
    | cons hm hms =>
      cases hms
      simpa [membersText] using Writes.oneMember hm.member
  | cons x ms ih =>
    cases h with
    | cons hm hms =>
      cases hms with
      | cons hx hms => simpa [membersText] using Writes.moreMembers hm.member (ih (.cons hx hms))

theorem document_writeObject (h : List.Forall₂ Written ms ms') :
    Document (.object ms') (String.ofList (writeObject ms)) := by
  have hvalue : Writes (.value (.object ms')) (writeObject ms) := by
    rw [writeObject_eq]
    cases h with
    | nil => exact .emptyObject blanks_nil
    | cons hm hms => exact .object (writes_membersText (.cons hm hms))
  rw [Document, String.toList_ofList]
  exact hvalue.bare

variable {ρ α : Type} {s : Shape ρ α} {slots : List (Slot ρ α)}

theorem Shape.Laid.numeral_of_written (h : s.Laid slots) (hms : List.Forall₂ Written ms ms')
    (hl : Numeric l) {first : Bool} {p : ρ} {rest : List Char} {a : α}
    (hread : s.Completes first p (membersText first (ms ++ [(key, l)]) ++ ['}']) rest a) :
    Numeral l := by
  induction hms generalizing first p with
  | nil =>
    have hnext := nextKey_membersText first (key, l) [] ['}']
    exact h.numeral_of_completes hl hnext (readText_writeText key _) hread
  | @cons m m' ms ms' hm _ ih =>
    obtain ⟨k, v⟩ := m'
    obtain ⟨rfl, hv⟩ := hm
    have hnext := nextKey_membersText first m (ms ++ [(key, l)]) ['}']
    obtain ⟨q, r, hmember, hothers⟩ := (completes_of_nextKey hnext).mp hread
    have hstops : Stops (membersText false (ms ++ [(key, l)]) ++ ['}']) :=
      (closing_membersText _ []).stops
    have hkey (k : String) (r : List Char) : readText (m.1.toList.flatMap writeChar ++
        '"' :: ':' :: (m.2 ++ (membersText false (ms ++ [(key, l)]) ++ ['}']))) = .ok (k, r) ↔
        r = ':' :: (m.2 ++ (membersText false (ms ++ [(key, l)]) ++ ['}'])) ∧
          some m.1 = some k := by
      rw [readText_writeText]
      simp [eq_comm, and_comm]
    have hread := h.readMember_iff hkey blanks_nil blanks_nil hv blanks_nil hstops p q r
    obtain ⟨rfl, -⟩ := hread.mp hmember
    exact ih hothers

theorem Shape.Laid.ofText_numeric (h : s.Laid slots) (hms : List.Forall₂ Written ms ms')
    (hl : Numeric l) (key : String) (a : α) :
    s.ofText (String.ofList (writeObject (ms ++ [(key, l)]))) = .ok a ↔
      Numeral l ∧ Says slots a (.object (ms' ++ [(some key, .number l)])) := by
  have hdocument (hnumeral : Numeral l) : Document (.object (ms' ++ [(some key, .number l)]))
      (String.ofList (writeObject (ms ++ [(key, l)]))) := by
    refine document_writeObject (List.rel_append hms (.cons ⟨rfl, .number hnumeral⟩ .nil))
  constructor
  · intro hread
    have hnumeral : Numeral l := by
      obtain ⟨cs, rest, -, ⟨hcs, hobject⟩ | ⟨hcs, -⟩⟩ := ofText_eq_ok.mp hread
      all_goals
        rw [String.toList_ofList, writeObject_eq, skipBlanks_cons rfl] at hcs
        obtain ⟨hbrace, rfl⟩ := List.cons.inj hcs
      · exact h.numeral_of_written hms hl (readObject_iff.mp hobject)
      · cases hbrace
    exact ⟨hnumeral, (h.ofText_iff (hdocument hnumeral) a).mp hread⟩
  · rintro ⟨hnumeral, hmeans⟩
    exact (h.ofText_iff (hdocument hnumeral) a).mpr hmeans

end Written

theorem IntegerLiteral.natCast_iff {l : List Char} {n : Nat} :
    IntegerLiteral l n ↔ Whole l ∧ Nat.ofDigitChars 10 l 0 = n := by
  constructor
  · intro h
    generalize hi : (n : Int) = i at h
    cases h with
    | positive hw => exact ⟨hw, (Int.ofNat_inj.mp hi).symm⟩
    | negative hw hzero =>
      have hpos := hw.ofDigitChars_pos hzero
      omega
  · rintro ⟨hw, rfl⟩
    exact .positive hw

end Json

open Json

namespace Request

theorem says_rules {l : List Char} {r : Request} :
    Shape.Says slots r (.object [(some "uid", .number ['0']), (some "rules", .number l)]) ↔
      r.uid = 0 ∧ IntegerLiteral l r.rules.toNat ∧ r.mapPath = none := by
  constructor
  · rintro ⟨-, h⟩
    simp only [slots, List.forall_mem_cons] at h
    obtain ⟨⟨w, hw, hi⟩, ⟨l', hl', hn⟩, hpath, -⟩ := h
    cases hw
    cases hl'
    have huid : r.uid.toInt = 0 := hi.eq_of_whole .zero
    exact ⟨Int32.toInt_inj.mp huid, hn, (Option.some.inj hpath).symm⟩
  · rintro ⟨huid, hn, hpath⟩
    have hzero : IntegerLiteral ['0'] r.uid.toInt := by
      rw [huid]
      exact .positive .zero
    refine ⟨by simp, ?_⟩
    simp only [slots, List.forall_mem_cons]
    exact ⟨⟨_, rfl, hzero⟩, ⟨l, rfl, hn⟩, congrArg some hpath.symm, List.forall_mem_nil _⟩

theorem ofJson_numeric_uid {l : List Char} (hl : Numeric l) (r : Request) :
    ofJson (String.ofList (writeObject [("uid", l)])) = .ok r ↔
      IntegerLiteral l r.uid.toInt ∧ r.rules = defaultRules ∧ r.mapPath = none := by
  refine (laid.ofText_numeric .nil hl "uid" r).trans ⟨?_, ?_⟩
  · rintro ⟨-, hmeans⟩
    exact says_uid.mp hmeans
  · intro h
    exact ⟨h.1.numeral, says_uid.mpr h⟩

theorem ofJson_numeric_rules {l : List Char} (hl : Numeric l) (r : Request) :
    ofJson (String.ofList (writeObject [("uid", ['0']), ("rules", l)])) = .ok r ↔
      r.uid = 0 ∧ IntegerLiteral l r.rules.toNat ∧ r.mapPath = none := by
  have hzero : Written ("uid", ['0']) (some "uid", .number ['0']) :=
    ⟨rfl, .number (.positive (.mk .zero .absent .absent))⟩
  refine (laid.ofText_numeric (.cons hzero .nil) hl "rules" r).trans ⟨?_, ?_⟩
  · rintro ⟨-, hmeans⟩
    exact says_rules.mp hmeans
  · intro h
    exact ⟨h.2.1.numeral, says_rules.mpr h⟩

end Request

theorem integers_in_range (L : String)
    (hL : ∀ c ∈ L.toList, c.isDigit = true ∨ c ∈ ['+', '-', '.', 'e', 'E']) :
    ((∃ r, Request.ofJson ("\x7b\"uid\":" ++ L ++ "\x7d") = .ok r) ↔
      ∃ i, IntegerLiteral L.toList i ∧ -0x80000000 ≤ i ∧ i ≤ 0x7FFFFFFF) ∧
    (∀ r, Request.ofJson ("\x7b\"uid\":" ++ L ++ "\x7d") = .ok r →
      IntegerLiteral L.toList r.uid.toInt ∧ r.rules = 128 ∧ r.mapPath = none) ∧
    ((∃ r, Request.ofJson ("\x7b\"uid\":0,\"rules\":" ++ L ++ "\x7d") = .ok r) ↔
      Whole L.toList ∧ Nat.ofDigitChars 10 L.toList 0 ≤ 0xFFFFFFFFFFFFFFFF) ∧
    ∀ r, Request.ofJson ("\x7b\"uid\":0,\"rules\":" ++ L ++ "\x7d") = .ok r →
      r.rules.toNat = Nat.ofDigitChars 10 L.toList 0 ∧ r.uid = 0 ∧ r.mapPath = none := by
  have huid : writeText "uid" = ['"', 'u', 'i', 'd', '"'] := rfl
  have hrules : writeText "rules" = ['"', 'r', 'u', 'l', 'e', 's', '"'] := rfl
  have hfirst : "\x7b\"uid\":" ++ L ++ "\x7d" =
      String.ofList (writeObject [("uid", L.toList)]) := by
    rw [← String.toList_inj, writeObject_eq]
    simp [membersText, writeMember, huid]
  have hsecond : "\x7b\"uid\":0,\"rules\":" ++ L ++ "\x7d" =
      String.ofList (writeObject [("uid", ['0']), ("rules", L.toList)]) := by
    rw [← String.toList_inj, writeObject_eq]
    simp [membersText, writeMember, huid, hrules]
  simp only [hfirst, hsecond, Request.ofJson_numeric_uid hL, Request.ofJson_numeric_rules hL]
  refine ⟨⟨?_, ?_⟩, fun r => id, ⟨?_, ?_⟩, ?_⟩
  · rintro ⟨r, hi, -, -⟩
    have hlow := r.uid.le_toInt
    have hhigh := r.uid.toInt_lt
    exact ⟨r.uid.toInt, hi, by omega, by omega⟩
  · rintro ⟨i, hi, hlow, hhigh⟩
    have hvalue : (Int32.ofInt i).toInt = i := Int32.toInt_ofInt_of_le hlow (by omega)
    exact ⟨.ofUid (.ofInt i), hvalue.symm ▸ hi, rfl, rfl⟩
  · rintro ⟨r, -, hn, -⟩
    obtain ⟨hw, hn⟩ := IntegerLiteral.natCast_iff.mp hn
    have hlt := r.rules.toNat_lt
    exact ⟨hw, by omega⟩
  · rintro ⟨hw, hle⟩
    have hvalue : (UInt64.ofNat (Nat.ofDigitChars 10 L.toList 0)).toNat =
        Nat.ofDigitChars 10 L.toList 0 := UInt64.toNat_ofNat_of_lt' (Nat.lt_succ_of_le hle)
    exact ⟨⟨0, _, none⟩, rfl, IntegerLiteral.natCast_iff.mpr ⟨hw, hvalue.symm⟩, rfl⟩
  · rintro r ⟨huid, hn, hpath⟩
    exact ⟨(IntegerLiteral.natCast_iff.mp hn).2.symm, huid, hpath⟩

theorem integers_in_range_least_uid :
    (∃ r, Request.ofJson ("\x7b\"uid\":" ++ "-2147483648" ++ "\x7d") = .ok r) ∧
    ¬ ∃ r, Request.ofJson ("\x7b\"uid\":" ++ "2147483648" ++ "\x7d") = .ok r := by
  have hwhole : Whole ['2', '1', '4', '7', '4', '8', '3', '6', '4', '8'] :=
    .digits rfl (by decide) (by simp)
  constructor
  · have hleast : IntegerLiteral "-2147483648".toList (-2147483648) := .negative hwhole (by decide)
    exact (integers_in_range "-2147483648" (by simp)).1.mpr ⟨_, hleast, by decide, by decide⟩
  · intro h
    obtain ⟨i, hi, -, hhigh⟩ := (integers_in_range "2147483648" (by simp)).1.mp h
    have hvalue : i = 2147483648 := hi.eq_of_whole hwhole
    omega

end OwnerRules

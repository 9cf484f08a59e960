import OwnerRules.Proofs.NumberLiteral
import OwnerRules.Proofs.StringLiteral
/-!
The language of documents, phrase by phrase. Main statement: no phrase starts with a blank of its
own or with the end of what it stands in.
-/
namespace OwnerRules.Json

/-- What a document says, apart from how it is spaced and its strings are spelled. A string that
spells no text stands as `none`. -/
inductive Value
  | null
  | bool (b : Bool)
  | number (literal : List Char)
  | text (s : Option String)
  | list (vs : List Value)
  | object (ms : List (Option String × Value))

section Grammar

def Blanks (b : List Char) : Prop := ∀ c ∈ b, isBlank c = true

inductive Phrase
  | value (v : Value)
  | element (v : Value)
  | elements (vs : List Value)
  | member (m : Option String × Value)
  | members (ms : List (Option String × Value))

inductive Writes : Phrase → List Char → Prop
  | null : Writes (.value .null) ['n', 'u', 'l', 'l']
  | yes : Writes (.value (.bool true)) ['t', 'r', 'u', 'e']
  | no : Writes (.value (.bool false)) ['f', 'a', 'l', 's', 'e']
  | number {l : List Char} (h : Numeral l) : Writes (.value (.number l)) l
  | text {l : List Char} {s : Option String} (h : Literal l s) : Writes (.value (.text s)) l
  | emptyList {b : List Char} (hb : Blanks b) : Writes (.value (.list [])) ('[' :: (b ++ [']']))
  | list {vs : List Value} {t : List Char} (h : Writes (.elements vs) t) :
      Writes (.value (.list vs)) ('[' :: (t ++ [']']))
  | emptyObject {b : List Char} (hb : Blanks b) :
      Writes (.value (.object [])) ('{' :: (b ++ ['}']))
  | object {ms : List (Option String × Value)} {t : List Char} (h : Writes (.members ms) t) :
      Writes (.value (.object ms)) ('{' :: (t ++ ['}']))
  | element {v : Value} {b t b' : List Char} (hb : Blanks b) (h : Writes (.value v) t)
      (hb' : Blanks b') : Writes (.element v) (b ++ (t ++ b'))
  | oneElement {v : Value} {t : List Char} (h : Writes (.element v) t) : Writes (.elements [v]) t
  | moreElements {v : Value} {vs : List Value} {t u : List Char} (h : Writes (.element v) t)
      (hs : Writes (.elements vs) u) : Writes (.elements (v :: vs)) (t ++ ',' :: u)
  | member {k : Option String} {v : Value} {b l b' t : List Char} (hb : Blanks b)
      (hl : Literal l k) (hb' : Blanks b') (h : Writes (.element v) t) :
      Writes (.member (k, v)) (b ++ (l ++ (b' ++ ':' :: t)))
  | oneMember {m : Option String × Value} {t : List Char} (h : Writes (.member m) t) :
      Writes (.members [m]) t
  | moreMembers {m : Option String × Value} {ms : List (Option String × Value)} {t u : List Char}
      (h : Writes (.member m) t) (hs : Writes (.members ms) u) :
      Writes (.members (m :: ms)) (t ++ ',' :: u)

def Document (v : Value) (text : String) : Prop := Writes (.element v) text.toList

end Grammar

section Blanks

variable {b cs rest : List Char}

theorem blanks_nil : Blanks [] := List.forall_mem_nil _

theorem skipBlanks_append (hb : Blanks b) (cs : List Char) : skipBlanks (b ++ cs) = skipBlanks cs :=
  List.dropWhile_append_of_pos hb

theorem skipBlanks_eq_nil (hb : Blanks b) : skipBlanks b = [] := by
  rw [← List.append_nil b, skipBlanks_append hb]
  rfl

theorem skipBlanks_cons {c : Char} (hc : isBlank c = false) (cs : List Char) :
    skipBlanks (c :: cs) = c :: cs :=
  List.dropWhile_cons_of_neg (by simp [hc])

theorem exists_blanks (cs : List Char) : ∃ b, Blanks b ∧ cs = b ++ skipBlanks cs :=
  ⟨cs.takeWhile isBlank, List.all_eq_true.mp List.all_takeWhile,
    List.takeWhile_append_dropWhile.symm⟩

theorem Blanks.append {b' : List Char} (hb : Blanks b) (hb' : Blanks b') : Blanks (b ++ b') :=
  List.forall_mem_append.mpr ⟨hb, hb'⟩

theorem stops_blanks (hb : Blanks b) (hrest : Stops rest) : Stops (b ++ rest) := by
  cases b with
  | nil => exact hrest
  | cons c b =>
    have hc := hb c (List.mem_cons_self ..)
    rintro c' t h
    obtain ⟨rfl, -⟩ := List.cons.inj h
    simp only [isBlank, Bool.or_eq_true, decide_eq_true_eq] at hc
    rcases hc with ((rfl | rfl) | rfl) | rfl <;> decide

theorem stops_cons {c : Char} (hc : c ∈ [',', ']', '}']) (cs : List Char) : Stops (c :: cs) := by
  rintro c' t h
  obtain ⟨rfl, -⟩ := List.cons.inj h
  simp only [List.mem_cons, List.not_mem_nil, or_false] at hc
  rcases hc with rfl | rfl | rfl <;> decide

theorem Writes.bare {v : Value} {t : List Char} (h : Writes (.value v) t) :
    Writes (.element v) t := by
  simpa using Writes.element blanks_nil h blanks_nil

theorem Closing.stops (h : Closing rest) : Stops rest := by
  cases h <;> exact stops_cons (by decide) _

end Blanks

section Openings

variable {t : List Char}

theorem Numeral.exists_cons {l : List Char} (h : Numeral l) :
    ∃ c cs, l = c :: cs ∧ (c = '-' ∨ c.isDigit = true) := by
  cases h with
  | positive h =>
    have hstarts := h.startsWithDigit []
    rw [List.append_nil] at hstarts
    cases l with
    | nil => cases hstarts
    | cons c cs => exact ⟨c, cs, rfl, .inr hstarts⟩
  | @negative l _ => exact ⟨'-', l, rfl, .inl rfl⟩

def Opens (t : List Char) : Prop :=
  ∃ b c cs, t = b ++ c :: cs ∧ Blanks b ∧ isBlank c = false ∧ c ≠ ']' ∧ c ≠ '}'

theorem Opens.append (h : Opens t) (rest : List Char) : Opens (t ++ rest) := by
  obtain ⟨b, c, cs, rfl, hc⟩ := h
  exact ⟨b, c, cs ++ rest, by simp, hc⟩

theorem Opens.blanks {b : List Char} (hb : Blanks b) (h : Opens t) : Opens (b ++ t) := by
  obtain ⟨b', c, cs, rfl, hb', hc⟩ := h
  exact ⟨b ++ b', c, cs, by simp, hb.append hb', hc⟩

theorem Opens.cons {c : Char} (hc : isBlank c = false ∧ c ≠ ']' ∧ c ≠ '}') (cs : List Char) :
    Opens (c :: cs) :=
  ⟨[], c, cs, rfl, blanks_nil, hc⟩

theorem isBlank_of_numeric {c : Char} (h : c.isDigit = true ∨ c ∈ ['+', '-', '.', 'e', 'E']) :
    isBlank c = false := by
  simp only [isBlank, Bool.or_eq_false_iff, decide_eq_false_iff_not]
  refine ⟨⟨⟨?_, ?_⟩, ?_⟩, ?_⟩ <;> rintro rfl <;> exact absurd h (by decide)

theorem isBlank_numeral {c : Char} (hc : c = '-' ∨ c.isDigit = true) : isBlank c = false :=
  isBlank_of_numeric (hc.symm.imp_right fun h => by simp [h])

theorem Numeral.opens {l : List Char} (h : Numeral l) : Opens l := by
  obtain ⟨c, cs, rfl, hc⟩ := h.exists_cons
  refine .cons ⟨isBlank_numeral hc, ?_, ?_⟩ cs <;> rintro rfl <;> exact absurd hc (by decide)

theorem Literal.opens {l : List Char} {s : Option String} (h : Literal l s) : Opens l := by
  cases h <;> exact .cons (by decide) _

theorem Writes.opens {p : Phrase} (h : Writes p t) : Opens t := by
  induction h with
  | number h => exact h.opens
  | text h => exact h.opens
  | element hb _ _ ih => exact .blanks hb (ih.append _)
  | oneElement _ ih => exact ih
  | moreElements _ _ ih _ => exact ih.append _
  | member hb hl _ _ _ => exact .blanks hb (hl.opens.append _)
  | oneMember _ ih => exact ih
  | moreMembers _ _ ih _ => exact ih.append _
  | _ => exact .cons (by decide) _

def Value.Head : Value → Char → Prop
  | .null, c => c = 'n'
  | .bool true, c => c = 't'
  | .bool false, c => c = 'f'
  | .number _, c => c = '-' ∨ c.isDigit = true
  | .text _, c => c = '"'
  | .list _, c => c = '['
  | .object _, c => c = '{'

theorem Writes.exists_head {v : Value} {t : List Char} (h : Writes (.value v) t) :
    ∃ c cs, t = c :: cs ∧ v.Head c ∧ isBlank c = false := by
  cases h with
  | number h =>
    obtain ⟨c, cs, rfl, hc⟩ := h.exists_cons
    exact ⟨c, cs, rfl, hc, isBlank_numeral hc⟩
  | text h =>
    cases h <;> exact ⟨'"', _, rfl, rfl, rfl⟩
  | _ => exact ⟨_, _, rfl, rfl, rfl⟩

theorem Value.Head.ne_closing {v : Value} {c : Char} (h : v.Head c) : c ≠ ']' := by
  rintro rfl
  cases v with
  | number l => exact absurd h (by decide : ¬ (']' = '-' ∨ ']'.isDigit = true))
  | bool b => cases b <;> exact absurd h (by decide : ¬ ']' = _)
  | _ => exact absurd h (by decide : ¬ ']' = _)

theorem Value.Head.eq_null {v : Value} (h : v.Head 'n') : v = .null := by
  cases v with
  | null => rfl
  | bool b => cases b <;> exact absurd h (by decide : ¬ 'n' = _)
  | number l => exact absurd h (by decide : ¬ ('n' = '-' ∨ 'n'.isDigit = true))
  | _ => exact absurd h (by decide : ¬ 'n' = _)

theorem Value.Head.exists_list {v : Value} (h : v.Head '[') : ∃ vs, v = .list vs := by
  cases v with
  | list vs => exact ⟨vs, rfl⟩
  | bool b => cases b <;> exact absurd h (by decide : ¬ '[' = _)
  | number l => exact absurd h (by decide : ¬ ('[' = '-' ∨ '['.isDigit = true))
  | _ => exact absurd h (by decide : ¬ '[' = _)

theorem Value.Head.exists_object {v : Value} (h : v.Head '{') : ∃ ms, v = .object ms := by
  cases v with
  | object ms => exact ⟨ms, rfl⟩
  | bool b => cases b <;> exact absurd h (by decide : ¬ '{' = _)
  | number l => exact absurd h (by decide : ¬ ('{' = '-' ∨ '{'.isDigit = true))
  | _ => exact absurd h (by decide : ¬ '{' = _)

theorem Value.Head.exists_number {v : Value} {c : Char} (h : v.Head c)
    (hc : c = '-' ∨ c.isDigit = true) : ∃ l, v = .number l := by
  cases v with
  | number l => exact ⟨l, rfl⟩
  | bool b =>
    cases b <;> cases h <;> exact absurd hc (by decide)
  | _ =>
    cases h
    exact absurd hc (by decide)

theorem skipBlanks_value {v : Value} (h : Writes (.value v) t) (rest : List Char) :
    skipBlanks (t ++ rest) = t ++ rest := by
  obtain ⟨c, cs, rfl, -, hblank⟩ := h.exists_head
  exact skipBlanks_cons hblank _

theorem Writes.head {v : Value} {c : Char} {cs rest : List Char} (h : Writes (.value v) t)
    (hskip : skipBlanks (t ++ rest) = c :: cs) : v.Head c := by
  rw [skipBlanks_value h] at hskip
  obtain ⟨c', t, rfl, hhead, -⟩ := h.exists_head
  obtain ⟨rfl, -⟩ := List.cons.inj hskip
  exact hhead

end Openings

section Tails

variable {t rest : List Char}

inductive Tail (others : Phrase) (noOthers : Prop) : List Char → Prop
  | done (h : noOthers) : Tail others noOthers []
  | comma {t : List Char} (h : Writes others t) : Tail others noOthers (',' :: t)

theorem Tail.stops {others : Phrase} {noOthers : Prop} {u : List Char}
    (h : Tail others noOthers u) {c : Char}
    (hc : c ∈ [',', ']', '}']) (rest : List Char) : Stops (u ++ c :: rest) := by
  cases h with
  | done _ => exact stops_cons hc rest
  | comma _ => exact stops_cons (by decide) _

theorem Writes.exists_element {vs : List Value} (h : Writes (.elements vs) t) :
    ∃ v vs' e u, vs = v :: vs' ∧ t = e ++ u ∧ Writes (.element v) e ∧
      Tail (.elements vs') (vs' = []) u := by
  cases h with
  | oneElement h => exact ⟨_, [], t, [], rfl, by simp, h, .done rfl⟩
  | moreElements h hs => exact ⟨_, _, _, _, rfl, rfl, h, .comma hs⟩

theorem Writes.exists_member {ms : List (Option String × Value)} (h : Writes (.members ms) t) :
    ∃ m ms' e u, ms = m :: ms' ∧ t = e ++ u ∧ Writes (.member m) e ∧
      Tail (.members ms') (ms' = []) u := by
  cases h with
  | oneMember h => exact ⟨_, [], t, [], rfl, by simp, h, .done rfl⟩
  | moreMembers h hs => exact ⟨_, _, _, _, rfl, rfl, h, .comma hs⟩

end Tails

end OwnerRules.Json

import OwnerRules.Json.Scalar

namespace OwnerRules.Json

def shortEscapes : List (Char × Char) :=
  [('"', '"'), ('\\', '\\'), ('/', '/'), ('b', '\x08'), ('f', '\x0c'), ('n', '\n'), ('r', '\r'),
    ('t', '\t')]

def IsUnit (ds : List Char) (n : Nat) : Prop := ds.length = 4 ∧ Text.ofHex? 0 ds = some n

inductive Escape (strict : Bool) : List Char → Char → Prop
  | short {e c : Char} (h : (e, c) ∈ shortEscapes) : Escape strict [e] c
  | unit {ds : List Char} {n : Nat} (h : IsUnit ds n)
      (hs : strict = true → isLowSurrogate n = false ∧ isHighSurrogate n = false) :
      Escape strict ('u' :: ds) (Char.ofNat n)
  | pair {ds es : List Char} {m n : Nat} (hs : strict = true) (hm : IsUnit ds m)
      (hhigh : isHighSurrogate m = true) (hn : IsUnit es n) (hlow : isLowSurrogate n = true) :
      Escape strict ('u' :: (ds ++ '\\' :: 'u' :: es))
        (Char.ofNat (0x10000 + (m - 0xD800) * 0x400 + (n - 0xDC00)))

inductive Spells (strict : Bool) : List Char → List Char → Prop
  | nil : Spells strict [] []
  | plain {c : Char} {body s : List Char} (hc : ¬ c < ' ') (hquote : c ≠ '"') (hslash : c ≠ '\\')
      (h : Spells strict body s) : Spells strict (c :: body) (c :: s)
  | escape {e : List Char} {c : Char} {body s : List Char} (he : Escape strict e c)
      (h : Spells strict body s) : Spells strict ('\\' :: (e ++ body)) (c :: s)

section Units

theorem IsUnit.read {ds : List Char} {n : Nat} (h : IsUnit ds n) (rest : List Char) :
    readUnit (ds ++ rest) = .ok (n, rest) := by
  obtain ⟨hlength, hvalue⟩ := h
  match ds, hlength with
  | [a, b, c, d], _ => simp [readUnit, hvalue]

theorem exists_unit {cs rest : List Char} {n : Nat} (h : readUnit cs = .ok (n, rest)) :
    ∃ ds, cs = ds ++ rest ∧ IsUnit ds n := by
  unfold readUnit at h
  split at h
  · next a b c d rest' =>
    split at h
    · next m hm =>
      cases h
      exact ⟨[a, b, c, d], rfl, rfl, hm⟩
    · cases h
  · split at h <;> cases h

theorem exists_low {m : Nat} {cs rest : List Char} {c : Char} (h : readLow m cs = .ok (c, rest)) :
    ∃ es n, cs = '\\' :: 'u' :: (es ++ rest) ∧ IsUnit es n ∧ isLowSurrogate n = true ∧
      c = Char.ofNat (0x10000 + (m - 0xD800) * 0x400 + (n - 0xDC00)) := by
  unfold readLow at h
  split at h
  · obtain ⟨⟨n, rest'⟩, hunit, hpair⟩ := bind_eq_ok.1 h
    dsimp only at hpair
    split at hpair
    · next hlow =>
      obtain ⟨es, rfl, hn⟩ := exists_unit hunit
      simp only [Except.ok.injEq, Prod.mk.injEq] at hpair
      exact ⟨es, n, by rw [hpair.2], hn, hlow, hpair.1.symm⟩
    · cases hpair
  all_goals cases h

end Units

section Escapes

variable {strict : Bool}

theorem Escape.read {e : List Char} {c : Char} (h : Escape strict e c) (rest : List Char) :
    readEscape strict (e ++ rest) = .ok (c, rest) := by
  cases h with
  | short h =>
    simp only [shortEscapes, List.mem_cons, List.not_mem_nil, Prod.mk.injEq, or_false] at h
    rcases h with h | h | h | h | h | h | h | h <;> obtain ⟨rfl, rfl⟩ := h <;> rfl
  | unit hn hs =>
    cases strict with
    | false => simp [readEscape, hn.read, bind, Except.bind]
    | true => simp [readEscape, hn.read, hs rfl, bind, Except.bind]
  | @pair ds es m n hs hm hhigh hn hlow =>
    have hnot : isLowSurrogate m = false := by
      simp only [isHighSurrogate, isLowSurrogate, Bool.and_eq_true, decide_eq_true_eq,
        Bool.and_eq_false_iff, decide_eq_false_iff_not] at hhigh ⊢
      omega
    have hsecond := hn.read rest
    simp only [List.cons_append, List.append_assoc, readEscape, hs, hm.read, hhigh, hnot, readLow,
      hsecond, hlow, bind, Except.bind, Bool.and_false, Bool.and_true, Bool.false_eq_true, if_false,
      if_true]

theorem exists_escape {cs rest : List Char} {c : Char}
    (h : readEscape strict cs = .ok (c, rest)) : ∃ e, cs = e ++ rest ∧ Escape strict e c := by
  unfold readEscape at h
  split at h
  · cases h
  · obtain ⟨⟨n, rest'⟩, hunit, hpoint⟩ := bind_eq_ok.1 h
    obtain ⟨ds, rfl, hn⟩ := exists_unit hunit
    dsimp only at hpoint
    split at hpoint
    · cases hpoint
    · next hlow =>
      split at hpoint
      · next hhigh =>
        obtain ⟨es, m, rfl, hm, hpair, hc⟩ := exists_low hpoint
        simp only [Bool.and_eq_true] at hhigh
        rw [hc]
        exact ⟨_, by simp, .pair hhigh.1 hn hhigh.2 hm hpair⟩
      · next hhigh =>
        cases hpoint
        exact ⟨'u' :: ds, rfl, .unit hn fun hs => by simpa [hs] using And.intro hlow hhigh⟩
  · next e cs' _ =>
    refine ⟨[e], ?_⟩
    split at h <;> cases h <;> exact ⟨rfl, .short (by decide)⟩

theorem Spells.read {body s : List Char} (h : Spells strict body s) (done rest : List Char) :
    readBody strict done (body ++ '"' :: rest) = .ok (done.reverse ++ s, rest) := by
  induction h generalizing done with
  | nil => simp [readBody]
  | plain hc hquote hslash _ ih =>
    rw [List.cons_append, readBody, if_neg hc, ih]
    · simp
    · exact hquote
    · exact hslash
  | escape he _ ih =>
    rw [List.cons_append, List.append_assoc, readBody_escape, he.read]
    simp only [Except.bind, ih]
    simp

theorem exists_body {done cs s rest : List Char} (h : readBody strict done cs = .ok (s, rest)) :
    ∃ body t, cs = body ++ '"' :: rest ∧ s = done.reverse ++ t ∧ Spells strict body t := by
  fun_induction readBody strict done cs with
  | case1 => cases h
  | case2 done rest' =>
    cases h
    exact ⟨[], [], rfl, by simp, .nil⟩
  | case3 => cases h
  | case4 done cs c rest' he hl ih =>
    obtain ⟨body, t, rfl, rfl, hbody⟩ := ih h
    obtain ⟨e, rfl, hescape⟩ := exists_escape he
    exact ⟨'\\' :: (e ++ body), c :: t, by simp, by simp, .escape hescape hbody⟩
  | case5 => cases h
  | case6 done c cs hquote hslash hc ih =>
    obtain ⟨body, t, rfl, rfl, hbody⟩ := ih h
    exact ⟨c :: body, c :: t, rfl, by simp, .plain hc hquote hslash hbody⟩

end Escapes

theorem readText_iff {cs rest : List Char} {s : String} :
    readText cs = .ok (s, rest) ↔ ∃ body, cs = body ++ '"' :: rest ∧ Spells true body s.toList := by
  rw [readText, map_eq_ok]
  constructor
  · rintro ⟨⟨t, rest'⟩, h, heq⟩
    obtain ⟨body, t, rfl, rfl, hbody⟩ := exists_body h
    cases heq
    exact ⟨body, rfl, by simpa using hbody⟩
  · rintro ⟨body, rfl, hbody⟩
    exact ⟨_, hbody.read [] rest, by simp⟩

theorem skipText_iff {cs rest : List Char} :
    skipText cs = .ok rest ↔ ∃ body s, cs = body ++ '"' :: rest ∧ Spells false body s := by
  rw [skipText, map_eq_ok]
  constructor
  · rintro ⟨⟨t, rest'⟩, h, rfl⟩
    obtain ⟨body, s, rfl, -, hbody⟩ := exists_body h
    exact ⟨body, s, rfl, hbody⟩
  · rintro ⟨body, s, rfl, hbody⟩
    exact ⟨_, hbody.read [] rest, rfl⟩

theorem Spells.loose {body s : List Char} (h : Spells true body s) : ∃ t, Spells false body t := by
  induction h with
  | nil => exact ⟨[], .nil⟩
  | plain hc hquote hslash _ ih =>
    obtain ⟨t, ht⟩ := ih
    exact ⟨_, .plain hc hquote hslash ht⟩
  | @escape e c body s he _ ih =>
    obtain ⟨t, ht⟩ := ih
    have hunit {ds : List Char} {n : Nat} (hn : IsUnit ds n) :
        Escape false ('u' :: ds) (Char.ofNat n) := .unit hn nofun
    cases he with
    | short h => exact ⟨_, .escape (.short h) ht⟩
    | unit hn _ => exact ⟨_, .escape (hunit hn) ht⟩
    | pair _ hm _ hn _ =>
      have hsecond := Spells.escape (hunit hn) ht
      exact ⟨_, by simpa using Spells.escape (hunit hm) hsecond⟩

inductive Literal : List Char → Option String → Prop
  | paired {body : List Char} {s : String} (h : Spells true body s.toList) :
      Literal ('"' :: (body ++ ['"'])) (some s)
  | unpaired {body t : List Char} (h : Spells false body t) (hs : ∀ s, ¬ Spells true body s) :
      Literal ('"' :: (body ++ ['"'])) none

namespace Literal

variable {cs rest : List Char}

theorem exists_of_skipText (h : skipText cs = .ok rest) : ∃ body s,
    cs = body ++ '"' :: rest ∧ Literal ('"' :: (body ++ ['"'])) s := by
  obtain ⟨body, t, rfl, hbody⟩ := skipText_iff.mp h
  by_cases hs : ∃ s, Spells true body s
  · obtain ⟨s, hs⟩ := hs
    exact ⟨body, some (String.ofList s), rfl, .paired (by simpa using hs)⟩
  · exact ⟨body, none, rfl, .unpaired hbody fun s hs' => hs ⟨s, hs'⟩⟩

theorem exists_of_readText {s : String} (h : readText cs = .ok (s, rest)) : ∃ body,
    cs = body ++ '"' :: rest ∧ Literal ('"' :: (body ++ ['"'])) (some s) := by
  obtain ⟨body, rfl, hbody⟩ := readText_iff.mp h
  exact ⟨body, rfl, .paired hbody⟩

variable {text : List Char} {s : Option String}

theorem of_writeText (s : String) : Literal (writeText s) (some s) := by
  obtain ⟨body, hbody, hl⟩ := exists_of_readText (readText_writeText s [])
  rw [writeText, List.cons_append, hbody]
  exact hl

theorem readers (h : Literal text s) (rest : List Char) : ∃ cs, text ++ rest = '"' :: cs ∧
    skipText cs = .ok rest ∧
    ∀ a rest', readText cs = .ok (a, rest') ↔ rest' = rest ∧ s = some a := by
  cases h with
  | @paired body s h =>
    obtain ⟨t, ht⟩ := h.loose
    have hread : readText (body ++ '"' :: rest) = .ok (s, rest) := readText_iff.mpr ⟨body, rfl, h⟩
    refine ⟨body ++ '"' :: rest, by simp, skipText_iff.mpr ⟨body, t, rfl, ht⟩, fun a rest' => ?_⟩
    rw [hread]
    simp [eq_comm, and_comm]
  | @unpaired body t h hs =>
    have hskip : skipText (body ++ '"' :: rest) = .ok rest := skipText_iff.mpr ⟨body, t, rfl, h⟩
    refine ⟨body ++ '"' :: rest, by simp, hskip, fun a rest' => ⟨fun hread => ?_, nofun⟩⟩
    obtain ⟨body', hcs, hbody'⟩ := readText_iff.mp hread
    obtain ⟨t', ht'⟩ := hbody'.loose
    have hskip' : skipText (body ++ '"' :: rest) = .ok rest' :=
      skipText_iff.mpr ⟨body', t', hcs, ht'⟩
    obtain rfl : rest = rest' := by simpa [hskip] using hskip'
    obtain rfl : body = body' := List.append_cancel_right hcs
    exact absurd hbody' (hs _)

end Literal

end OwnerRules.Json

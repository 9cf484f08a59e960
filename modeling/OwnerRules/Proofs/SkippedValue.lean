import OwnerRules.Proofs.Document

namespace OwnerRules.Json

section Resuming

variable {b cs rest : List Char} {f : Frame} {fs : List Frame}

def Frame.opening : Frame → Char
  | .list => '['
  | .object => '{'

def Frame.closing : Frame → Char
  | .list => ']'
  | .object => '}'

def enter (frames : List Frame) (cs : List Char) : Except Error (List Char) :=
  (skipKey frames cs).bind (skipFrames frames)

def resume (comma : Bool) (frames : List Frame) (cs : List Char) : Except Error (List Char) :=
  (closeFrames comma frames cs).bind fun p =>
    match p with
    | ([], rest) => .ok rest
    | (f :: fs, rest) => enter (f :: fs) rest

theorem skipFrames_eq_resume (frames : List Frame) (cs : List Char) :
    skipFrames frames cs = (skipHead (skipBlanks cs)).bind fun p =>
      resume p.1.isNone (p.1.toList ++ frames) p.2 := by
  rw [skipFrames_eq, skipElement]
  cases skipHead (skipBlanks cs) with
  | error e => rfl
  | ok p =>
    simp only [bind, Except.bind, resume]
    cases hclose : closeFrames p.1.isNone (p.1.toList ++ frames) p.2 with
    | error e => rfl
    | ok q =>
      obtain ⟨gs, r⟩ := q
      cases gs with
      | nil => rfl
      | cons g gs =>
        simp only [enter, Except.bind]
        cases skipKey (g :: gs) r <;> rfl

@[simp] theorem enter_list (fs : List Frame) (cs : List Char) :
    enter (.list :: fs) cs = skipFrames (.list :: fs) cs := rfl

theorem skipFrames_blanks (hb : Blanks b) (frames : List Frame) (cs : List Char) :
    skipFrames frames (b ++ cs) = skipFrames frames cs := by
  rw [skipFrames_eq_resume, skipBlanks_append hb, ← skipFrames_eq_resume]

theorem resume_blanks (hb : Blanks b) (comma : Bool) (cs : List Char) :
    resume comma (f :: fs) (b ++ cs) = resume comma (f :: fs) cs := by
  simp only [resume, closeFrames, skipBlanks_append hb]

theorem resume_closing (comma : Bool) (cs : List Char) :
    resume comma (f :: fs) (f.closing :: cs) = resume true fs cs := by
  cases f <;> rfl

theorem resume_comma (cs : List Char) : resume true (f :: fs) (',' :: cs) = enter (f :: fs) cs := by
  cases f <;> rfl

theorem resume_opened {c : Char} (hblank : isBlank c = false) (hlist : c ≠ ']') (hobject : c ≠ '}')
    (cs : List Char) : resume false (f :: fs) (c :: cs) = enter (f :: fs) (c :: cs) := by
  have hclose : closeFrames false (f :: fs) (c :: cs) = .ok (f :: fs, c :: cs) := by
    unfold closeFrames
    rw [skipBlanks_cons hblank]
    cases f <;> simp [hlist, hobject]
  rw [resume, hclose]
  rfl

theorem enter_blanks (hb : Blanks b) (cs : List Char) :
    enter (f :: fs) (b ++ cs) = enter (f :: fs) cs := by
  cases f with
  | list => exact skipFrames_blanks hb _ cs
  | object => simp only [enter, skipKey, skipBlanks_append hb]

theorem readColon_append (hb : Blanks b) (cs : List Char) :
    readColon (b ++ ':' :: cs) = .ok cs := by
  rw [readColon, skipBlanks_append hb]
  rfl

theorem enter_object {k : Option String} {l b' : List Char} (hb : Blanks b) (hl : Literal l k)
    (hb' : Blanks b') (cs : List Char) :
    enter (.object :: fs) (b ++ (l ++ (b' ++ ':' :: cs))) = skipFrames (.object :: fs) cs := by
  obtain ⟨r, hr, hskip, -⟩ := hl.readers (b' ++ ':' :: cs)
  rw [enter, skipKey, skipBlanks_append hb, hr, skipBlanks_cons rfl]
  simp only [hskip, bind, Except.bind, readColon_append hb']

end Resuming

section Skipped

variable {cs rest t : List Char}

theorem resume_opens {f : Frame} {fs : List Frame} (h : Opens t) :
    resume false (f :: fs) t = enter (f :: fs) t := by
  obtain ⟨b, c, cs, rfl, hb, hblank, hlist, hobject⟩ := h
  rw [resume_blanks hb, enter_blanks hb, resume_opened hblank hlist hobject]

def Skipped : Phrase → List Char → Prop
  | .value _, t => ∀ frames rest, Stops rest →
      skipFrames frames (t ++ rest) = resume true frames rest
  | .element _, t => ∀ f fs rest, Stops rest →
      skipFrames (f :: fs) (t ++ rest) = resume true (f :: fs) rest
  | .elements _, t => ∀ fs rest, Stops rest →
      enter (.list :: fs) (t ++ rest) = resume true (.list :: fs) rest
  | .member _, t => ∀ fs rest, Stops rest →
      enter (.object :: fs) (t ++ rest) = resume true (.object :: fs) rest
  | .members _, t => ∀ fs rest, Stops rest →
      enter (.object :: fs) (t ++ rest) = resume true (.object :: fs) rest

theorem skipFrames_scalar {frames : List Frame} (h : skipHead cs = .ok (none, rest))
    (hblank : skipBlanks cs = cs) : skipFrames frames cs = resume true frames rest := by
  rw [skipFrames_eq_resume, hblank, h]
  rfl

theorem Writes.skipped {p : Phrase} (h : Writes p t) : Skipped p t := by
  induction h with
  | null =>
    intro frames rest _
    exact skipFrames_scalar rfl rfl
  | yes =>
    intro frames rest _
    exact skipFrames_scalar rfl rfl
  | no =>
    intro frames rest _
    exact skipFrames_scalar rfl rfl
  | number h =>
    intro frames rest hrest
    exact skipFrames_scalar (h.skip hrest) (skipBlanks_value (.number h) rest)
  | text h =>
    intro frames rest _
    obtain ⟨cs, hcs, hskip, -⟩ := h.readers rest
    rw [hcs]
    refine skipFrames_scalar ?_ rfl
    rw [skipHead, hskip]
    rfl
  | @emptyList b hb =>
    intro frames rest _
    rw [List.cons_append, List.append_assoc, skipFrames_eq_resume]
    exact (resume_blanks hb false _).trans (resume_closing false rest)
  | @list vs t h ih =>
    intro frames rest _
    rw [List.cons_append, List.append_assoc, skipFrames_eq_resume]
    calc resume false (.list :: frames) (t ++ ([']'] ++ rest))
        = enter (.list :: frames) (t ++ ([']'] ++ rest)) := resume_opens (h.opens.append _)
      _ = resume true (.list :: frames) (']' :: rest) := ih _ _ (stops_cons (by decide) rest)
      _ = resume true frames rest := resume_closing true rest
  | emptyObject hb =>
    intro frames rest _
    rw [List.cons_append, List.append_assoc, skipFrames_eq_resume]
    exact (resume_blanks hb false _).trans (resume_closing false rest)
  | @object ms t h ih =>
    intro frames rest _
    rw [List.cons_append, List.append_assoc, skipFrames_eq_resume]
    calc resume false (.object :: frames) (t ++ (['}'] ++ rest))
        = enter (.object :: frames) (t ++ (['}'] ++ rest)) := resume_opens (h.opens.append _)
      _ = resume true (.object :: frames) ('}' :: rest) := ih _ _ (stops_cons (by decide) rest)
      _ = resume true frames rest := resume_closing true rest
  | element hb _ hb' ih =>
    intro f fs rest hrest
    rw [List.append_assoc, List.append_assoc, skipFrames_blanks hb,
      ih _ _ (stops_blanks hb' hrest), resume_blanks hb']
  | oneElement _ ih => exact ih .list
  | moreElements _ _ ih ihs =>
    intro fs rest hrest
    rw [List.append_assoc, List.cons_append, enter_list, ih _ _ _ (stops_cons (by decide) _),
      resume_comma, ihs _ _ hrest]
  | member hb hl hb' _ ih =>
    intro fs rest hrest
    simp only [List.append_assoc, List.cons_append]
    rw [enter_object hb hl hb', ih _ _ _ hrest]
  | oneMember _ ih => exact ih
  | moreMembers _ _ ih ihs =>
    intro fs rest hrest
    rw [List.append_assoc, List.cons_append, ih _ _ (stops_cons (by decide) _), resume_comma,
      ihs _ _ hrest]

end Skipped

section Frames

variable {b cs rest t : List Char} {f : Frame} {fs : List Frame}

def Frame.IsItem : Frame → List Char → Prop
  | .list, t => ∃ v, Writes (.element v) t
  | .object, t => ∃ m, Writes (.member m) t

def Frame.IsInside : Frame → List Char → Prop
  | .list, t => ∃ vs, Writes (.elements vs) t
  | .object, t => ∃ ms, Writes (.members ms) t

theorem Frame.IsItem.blanks (h : f.IsItem t) (hb : Blanks b) : f.IsItem (t ++ b) := by
  cases f with
  | list =>
    obtain ⟨v, h⟩ := h
    cases h with
    | element hb₁ h hb₂ => exact ⟨v, by simpa using Writes.element hb₁ h (hb₂.append hb)⟩
  | object =>
    obtain ⟨m, h⟩ := h
    cases h with
    | member hb₁ hl hb₂ h =>
      cases h with
      | element hb₃ h hb₄ =>
        have hvalue := Writes.element hb₃ h (hb₄.append hb)
        exact ⟨_, by simpa using Writes.member hb₁ hl hb₂ hvalue⟩

theorem Frame.IsItem.inside (h : f.IsItem t) : f.IsInside t := by
  cases f with
  | list =>
    obtain ⟨v, h⟩ := h
    exact ⟨[v], .oneElement h⟩
  | object =>
    obtain ⟨m, h⟩ := h
    exact ⟨[m], .oneMember h⟩

theorem Frame.IsItem.comma (h : f.IsItem t) {u : List Char} (hu : f.IsInside u) :
    f.IsInside (t ++ ',' :: u) := by
  cases f with
  | list =>
    obtain ⟨v, h⟩ := h
    obtain ⟨vs, hu⟩ := hu
    exact ⟨v :: vs, .moreElements h hu⟩
  | object =>
    obtain ⟨m, h⟩ := h
    obtain ⟨ms, hu⟩ := hu
    exact ⟨m :: ms, .moreMembers h hu⟩

theorem Frame.IsInside.value (h : f.IsInside t) :
    ∃ v, Writes (.value v) (f.opening :: (t ++ [f.closing])) := by
  cases f with
  | list =>
    obtain ⟨vs, h⟩ := h
    exact ⟨.list vs, .list h⟩
  | object =>
    obtain ⟨ms, h⟩ := h
    exact ⟨.object ms, .object h⟩

theorem Frame.value_of_blanks (f : Frame) (hb : Blanks b) :
    ∃ v, Writes (.value v) (f.opening :: (b ++ [f.closing])) := by
  cases f with
  | list => exact ⟨.list [], .emptyList hb⟩
  | object => exact ⟨.object [], .emptyObject hb⟩

inductive Ends : List Frame → List Char → List Char → Prop
  | done (rest : List Char) : Ends [] rest rest
  | close {f : Frame} {fs : List Frame} {b cs rest : List Char} (hb : Blanks b)
      (h : Ends fs cs rest) : Ends (f :: fs) (b ++ f.closing :: cs) rest
  | more {f : Frame} {fs : List Frame} {b t cs rest : List Char} (hb : Blanks b)
      (ht : f.IsInside t) (h : Ends fs cs rest) :
      Ends (f :: fs) (b ++ ',' :: (t ++ f.closing :: cs)) rest

theorem Ends.inside (h : Ends (f :: fs) cs rest) (ht : f.IsItem t) :
    ∃ u cs', t ++ cs = u ++ f.closing :: cs' ∧ f.IsInside u ∧ Ends fs cs' rest := by
  cases h with
  | @close _ _ b cs' _ hb h => exact ⟨t ++ b, cs', by simp, (ht.blanks hb).inside, h⟩
  | @more _ _ b u cs' _ hb hu h =>
    exact ⟨t ++ b ++ ',' :: u, cs', by simp, (ht.blanks hb).comma hu, h⟩

theorem exists_of_readColon (h : readColon cs = .ok rest) :
    ∃ b, Blanks b ∧ cs = b ++ ':' :: rest := by
  obtain ⟨b, hb, hcs⟩ := exists_blanks cs
  unfold readColon at h
  split at h
  · cases h
  · next r hr =>
    cases h
    exact ⟨b, hb, by rw [← hr, ← hcs]⟩
  · cases h

theorem exists_of_enter_object (h : enter (.object :: fs) cs = .ok rest) :
    ∃ b l k b' cs', cs = b ++ (l ++ (b' ++ ':' :: cs')) ∧ Blanks b ∧ Literal l k ∧ Blanks b' ∧
      skipFrames (.object :: fs) cs' = .ok rest := by
  obtain ⟨b, hb, hcs⟩ := exists_blanks cs
  obtain ⟨cs', hkey, h⟩ := bind_eq_ok.1 h
  rw [skipKey] at hkey
  split at hkey
  · cases hkey
  · next r hr =>
    obtain ⟨r', htext, hcolon⟩ := bind_eq_ok.1 hkey
    obtain ⟨body, k, rfl, hl⟩ := Literal.exists_of_skipText htext
    obtain ⟨b', hb', rfl⟩ := exists_of_readColon hcolon
    exact ⟨b, _, k, b', cs', by rw [hcs, hr]; simp, hb, hl, hb', h⟩
  · cases hkey

theorem resume_cases {comma : Bool} (h : resume comma (f :: fs) cs = .ok rest) :
    ∃ b cs', Blanks b ∧
      (cs = b ++ f.closing :: cs' ∧ resume true fs cs' = .ok rest ∨
        comma = true ∧ cs = b ++ ',' :: cs' ∧ enter (f :: fs) cs' = .ok rest ∨
        comma = false ∧ cs = b ++ cs' ∧ enter (f :: fs) cs' = .ok rest) := by
  obtain ⟨b, hb, hcs⟩ := exists_blanks cs
  obtain ⟨p, hclose, hnext⟩ := bind_eq_ok.1 h
  unfold closeFrames at hclose
  split at hclose
  · cases hclose
  · next r hr =>
    refine ⟨b, r, hb, .inl ⟨by rw [hcs, hr]; rfl, ?_⟩⟩
    rw [resume, hclose]
    exact hnext
  · next r hr =>
    refine ⟨b, r, hb, .inl ⟨by rw [hcs, hr]; rfl, ?_⟩⟩
    rw [resume, hclose]
    exact hnext
  · next c r hr _ _ =>
    split at hclose
    · next hcomma =>
      split at hclose
      · next hc =>
        cases hclose
        exact ⟨b, r, hb, .inr (.inl ⟨hcomma, by rw [hcs, hr, hc], hnext⟩)⟩
      · cases hclose
    · next hcomma =>
      cases hclose
      exact ⟨b, c :: r, hb, .inr (.inr ⟨(Bool.not_eq_true _).mp hcomma, by rw [hcs, hr], hnext⟩)⟩

end Frames

section Taken

variable {cs rest : List Char} {frames : List Frame}

theorem eq_append_of_readWord {w : List Char} (h : readWord w cs = .ok rest) : cs = w ++ rest := by
  induction w generalizing cs with
  | nil =>
    cases h
    rfl
  | cons c w ih =>
    cases cs with
    | nil => cases h
    | cons c' cs =>
      rw [readWord] at h
      split at h
      · next hc => rw [hc, ih h, List.cons_append]
      · cases h

theorem exists_head {opened : Option Frame} (h : skipHead cs = .ok (opened, rest)) :
    (opened = none ∧ ∃ t v, cs = t ++ rest ∧ Writes (.value v) t) ∨
      ∃ f, opened = some f ∧ cs = f.opening :: rest := by
  unfold skipHead at h
  split at h
  · cases h
  · obtain ⟨r, hr, h⟩ := bind_eq_ok.1 h
    cases h
    exact .inl ⟨rfl, _, _, congrArg _ (eq_append_of_readWord hr), .null⟩
  · obtain ⟨r, hr, h⟩ := bind_eq_ok.1 h
    cases h
    exact .inl ⟨rfl, _, _, congrArg _ (eq_append_of_readWord hr), .yes⟩
  · obtain ⟨r, hr, h⟩ := bind_eq_ok.1 h
    cases h
    exact .inl ⟨rfl, _, _, congrArg _ (eq_append_of_readWord hr), .no⟩
  · obtain ⟨r, hr, h⟩ := bind_eq_ok.1 h
    cases h
    obtain ⟨body, s, rfl, hl⟩ := Literal.exists_of_skipText hr
    exact .inl ⟨rfl, _, _, by simp, .text hl⟩
  · cases h
    exact .inr ⟨.list, rfl, rfl⟩
  · cases h
    exact .inr ⟨.object, rfl, rfl⟩
  · obtain ⟨r, hr, h⟩ := bind_eq_ok.1 h
    cases h
    obtain ⟨l, rfl, hl⟩ := exists_magnitude hr
    exact .inl ⟨rfl, '-' :: l, _, rfl, .number (.negative hl)⟩
  · split at h
    · obtain ⟨r, hr, h⟩ := bind_eq_ok.1 h
      cases h
      obtain ⟨l, hcs, hl⟩ := exists_magnitude hr
      exact .inl ⟨rfl, l, _, hcs, .number (.positive hl)⟩
    · cases h

def Takes (frames : List Frame) (cs rest : List Char) : Prop :=
  ∃ b v t cs', cs = b ++ (t ++ cs') ∧ Blanks b ∧ Writes (.value v) t ∧ Ends frames cs' rest

theorem length_lt_of_append_cons {b : List Char} {c : Char} {n : Nat}
    (h : (b ++ c :: cs).length < n) : cs.length < n := by
  simp only [List.length_append, List.length_cons] at h
  omega

section Step

-- The texts that are shorter than the one in hand are known to hold a value.
variable {n : Nat}
  (ih : ∀ frames cs rest, cs.length < n → skipFrames frames cs = .ok rest → Takes frames cs rest)

include ih

theorem exists_item {f : Frame} {fs : List Frame} (hn : cs.length < n)
    (h : enter (f :: fs) cs = .ok rest) :
    ∃ t cs', cs = t ++ cs' ∧ f.IsItem t ∧ Ends (f :: fs) cs' rest := by
  cases f with
  | list =>
    obtain ⟨b, v, t, cs', rfl, hb, ht, hends⟩ := ih _ _ _ hn h
    have hitem : Frame.list.IsItem (b ++ (t ++ [])) := ⟨v, .element hb ht blanks_nil⟩
    exact ⟨_, cs', by simp, hitem, hends⟩
  | object =>
    obtain ⟨b, l, k, b', cs', rfl, hb, hl, hb', h⟩ := exists_of_enter_object h
    have hsplit : b ++ (l ++ (b' ++ ':' :: cs')) = b ++ (l ++ b') ++ ':' :: cs' := by simp
    have hshorter := length_lt_of_append_cons (hsplit ▸ hn)
    obtain ⟨b'', v, t, cs'', rfl, hb'', ht, hends⟩ := ih _ _ _ hshorter h
    have hvalue := Writes.element hb'' ht blanks_nil
    have hitem : Frame.object.IsItem _ := ⟨_, .member hb hl hb' hvalue⟩
    exact ⟨_, cs'', by simp, hitem, hends⟩

theorem ends_of_resume (hn : cs.length < n) (h : resume true frames cs = .ok rest) :
    Ends frames cs rest := by
  induction frames generalizing cs with
  | nil =>
    cases h
    exact .done rest
  | cons f fs ihs =>
    obtain ⟨b, cs', hb, hcases⟩ := resume_cases h
    rcases hcases with ⟨rfl, hnext⟩ | ⟨-, rfl, hnext⟩ | ⟨hcomma, -⟩
    · exact .close hb (ihs (length_lt_of_append_cons hn) hnext)
    · have hshorter := length_lt_of_append_cons hn
      obtain ⟨t, cs'', rfl, ht, hends⟩ := exists_item ih hshorter hnext
      obtain ⟨u, r, hr, hu, hends⟩ := hends.inside ht
      rw [hr]
      exact .more hb hu hends
    · cases hcomma

theorem exists_frame {f : Frame} (hn : cs.length < n)
    (h : resume false (f :: frames) cs = .ok rest) :
    ∃ v t cs', f.opening :: cs = t ++ cs' ∧ Writes (.value v) t ∧ Ends frames cs' rest := by
  obtain ⟨b, cs', hb, hcases⟩ := resume_cases h
  rcases hcases with ⟨rfl, hnext⟩ | ⟨hcomma, -⟩ | ⟨-, rfl, hnext⟩
  · have hshorter := length_lt_of_append_cons hn
    obtain ⟨v, hv⟩ := f.value_of_blanks hb
    exact ⟨v, _, cs', by simp, hv, ends_of_resume ih hshorter hnext⟩
  · cases hcomma
  · rw [← enter_blanks hb] at hnext
    obtain ⟨t, cs'', hcs, ht, hends⟩ := exists_item ih hn hnext
    obtain ⟨u, r, hr, hu, hends⟩ := hends.inside ht
    obtain ⟨v, hv⟩ := hu.value
    exact ⟨v, _, r, by rw [hcs, hr]; simp, hv, hends⟩

end Step

theorem takes_of_skipFrames (h : skipFrames frames cs = .ok rest) : Takes frames cs rest := by
  suffices hall : ∀ n frames cs rest, cs.length < n → skipFrames frames cs = .ok rest →
      Takes frames cs rest from hall _ _ _ _ (Nat.lt_succ_self _) h
  intro n
  induction n with
  | zero => exact fun _ _ _ hn => absurd hn (Nat.not_lt_zero _)
  | succ n ih =>
    intro frames cs rest hn h
    rw [skipFrames_eq_resume] at h
    obtain ⟨⟨opened, r⟩, hhead, h⟩ := bind_eq_ok.1 h
    obtain ⟨b, hb, hcs⟩ := exists_blanks cs
    have hshorter : r.length < n := by
      have := length_skipBlanks cs
      have := length_skipHead hhead
      omega
    rcases exists_head hhead with ⟨rfl, t, v, ht, hv⟩ | ⟨f, rfl, hf⟩
    · exact ⟨b, v, t, r, by rw [← ht, ← hcs], hb, hv, ends_of_resume ih hshorter h⟩
    · obtain ⟨v, t, cs', ht, hv, hends⟩ := exists_frame ih hshorter h
      exact ⟨b, v, t, cs', by rw [← ht, ← hf, ← hcs], hb, hv, hends⟩

theorem exists_of_skipValue (h : skipValue cs = .ok rest) :
    ∃ b v t, cs = b ++ (t ++ rest) ∧ Blanks b ∧ Writes (.value v) t := by
  obtain ⟨b, v, t, cs', rfl, hb, hv, hends⟩ := takes_of_skipFrames h
  cases hends
  exact ⟨b, v, t, rfl, hb, hv⟩

theorem skipValue_append {v : Value} {b t : List Char} (hb : Blanks b) (h : Writes (.value v) t)
    (hrest : Stops rest) : skipValue (b ++ (t ++ rest)) = .ok rest := by
  rw [skipValue, skipFrames_blanks hb]
  exact h.skipped [] rest hrest

end Taken

end OwnerRules.Json

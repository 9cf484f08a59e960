import OwnerRules.Proofs.RecordReader

namespace OwnerRules.Json

section Frames

variable {f : Frame} {b t cs rest : List Char}

theorem Frame.IsItem.after_blanks (hb : Blanks b) (h : f.IsItem t) : f.IsItem (b ++ t) := by
  cases f with
  | list =>
    obtain ⟨v, h⟩ := h
    cases h with
    | element hb₁ h hb₂ => exact ⟨v, by simpa using Writes.element (hb.append hb₁) h hb₂⟩
  | object =>
    obtain ⟨m, h⟩ := h
    cases h with
    | member hb₁ hl hb₂ h => exact ⟨_, by simpa using Writes.member (hb.append hb₁) hl hb₂ h⟩

theorem Ends.eq_rest (h : Ends [] cs rest) : cs = rest := by
  cases h
  rfl

theorem Ends.comma (h : Ends [f] cs rest) (ht : f.IsItem t) (hb : Blanks b) :
    Ends [f] (b ++ ',' :: (t ++ cs)) rest := by
  obtain ⟨u, cs', hcs, hu, hends⟩ := h.inside ht
  rw [hcs]
  exact .more hb hu hends

theorem Ends.opened (h : Ends [f] cs rest) (ht : f.IsItem t) :
    ∃ v u, f.opening :: (t ++ cs) = u ++ rest ∧ Writes (.value v) u := by
  obtain ⟨u, cs', hcs, hu, hends⟩ := h.inside ht
  obtain rfl := hends.eq_rest
  obtain ⟨v, hv⟩ := hu.value
  exact ⟨v, _, by rw [hcs]; simp, hv⟩

theorem exists_opened_blanks (f : Frame) (hb : Blanks b) (rest : List Char) :
    ∃ v u, f.opening :: (b ++ f.closing :: rest) = u ++ rest ∧ Writes (.value v) u := by
  obtain ⟨v, hv⟩ := f.value_of_blanks hb
  exact ⟨v, _, by simp, hv⟩

end Frames

namespace Shape

variable {ρ α : Type} {s : Shape ρ α} {slots : List (Slot ρ α)} {cs rest : List Char}

theorem nextKey_cases {first another : Bool} (h : nextKey first cs = .ok (another, rest)) :
    ∃ b, Blanks b ∧
      (another = false ∧ cs = b ++ '}' :: rest ∨
        another = true ∧ first = true ∧ cs = b ++ '"' :: rest ∨
        another = true ∧ first = false ∧
          ∃ b', Blanks b' ∧ cs = b ++ ',' :: (b' ++ '"' :: rest)) := by
  obtain ⟨b, hb, hcs⟩ := exists_blanks cs
  unfold nextKey at h
  split at h
  · cases h
  · next r hr =>
    cases h
    exact ⟨b, hb, .inl ⟨rfl, by rw [← hr, ← hcs]⟩⟩
  · next r hr =>
    split at h
    · next hfirst =>
      cases h
      exact ⟨b, hb, .inr (.inl ⟨rfl, hfirst, by rw [← hr, ← hcs]⟩)⟩
    · cases h
  · next r hr =>
    obtain ⟨b', hb', hr'⟩ := exists_blanks r
    split at h
    · cases h
    · next hfirst =>
      split at h
      · cases h
      · next r' hr'' =>
        cases h
        refine ⟨b, hb, .inr (.inr ⟨rfl, (Bool.not_eq_true _).mp hfirst, b', hb', ?_⟩)⟩
        rw [← hr'', ← hr', ← hr, ← hcs]
      · cases h
      · cases h
  · cases h

theorem Laid.value_of_read (h : s.Laid slots) {f : Field ρ} (hf : f ∈ s.fields) {p q : ρ}
    (hread : f.read p cs = .ok (q, rest)) :
    ∃ b v e, cs = b ++ (e ++ rest) ∧ Blanks b ∧ Writes (.value v) e := by
  rw [h.fields_eq] at hf
  obtain ⟨t, -, rfl⟩ := List.mem_map.mp hf
  obtain ⟨⟨c, r⟩, hc, heq⟩ := map_eq_ok.mp hread
  cases heq
  exact t.reads.exists_value cs c _ hc

theorem Laid.exists_of_readMember (h : s.Laid slots) {p q : ρ}
    (hread : s.readMember p cs = .ok (q, rest)) :
    ∃ key r r', readText cs = .ok (key, r) ∧ readColon r = .ok r' ∧
      ∃ b v e, r' = b ++ (e ++ rest) ∧ Blanks b ∧ Writes (.value v) e := by
  obtain ⟨⟨key, r⟩, htext, hmember⟩ := bind_eq_ok.1 hread
  dsimp only at hmember
  split at hmember
  · next f hfind =>
    split at hmember
    · cases hmember
    · obtain ⟨r', hcolon, hf⟩ := bind_eq_ok.1 hmember
      exact ⟨key, r, r', htext, hcolon, h.value_of_read (List.mem_of_find?_eq_some hfind) hf⟩
  · obtain ⟨r', hcolon, hskip⟩ := bind_eq_ok.1 hmember
    obtain ⟨r'', hvalue, hskip⟩ := bind_eq_ok.1 hskip
    cases hskip
    exact ⟨key, r, r', htext, hcolon, exists_of_skipValue hvalue⟩

theorem Laid.item_of_readMember (h : s.Laid slots) {p q : ρ}
    (hread : s.readMember p cs = .ok (q, rest)) :
    ∃ t, '"' :: cs = t ++ rest ∧ Frame.object.IsItem t := by
  obtain ⟨key, r, r', htext, hcolon, b', v, e, rfl, hb', he⟩ := h.exists_of_readMember hread
  obtain ⟨body, rfl, hl⟩ := Literal.exists_of_readText htext
  obtain ⟨b, hb, rfl⟩ := exists_of_readColon hcolon
  have hmember := Writes.member blanks_nil hl hb (.element hb' he blanks_nil)
  exact ⟨_, by simp, _, hmember⟩

def Closed (f : Frame) (first : Bool) (cs rest : List Char) : Prop :=
  if first then ∃ v t, f.opening :: cs = t ++ rest ∧ Writes (.value v) t else Ends [f] cs rest

theorem Laid.ends_of_readMembers (h : s.Laid slots) {first : Bool} {p q : ρ}
    (hread : s.readMembers first p cs = .ok (q, rest)) : Closed .object first cs rest := by
  fun_induction readMembers s first p cs with
  | case1 => cases hread
  | case2 first p cs rest' hnext =>
    cases hread
    obtain ⟨b, hb, ⟨-, rfl⟩ | ⟨h, -⟩ | ⟨h, -⟩⟩ := nextKey_cases hnext
    · cases first with
      | true => exact exists_opened_blanks .object hb rest
      | false => exact .close hb (.done rest)
    · cases h
    · cases h
  | case3 => cases hread
  | case4 first p cs r hnext q r' hmember hl hl' ih =>
    have hends : Ends [.object] r' rest := ih hread
    obtain ⟨t, ht, hitem⟩ := h.item_of_readMember hmember
    obtain ⟨b, hb, ⟨h, -⟩ | ⟨-, rfl, rfl⟩ | ⟨-, rfl, b', hb', rfl⟩⟩ := nextKey_cases hnext
    · cases h
    · have hopened := hends.opened (hitem.after_blanks hb)
      rwa [List.append_assoc, ← ht] at hopened
    · have hcomma := hends.comma (hitem.after_blanks hb') hb
      rwa [List.append_assoc, ← ht] at hcomma

theorem closed_list_of_closeList {first : Bool} (h : closeList cs = .ok rest) :
    Closed .list first cs rest := by
  obtain ⟨b, hb, hcs⟩ := exists_blanks cs
  rw [closeList_eq_ok.mp h] at hcs
  rw [hcs]
  cases first with
  | true => exact exists_opened_blanks .list hb rest
  | false => exact .close hb (.done rest)

theorem nextElement_cases {first : Bool} {r : List Char}
    (h : nextElement first cs = .ok (some r)) :
    ∃ b, Blanks b ∧
      (first = true ∧ cs = b ++ r ∨
        first = false ∧ ∃ b', Blanks b' ∧ cs = b ++ ',' :: (b' ++ r)) := by
  obtain ⟨b, hb, hcs⟩ := exists_blanks cs
  unfold nextElement at h
  split at h
  · cases h
  · cases h
  · next c r' _ hr =>
    split at h
    · next hfirst =>
      cases h
      exact ⟨b, hb, .inl ⟨hfirst, by rw [← hr, ← hcs]⟩⟩
    · next hfirst =>
      obtain ⟨b', hb', hr'⟩ := exists_blanks r'
      split at h
      · next hc =>
        split at h
        · cases h
        · cases h
        · cases h
          refine ⟨b, hb, .inr ⟨(Bool.not_eq_true _).mp hfirst, b', hb', ?_⟩⟩
          rw [← hr', ← hc, ← hr, ← hcs]
      · cases h

theorem Laid.ends_of_readElements (h : s.Laid slots) {ts : List (Slot ρ α)} {first : Bool} {p q : ρ}
    {r : List Char} (hts : ∀ t ∈ ts, t ∈ slots)
    (hread : readElements (ts.map Slot.field) first p cs = .ok (q, r))
    (hclose : closeList r = .ok rest) : Closed .list first cs rest := by
  induction ts generalizing first p cs with
  | nil =>
    cases hread
    exact closed_list_of_closeList hclose
  | cons t ts ih =>
    rw [List.map_cons, readElements] at hread
    obtain ⟨next, hnext, hread⟩ := bind_eq_ok.1 hread
    cases next with
    | none =>
      cases hread
      exact closed_list_of_closeList hclose
    | some r₀ =>
      obtain ⟨⟨p', r₁⟩, hvalue, hread⟩ := bind_eq_ok.1 hread
      have hends : Ends [.list] r₁ rest := ih (fun t ht => hts t (List.mem_cons_of_mem _ ht)) hread
      have hfield : t.field ∈ s.fields := by
        rw [h.fields_eq]
        exact List.mem_map_of_mem (hts t (List.mem_cons_self ..))
      obtain ⟨b₀, v, e, rfl, hb₀, he⟩ := h.value_of_read hfield hvalue
      have hitem : Frame.list.IsItem (b₀ ++ (e ++ [])) := ⟨v, .element hb₀ he blanks_nil⟩
      obtain ⟨b, hb, ⟨rfl, rfl⟩ | ⟨rfl, b', hb', rfl⟩⟩ := nextElement_cases hnext
      · have hopened := hends.opened (hitem.after_blanks hb)
        simpa [Closed] using hopened
      · have hcomma := hends.comma (hitem.after_blanks hb') hb
        simpa [Closed] using hcomma

theorem Laid.exists_document (h : s.Laid slots) {text : String} {a : α}
    (hread : s.ofText text = .ok a) : ∃ v, Document v text := by
  obtain ⟨cs, rest, hrest, hcases⟩ := ofText_eq_ok.mp hread
  obtain ⟨b, hb, htext⟩ := exists_blanks text.toList
  obtain ⟨b', hb', hrest'⟩ := exists_blanks rest
  rw [hrest, List.append_nil] at hrest'
  have hvalue : ∃ v t, skipBlanks text.toList = t ++ rest ∧ Writes (.value v) t := by
    rcases hcases with ⟨hcs, hobject⟩ | ⟨hcs, hlist⟩
    · obtain ⟨q, hmembers, -⟩ := readObject_iff.mp hobject
      rw [hcs]
      exact h.ends_of_readMembers hmembers
    · obtain ⟨q, r, helements, -, hclose⟩ := h.readList_iff.mp hlist
      rw [hcs]
      exact h.ends_of_readElements (fun _ => id) helements hclose
  obtain ⟨v, t, ht, hv⟩ := hvalue
  refine ⟨v, ?_⟩
  rw [Document, htext, ht]
  exact .element hb hv (hrest' ▸ hb')

end Shape

end OwnerRules.Json

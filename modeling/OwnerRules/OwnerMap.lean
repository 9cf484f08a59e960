namespace OwnerRules

structure Entry where
  iif : Int32
  rule : UInt32
  deriving DecidableEq

/-- What an outside writer does to one user id: `none` removes its entry. -/
structure Edit where
  uid : UInt32
  entry : Option Entry
  deriving DecidableEq

abbrev Slots := List (UInt32 × Entry)

namespace Slots

def Sorted (s : Slots) : Prop := s.Pairwise (·.1 < ·.1)

def find? (uid : UInt32) : Slots → Option Entry
  | [] => none
  | (u, e) :: s => if u = uid then some e else find? uid s

def insert (uid : UInt32) (entry : Entry) : Slots → Slots
  | [] => [(uid, entry)]
  | (u, e) :: s =>
    if uid < u then (uid, entry) :: (u, e) :: s
    else if uid = u then (uid, entry) :: s
    else (u, e) :: insert uid entry s

def erase (uid : UInt32) (s : Slots) : Slots := s.filter fun p => p.1 ≠ uid

theorem mem_insert {uid : UInt32} {entry : Entry} {s : Slots} {p : UInt32 × Entry}
    (h : p ∈ insert uid entry s) : p = (uid, entry) ∨ p ∈ s := by
  induction s with
  | nil => simpa [insert] using h
  | cons q s ih => grind [insert]

theorem sorted_insert (uid : UInt32) (entry : Entry) {s : Slots} (h : Sorted s) :
    Sorted (insert uid entry s) := by
  induction s with
  | nil => simp [insert, Sorted]
  | cons q s ih =>
    obtain ⟨hq, hs⟩ := List.pairwise_cons.1 h
    simp only [insert]
    split
    · next hlt =>
      refine List.pairwise_cons.2 ⟨fun p hp => ?_, h⟩
      rcases List.mem_cons.1 hp with rfl | hp
      · exact hlt
      · exact UInt32.lt_trans hlt (hq p hp)
    split
    · next heq => exact List.pairwise_cons.2 ⟨fun p hp => heq ▸ hq p hp, hs⟩
    · next hlt hne =>
      refine List.pairwise_cons.2 ⟨fun p hp => ?_, ih hs⟩
      rcases mem_insert hp with rfl | hp
      · exact UInt32.lt_of_le_of_ne (UInt32.not_lt.1 hlt) (Ne.symm hne)
      · exact hq p hp

theorem find?_insert (uid u : UInt32) (entry : Entry) (s : Slots) :
    find? u (insert uid entry s) = if u = uid then some entry else find? u s := by
  induction s with
  | nil => grind [insert, find?]
  | cons q s ih => grind [insert, find?]

theorem find?_erase (uid u : UInt32) (s : Slots) :
    find? u (erase uid s) = if u = uid then none else find? u s := by
  induction s with
  | nil => simp [erase, find?]
  | cons q s ih =>
    simp only [erase, List.filter_cons] at ih ⊢
    grind [find?]

theorem find?_eq_none_of_lt {uid : UInt32} {s : Slots} (h : ∀ p ∈ s, uid < p.1) :
    find? uid s = none := by
  induction s with
  | nil => rfl
  | cons q s ih =>
    have hq : q.1 ≠ uid := (UInt32.ne_of_lt (h q List.mem_cons_self)).symm
    simp only [find?, hq, if_false]
    exact ih fun p hp => h p (List.mem_cons_of_mem q hp)

theorem eq_of_find?_eq {s t : Slots} (hs : Sorted s) (ht : Sorted t)
    (h : ∀ uid, find? uid s = find? uid t) : s = t := by
  induction s generalizing t with
  | nil =>
    cases t with
    | nil => rfl
    | cons q t => simpa [find?] using h q.1
  | cons p s ih =>
    cases t with
    | nil => simpa [find?] using h p.1
    | cons q t =>
      obtain ⟨hp, hs⟩ := List.pairwise_cons.1 hs
      obtain ⟨hq, ht⟩ := List.pairwise_cons.1 ht
      have key : p.1 = q.1 := by
        rcases UInt32.lt_or_le p.1 q.1 with hlt | hle
        · have hn : find? p.1 (q :: t) = none := find?_eq_none_of_lt fun r hr => by
            rcases List.mem_cons.1 hr with rfl | hr
            · exact hlt
            · exact UInt32.lt_trans hlt (hq r hr)
          exact absurd hn (by rw [← h]; simp [find?])
        · refine Classical.byContradiction fun hne => ?_
          have hn : find? q.1 (p :: s) = none := find?_eq_none_of_lt fun r hr => by
            have hlt := UInt32.lt_of_le_of_ne hle (Ne.symm hne)
            rcases List.mem_cons.1 hr with rfl | hr
            · exact hlt
            · exact UInt32.lt_trans hlt (hp r hr)
          exact absurd hn (by rw [h]; simp [find?])
      have entry : p.2 = q.2 := by
        have := h p.1
        simpa [find?, key] using this
      rw [Prod.ext key entry, ih hs ht]
      intro uid
      by_cases hu : uid = q.1
      · rw [find?_eq_none_of_lt fun r hr => hu ▸ key ▸ hp r hr,
          find?_eq_none_of_lt fun r hr => hu ▸ hq r hr]
      · have := h uid
        simpa [find?, key, Ne.symm hu] using this

end Slots

structure OwnerMap where
  slots : Slots
  sorted : slots.Sorted

namespace OwnerMap

def empty : OwnerMap := ⟨[], List.Pairwise.nil⟩

def get? (m : OwnerMap) (uid : UInt32) : Option Entry := m.slots.find? uid

def insert (m : OwnerMap) (uid : UInt32) (entry : Entry) : OwnerMap :=
  ⟨m.slots.insert uid entry, Slots.sorted_insert uid entry m.sorted⟩

def erase (m : OwnerMap) (uid : UInt32) : OwnerMap :=
  ⟨m.slots.erase uid, m.sorted.filter _⟩

def ofList (s : List (UInt32 × Entry)) : OwnerMap :=
  s.foldl (fun m p => m.insert p.1 p.2) empty

def toList (m : OwnerMap) : List (UInt32 × Entry) := m.slots

def edit (m : OwnerMap) (e : Edit) : OwnerMap :=
  match e.entry with
  | some entry => m.insert e.uid entry
  | none => m.erase e.uid

def editAll (m : OwnerMap) (es : List Edit) : OwnerMap := es.foldl edit m

theorem ext_get? {m n : OwnerMap} (h : ∀ uid, m.get? uid = n.get? uid) : m = n := by
  obtain ⟨s, hs⟩ := m
  obtain ⟨t, ht⟩ := n
  obtain rfl := Slots.eq_of_find?_eq hs ht h
  rfl

theorem get?_insert (m : OwnerMap) (uid u : UInt32) (entry : Entry) :
    (m.insert uid entry).get? u = if u = uid then some entry else m.get? u :=
  Slots.find?_insert uid u entry m.slots

theorem get?_erase (m : OwnerMap) (uid u : UInt32) :
    (m.erase uid).get? u = if u = uid then none else m.get? u :=
  Slots.find?_erase uid u m.slots

theorem get?_edit (m : OwnerMap) (e : Edit) (u : UInt32) :
    (m.edit e).get? u = if u = e.uid then e.entry else m.get? u := by
  unfold edit
  cases h : e.entry with
  | none => exact get?_erase m e.uid u
  | some entry => exact get?_insert m e.uid u entry

end OwnerMap

end OwnerRules

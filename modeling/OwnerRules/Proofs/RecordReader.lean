import Mathlib.Data.List.Nodup
import OwnerRules.Json.Record
import OwnerRules.Proofs.ValueReader

namespace OwnerRules.Json

variable {ρ α : Type}

structure Slot (ρ α : Type) where
  name : String
  Content : Type
  get : ρ → Option Content
  set : ρ → Content → ρ
  read : Reader Content
  shrinks : read.Shrinks
  Means : Value → Content → Prop
  reads : read.Reads Means
  content : α → Content
  default? : Option Content

namespace Slot

def field (t : Slot ρ α) : Field ρ := .of t.name t.get t.set t.read t.shrinks

def Holds (t : Slot ρ α) (a : α) : Option t.Content → List Value → Prop
  | o, [] => o.or t.default? = some (t.content a)
  | none, [v] => t.Means v (t.content a)
  | _, _ => False

variable {t : Slot ρ α} {a : α}

theorem holds_some_iff {c : t.Content} {vs : List Value} :
    t.Holds a (some c) vs ↔ vs = [] ∧ c = t.content a := by
  cases vs <;> simp [Holds]

theorem holds_cons_iff {v : Value} {vs : List Value} :
    t.Holds a none (v :: vs) ↔ vs = [] ∧ t.Means v (t.content a) := by
  cases vs <;> simp [Holds]

end Slot

def named (name : String) (ms : List (Option String × Value)) : List Value :=
  (ms.filter fun m => m.1 = some name).map (·.2)

@[simp] theorem named_nil (name : String) : named name [] = [] := rfl

theorem named_cons_self (name : String) (v : Value) (ms : List (Option String × Value)) :
    named name ((some name, v) :: ms) = v :: named name ms := by
  simp [named]

theorem named_cons_of_ne {name : String} {k : Option String} (h : k ≠ some name) (v : Value)
    (ms : List (Option String × Value)) : named name ((k, v) :: ms) = named name ms := by
  simp [named, h]

namespace Shape

structure Laid (s : Shape ρ α) (slots : List (Slot ρ α)) : Prop where
  fields_eq : s.fields = slots.map Slot.field
  names_nodup : (slots.map Slot.name).Nodup
  get_set : ∀ t ∈ slots, ∀ p c, t.get (t.set p c) = some c
  get_set_of_ne : ∀ t ∈ slots, ∀ t' ∈ slots, t.name ≠ t'.name → ∀ p c,
    t'.get (t.set p c) = t'.get p
  get_start : ∀ t ∈ slots, t.get s.start = none
  finish_iff : ∀ missing p a, s.finish missing p = .ok a ↔
    ∀ t ∈ slots, (t.get p).or t.default? = some (t.content a)

variable {s : Shape ρ α} {slots : List (Slot ρ α)}

theorem Laid.eq_of_name (h : s.Laid slots) {t t' : Slot ρ α} (ht : t ∈ slots) (ht' : t' ∈ slots)
    (hname : t.name = t'.name) : t = t' :=
  List.inj_on_of_nodup_map h.names_nodup ht ht' hname

theorem Laid.holds_set (h : s.Laid slots) {t₀ : Slot ρ α} (ht₀ : t₀ ∈ slots) {p : ρ}
    (hp : t₀.get p = none) (v : Value) (ms : List (Option String × Value)) (a : α) :
    (∃ c, t₀.Means v c ∧ ∀ t ∈ slots, t.Holds a (t.get (t₀.set p c)) (named t.name ms)) ↔
      ∀ t ∈ slots, t.Holds a (t.get p) (named t.name ((some t₀.name, v) :: ms)) := by
  constructor
  · rintro ⟨c, hc, hall⟩ t ht
    by_cases hname : t₀.name = t.name
    · obtain rfl := h.eq_of_name ht₀ ht hname
      have hown := hall t₀ ht
      rw [h.get_set t₀ ht, Slot.holds_some_iff] at hown
      rw [named_cons_self, hp, Slot.holds_cons_iff, ← hown.2]
      exact ⟨hown.1, hc⟩
    · rw [named_cons_of_ne (by simpa using hname), ← h.get_set_of_ne t₀ ht₀ t ht hname p c]
      exact hall t ht
  · intro hall
    have hown := hall t₀ ht₀
    rw [named_cons_self, hp, Slot.holds_cons_iff] at hown
    obtain ⟨hrest, hmeans⟩ := hown
    refine ⟨t₀.content a, hmeans, fun t ht => ?_⟩
    by_cases hname : t₀.name = t.name
    · obtain rfl := h.eq_of_name ht₀ ht hname
      rw [h.get_set t₀ ht, Slot.holds_some_iff]
      exact ⟨hrest, rfl⟩
    · have hother := hall t ht
      have hget := h.get_set_of_ne t₀ ht₀ t ht hname p (t₀.content a)
      rwa [named_cons_of_ne (by simpa using hname), ← hget] at hother

section Members

def Stores (slots : List (Slot ρ α)) (p : ρ) (m : Option String × Value) (q : ρ) : Prop :=
  (∃ t ∈ slots, m.1 = some t.name ∧ t.get p = none ∧ ∃ c, t.Means m.2 c ∧ q = t.set p c) ∨
    (∃ key, m.1 = some key ∧ (∀ t ∈ slots, t.name ≠ key) ∧ q = p)

theorem not_stores_none {p q : ρ} {v : Value} : ¬ Stores slots p (none, v) q := by
  rintro (⟨t, -, hk, -⟩ | ⟨key, hk, -⟩) <;> cases hk

theorem stores_of_unknown {key : String} (hunknown : ∀ t ∈ slots, t.name ≠ key) {p q : ρ}
    {v : Value} : Stores slots p (some key, v) q ↔ q = p := by
  constructor
  · rintro (⟨t, ht, hk, -⟩ | ⟨-, -, -, hq⟩)
    · exact absurd (Option.some.inj hk).symm (hunknown t ht)
    · exact hq
  · intro hq
    exact .inr ⟨key, rfl, hunknown, hq⟩

theorem Laid.stores_of_mem (h : s.Laid slots) {t : Slot ρ α} (ht : t ∈ slots) {p q : ρ}
    {v : Value} :
    Stores slots p (some t.name, v) q ↔ t.get p = none ∧ ∃ c, t.Means v c ∧ q = t.set p c := by
  constructor
  · rintro (⟨t', ht', hk, hstored⟩ | ⟨key, hk, hunknown, -⟩)
    · obtain rfl := h.eq_of_name ht ht' (Option.some.inj hk)
      exact hstored
    · exact absurd (Option.some.inj hk) (hunknown t ht)
  · intro hstored
    exact .inl ⟨t, ht, rfl, hstored⟩

theorem Laid.readMember_of_key (h : s.Laid slots) {cs r r' : List Char} {key : String}
    (htext : readText cs = .ok (key, r)) (hcolon : readColon r = .ok r') (p : ρ) :
    s.readMember p cs =
      match slots.find? fun t => t.name = key with
      | some t => if (t.get p).isSome then .error (.duplicateField key)
        else (t.read r').map fun q => (t.set p q.1, q.2)
      | none => (skipValue r').map fun r => (p, r) := by
  have hfind : s.fields.find? (fun f => f.name = key) =
      (slots.find? fun t => t.name = key).map Slot.field := by
    rw [h.fields_eq, List.find?_map]
    rfl
  rw [readMember]
  simp only [htext, hcolon, hfind, bind, Except.bind]
  cases slots.find? fun t => t.name = key with
  | none => cases skipValue r' <;> rfl
  | some t => rfl

theorem Laid.readMember_iff (h : s.Laid slots) {cs rest b b₁ e b₂ : List Char} {k : Option String}
    {v : Value}
    (hkey : ∀ key r, readText cs = .ok (key, r) ↔
      r = b ++ ':' :: (b₁ ++ (e ++ (b₂ ++ rest))) ∧ k = some key)
    (hb : Blanks b) (hb₁ : Blanks b₁) (he : Writes (.value v) e) (hb₂ : Blanks b₂)
    (hrest : Stops rest) (p q : ρ) (r : List Char) :
    s.readMember p cs = .ok (q, r) ↔ r = b₂ ++ rest ∧ Stores slots p (k, v) q := by
  have hstops := stops_blanks hb₂ hrest
  cases k with
  | none =>
    refine iff_of_false (fun hread => ?_) fun hstored => not_stores_none hstored.2
    obtain ⟨⟨key, r'⟩, htext, -⟩ := bind_eq_ok.1 hread
    cases ((hkey key r').mp htext).2
  | some key =>
    have htext := (hkey key _).mpr ⟨rfl, rfl⟩
    rw [h.readMember_of_key htext (readColon_append hb _)]
    cases hfind : slots.find? fun t => t.name = key with
    | none =>
      have hunknown : ∀ t ∈ slots, t.name ≠ key := by
        simpa using List.find?_eq_none.mp hfind
      rw [stores_of_unknown hunknown]
      simp only [skipValue_append hb₁ he hstops, Except.map, Except.ok.injEq, Prod.mk.injEq]
      constructor
      · rintro ⟨rfl, rfl⟩
        exact ⟨rfl, rfl⟩
      · rintro ⟨rfl, rfl⟩
        exact ⟨rfl, rfl⟩
    | some t =>
      have ht : t ∈ slots := List.mem_of_find?_eq_some hfind
      obtain rfl : t.name = key := by simpa using List.find?_some hfind
      rw [h.stores_of_mem ht]
      dsimp only
      split
      · next hgiven =>
        refine iff_of_false nofun ?_
        rintro ⟨-, hp, -⟩
        simp [hp] at hgiven
      · next hgiven =>
        have hp : t.get p = none := by simpa using hgiven
        have hvalue := t.reads.value_iff v e (b₂ ++ rest) he hstops
        rw [t.reads.blanks b₁ _ hb₁, map_eq_ok]
        constructor
        · rintro ⟨⟨c, r'⟩, hread, heq⟩
          obtain ⟨rfl, hc⟩ := (hvalue c r').mp hread
          cases heq
          exact ⟨rfl, hp, c, hc, rfl⟩
        · rintro ⟨rfl, -, c, hc, rfl⟩
          exact ⟨(c, _), (hvalue c _).mpr ⟨rfl, hc⟩, rfl⟩

def HoldsFrom (slots : List (Slot ρ α)) (p : ρ) (ms : List (Option String × Value)) (a : α) :
    Prop :=
  (∀ m ∈ ms, m.1 ≠ none) ∧ ∀ t ∈ slots, t.Holds a (t.get p) (named t.name ms)

theorem Laid.holdsFrom_nil (h : s.Laid slots) (missing : Nat → String → Error) (p : ρ) (a : α) :
    s.finish missing p = .ok a ↔ HoldsFrom slots p [] a := by
  rw [h.finish_iff]
  simp [HoldsFrom, Slot.Holds]

theorem Laid.holdsFrom_cons (h : s.Laid slots) (p : ρ) (m : Option String × Value)
    (ms : List (Option String × Value)) (a : α) :
    (∃ q, Stores slots p m q ∧ HoldsFrom slots q ms a) ↔ HoldsFrom slots p (m :: ms) a := by
  obtain ⟨k, v⟩ := m
  cases k with
  | none =>
    refine iff_of_false (fun ⟨q, hstored, _⟩ => not_stores_none hstored) fun hall => ?_
    exact hall.1 _ List.mem_cons_self rfl
  | some key =>
    have hkeys : (∀ m ∈ (some key, v) :: ms, m.1 ≠ none) ↔ ∀ m ∈ ms, m.1 ≠ none := by simp
    unfold HoldsFrom
    rw [hkeys]
    by_cases hknown : ∃ t ∈ slots, t.name = key
    · obtain ⟨t₀, ht₀, rfl⟩ := hknown
      simp only [h.stores_of_mem ht₀]
      constructor
      · rintro ⟨_, ⟨hp, c, hc, rfl⟩, hothers, hall⟩
        exact ⟨hothers, (h.holds_set ht₀ hp v ms a).mp ⟨c, hc, hall⟩⟩
      · rintro ⟨hothers, hall⟩
        have hp : t₀.get p = none := by
          have hown := hall t₀ ht₀
          rw [named_cons_self] at hown
          cases hget : t₀.get p with
          | none => rfl
          | some c =>
            rw [hget, Slot.holds_some_iff] at hown
            cases hown.1
        obtain ⟨c, hc, hall⟩ := (h.holds_set ht₀ hp v ms a).mpr hall
        exact ⟨_, ⟨hp, c, hc, rfl⟩, hothers, hall⟩
    · have hunknown : ∀ t ∈ slots, t.name ≠ key := fun t ht hname => hknown ⟨t, ht, hname⟩
      have hsame : ∀ t ∈ slots, named t.name ((some key, v) :: ms) = named t.name ms := by
        intro t ht
        exact named_cons_of_ne (by simpa using (hunknown t ht).symm) v ms
      simp only [stores_of_unknown hunknown, exists_eq_left]
      refine and_congr_right fun _ => forall₂_congr fun t ht => ?_
      rw [hsame t ht]

theorem nextKey_closing {b : List Char} (hb : Blanks b) (first : Bool) (rest : List Char) :
    nextKey first (b ++ '}' :: rest) = .ok (false, rest) := by
  rw [nextKey, skipBlanks_append hb]
  rfl

theorem nextKey_first {cs r : List Char} (h : skipBlanks cs = '"' :: r) :
    nextKey true cs = .ok (true, r) := by
  rw [nextKey, h]
  rfl

theorem nextKey_comma {b cs r : List Char} (hb : Blanks b) (h : skipBlanks cs = '"' :: r) :
    nextKey false (b ++ ',' :: cs) = .ok (true, r) := by
  rw [nextKey, skipBlanks_append hb, skipBlanks_cons rfl]
  simp only [h]
  rfl

def Completes (s : Shape ρ α) (first : Bool) (p : ρ) (cs rest : List Char) (a : α) : Prop :=
  ∃ q, s.readMembers first p cs = .ok (q, rest) ∧
    s.finish (fun _ name => .missingField name) q = .ok a

theorem Laid.completes_closing (h : s.Laid slots) {b : List Char} (hb : Blanks b) (first : Bool)
    (p : ρ) (rest rest' : List Char) (a : α) :
    s.Completes first p (b ++ '}' :: rest) rest' a ↔ rest' = rest ∧ HoldsFrom slots p [] a := by
  rw [← h.holdsFrom_nil fun _ name => .missingField name]
  simp [Completes, readMembers_eq, nextKey_closing hb, Except.bind, eq_comm]

theorem completes_of_nextKey {first : Bool} {p : ρ} {cs r rest : List Char} {a : α}
    (hnext : nextKey first cs = .ok (true, r)) :
    s.Completes first p cs rest a ↔
      ∃ q r', s.readMember p r = .ok (q, r') ∧ s.Completes false q r' rest a := by
  have hread : s.readMembers first p cs =
      (s.readMember p r).bind fun q => s.readMembers false q.1 q.2 := by
    rw [readMembers_eq, hnext]
    rfl
  simp only [Completes, hread]
  constructor
  · rintro ⟨q', hread', hfinish⟩
    obtain ⟨⟨q, r'⟩, hmember, hothers⟩ := bind_eq_ok.1 hread'
    exact ⟨q, r', hmember, q', hothers, hfinish⟩
  · rintro ⟨q, r', hmember, q', hothers, hfinish⟩
    exact ⟨q', bind_eq_ok.2 ⟨(q, r'), hmember, hothers⟩, hfinish⟩

theorem Laid.exists_key (h : s.Laid slots) {m : Option String × Value} {e rest : List Char}
    (he : Writes (.member m) e) (hrest : Stops rest) :
    ∃ r b, skipBlanks (e ++ rest) = '"' :: r ∧ Blanks b ∧
      ∀ p q r', s.readMember p r = .ok (q, r') ↔ r' = b ++ rest ∧ Stores slots p m q := by
  cases he with
  | @member k v b l b' _ hb hl hb' he =>
    cases he with
    | @element _ b₁ t b₂ hb₁ ht hb₂ =>
      obtain ⟨r, hr, -, hkey⟩ := hl.readers (b' ++ ':' :: (b₁ ++ (t ++ (b₂ ++ rest))))
      refine ⟨r, b₂, ?_, hb₂, h.readMember_iff hkey hb' hb₁ ht hb₂ hrest⟩
      have hsplit : b ++ (l ++ (b' ++ ':' :: (b₁ ++ (t ++ b₂)))) ++ rest =
          b ++ (l ++ (b' ++ ':' :: (b₁ ++ (t ++ (b₂ ++ rest))))) := by simp
      rw [hsplit, skipBlanks_append hb, hr]
      rfl

theorem Laid.completes_member (h : s.Laid slots) {first : Bool} {p : ρ}
    {m : Option String × Value} {ms : List (Option String × Value)} {cs r r₁ rest rest' : List Char}
    {a : α} (hnext : nextKey first cs = .ok (true, r))
    (hkey : ∀ p q r', s.readMember p r = .ok (q, r') ↔ r' = r₁ ∧ Stores slots p m q)
    (hothers : ∀ q, s.Completes false q r₁ rest' a ↔ rest' = rest ∧ HoldsFrom slots q ms a) :
    s.Completes first p cs rest' a ↔ rest' = rest ∧ HoldsFrom slots p (m :: ms) a := by
  rw [completes_of_nextKey hnext, ← h.holdsFrom_cons]
  constructor
  · rintro ⟨q, r', hread, hcompletes⟩
    obtain ⟨rfl, hstores⟩ := (hkey p q r').mp hread
    obtain ⟨hrest, hholds⟩ := (hothers q).mp hcompletes
    exact ⟨hrest, q, hstores, hholds⟩
  · rintro ⟨hrest, q, hstores, hholds⟩
    exact ⟨q, r₁, (hkey p q r₁).mpr ⟨rfl, hstores⟩, (hothers q).mpr ⟨hrest, hholds⟩⟩

theorem Laid.completes_tail (h : s.Laid slots) {rest rest' : List Char} {a : α}
    {ms : List (Option String × Value)} {p : ρ} {b u : List Char} (hb : Blanks b)
    (hu : Tail (.members ms) (ms = []) u) :
    s.Completes false p (b ++ (u ++ '}' :: rest)) rest' a ↔
      rest' = rest ∧ HoldsFrom slots p ms a := by
  induction ms generalizing p b u with
  | nil =>
    cases hu with
    | done _ => exact h.completes_closing hb false p rest rest' a
    | comma hnone => cases hnone
  | cons m ms ih =>
    cases hu with
    | done hms => cases hms
    | comma hms =>
      obtain ⟨_, _, e, u, heq, rfl, he, hu⟩ := hms.exists_member
      cases heq
      obtain ⟨r, b₂, hr, hb₂, hkey⟩ := h.exists_key he (hu.stops (by decide : '}' ∈ _) rest)
      have hsplit : b ++ (',' :: (e ++ u) ++ '}' :: rest) =
          b ++ ',' :: (e ++ (u ++ '}' :: rest)) := by simp
      rw [hsplit]
      exact h.completes_member (nextKey_comma hb hr) hkey fun q => ih hb₂ hu

theorem Laid.completes_object (h : s.Laid slots) {ms : List (Option String × Value)}
    {t rest rest' : List Char} {p : ρ} {a : α} (ht : Writes (.members ms) t) :
    s.Completes true p (t ++ '}' :: rest) rest' a ↔ rest' = rest ∧ HoldsFrom slots p ms a := by
  obtain ⟨m, ms, e, u, rfl, rfl, he, hu⟩ := ht.exists_member
  obtain ⟨r, b, hr, hb, hkey⟩ := h.exists_key he (hu.stops (by decide : '}' ∈ _) rest)
  rw [List.append_assoc]
  exact h.completes_member (nextKey_first hr) hkey fun q => h.completes_tail hb hu

end Members

section Elements

def listed (names : List String) (vs : List Value) : List (Option String × Value) :=
  List.zipWith (fun name v => (some name, v)) names vs

theorem closeList_eq_ok {cs rest : List Char} :
    closeList cs = .ok rest ↔ skipBlanks cs = ']' :: rest := by
  unfold closeList
  split
  · next hr => simp [hr]
  · next hr => simp [hr, eq_comm]
  · next hr =>
    rw [hr]
    split <;> simp
  · next hn _ => exact ⟨nofun, fun h => absurd h (hn _)⟩

theorem nextElement_closing {b : List Char} (hb : Blanks b) (first : Bool) (rest : List Char) :
    nextElement first (b ++ ']' :: rest) = .ok none := by
  rw [nextElement, skipBlanks_append hb]
  rfl

variable {v : Value} {e : List Char}

theorem nextElement_first {b : List Char} (hb : Blanks b) (he : Writes (.value v) e)
    (rest : List Char) : nextElement true (b ++ (e ++ rest)) = .ok (some (e ++ rest)) := by
  obtain ⟨c, cs, rfl, hc, hblank⟩ := he.exists_head
  rw [nextElement, skipBlanks_append hb, List.cons_append, skipBlanks_cons hblank]
  simp [hc.ne_closing]

theorem nextElement_comma {b b' : List Char} (hb : Blanks b) (hb' : Blanks b')
    (he : Writes (.value v) e) (rest : List Char) :
    nextElement false (b ++ ',' :: (b' ++ (e ++ rest))) = .ok (some (e ++ rest)) := by
  obtain ⟨c, cs, rfl, hc, hblank⟩ := he.exists_head
  have hskip : skipBlanks (b' ++ c :: (cs ++ rest)) = c :: (cs ++ rest) := by
    rw [skipBlanks_append hb', skipBlanks_cons hblank]
  rw [nextElement, skipBlanks_append hb, skipBlanks_cons rfl]
  simp [hskip, hc.ne_closing]

def CompletesList (slots ts : List (Slot ρ α)) (first : Bool) (p : ρ) (cs rest : List Char)
    (a : α) : Prop :=
  ∃ q r, readElements (ts.map Slot.field) first p cs = .ok (q, r) ∧ HoldsFrom slots q [] a ∧
    closeList r = .ok rest

theorem Laid.completesList_element (h : s.Laid slots) {t₀ : Slot ρ α} {ts : List (Slot ρ α)}
    (ht₀ : t₀ ∈ slots) {p : ρ} (hp : t₀.get p = none) {first : Bool} {vs : List Value}
    {cs rest rest' r : List Char} {a : α}
    (hnext : nextElement first cs = .ok (some (e ++ r))) (he : Writes (.value v) e) (hr : Stops r)
    (hothers : ∀ c, CompletesList slots ts false (t₀.set p c) r rest' a ↔
      rest' = rest ∧ vs.length ≤ ts.length ∧
        HoldsFrom slots (t₀.set p c) (listed (ts.map Slot.name) vs) a) :
    CompletesList slots (t₀ :: ts) first p cs rest' a ↔
      rest' = rest ∧ (v :: vs).length ≤ (t₀ :: ts).length ∧
        HoldsFrom slots p (listed ((t₀ :: ts).map Slot.name) (v :: vs)) a := by
  have hread : readElements ((t₀ :: ts).map Slot.field) first p cs =
      (t₀.read (e ++ r)).bind fun q =>
        readElements (ts.map Slot.field) false (t₀.set p q.1) q.2 := by
    have hfield : t₀.field.read p (e ++ r) = (t₀.read (e ++ r)).map fun q => (t₀.set p q.1, q.2) :=
      rfl
    rw [List.map_cons, readElements]
    simp only [hnext, hfield, bind, Except.bind]
    cases t₀.read (e ++ r) <;> rfl
  have hset := h.holds_set ht₀ hp v (listed (ts.map Slot.name) vs) a
  have hvalue := t₀.reads.value_iff v e r he hr
  constructor
  · rintro ⟨q, r', hq, hholds, hclose⟩
    rw [hread] at hq
    obtain ⟨⟨c, r''⟩, hc, helements⟩ := bind_eq_ok.1 hq
    obtain ⟨rfl, hmeans⟩ := (hvalue c r'').mp hc
    obtain ⟨hrest, hlength, hkeys, hall⟩ := (hothers c).mp ⟨q, r', helements, hholds, hclose⟩
    exact ⟨hrest, Nat.succ_le_succ hlength, List.forall_mem_cons.mpr ⟨nofun, hkeys⟩,
      hset.mp ⟨c, hmeans, hall⟩⟩
  · rintro ⟨hrest, hlength, hkeys, hall⟩
    obtain ⟨c, hmeans, hall⟩ := hset.mpr hall
    obtain ⟨q, r', hq, hholds, hclose⟩ := (hothers c).mpr
      ⟨hrest, Nat.le_of_succ_le_succ hlength, (List.forall_mem_cons.mp hkeys).2, hall⟩
    refine ⟨q, r', ?_, hholds, hclose⟩
    rw [hread]
    exact bind_eq_ok.2 ⟨(c, r), (hvalue c r).mpr ⟨rfl, hmeans⟩, hq⟩

theorem completesList_nil {p : ρ} {first : Bool} {cs rest : List Char} {a : α} :
    CompletesList slots [] first p cs rest a ↔
      HoldsFrom slots p [] a ∧ skipBlanks cs = ']' :: rest := by
  simp [CompletesList, readElements, closeList_eq_ok]

theorem completesList_closing {b : List Char} (hb : Blanks b) (ts : List (Slot ρ α)) (first : Bool)
    (p : ρ) (rest rest' : List Char) (a : α) :
    CompletesList slots ts first p (b ++ ']' :: rest) rest' a ↔
      rest' = rest ∧ HoldsFrom slots p [] a := by
  have hread : readElements (ts.map Slot.field) first p (b ++ ']' :: rest) =
      .ok (p, b ++ ']' :: rest) := by
    cases ts with
    | nil => rfl
    | cons t ts =>
      rw [List.map_cons, readElements, nextElement_closing hb]
      rfl
  have hclose : closeList (b ++ ']' :: rest) = .ok rest := by
    rw [closeList_eq_ok, skipBlanks_append hb]
    rfl
  simp [CompletesList, hread, hclose, eq_comm, and_comm]

theorem Laid.get_set_others (h : s.Laid slots) {t₀ : Slot ρ α} {ts : List (Slot ρ α)}
    (hts : ∀ t ∈ t₀ :: ts, t ∈ slots) (hnodup : ((t₀ :: ts).map Slot.name).Nodup) {p : ρ}
    (hp : ∀ t ∈ t₀ :: ts, t.get p = none) (c : t₀.Content) :
    ∀ t ∈ ts, t.get (t₀.set p c) = none := by
  intro t ht
  have hmem := List.mem_cons_of_mem t₀ ht
  have hne : t₀.name ≠ t.name := by
    intro hname
    exact (List.nodup_cons.mp hnodup).1 (hname ▸ List.mem_map_of_mem ht)
  rw [h.get_set_of_ne t₀ (hts t₀ (List.mem_cons_self ..)) t (hts t hmem) hne]
  exact hp t hmem

theorem Laid.completesList_tail (h : s.Laid slots) {ts : List (Slot ρ α)}
    (hts : ∀ t ∈ ts, t ∈ slots) (hnodup : (ts.map Slot.name).Nodup) {p : ρ}
    (hp : ∀ t ∈ ts, t.get p = none) {vs : List Value} {b u rest rest' : List Char} {a : α}
    (hb : Blanks b) (hu : Tail (.elements vs) (vs = []) u) :
    CompletesList slots ts false p (b ++ (u ++ ']' :: rest)) rest' a ↔
      rest' = rest ∧ vs.length ≤ ts.length ∧
        HoldsFrom slots p (listed (ts.map Slot.name) vs) a := by
  induction ts generalizing vs p b u with
  | nil =>
    cases hu with
    | done hvs =>
      subst hvs
      rw [List.nil_append, completesList_closing hb]
      simp [listed]
    | comma hvs =>
      -- Another value is left over when all fields have theirs.
      obtain ⟨v, vs, e, u, rfl, -, -⟩ := hvs.exists_element
      rw [completesList_nil, skipBlanks_append hb, List.cons_append, skipBlanks_cons rfl]
      simp
  | cons t₀ ts ih =>
    cases hu with
    | done hvs =>
      subst hvs
      rw [List.nil_append, completesList_closing hb]
      simp [listed]
    | comma hvs =>
      obtain ⟨v, vs, e, u, rfl, rfl, he, hu⟩ := hvs.exists_element
      cases he with
      | @element _ b₁ e b₂ hb₁ he hb₂ =>
        have hsplit : b ++ (',' :: (b₁ ++ (e ++ b₂) ++ u) ++ ']' :: rest) =
            b ++ ',' :: (b₁ ++ (e ++ (b₂ ++ (u ++ ']' :: rest)))) := by simp
        have hstops := stops_blanks hb₂ (hu.stops (by decide : ']' ∈ _) rest)
        have ht₀ := hts t₀ (List.mem_cons_self ..)
        rw [hsplit]
        refine h.completesList_element ht₀ (hp t₀ (List.mem_cons_self ..))
          (nextElement_comma hb hb₁ he _) he hstops fun c => ?_
        exact ih (fun t ht => hts t (List.mem_cons_of_mem _ ht)) hnodup.of_cons
          (h.get_set_others hts hnodup hp c) hb₂ hu

theorem Laid.completesList_list (h : s.Laid slots) {vs : List Value} {t rest rest' : List Char}
    {a : α} (ht : Writes (.elements vs) t) :
    CompletesList slots slots true s.start (t ++ ']' :: rest) rest' a ↔
      rest' = rest ∧ vs.length ≤ slots.length ∧
        HoldsFrom slots s.start (listed (slots.map Slot.name) vs) a := by
  obtain ⟨v, vs, e, u, rfl, rfl, he, hu⟩ := ht.exists_element
  cases he with
  | @element _ b₁ e b₂ hb₁ he hb₂ =>
    have hsplit : b₁ ++ (e ++ b₂) ++ u ++ ']' :: rest =
        b₁ ++ (e ++ (b₂ ++ (u ++ ']' :: rest))) := by simp
    have hstops := stops_blanks hb₂ (hu.stops (by decide : ']' ∈ _) rest)
    rw [hsplit]
    cases slots with
    | nil =>
      obtain ⟨c, cs, rfl, hc, hblank⟩ := he.exists_head
      rw [completesList_nil, skipBlanks_append hb₁, List.cons_append, skipBlanks_cons hblank]
      simp [hc.ne_closing]
    | cons t₀ ts =>
      have hstart := h.get_start
      refine h.completesList_element (List.mem_cons_self ..) (hstart t₀ (List.mem_cons_self ..))
        (nextElement_first hb₁ he _) he hstops fun c => ?_
      exact h.completesList_tail (fun t ht => List.mem_cons_of_mem _ ht) h.names_nodup.of_cons
        (h.get_set_others (fun _ => id) h.names_nodup hstart c) hb₂ hu

end Elements

section Documents

/-- What a document has to say for a record to come out of it. -/
def Says (slots : List (Slot ρ α)) (a : α) : Value → Prop
  | .object ms => (∀ m ∈ ms, m.1 ≠ none) ∧ ∀ t ∈ slots, t.Holds a none (named t.name ms)
  | .list vs => vs.length ≤ slots.length ∧
      ∀ t ∈ slots, t.Holds a none (named t.name (listed (slots.map Slot.name) vs))
  | _ => False

theorem key_of_mem_listed {names : List String} {vs : List Value} :
    ∀ m ∈ listed names vs, m.1 ≠ none := by
  induction names generalizing vs with
  | nil => simp [listed]
  | cons name names ih =>
    cases vs with
    | nil => simp [listed]
    | cons v vs => exact List.forall_mem_cons.mpr ⟨nofun, ih⟩

theorem Laid.holdsFrom_start (h : s.Laid slots) (ms : List (Option String × Value)) (a : α) :
    HoldsFrom slots s.start ms a ↔
      (∀ m ∈ ms, m.1 ≠ none) ∧ ∀ t ∈ slots, t.Holds a none (named t.name ms) := by
  refine and_congr_right fun _ => forall_congr' fun t => forall_congr' fun ht => ?_
  rw [h.get_start t ht]

theorem readObject_iff {cs rest : List Char} {a : α} :
    s.readObject cs = .ok (a, rest) ↔ s.Completes true s.start cs rest a := by
  constructor
  · intro h
    obtain ⟨⟨q, r⟩, hread, h⟩ := bind_eq_ok.1 h
    obtain ⟨a', hfinish, h⟩ := bind_eq_ok.1 h
    cases h
    exact ⟨q, hread, hfinish⟩
  · rintro ⟨q, hread, hfinish⟩
    exact bind_eq_ok.2 ⟨(q, rest), hread, bind_eq_ok.2 ⟨a, hfinish, rfl⟩⟩

theorem Laid.readList_iff (h : s.Laid slots) {cs rest : List Char} {a : α} :
    s.readList cs = .ok (a, rest) ↔ CompletesList slots slots true s.start cs rest a := by
  rw [CompletesList, ← h.fields_eq]
  constructor
  · intro hread
    obtain ⟨⟨q, r⟩, hread, hrest⟩ := bind_eq_ok.1 hread
    obtain ⟨a', hfinish, hrest⟩ := bind_eq_ok.1 hrest
    obtain ⟨r', hclose, hrest⟩ := bind_eq_ok.1 hrest
    cases hrest
    exact ⟨q, r, hread, (h.holdsFrom_nil _ q a).mp hfinish, hclose⟩
  · rintro ⟨q, r, hread, hholds, hclose⟩
    refine bind_eq_ok.2 ⟨(q, r), hread, bind_eq_ok.2 ⟨a, ?_, bind_eq_ok.2 ⟨rest, hclose, rfl⟩⟩⟩
    exact (h.holdsFrom_nil _ q a).mpr hholds

theorem ofText_eq_ok {text : String} {a : α} :
    s.ofText text = .ok a ↔ ∃ cs rest, skipBlanks rest = [] ∧
      (skipBlanks text.toList = '{' :: cs ∧ s.readObject cs = .ok (a, rest) ∨
        skipBlanks text.toList = '[' :: cs ∧ s.readList cs = .ok (a, rest)) := by
  have hend : ∀ {x : Except Error (α × List Char)}, (x.bind fun q =>
      if (skipBlanks q.2).isEmpty then .ok q.1 else .error .trailingCharacters) = .ok a ↔
      ∃ rest, skipBlanks rest = [] ∧ x = .ok (a, rest) := by
    intro x
    rw [Except.bind.eq_def]
    cases x with
    | error e => simp
    | ok q =>
      obtain ⟨a', rest⟩ := q
      by_cases hrest : skipBlanks rest = [] <;> simp [hrest]
  unfold ofText
  split
  · next cs hcs =>
    refine hend.trans ?_
    simp [hcs]
  · next cs hcs =>
    refine hend.trans ?_
    simp [hcs]
  · next hobject hlist =>
    refine ⟨nofun, ?_⟩
    rintro ⟨cs, rest, -, ⟨hcs, -⟩ | ⟨hcs, -⟩⟩
    · exact absurd hcs (hobject cs)
    · exact absurd hcs (hlist cs)

section Whole

variable {v : Value} {text : String} {cs b : List Char} {a : α}

theorem Laid.ofText_object (h : s.Laid slots) (htext : skipBlanks text.toList = '{' :: cs)
    (hb : Blanks b) {ms : List (Option String × Value)}
    (hread : ∀ rest, s.Completes true s.start cs rest a ↔ rest = b ∧ HoldsFrom slots s.start ms a) :
    s.ofText text = .ok a ↔ Says slots a (.object ms) := by
  rw [ofText_eq_ok, Says, ← h.holdsFrom_start]
  constructor
  · rintro ⟨cs', rest, -, ⟨hcs, hobject⟩ | ⟨hcs, -⟩⟩
    · rw [htext] at hcs
      obtain rfl := (List.cons.inj hcs).2
      exact ((hread rest).mp (readObject_iff.mp hobject)).2
    · rw [htext] at hcs
      cases hcs
  · intro hholds
    have hobject := readObject_iff.mpr ((hread b).mpr ⟨rfl, hholds⟩)
    exact ⟨cs, b, skipBlanks_eq_nil hb, .inl ⟨htext, hobject⟩⟩

theorem Laid.ofText_list (h : s.Laid slots) (htext : skipBlanks text.toList = '[' :: cs)
    (hb : Blanks b) {vs : List Value}
    (hread : ∀ rest, CompletesList slots slots true s.start cs rest a ↔ rest = b ∧
      vs.length ≤ slots.length ∧ HoldsFrom slots s.start (listed (slots.map Slot.name) vs) a) :
    s.ofText text = .ok a ↔ Says slots a (.list vs) := by
  have hmeans : Says slots a (.list vs) ↔ vs.length ≤ slots.length ∧
      HoldsFrom slots s.start (listed (slots.map Slot.name) vs) a := by
    rw [h.holdsFrom_start]
    exact and_congr_right fun _ => (and_iff_right key_of_mem_listed).symm
  rw [ofText_eq_ok, hmeans]
  constructor
  · rintro ⟨cs', rest, -, ⟨hcs, -⟩ | ⟨hcs, hlist⟩⟩
    · rw [htext] at hcs
      cases hcs
    · rw [htext] at hcs
      obtain rfl := (List.cons.inj hcs).2
      exact ((hread rest).mp (h.readList_iff.mp hlist)).2
  · intro hholds
    have hlist := h.readList_iff.mpr ((hread b).mpr ⟨rfl, hholds⟩)
    exact ⟨cs, b, skipBlanks_eq_nil hb, .inr ⟨htext, hlist⟩⟩

theorem ofText_scalar {t : List Char} (htext : skipBlanks text.toList = t ++ b)
    (ht : Writes (.value v) t) (hobject : ∀ ms, v ≠ .object ms) (hlist : ∀ vs, v ≠ .list vs) :
    ¬ s.ofText text = .ok a := by
  intro hread
  obtain ⟨cs, rest, -, ⟨hcs, -⟩ | ⟨hcs, -⟩⟩ := ofText_eq_ok.mp hread
  · rw [htext, ← skipBlanks_value ht] at hcs
    obtain ⟨ms, rfl⟩ := (ht.head hcs).exists_object
    exact hobject ms rfl
  · rw [htext, ← skipBlanks_value ht] at hcs
    obtain ⟨vs, rfl⟩ := (ht.head hcs).exists_list
    exact hlist vs rfl

theorem Laid.ofText_iff (h : s.Laid slots) (hv : Document v text) (a : α) :
    s.ofText text = .ok a ↔ Says slots a v := by
  have hskip : ∃ t b, skipBlanks text.toList = t ++ b ∧ Writes (.value v) t ∧ Blanks b := by
    generalize htext : text.toList = cs
    rw [Document, htext] at hv
    cases hv with
    | element hb ht hb' =>
      exact ⟨_, _, by rw [skipBlanks_append hb, skipBlanks_value ht], ht, hb'⟩
  obtain ⟨t, b, htext, ht, hb⟩ := hskip
  cases ht with
  | emptyObject hb' =>
    rw [List.cons_append, List.append_assoc] at htext
    exact h.ofText_object htext hb fun rest => h.completes_closing hb' true s.start b rest a
  | object hms =>
    rw [List.cons_append, List.append_assoc] at htext
    exact h.ofText_object htext hb fun rest => h.completes_object hms
  | emptyList hb' =>
    rw [List.cons_append, List.append_assoc] at htext
    refine h.ofText_list htext hb fun rest => ?_
    exact (completesList_closing hb' slots true s.start b rest a).trans (by simp [listed])
  | list hvs =>
    rw [List.cons_append, List.append_assoc] at htext
    exact h.ofText_list htext hb fun rest => h.completesList_list hvs
  | null => exact iff_of_false (ofText_scalar htext .null nofun nofun) id
  | yes => exact iff_of_false (ofText_scalar htext .yes nofun nofun) id
  | no => exact iff_of_false (ofText_scalar htext .no nofun nofun) id
  | text hl => exact iff_of_false (ofText_scalar htext (.text hl) nofun nofun) id
  | number hl => exact iff_of_false (ofText_scalar htext (.number hl) nofun nofun) id

end Whole

end Documents

end Shape

end OwnerRules.Json

import OwnerRules.Logging.Format
import OwnerRules.Proofs.SkippedValue

namespace OwnerRules.Json

variable {α β : Type}

/-- A reader that takes the values with a meaning and nothing else. -/
structure Reader.Reads (r : Reader α) (Means : Value → α → Prop) : Prop where
  blanks : ∀ b cs, Blanks b → r (b ++ cs) = r cs
  value_iff : ∀ v t rest, Writes (.value v) t → Stops rest → ∀ a rest',
    r (t ++ rest) = .ok (a, rest') ↔ rest' = rest ∧ Means v a
  exists_value : ∀ cs a rest, r cs = .ok (a, rest) →
    ∃ b v t, cs = b ++ (t ++ rest) ∧ Blanks b ∧ Writes (.value v) t

theorem Reader.Reads.map {r : Reader α} {Means : Value → α → Prop} (h : r.Reads Means) (f : α → β) :
    Reader.Reads (fun cs => (r cs).map fun p => (f p.1, p.2))
      (fun v b => ∃ a, Means v a ∧ f a = b) where
  blanks b cs hb := by simp only [h.blanks b cs hb]
  value_iff v t rest ht hrest b rest' := by
    simp only [map_eq_ok]
    constructor
    · rintro ⟨⟨a, r⟩, hread, heq⟩
      cases heq
      obtain ⟨rfl, ha⟩ := (h.value_iff v t rest ht hrest a _).mp hread
      exact ⟨rfl, a, ha, rfl⟩
    · rintro ⟨rfl, a, ha, rfl⟩
      exact ⟨(a, rest'), (h.value_iff v t rest' ht hrest a rest').mpr ⟨rfl, ha⟩, rfl⟩
  exists_value cs b rest hread := by
    obtain ⟨⟨a, r⟩, ha, heq⟩ := map_eq_ok.mp hread
    cases heq
    exact h.exists_value cs a _ ha

theorem Reader.Reads.congr {r : Reader α} {Means Means' : Value → α → Prop} (h : r.Reads Means)
    (heq : ∀ v a, Means v a ↔ Means' v a) : r.Reads Means' where
  blanks := h.blanks
  value_iff v t rest ht hrest a rest' := by rw [h.value_iff v t rest ht hrest, heq]
  exists_value := h.exists_value

theorem Numeral.head {l rest cs : List Char} {c : Char} (h : Numeral l)
    (hskip : skipBlanks (l ++ rest) = c :: cs) : c = '-' ∨ c.isDigit = true :=
  Writes.head (.number h) hskip

section Integers

def IntegerMeans (lo hi : Int) (v : Value) (i : Int) : Prop :=
  ∃ l, v = .number l ∧ IntegerLiteral l i ∧ lo ≤ i ∧ i ≤ hi

theorem readInteger_eq_ok {lo hi : Int} {expected : String} {cs rest : List Char} {i : Int} :
    readInteger lo hi expected cs = .ok (i, rest) ↔
      readNumber (skipBlanks cs) = .ok (.integer i, rest) ∧ lo ≤ i ∧ i ≤ hi := by
  unfold readInteger
  split
  · next hskip =>
    rw [hskip]
    exact ⟨nofun, nofun⟩
  · next c cs' hskip =>
    rw [hskip]
    split
    · rw [bind_eq_ok]
      constructor
      · rintro ⟨⟨n, r⟩, hn, h⟩
        dsimp only at h
        split at h
        · cases h
        · split at h
          · next hbounds =>
            cases h
            exact ⟨hn, hbounds⟩
          · cases h
      · rintro ⟨hn, hbounds⟩
        exact ⟨_, hn, by simp only [if_pos hbounds]⟩
    · next hhead =>
      refine ⟨nofun, fun h => ?_⟩
      obtain ⟨l, hl, hi, -⟩ := readNumber_eq_integer.mp h.1
      obtain ⟨c', l, rfl, hc⟩ := hi.numeral.exists_cons
      obtain ⟨rfl, -⟩ := List.cons.inj hl
      exact absurd hc hhead

theorem reads_readInteger (lo hi : Int) (hlo : -0x8000000000000000 ≤ lo)
    (hhi : hi < 0x10000000000000000) (expected : String) :
    (readInteger lo hi expected).Reads (IntegerMeans lo hi) where
  blanks b cs hb := by simp only [readInteger, skipBlanks_append hb]
  value_iff v t rest ht hrest i rest' := by
    have hskip := skipBlanks_value ht rest
    rw [readInteger_eq_ok, hskip, readNumber_eq_integer]
    constructor
    · rintro ⟨⟨l, hl, hi, hstops, -⟩, hbounds⟩
      obtain ⟨c, l', hcons, hc⟩ := hi.numeral.exists_cons
      have hhead : v.Head c := ht.head (by rw [hskip, hl, hcons, List.cons_append])
      obtain ⟨l'', rfl⟩ := hhead.exists_number hc
      cases ht with
      | number hnumeral =>
        obtain rfl := hnumeral.eq_rest hrest hi.numeral hstops hl
        obtain rfl := List.append_cancel_right hl
        exact ⟨rfl, t, rfl, hi, hbounds⟩
    · rintro ⟨rfl, l, rfl, hl, hbounds⟩
      cases ht with
      | number _ => exact ⟨⟨t, rfl, hl, hrest, by omega, by omega⟩, hbounds⟩
  exists_value cs i rest h := by
    obtain ⟨hread, -⟩ := readInteger_eq_ok.mp h
    obtain ⟨l, hl, hi, -⟩ := readNumber_eq_integer.mp hread
    obtain ⟨b, hb, hcs⟩ := exists_blanks cs
    exact ⟨b, _, l, by rw [← hl, ← hcs], hb, .number hi.numeral⟩

theorem reads_readInt32 :
    readInt32.Reads fun v i => ∃ l, v = .number l ∧ IntegerLiteral l i.toInt := by
  have hread := reads_readInteger (-0x80000000) 0x7FFFFFFF (by decide) (by decide) "i32"
  have h := hread.map Int32.ofInt
  refine h.congr fun v i => ⟨?_, ?_⟩
  · rintro ⟨j, ⟨l, rfl, hl, hlo, hhi⟩, rfl⟩
    rw [Int32.toInt_ofInt_of_le (by omega) (by omega)]
    exact ⟨l, rfl, hl⟩
  · rintro ⟨l, rfl, hl⟩
    have hlo := i.le_toInt
    have hhi := i.toInt_lt
    exact ⟨i.toInt, ⟨l, rfl, hl, by omega, by omega⟩, Int32.ofInt_toInt i⟩

theorem reads_readUInt64 :
    readUInt64.Reads fun v n => ∃ l, v = .number l ∧ IntegerLiteral l n.toNat := by
  have h := (reads_readInteger 0 0xFFFFFFFFFFFFFFFF (by decide) (by decide) "u64").map
    fun i => UInt64.ofNat i.toNat
  refine h.congr fun v n => ⟨?_, ?_⟩
  · rintro ⟨i, ⟨l, rfl, hl, hlo, hhi⟩, rfl⟩
    have hn : ((UInt64.ofNat i.toNat).toNat : Int) = i := by
      rw [UInt64.toNat_ofNat_of_lt' (by simp [UInt64.size]; omega)]
      omega
    exact ⟨l, rfl, hn.symm ▸ hl⟩
  · rintro ⟨l, rfl, hl⟩
    have hn := n.toNat_lt
    exact ⟨n.toNat, ⟨l, rfl, hl, by omega, by omega⟩, by simp⟩

end Integers

section Words

theorem reads_readBool : readBool.Reads fun v b => v = .bool b where
  blanks b cs hb := by simp only [readBool, skipBlanks_append hb]
  value_iff v t rest ht hrest b rest' := by
    cases ht with
    | yes =>
      change Except.ok (true, rest) = Except.ok (b, rest') ↔ _
      simp [eq_comm, and_comm]
    | no =>
      change Except.ok (false, rest) = Except.ok (b, rest') ↔ _
      simp [eq_comm, and_comm]
    | number h =>
      refine ⟨fun hread => ?_, by rintro ⟨-, ⟨⟩⟩⟩
      unfold readBool at hread
      split at hread
      · next hr => exact absurd (h.head hr) (by decide)
      · next hr => exact absurd (h.head hr) (by decide)
      · cases hread
    | text h => cases h <;> exact iff_of_false (by rintro ⟨⟩) (by rintro ⟨-, ⟨⟩⟩)
    | _ => exact iff_of_false (by rintro ⟨⟩) (by rintro ⟨-, ⟨⟩⟩)
  exists_value cs b rest h := by
    obtain ⟨bl, hb, hcs⟩ := exists_blanks cs
    unfold readBool at h
    split at h
    · next r hr =>
      obtain ⟨r', hw, h⟩ := bind_eq_ok.1 h
      cases h
      exact ⟨bl, _, _, by rw [hcs, hr, eq_append_of_readWord hw]; rfl, hb, .yes⟩
    · next r hr =>
      obtain ⟨r', hw, h⟩ := bind_eq_ok.1 h
      cases h
      exact ⟨bl, _, _, by rw [hcs, hr, eq_append_of_readWord hw]; rfl, hb, .no⟩
    · cases h

theorem reads_readString (expected : String) :
    (readString expected).Reads fun v s => v = .text (some s) where
  blanks b cs hb := by simp only [readString, skipBlanks_append hb]
  value_iff v t rest ht hrest s rest' := by
    cases ht with
    | text h =>
      obtain ⟨cs, hcs, -, hread⟩ := h.readers rest
      rw [hcs, readString, skipBlanks_cons rfl]
      simp [hread]
    | number h =>
      refine ⟨fun hread => ?_, by rintro ⟨-, ⟨⟩⟩⟩
      unfold readString at hread
      split at hread
      · next hr => exact absurd (h.head hr) (by decide)
      · cases hread
    | _ => exact iff_of_false (by rintro ⟨⟩) (by rintro ⟨-, ⟨⟩⟩)
  exists_value cs s rest h := by
    obtain ⟨b, hb, hcs⟩ := exists_blanks cs
    unfold readString at h
    split at h
    · next r hr =>
      obtain ⟨body, rfl, hl⟩ := Literal.exists_of_readText h
      exact ⟨b, _, _, by rw [hcs, hr]; simp, hb, .text hl⟩
    · cases h

theorem reads_readPath : readPath.Reads fun v p => ∃ s, v = .text (some s) ∧ .ofString s = p :=
  (reads_readString "path string").map MapPath.ofString

def Nullable (Means : Value → α → Prop) (v : Value) : Option α → Prop
  | none => v = .null
  | some a => v ≠ .null ∧ Means v a

theorem Reader.Reads.nullable {r : Reader α} {Means : Value → α → Prop} (h : r.Reads Means) :
    (readNullable r).Reads (Nullable Means) where
  blanks b cs hb := by simp only [readNullable, skipBlanks_append hb]
  value_iff v t rest ht hrest o rest' := by
    by_cases hv : v = .null
    · subst hv
      cases ht
      change Except.ok (none, rest) = Except.ok (o, rest') ↔ _
      cases o <;> simp [Nullable, eq_comm]
    · have hread : readNullable r (t ++ rest) = (r (t ++ rest)).map fun p => (some p.1, p.2) := by
        unfold readNullable
        split
        · next cs hr => exact absurd (ht.head hr).eq_null hv
        · rw [skipBlanks_value ht]
      rw [hread, map_eq_ok]
      constructor
      · rintro ⟨⟨a, r'⟩, ha, heq⟩
        cases heq
        obtain ⟨rfl, hmeans⟩ := (h.value_iff v t rest ht hrest a _).mp ha
        exact ⟨rfl, hv, hmeans⟩
      · rintro ⟨rfl, hmeans⟩
        cases o with
        | none => exact absurd hmeans hv
        | some a =>
          have hvalue := (h.value_iff v t rest' ht hrest a _).mpr ⟨rfl, hmeans.2⟩
          exact ⟨(a, rest'), hvalue, rfl⟩
  exists_value cs o rest hread := by
    obtain ⟨b, hb, hcs⟩ := exists_blanks cs
    unfold readNullable at hread
    split at hread
    · next r' hr =>
      obtain ⟨r'', hw, hread⟩ := bind_eq_ok.1 hread
      cases hread
      exact ⟨b, _, _, by rw [hcs, hr, eq_append_of_readWord hw]; rfl, hb, .null⟩
    · obtain ⟨⟨a, r'⟩, ha, heq⟩ := map_eq_ok.mp hread
      cases heq
      rw [← h.blanks b _ hb, ← hcs] at ha
      exact h.exists_value cs a _ ha

end Words

section Variants

variable {ofName? : String → Option α}

theorem pickVariant_eq_ok {expected name : String} {a : α} :
    pickVariant ofName? expected name = .ok a ↔ ofName? name = some a := by
  unfold pickVariant
  split <;> simp [*]

theorem readNull_eq_ok {expected : String} {cs rest : List Char} :
    readNull expected cs = .ok rest ↔ skipBlanks cs = ['n', 'u', 'l', 'l'] ++ rest := by
  unfold readNull
  split
  · next r hr =>
    rw [hr]
    constructor
    · intro h
      rw [eq_append_of_readWord h]
      rfl
    · intro h
      obtain rfl := (List.cons.inj h).2
      rfl
  · next hn =>
    refine ⟨nofun, fun h => ?_⟩
    exact absurd h (hn _)

theorem readVariant_blanks {b : List Char} (hb : Blanks b) (expected : String) (cs : List Char) :
    readVariant ofName? expected (b ++ cs) = readVariant ofName? expected cs := by
  simp only [readVariant, skipBlanks_append hb]

theorem readVariant_object {expected : String} {cs rest : List Char} {a : α} :
    readVariant ofName? expected ('{' :: cs) = .ok (a, rest) ↔
      ∃ name r₀ r₁ r₂ r₃, skipBlanks cs = '"' :: r₀ ∧ readText r₀ = .ok (name, r₁) ∧
        ofName? name = some a ∧ readColon r₁ = .ok r₂ ∧ readNull "unit" r₂ = .ok r₃ ∧
        skipBlanks r₃ = '}' :: rest := by
  constructor
  · intro h
    unfold readVariant at h
    rw [skipBlanks_cons rfl] at h
    simp only at h
    split at h
    · cases h
    · next r₀ hr₀ =>
      obtain ⟨⟨name, r₁⟩, htext, h⟩ := bind_eq_ok.1 h
      obtain ⟨a', hpick, h⟩ := bind_eq_ok.1 h
      obtain ⟨r₂, hcolon, h⟩ := bind_eq_ok.1 h
      obtain ⟨r₃, hnull, h⟩ := bind_eq_ok.1 h
      split at h
      · cases h
      · next r₄ hr₄ =>
        cases h
        exact ⟨name, r₀, r₁, r₂, r₃, hr₀, htext, pickVariant_eq_ok.mp hpick, hcolon, hnull, hr₄⟩
      · cases h
    · cases h
    · cases h
  · rintro ⟨name, r₀, r₁, r₂, r₃, hr₀, htext, hname, hcolon, hnull, hr₃⟩
    have hpick : pickVariant ofName? expected name = .ok a := pickVariant_eq_ok.mpr hname
    rw [readVariant, skipBlanks_cons rfl]
    simp only [hr₀, htext, hpick, hcolon, hnull, hr₃, bind, Except.bind]

variable {expected : String} {rest rest' : List Char} {a : α}

theorem readVariant_text {l : List Char} {s : Option String} (h : Literal l s) :
    readVariant ofName? expected (l ++ rest) = .ok (a, rest') ↔
      rest' = rest ∧ ∃ name, s = some name ∧ ofName? name = some a := by
  obtain ⟨cs, hcs, -, hread⟩ := h.readers rest
  rw [hcs, readVariant, skipBlanks_cons rfl]
  constructor
  · intro h
    obtain ⟨⟨name, r⟩, htext, h⟩ := bind_eq_ok.1 h
    obtain ⟨a', hpick, h⟩ := bind_eq_ok.1 h
    cases h
    obtain ⟨rfl, hs⟩ := (hread name _).mp htext
    exact ⟨rfl, name, hs, pickVariant_eq_ok.mp hpick⟩
  · rintro ⟨rfl, name, hs, hname⟩
    have htext := (hread name rest').mpr ⟨rfl, hs⟩
    simp only [htext, pickVariant_eq_ok.mpr hname, bind, Except.bind, pure, Except.pure]

theorem readVariant_members {ms : List (Option String × Value)} {t : List Char}
    (h : Writes (.members ms) t) :
    readVariant ofName? expected ('{' :: (t ++ '}' :: rest)) = .ok (a, rest') ↔
      rest' = rest ∧ ∃ name, ms = [(some name, .null)] ∧ ofName? name = some a := by
  rw [readVariant_object]
  obtain ⟨⟨k, v⟩, ms, e, u, rfl, rfl, hmember, htail⟩ := h.exists_member
  cases hmember with
  | @member _ _ b l b' e hb hl hb' he =>
    cases he with
    | @element _ b₁ t b₂ hb₁ ht hb₂ =>
      have hsplit : b ++ (l ++ (b' ++ ':' :: (b₁ ++ (t ++ b₂)))) ++ u ++ '}' :: rest =
          b ++ (l ++ (b' ++ ':' :: (b₁ ++ (t ++ (b₂ ++ (u ++ '}' :: rest)))))) := by simp
      obtain ⟨r₀, hr₀, -, hread⟩ := hl.readers
        (b' ++ ':' :: (b₁ ++ (t ++ (b₂ ++ (u ++ '}' :: rest)))))
      rw [hsplit, hr₀, skipBlanks_append hb, skipBlanks_cons rfl]
      constructor
      · rintro ⟨name, r, r₁, r₂, r₃, hr, htext, hname, hcolon, hnull, hr₃⟩
        obtain rfl := (List.cons.inj hr).2
        obtain ⟨rfl, rfl⟩ := (hread name r₁).mp htext
        obtain rfl := Except.ok.inj ((readColon_append hb' _).symm.trans hcolon)
        rw [readNull_eq_ok, skipBlanks_append hb₁] at hnull
        obtain rfl := (ht.head hnull).eq_null
        rw [skipBlanks_value ht] at hnull
        cases ht
        obtain rfl := List.append_cancel_left hnull
        rw [skipBlanks_append hb₂] at hr₃
        cases htail with
        | done hms =>
          cases hr₃
          exact ⟨rfl, name, by rw [hms], hname⟩
        | comma _ => cases hr₃
      · rintro ⟨rfl, name, hms, hname⟩
        cases hms
        cases ht
        have htext := (hread name _).mpr ⟨rfl, rfl⟩
        have hnull : readNull "unit" (b₁ ++ (['n', 'u', 'l', 'l'] ++
            (b₂ ++ (u ++ '}' :: rest')))) = .ok (b₂ ++ (u ++ '}' :: rest')) := by
          rw [readNull_eq_ok, skipBlanks_append hb₁]
          rfl
        refine ⟨name, r₀, _, _, _, rfl, htext, hname, readColon_append hb' _, hnull, ?_⟩
        rw [skipBlanks_append hb₂]
        cases htail with
        | done _ => rfl
        | comma hnone => cases hnone

theorem exists_of_readVariant {cs : List Char}
    (h : readVariant ofName? expected cs = .ok (a, rest)) :
    ∃ b v t, cs = b ++ (t ++ rest) ∧ Blanks b ∧ Writes (.value v) t := by
  obtain ⟨b, hb, hcs⟩ := exists_blanks cs
  have hread := h
  unfold readVariant at hread
  split at hread
  · cases hread
  · next r hr =>
    obtain ⟨⟨name, r'⟩, htext, hpick⟩ := bind_eq_ok.1 hread
    obtain ⟨a', -, hpick⟩ := bind_eq_ok.1 hpick
    cases hpick
    obtain ⟨body, rfl, hl⟩ := Literal.exists_of_readText htext
    exact ⟨b, _, _, by rw [hcs, hr]; simp, hb, .text hl⟩
  · next r hr =>
    rw [hcs, hr, readVariant_blanks hb, readVariant_object] at h
    obtain ⟨name, r₀, r₁, r₂, r₃, hr₀, htext, -, hcolon, hnull, hr₃⟩ := h
    obtain ⟨b₁, hb₁, hcs₁⟩ := exists_blanks r
    obtain ⟨body, rfl, hl⟩ := Literal.exists_of_readText htext
    obtain ⟨b₂, hb₂, rfl⟩ := exists_of_readColon hcolon
    obtain ⟨b₃, hb₃, hcs₃⟩ := exists_blanks r₂
    obtain ⟨b₄, hb₄, hcs₄⟩ := exists_blanks r₃
    rw [readNull_eq_ok.mp hnull] at hcs₃
    have hmember := Writes.member hb₁ hl hb₂ (.element hb₃ .null hb₄)
    refine ⟨b, _, _, ?_, hb, .object (.oneMember hmember)⟩
    rw [hcs, hr, hcs₁, hr₀, hcs₃, hcs₄, hr₃]
    simp
  · cases hread

def VariantMeans (ofName? : String → Option α) (v : Value) (a : α) : Prop :=
  ∃ name, ofName? name = some a ∧ (v = .text (some name) ∨ v = .object [(some name, .null)])

theorem variantMeans_text {s : Option String} :
    VariantMeans ofName? (.text s) a ↔ ∃ name, s = some name ∧ ofName? name = some a := by
  simp [VariantMeans, and_comm]

theorem variantMeans_object {ms : List (Option String × Value)} :
    VariantMeans ofName? (.object ms) a ↔
      ∃ name, ms = [(some name, .null)] ∧ ofName? name = some a := by
  simp [VariantMeans, and_comm]

theorem reads_readVariant (ofName? : String → Option α) (expected : String) :
    (readVariant ofName? expected).Reads (VariantMeans ofName?) where
  blanks b cs hb := readVariant_blanks hb expected cs
  value_iff v t rest ht hrest a rest' := by
    cases ht with
    | text h => rw [readVariant_text h, variantMeans_text]
    | number h =>
      refine ⟨fun hread => ?_, by rintro ⟨-, name, -, h | h⟩ <;> cases h⟩
      unfold readVariant at hread
      split at hread
      · cases hread
      · next hr => exact absurd (h.head hr) (by decide)
      · next hr => exact absurd (h.head hr) (by decide)
      · cases hread
    | @emptyObject b hb =>
      rw [List.cons_append, List.append_assoc, readVariant_object, skipBlanks_append hb]
      constructor
      · rintro ⟨_, _, _, _, _, hquote, _⟩
        cases hquote
      · rintro ⟨-, name, -, h | h⟩ <;> cases h
    | object h =>
      rw [List.cons_append, List.append_assoc, variantMeans_object]
      exact readVariant_members h
    | _ => exact iff_of_false (by rintro ⟨⟩) (by rintro ⟨-, name, -, h | h⟩ <;> cases h)
  exists_value cs a rest h := exists_of_readVariant h

end Variants

end OwnerRules.Json

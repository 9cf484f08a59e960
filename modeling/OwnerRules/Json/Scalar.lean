import OwnerRules.Json.Skip
import OwnerRules.MapPath

namespace OwnerRules.Json

def mismatch (expected : String) (cs : List Char) : Error :=
  let found {α : Type} (read : Except Error α) (f : α → Found) : Error :=
    match read with
    | .error e => e
    | .ok a => .invalidType (f a) expected
  match cs with
  | [] => .endOfValue
  | 'n' :: cs => found (readWord "ull".toList cs) fun _ => .null
  | 't' :: cs => found (readWord "rue".toList cs) fun _ => .bool true
  | 'f' :: cs => found (readWord "alse".toList cs) fun _ => .bool false
  | '"' :: cs => found (readText cs) fun p => .text p.1
  | '[' :: _ => .invalidType .sequence expected
  | '{' :: _ => .invalidType .map expected
  | c :: cs =>
    if c = '-' ∨ c.isDigit then found (readNumber (c :: cs)) fun p => p.1.found
    else .expectedValue

def readInteger (lo hi : Int) (expected : String) : Reader Int := fun cs =>
  match skipBlanks cs with
  | [] => .error .endOfValue
  | c :: cs =>
    if c = '-' ∨ c.isDigit then do
      let (n, rest) ← readNumber (c :: cs)
      match n with
      | .float _ => .error (.invalidType n.found expected)
      | .integer i => if lo ≤ i ∧ i ≤ hi then .ok (i, rest) else .error (.invalidValue i expected)
    else .error (mismatch expected (c :: cs))

def readInt32 : Reader Int32 := fun cs =>
  (readInteger (-0x80000000) 0x7FFFFFFF "i32" cs).map fun p => (Int32.ofInt p.1, p.2)

def readUInt64 : Reader UInt64 := fun cs =>
  (readInteger 0 0xFFFFFFFFFFFFFFFF "u64" cs).map fun p => (UInt64.ofNat p.1.toNat, p.2)

def readBool : Reader Bool := fun cs =>
  match skipBlanks cs with
  | 't' :: cs => return (true, ← readWord "rue".toList cs)
  | 'f' :: cs => return (false, ← readWord "alse".toList cs)
  | cs => .error (mismatch "a boolean" cs)

def readString (expected : String) : Reader String := fun cs =>
  match skipBlanks cs with
  | '"' :: cs => readText cs
  | cs => .error (mismatch expected cs)

def readPath : Reader MapPath := fun cs =>
  (readString "path string" cs).map fun p => (.ofString p.1, p.2)

def readNull (expected : String) (cs : List Char) : Except Error (List Char) :=
  match skipBlanks cs with
  | 'n' :: cs => readWord "ull".toList cs
  | cs => .error (mismatch expected cs)

def readNullable {α : Type} (read : Reader α) : Reader (Option α) := fun cs =>
  match skipBlanks cs with
  | 'n' :: cs => return (none, ← readWord "ull".toList cs)
  | cs => (read cs).map fun p => (some p.1, p.2)

def pickVariant {α : Type} (ofName? : String → Option α) (expected name : String) :
    Except Error α :=
  match ofName? name with
  | some a => .ok a
  | none => .error (.unknownVariant name expected)

def readVariant {α : Type} (ofName? : String → Option α) (expected : String) : Reader α := fun cs =>
  match skipBlanks cs with
  | [] => .error .endOfValue
  | '"' :: cs => do
    let (name, rest) ← readText cs
    return (← pickVariant ofName? expected name, rest)
  | '{' :: cs =>
    match skipBlanks cs with
    | [] => .error .endOfObject
    | '"' :: cs => do
      let (name, rest) ← readText cs
      let a ← pickVariant ofName? expected name
      let rest ← readNull "unit" (← readColon rest)
      match skipBlanks rest with
      | [] => .error .endOfObject
      | '}' :: rest => .ok (a, rest)
      | _ => .error .expectedValue
    | '}' :: _ => .error .expectedValue
    | _ => .error .keyNotString
  | _ => .error .expectedValue

theorem map_eq_ok {α β : Type} {x : Except Error α} {f : α → β} {b : β} :
    x.map f = .ok b ↔ ∃ a, x = .ok a ∧ f a = b := by
  cases x <;> simp [Except.map]

theorem Reader.Shrinks.map {α β : Type} {r : Reader α} (h : r.Shrinks) (f : α → β) :
    Reader.Shrinks fun cs => (r cs).map fun p => (f p.1, p.2) := by
  intro cs b rest hr
  obtain ⟨⟨a, rest'⟩, ha, hb⟩ := map_eq_ok.1 hr
  cases hb
  exact h _ _ _ ha

theorem shrinks_readInteger (lo hi : Int) (expected : String) :
    (readInteger lo hi expected).Shrinks := by
  intro cs i rest h
  have hb := length_skipBlanks cs
  unfold readInteger at h
  split at h
  · cases h
  · next hs =>
    rw [hs] at hb
    split at h
    · obtain ⟨⟨n, r⟩, hn, h⟩ := bind_eq_ok.1 h
      have hl := length_readNumber hn
      dsimp only at h
      split at h
      · cases h
      · split at h
        · cases h
          omega
        · cases h
    · cases h

theorem shrinks_readInt32 : readInt32.Shrinks := (shrinks_readInteger _ _ _).map _

theorem shrinks_readUInt64 : readUInt64.Shrinks :=
  (shrinks_readInteger _ _ _).map fun i => UInt64.ofNat i.toNat

theorem shrinks_readBool : readBool.Shrinks := by
  intro cs b rest h
  have hb := length_skipBlanks cs
  unfold readBool at h
  split at h
  · next hs =>
    obtain ⟨r, hr, h⟩ := bind_eq_ok.1 h
    cases h
    have := length_readWord hr
    simp only [hs, List.length_cons] at hb
    omega
  · next hs =>
    obtain ⟨r, hr, h⟩ := bind_eq_ok.1 h
    cases h
    have := length_readWord hr
    simp only [hs, List.length_cons] at hb
    omega
  · cases h

theorem shrinks_readString (expected : String) : (readString expected).Shrinks := by
  intro cs s rest h
  have hb := length_skipBlanks cs
  unfold readString at h
  split at h
  · next hs =>
    have := length_readText h
    simp only [hs, List.length_cons] at hb
    omega
  · cases h

theorem shrinks_readPath : readPath.Shrinks := (shrinks_readString _).map _

theorem length_readNull {expected : String} {cs rest : List Char}
    (h : readNull expected cs = .ok rest) : rest.length ≤ cs.length := by
  have hb := length_skipBlanks cs
  unfold readNull at h
  split at h
  · next hs =>
    have := length_readWord h
    simp only [hs, List.length_cons] at hb
    omega
  · cases h

theorem Reader.Shrinks.nullable {α : Type} {r : Reader α} (hr : r.Shrinks) :
    (readNullable r).Shrinks := by
  intro cs a rest h
  have hb := length_skipBlanks cs
  unfold readNullable at h
  split at h
  · next hs =>
    obtain ⟨r, hw, h⟩ := bind_eq_ok.1 h
    cases h
    have := length_readWord hw
    simp only [hs, List.length_cons] at hb
    omega
  · obtain ⟨⟨b, rest'⟩, ha, h⟩ := map_eq_ok.1 h
    cases h
    exact Nat.le_trans (hr _ _ _ ha) hb

theorem shrinks_readVariant {α : Type} (ofName? : String → Option α) (expected : String) :
    (readVariant ofName? expected).Shrinks := by
  intro cs a rest h
  have hb := length_skipBlanks cs
  unfold readVariant at h
  split at h
  · cases h
  · next hs =>
    obtain ⟨⟨name, r⟩, hn, h⟩ := bind_eq_ok.1 h
    obtain ⟨b, _, h⟩ := bind_eq_ok.1 h
    cases h
    have := length_readText hn
    simp only [hs, List.length_cons] at hb
    omega
  · next cs' hs =>
    have hb' := length_skipBlanks cs'
    simp only [hs, List.length_cons] at hb
    split at h
    · cases h
    · next hs' =>
      obtain ⟨⟨name, r1⟩, h1, h⟩ := bind_eq_ok.1 h
      obtain ⟨b, _, h⟩ := bind_eq_ok.1 h
      obtain ⟨r2, h2, h⟩ := bind_eq_ok.1 h
      obtain ⟨r3, h3, h⟩ := bind_eq_ok.1 h
      have := length_readText h1
      have := length_readColon h2
      have := length_readNull h3
      have := length_skipBlanks r3
      simp only [hs', List.length_cons] at hb'
      split at h
      · cases h
      · next hs'' =>
        cases h
        simp only [hs'', List.length_cons] at this
        dsimp only at *
        omega
      · cases h
    · cases h
    · cases h
  · cases h

end OwnerRules.Json

import OwnerRules.Json.Scalar

namespace OwnerRules.Json

structure Field (ρ : Type) where
  name : String
  given : ρ → Bool
  read : ρ → Reader ρ
  shrinks : ∀ p, (read p).Shrinks

def Field.of {ρ α : Type} (name : String) (get : ρ → Option α) (set : ρ → α → ρ) (read : Reader α)
    (shrinks : read.Shrinks) : Field ρ where
  name := name
  given p := (get p).isSome
  read p cs := (read cs).map fun q => (set p q.1, q.2)
  shrinks p := shrinks.map (set p)

structure Shape (ρ α : Type) where
  name : String
  fields : List (Field ρ)
  start : ρ
  /-- Fills in what was left out, or tells by position and name what must not be. -/
  finish : (Nat → String → Error) → ρ → Except Error α

def nextKey (first : Bool) (cs : List Char) : Except Error (Bool × List Char) :=
  match skipBlanks cs with
  | [] => .error .endOfObject
  | '}' :: rest => .ok (false, rest)
  | '"' :: rest => if first then .ok (true, rest) else .error .expectedCommaInObject
  | ',' :: rest =>
    if first then .error .keyNotString
    else
      match skipBlanks rest with
      | [] => .error .endOfValue
      | '"' :: rest => .ok (true, rest)
      | '}' :: _ => .error .trailingComma
      | _ => .error .keyNotString
  | _ => .error (if first then .keyNotString else .expectedCommaInObject)

def nextElement (first : Bool) (cs : List Char) : Except Error (Option (List Char)) :=
  match skipBlanks cs with
  | [] => .error .endOfList
  | ']' :: _ => .ok none
  | c :: rest =>
    if first then .ok (some (c :: rest))
    else if c = ',' then
      match skipBlanks rest with
      | [] => .error .endOfValue
      | ']' :: _ => .error .trailingComma
      | rest => .ok (some rest)
    else .error .expectedCommaInList

def closeList (cs : List Char) : Except Error (List Char) :=
  match skipBlanks cs with
  | [] => .error .endOfList
  | ']' :: rest => .ok rest
  | ',' :: rest =>
    match skipBlanks rest with
    | ']' :: _ => .error .trailingComma
    | _ => .error .trailingCharacters
  | _ => .error .trailingCharacters

theorem length_nextKey {first b : Bool} {cs rest : List Char}
    (h : nextKey first cs = .ok (b, rest)) : rest.length < cs.length := by
  have hb := length_skipBlanks cs
  unfold nextKey at h
  split at h
  · cases h
  · next hs =>
    cases h
    simp only [hs, List.length_cons] at hb
    omega
  · next hs =>
    split at h
    · cases h
      simp only [hs, List.length_cons] at hb
      omega
    · cases h
  · next cs' hs =>
    have hb' := length_skipBlanks cs'
    simp only [hs, List.length_cons] at hb
    split at h
    · cases h
    · split at h
      · cases h
      · next hs' =>
        cases h
        simp only [hs', List.length_cons] at hb'
        omega
      · cases h
      · cases h
  · cases h

namespace Shape

variable {ρ α : Type}

def readMember (s : Shape ρ α) (p : ρ) : Reader ρ := fun cs => do
  let (key, rest) ← readText cs
  match s.fields.find? fun f => f.name = key with
  | some f => if f.given p then .error (.duplicateField key) else f.read p (← readColon rest)
  | none => return (p, ← skipValue (← readColon rest))

theorem length_readMember {s : Shape ρ α} {p q : ρ} {cs rest : List Char}
    (h : s.readMember p cs = .ok (q, rest)) : rest.length < cs.length := by
  obtain ⟨⟨key, r⟩, hk, h⟩ := bind_eq_ok.1 h
  have hl := length_readText hk
  dsimp only at h
  split at h
  · next f _ =>
    split at h
    · cases h
    · obtain ⟨r', hc, h⟩ := bind_eq_ok.1 h
      have := length_readColon hc
      have := f.shrinks p _ _ _ h
      omega
  · obtain ⟨r', hc, h⟩ := bind_eq_ok.1 h
    obtain ⟨r'', hv, h⟩ := bind_eq_ok.1 h
    cases h
    have := length_readColon hc
    have := length_skipFrames hv
    omega

def readMembers (s : Shape ρ α) (first : Bool) (p : ρ) (cs : List Char) :
    Except Error (ρ × List Char) :=
  match h : nextKey first cs with
  | .error e => .error e
  | .ok (false, rest) => .ok (p, rest)
  | .ok (true, rest) =>
    match h' : s.readMember p rest with
    | .error e => .error e
    | .ok (q, rest') =>
      have := length_nextKey h
      have := length_readMember h'
      readMembers s false q rest'
termination_by cs.length

theorem readMembers_eq (s : Shape ρ α) (first : Bool) (p : ρ) (cs : List Char) :
    s.readMembers first p cs = (nextKey first cs).bind fun k =>
      match k with
      | (false, rest) => .ok (p, rest)
      | (true, rest) => (s.readMember p rest).bind fun q => s.readMembers false q.1 q.2 := by
  rw [readMembers]
  split
  · simp [*, Except.bind]
  · simp [*, Except.bind]
  · split <;> simp [*, Except.bind]

def readObject (s : Shape ρ α) : Reader α := fun cs => do
  let (p, rest) ← s.readMembers true s.start cs
  return (← s.finish (fun _ name => .missingField name) p, rest)

def readElements (fields : List (Field ρ)) (first : Bool) (p : ρ) (cs : List Char) :
    Except Error (ρ × List Char) :=
  match fields with
  | [] => .ok (p, cs)
  | f :: fs => do
    match ← nextElement first cs with
    | none => .ok (p, cs)
    | some rest =>
      let (p, rest) ← f.read p rest
      readElements fs false p rest

def expected (s : Shape ρ α) : String := "struct " ++ s.name

def readList (s : Shape ρ α) : Reader α := fun cs => do
  let (p, rest) ← readElements s.fields true s.start cs
  let expected := s.expected ++ " with " ++ toString s.fields.length ++ " elements"
  let a ← s.finish (fun i _ => .invalidLength i expected) p
  return (a, ← closeList rest)

def ofText (s : Shape ρ α) (text : String) : Except Error α := do
  let (a, rest) ← match skipBlanks text.toList with
    | '{' :: cs => s.readObject cs
    | '[' :: cs => s.readList cs
    | cs => .error (mismatch s.expected cs)
  if (skipBlanks rest).isEmpty then .ok a else .error .trailingCharacters

end Shape

def writeMember (m : String × List Char) : List Char := writeText m.1 ++ ':' :: m.2

def writeObject (ms : List (String × List Char)) : List Char :=
  '{' :: [','].intercalate (ms.map writeMember) ++ ['}']

end OwnerRules.Json

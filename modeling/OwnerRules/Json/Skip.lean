import OwnerRules.Json.Number
import OwnerRules.Json.Text

namespace OwnerRules.Json

inductive Frame
  | list
  | object
  deriving DecidableEq

def Frame.ended : Frame → Error
  | list => .endOfList
  | object => .endOfObject

def Frame.expectedComma : Frame → Error
  | list => .expectedCommaInList
  | object => .expectedCommaInObject

def skipExponent (cs : List Char) : Except Error (List Char) :=
  let cs := (splitSign cs).2
  if startsWithDigit cs then .ok (afterDigits cs) else .error .invalidNumber

def skipFraction (cs : List Char) : Except Error (List Char) :=
  if startsWithDigit cs then
    match afterDigits cs with
    | 'e' :: rest => skipExponent rest
    | 'E' :: rest => skipExponent rest
    | rest => .ok rest
  else .error .invalidNumber

def skipAfterWhole : List Char → Except Error (List Char)
  | '.' :: rest => skipFraction rest
  | 'e' :: rest => skipExponent rest
  | 'E' :: rest => skipExponent rest
  | rest => .ok rest

def skipMagnitude : List Char → Except Error (List Char)
  | '0' :: rest => if startsWithDigit rest then .error .invalidNumber else skipAfterWhole rest
  | cs => if startsWithDigit cs then skipAfterWhole (afterDigits cs) else .error .invalidNumber

def skipHead : List Char → Except Error (Option Frame × List Char)
  | [] => .error .endOfValue
  | 'n' :: cs => return (none, ← readWord "ull".toList cs)
  | 't' :: cs => return (none, ← readWord "rue".toList cs)
  | 'f' :: cs => return (none, ← readWord "alse".toList cs)
  | '"' :: cs => return (none, ← skipText cs)
  | '[' :: cs => .ok (some .list, cs)
  | '{' :: cs => .ok (some .object, cs)
  | '-' :: cs => return (none, ← skipMagnitude cs)
  | c :: cs =>
    if c.isDigit then return (none, ← skipMagnitude (c :: cs)) else .error .expectedValue

def closeFrames (comma : Bool) : List Frame → List Char → Except Error (List Frame × List Char)
  | [], cs => .ok ([], cs)
  | f :: fs, cs =>
    match skipBlanks cs, f with
    | [], _ => .error f.ended
    | ']' :: rest, .list => closeFrames true fs rest
    | '}' :: rest, .object => closeFrames true fs rest
    | c :: rest, _ =>
      if comma then if c = ',' then .ok (f :: fs, rest) else .error f.expectedComma
      else .ok (f :: fs, c :: rest)

def readColon (cs : List Char) : Except Error (List Char) :=
  match skipBlanks cs with
  | [] => .error .endOfObject
  | ':' :: rest => .ok rest
  | _ => .error .expectedColon

def skipKey : List Frame → List Char → Except Error (List Char)
  | .object :: _, cs =>
    match skipBlanks cs with
    | [] => .error .endOfObject
    | '"' :: rest => do readColon (← skipText rest)
    | _ => .error .keyNotString
  | _, cs => .ok cs

def skipElement (frames : List Frame) (cs : List Char) : Except Error (List Frame × List Char) := do
  let (opened, rest) ← skipHead (skipBlanks cs)
  let (frames, rest) ← closeFrames opened.isNone (opened.toList ++ frames) rest
  return (frames, ← skipKey frames rest)

theorem length_skipExponent {cs rest : List Char} (h : skipExponent cs = .ok rest) :
    rest.length ≤ cs.length := by
  unfold skipExponent at h
  dsimp only at h
  split at h
  · cases h
    exact Nat.le_trans (length_afterDigits _) (length_splitSign cs)
  · cases h

theorem length_skipFraction {cs rest : List Char} (h : skipFraction cs = .ok rest) :
    rest.length ≤ cs.length := by
  have hd := length_afterDigits cs
  unfold skipFraction at h
  split at h
  · split at h
    · next hr =>
      have := length_skipExponent h
      simp only [hr, List.length_cons] at hd
      omega
    · next hr =>
      have := length_skipExponent h
      simp only [hr, List.length_cons] at hd
      omega
    · cases h
      exact hd
  · cases h

theorem length_skipAfterWhole {cs rest : List Char} (h : skipAfterWhole cs = .ok rest) :
    rest.length ≤ cs.length := by
  unfold skipAfterWhole at h
  split at h
  · exact Nat.le_succ_of_le (length_skipFraction h)
  · exact Nat.le_succ_of_le (length_skipExponent h)
  · exact Nat.le_succ_of_le (length_skipExponent h)
  · cases h
    exact Nat.le_refl _

theorem length_afterDigits_lt {cs : List Char} (h : startsWithDigit cs) :
    (afterDigits cs).length < cs.length := by
  cases cs with
  | nil => cases h
  | cons c cs =>
    have hc : c.isDigit := h
    have := length_afterDigits cs
    simp only [afterDigits, List.dropWhile_cons, hc, if_true, List.length_cons] at this ⊢
    omega

theorem length_skipMagnitude {cs rest : List Char} (h : skipMagnitude cs = .ok rest) :
    rest.length < cs.length := by
  unfold skipMagnitude at h
  split at h
  · split at h
    · cases h
    · exact Nat.lt_succ_of_le (length_skipAfterWhole h)
  · split at h
    · next hd => exact Nat.lt_of_le_of_lt (length_skipAfterWhole h) (length_afterDigits_lt hd)
    · cases h

theorem length_skipHead {cs rest : List Char} {f : Option Frame}
    (h : skipHead cs = .ok (f, rest)) : rest.length < cs.length := by
  unfold skipHead at h
  split at h
  · cases h
  · obtain ⟨r, hr, h⟩ := bind_eq_ok.1 h
    cases h
    exact Nat.lt_succ_of_le (length_readWord hr)
  · obtain ⟨r, hr, h⟩ := bind_eq_ok.1 h
    cases h
    exact Nat.lt_succ_of_le (length_readWord hr)
  · obtain ⟨r, hr, h⟩ := bind_eq_ok.1 h
    cases h
    exact Nat.lt_succ_of_le (length_readWord hr)
  · obtain ⟨r, hr, h⟩ := bind_eq_ok.1 h
    cases h
    exact Nat.lt_succ_of_lt (length_skipText hr)
  · cases h
    simp
  · cases h
    simp
  · obtain ⟨r, hr, h⟩ := bind_eq_ok.1 h
    cases h
    exact Nat.lt_succ_of_lt (length_skipMagnitude hr)
  · split at h
    · obtain ⟨r, hr, h⟩ := bind_eq_ok.1 h
      cases h
      exact length_skipMagnitude hr
    · cases h

theorem length_closeFrames {comma : Bool} {fs gs : List Frame} {cs rest : List Char}
    (h : closeFrames comma fs cs = .ok (gs, rest)) : rest.length ≤ cs.length := by
  induction fs generalizing comma cs with
  | nil =>
    cases h
    exact Nat.le_refl _
  | cons f fs ih =>
    have hb := length_skipBlanks cs
    unfold closeFrames at h
    split at h
    · cases h
    · next hs =>
      have := ih h
      simp only [hs, List.length_cons] at hb
      omega
    · next hs =>
      have := ih h
      simp only [hs, List.length_cons] at hb
      omega
    · next hs _ _ =>
      simp only [hs, List.length_cons] at hb
      split at h
      · split at h
        · cases h
          omega
        · cases h
      · cases h
        simpa using hb

theorem length_readColon {cs rest : List Char} (h : readColon cs = .ok rest) :
    rest.length < cs.length := by
  have hb := length_skipBlanks cs
  unfold readColon at h
  split at h
  · cases h
  · next hs =>
    cases h
    simp only [hs, List.length_cons] at hb
    omega
  · cases h

theorem length_skipKey {fs : List Frame} {cs rest : List Char} (h : skipKey fs cs = .ok rest) :
    rest.length ≤ cs.length := by
  have hb := length_skipBlanks cs
  unfold skipKey at h
  split at h
  · split at h
    · cases h
    · next hs =>
      obtain ⟨r, hr, h⟩ := bind_eq_ok.1 h
      have := length_skipText hr
      have := length_readColon h
      simp only [hs, List.length_cons] at hb
      omega
    · cases h
  · cases h
    exact Nat.le_refl _

theorem length_skipElement {fs gs : List Frame} {cs rest : List Char}
    (h : skipElement fs cs = .ok (gs, rest)) : rest.length < cs.length := by
  obtain ⟨⟨o, r1⟩, h1, h⟩ := bind_eq_ok.1 h
  obtain ⟨⟨gs', r2⟩, h2, h⟩ := bind_eq_ok.1 h
  obtain ⟨r3, h3, h⟩ := bind_eq_ok.1 h
  cases h
  have := length_skipBlanks cs
  have := length_skipHead h1
  have := length_closeFrames h2
  have := length_skipKey h3
  omega

def skipFrames (frames : List Frame) (cs : List Char) : Except Error (List Char) :=
  match h : skipElement frames cs with
  | .error e => .error e
  | .ok ([], rest) => .ok rest
  | .ok (f :: fs, rest) =>
    have := length_skipElement h
    skipFrames (f :: fs) rest
termination_by cs.length

def skipValue (cs : List Char) : Except Error (List Char) := skipFrames [] cs

theorem skipFrames_eq (frames : List Frame) (cs : List Char) :
    skipFrames frames cs = (skipElement frames cs).bind fun p =>
      match p with
      | ([], rest) => .ok rest
      | (f :: fs, rest) => skipFrames (f :: fs) rest := by
  rw [skipFrames]
  split <;> simp [*, Except.bind]

theorem length_skipFrames {frames : List Frame} {cs rest : List Char}
    (h : skipFrames frames cs = .ok rest) : rest.length < cs.length := by
  fun_induction skipFrames frames cs with
  | case1 => cases h
  | case2 frames cs rest' he =>
    cases h
    exact length_skipElement he
  | case3 frames cs f fs rest' he hl ih => exact Nat.lt_trans (ih h) hl

end OwnerRules.Json

import OwnerRules.Decimal.Shortest
import OwnerRules.Json.Error

namespace OwnerRules.Json

inductive Number
  | integer (i : Int)
  | float (x : Float)

def Number.found : Number → Found
  | integer i => .integer i
  | float x => .float (Decimal.text x)

def digitsOf (cs : List Char) : List Char := cs.takeWhile Char.isDigit

def afterDigits (cs : List Char) : List Char := cs.dropWhile Char.isDigit

def absorb (m : Nat) : List Char → Nat × List Char
  | [] => (m, [])
  | d :: ds =>
    let n := m * 10 + (d.toNat - '0'.toNat)
    if n < 0x10000000000000000 then absorb n ds else (m, d :: ds)

def pow10 (k : Nat) : Float := Float.ofScientific 1 false k

def scaleDown (x : Float) (k : Nat) : Float :=
  if k ≤ 308 then x / pow10 k
  else if x == 0 then x
  else scaleDown (x / pow10 308) (k - 308)
termination_by k
decreasing_by omega

def scale (m : Nat) : Int → Except Error Float
  | .ofNat k =>
    if k ≤ 308 then
      let x := m.toUInt64.toFloat * pow10 k
      if x.isInf then .error .numberOutOfRange else .ok x
    else if m = 0 then .ok 0 else .error .numberOutOfRange
  | .negSucc k => .ok (scaleDown m.toUInt64.toFloat (k + 1))

def signed (negative : Bool) (x : Float) : Float := if negative then -x else x

def ofScaled (negative : Bool) (m : Nat) (e : Int) (rest : List Char) :
    Except Error (Number × List Char) :=
  (scale m e).map fun x => (.float (signed negative x), rest)

def noDigit (rest : List Char) : Error := if rest.isEmpty then .endOfValue else .invalidNumber

def splitSign : List Char → Bool × List Char
  | '-' :: cs => (true, cs)
  | '+' :: cs => (false, cs)
  | cs => (false, cs)

def readExponent (negative : Bool) (m : Nat) (e : Int) (cs : List Char) :
    Except Error (Number × List Char) :=
  let (down, cs) := splitSign cs
  let rest := afterDigits cs
  if (digitsOf cs).isEmpty then .error (noDigit rest)
  else
    let n := Nat.ofDigitChars 10 (digitsOf cs) 0
    if n < 0x80000000 then ofScaled negative m (if down then e - n else e + n) rest
    else if m ≠ 0 ∧ !down then .error .numberOutOfRange
    else .ok (.float (signed negative 0), rest)

def readFraction (negative : Bool) (m : Nat) (e : Int) (cs : List Char) :
    Except Error (Number × List Char) :=
  let ds := digitsOf cs
  let rest := afterDigits cs
  if ds.isEmpty then .error (noDigit rest)
  else
    let (m, unread) := absorb m ds
    let e := e - (ds.length - unread.length : Nat)
    match rest with
    | 'e' :: rest => readExponent negative m e rest
    | 'E' :: rest => readExponent negative m e rest
    | rest => ofScaled negative m e rest

def ofWhole (negative : Bool) (m : Nat) : Number :=
  if negative then
    if 0 < m ∧ m ≤ 0x8000000000000000 then .integer (-m) else .float (-m.toUInt64.toFloat)
  else .integer m

def readAfterWhole (negative : Bool) (m unread : Nat) :
    List Char → Except Error (Number × List Char)
  | '.' :: rest => readFraction negative m unread rest
  | 'e' :: rest => readExponent negative m unread rest
  | 'E' :: rest => readExponent negative m unread rest
  | rest => if unread = 0 then .ok (ofWhole negative m, rest) else ofScaled negative m unread rest

def startsWithDigit : List Char → Bool
  | c :: _ => c.isDigit
  | [] => false

def readMagnitude (negative : Bool) (cs : List Char) : Except Error (Number × List Char) :=
  match cs with
  | [] => .error .endOfValue
  | '0' :: rest =>
    if startsWithDigit rest then .error .invalidNumber else readAfterWhole negative 0 0 rest
  | cs =>
    if startsWithDigit cs then
      let (m, unread) := absorb 0 (digitsOf cs)
      readAfterWhole negative m unread.length (afterDigits cs)
    else .error .invalidNumber

def readNumber : Reader Number
  | '-' :: cs => readMagnitude true cs
  | cs => readMagnitude false cs

theorem length_afterDigits (cs : List Char) : (afterDigits cs).length ≤ cs.length :=
  (List.dropWhile_sublist _).length_le

theorem eq_of_ofScaled {negative : Bool} {m : Nat} {e : Int} {rest rest' : List Char} {n : Number}
    (h : ofScaled negative m e rest = .ok (n, rest')) : rest' = rest := by
  unfold ofScaled at h
  cases hs : scale m e with
  | error => simp [hs, Except.map] at h
  | ok x =>
    simp only [hs, Except.map, Except.ok.injEq, Prod.mk.injEq] at h
    exact h.2.symm

theorem length_splitSign (cs : List Char) : (splitSign cs).2.length ≤ cs.length := by
  unfold splitSign
  split <;> simp

theorem length_readExponent {negative : Bool} {m : Nat} {e : Int} {cs rest : List Char}
    {n : Number} (h : readExponent negative m e cs = .ok (n, rest)) :
    rest.length ≤ cs.length := by
  have hs := length_splitSign cs
  have hd := length_afterDigits (splitSign cs).2
  unfold readExponent at h
  dsimp only at h
  split at h
  · cases h
  split at h
  · rw [eq_of_ofScaled h]
    omega
  split at h
  · cases h
  · cases h
    omega

theorem length_readFraction {negative : Bool} {m : Nat} {e : Int} {cs rest : List Char}
    {n : Number} (h : readFraction negative m e cs = .ok (n, rest)) :
    rest.length ≤ cs.length := by
  have hd := length_afterDigits cs
  unfold readFraction at h
  dsimp only at h
  split at h
  · cases h
  split at h
  · next hr =>
    have := length_readExponent h
    simp only [hr, List.length_cons] at hd
    omega
  · next hr =>
    have := length_readExponent h
    simp only [hr, List.length_cons] at hd
    omega
  · rw [eq_of_ofScaled h]
    exact hd

theorem length_readAfterWhole {negative : Bool} {m unread : Nat} {cs rest : List Char} {n : Number}
    (h : readAfterWhole negative m unread cs = .ok (n, rest)) : rest.length ≤ cs.length := by
  unfold readAfterWhole at h
  split at h
  · exact Nat.le_succ_of_le (length_readFraction h)
  · exact Nat.le_succ_of_le (length_readExponent h)
  · exact Nat.le_succ_of_le (length_readExponent h)
  · split at h
    · cases h
      exact Nat.le_refl _
    · exact Nat.le_of_eq (congrArg _ (eq_of_ofScaled h))

theorem length_readMagnitude {negative : Bool} {cs rest : List Char} {n : Number}
    (h : readMagnitude negative cs = .ok (n, rest)) : rest.length < cs.length := by
  unfold readMagnitude at h
  split at h
  · cases h
  · split at h
    · cases h
    · exact Nat.lt_succ_of_le (length_readAfterWhole h)
  · split at h
    · next hd =>
      refine Nat.lt_of_le_of_lt (length_readAfterWhole h) ?_
      cases cs with
      | nil => cases hd
      | cons c cs =>
        have hc : c.isDigit := hd
        have := length_afterDigits cs
        simp only [afterDigits, List.dropWhile_cons, hc, if_true, List.length_cons] at this ⊢
        omega
    · cases h

theorem length_readNumber {cs rest : List Char} {n : Number} (h : readNumber cs = .ok (n, rest)) :
    rest.length < cs.length := by
  unfold readNumber at h
  split at h
  · exact Nat.lt_succ_of_lt (length_readMagnitude h)
  · exact length_readMagnitude h

def writeInteger : Int → List Char
  | .ofNat n => Nat.toDigits 10 n
  | .negSucc n => '-' :: Nat.toDigits 10 (n + 1)

end OwnerRules.Json

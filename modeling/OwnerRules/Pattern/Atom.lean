import OwnerRules.Text.Blank
import OwnerRules.Text.Hex

namespace OwnerRules.Pattern

structure Flags where
  ignoresCase : Bool
  unicode : Bool
  verbose : Bool
  deriving DecidableEq

namespace Flags

def default : Flags := ⟨false, true, false⟩

def skipBlanks (inComment : Bool) : List Char → List Char
  | [] => []
  | c :: cs =>
    if inComment then skipBlanks (c ≠ '\n') cs
    else if Text.isBlank c then skipBlanks false cs
    else if c = '#' then skipBlanks true cs
    else c :: cs

def skip (f : Flags) (cs : List Char) : List Char :=
  if f.verbose then skipBlanks false cs else cs

def peek (f : Flags) (cs : List Char) : Option Char :=
  if !f.verbose then cs.head?
  else
    let next := match cs.dropWhile Text.isBlank with
      | '#' :: cs => (cs.dropWhile Text.isBlank).head?
      | cs => cs.head?
    next.or cs.head?

def change (f : Flags) (letters : List Char) : Flags :=
  let on := letters.takeWhile (· ≠ '-')
  let set (c : Char) (before : Bool) := on.contains c || (before && !letters.contains c)
  ⟨set 'i' f.ignoresCase, set 'u' f.unicode, set 'x' f.verbose⟩

end Flags

inductive Atom
  | literal (c : Char) (byTwoDigits : Bool)
  | any
  | edge (ofWord : Bool)
  | class (negated : Bool)
  deriving DecidableEq

namespace Atom

/-- Case needs tables, classes by a letter and edges of words need them too where characters are
matched, and what may match a part of a character is refused where bytes are. -/
def isUsable (f : Flags) : Atom → Bool
  | literal c byTwoDigits =>
    if f.unicode then !f.ignoresCase else !(byTwoDigits && 0x80 ≤ c.toNat)
  | any => f.unicode
  | edge ofWord => !(ofWord && f.unicode)
  | .class negated => !f.unicode && !negated

def isUsableInBrackets (f : Flags) : Atom → Bool
  | literal c _ => if f.unicode then !f.ignoresCase else c.toNat < 0x80
  | any => false
  | edge _ => false
  | .class negated => !f.unicode && !negated

end Atom

def readHex (f : Flags) : Nat → Nat → List Char → Option (Nat × List Char)
  | 0, n, cs => some (n, cs)
  | _ + 1, _, [] => none
  | count + 1, n, c :: cs =>
    (Text.hexValue? c).bind fun d => readHex f count (n * 16 + d) (f.skip cs)

def readCodePoint (f : Flags) (count : Nat) (cs : List Char) : Option (Atom × List Char) :=
  match readHex f count 0 (f.skip cs) with
  | none => none
  | some (n, cs) => if n.isValidChar then some (.literal (Char.ofNat n) (count = 2), cs) else none

def controls : List (Char × Char) :=
  [('a', '\x07'), ('f', '\x0c'), ('t', '\t'), ('n', '\n'), ('r', '\r'), ('v', '\x0b')]

def readEscape (f : Flags) : List Char → Option (Atom × List Char)
  | [] => none
  | c :: cs =>
    if c = 'x' then readCodePoint f 2 cs
    else if c = 'u' then readCodePoint f 4 cs
    else if c = 'U' then readCodePoint f 8 cs
    else if ['d', 's', 'w'].contains c then some (.class false, cs)
    else if ['D', 'S', 'W'].contains c then some (.class true, cs)
    else if ['A', 'z'].contains c then some (.edge false, cs)
    else if ['b', 'B', '<', '>'].contains c then some (.edge true, cs)
    else if c.toNat < 0x80 && !c.isAlphanum then some (.literal c false, cs)
    else (controls.lookup c).map fun d => (.literal d false, cs)

end OwnerRules.Pattern

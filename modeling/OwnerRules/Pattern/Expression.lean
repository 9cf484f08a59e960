import OwnerRules.Pattern.Bracket
import OwnerRules.Text.Alphanumeric
/-!
Regular expressions: which texts are well formed. Groups, alternatives and repetitions are followed
by the heights of the trees they make, which are limited.
-/
namespace OwnerRules.Pattern

inductive Opening
  | change (f : Flags)
  | group (f : Flags) (name : Option (List Char))

def isNameStart (c : Char) : Bool := c = '_' || Text.isAlphabetic c

def isNamePart (c : Char) : Bool := Text.isAlphanumeric c || ['_', '.', '[', ']'].contains c

def readName (cs : List Char) : Option (List Char × List Char) :=
  let name := cs.takeWhile (· ≠ '>')
  match cs.dropWhile (· ≠ '>') with
  | _ :: rest =>
    if name.head?.any isNameStart && name.all isNamePart then some (name, rest) else none
  | [] => none

def areFlags (letters : List Char) : Bool :=
  letters.all ['i', 'm', 's', 'U', 'u', 'R', 'x', '-'].contains && letters.Nodup &&
    letters.getLast? ≠ some '-'

def readOpeningGroup (f : Flags) (cs : List Char) : Option (Opening × List Char) :=
  let named (cs : List Char) := (readName cs).map fun r => (Opening.group f (some r.1), r.2)
  match f.skip cs with
  | '?' :: 'P' :: '<' :: cs => named cs
  | '?' :: '<' :: cs => named cs
  | '?' :: cs =>
    let letters := cs.takeWhile fun c => c ≠ ':' && c ≠ ')'
    if !areFlags letters then none
    else
      match cs.dropWhile fun c => c ≠ ':' && c ≠ ')' with
      | ':' :: rest => some (.group (f.change letters) none, rest)
      | ')' :: rest => if letters.isEmpty then none else some (.change (f.change letters), rest)
      | _ => none
  | cs => some (.group f none, cs)

/-- What has been read of a group, the latest first: the heights of the pieces of its last
alternative, none for a change of flags, and the heights of the alternatives before. -/
structure Group where
  pieces : List (Option Nat)
  alternatives : List Nat
  flags : Flags

namespace Group

def start (f : Flags) : Group := ⟨[], [], f⟩

def add (g : Group) (height : Nat) : Group := { g with pieces := some height :: g.pieces }

def lastHeight (g : Group) : Nat := join (g.pieces.map (·.getD 0))

def height (g : Group) : Nat := join (g.lastHeight :: g.alternatives)

def branch (g : Group) : Group := ⟨[], g.lastHeight :: g.alternatives, g.flags⟩

def repeat? (g : Group) : Option Group :=
  match g.pieces with
  | some height :: pieces => some { g with pieces := some (height + 1) :: pieces }
  | _ => none

end Group

def readAtom (f : Flags) : List Char → Option (Atom × List Char)
  | [] => none
  | '\\' :: cs => readEscape f cs
  | '.' :: cs => some (.any, cs)
  | '^' :: cs => some (.edge false, cs)
  | '$' :: cs => some (.edge false, cs)
  | c :: cs => if c = '{' then none else some (.literal c false, cs)

/-- The height of a whole expression, with the open groups around and the names used so far. A
second sign after a repetition makes it lazy. -/
def read : Nat → List Group → List (List Char) → Group → List Char → Option Nat
  | 0, _, _, _, _ => none
  | fuel + 1, outer, names, g, cs =>
    match g.flags.skip cs with
    | [] => if outer.isEmpty then some g.height else none
    | '(' :: cs =>
      match readOpeningGroup g.flags cs with
      | none => none
      | some (.change f, cs) =>
        read fuel outer names { g with pieces := none :: g.pieces, flags := f } cs
      | some (.group f name, cs) =>
        if name.any names.contains then none
        else read fuel (g :: outer) (name.toList ++ names) (.start f) cs
    | ')' :: cs =>
      match outer with
      | [] => none
      | o :: outer => read fuel outer names (o.add (g.height + 1)) cs
    | '|' :: cs => read fuel outer names g.branch cs
    | '[' :: cs => do
      let (height, cs) ← readBracket g.flags (cs.length + 1) [] .start (← readOpening g.flags cs)
      read fuel outer names (g.add height) cs
    | c :: cs =>
      if ['*', '+', '?'].contains c then do
        read fuel outer names (← g.repeat?) (if cs.head? = some '?' then cs.tail else cs)
      else do
        let (a, cs) ← readAtom g.flags (c :: cs)
        if a.isUsable g.flags then read fuel outer names (g.add 0) cs else none

def isExpression (cs : List Char) : Bool :=
  (read (cs.length + 1) [] [] (.start .default) cs).any (· ≤ 250)

end OwnerRules.Pattern

import OwnerRules.Pattern.Atom

namespace OwnerRules.Pattern

def join (heights : List Nat) : Nat :=
  if heights.length ≤ 1 then heights.foldl max 0 else heights.foldl max 0 + 1

structure Bracket where
  items : List Nat
  left : Option Nat
  atStart : Bool

namespace Bracket

def start : Bracket := ⟨[], none, true⟩

def height (b : Bracket) : Nat :=
  match b.left with
  | none => join b.items
  | some left => max left (join b.items) + 1

def add (b : Bracket) (height : Nat) : Bracket := ⟨height :: b.items, b.left, false⟩

def operate (b : Bracket) : Bracket := ⟨[], some b.height, false⟩

end Bracket

def classNames : List String :=
  ["alnum", "alpha", "ascii", "blank", "cntrl", "digit", "graph", "lower", "print", "punct",
    "space", "upper", "word", "xdigit"]

def readNamedClass (cs : List Char) : Option (Bool × List Char) :=
  match cs with
  | ':' :: cs =>
    let (negated, cs) := match cs with
      | '^' :: cs => (true, cs)
      | cs => (false, cs)
    match cs.dropWhile (· ≠ ':') with
    | ':' :: ']' :: rest =>
      if classNames.contains (String.ofList (cs.takeWhile (· ≠ ':'))) then some (negated, rest)
      else none
    | _ => none
  | _ => none

def readOpening (f : Flags) (cs : List Char) : Option (List Char) :=
  match f.skip cs with
  | '^' :: cs => if f.unicode then some cs else none
  | cs => some cs

def readItem (f : Flags) : List Char → Option (Atom × List Char)
  | [] => none
  | '\\' :: cs => readEscape f cs
  | c :: cs => some (.literal c false, cs)

def readRange (f : Flags) (cs : List Char) : Option (List Char) := do
  let (a, cs) ← readItem f cs
  if !a.isUsableInBrackets f then none
  else
    match f.skip cs with
    | [] => none
    | '-' :: rest =>
      if f.peek rest = some ']' || f.peek rest = some '-' then some ('-' :: rest)
      else
        let (b, rest) ← readItem f (f.skip rest)
        match a, b with
        | .literal low _, .literal high _ =>
          if low.toNat ≤ high.toNat && b.isUsableInBrackets f then some rest else none
        | _, _ => none
    | cs => some cs

def readBracket (f : Flags) :
    Nat → List Bracket → Bracket → List Char → Option (Nat × List Char)
  | 0, _, _, _ => none
  | fuel + 1, outer, b, cs =>
    match f.skip cs with
    | [] => none
    | c :: cs =>
      if b.atStart && (c = '-' || (c = ']' && b.items.isEmpty)) then
        if (Atom.literal c false).isUsableInBrackets f then
          readBracket f fuel outer ⟨0 :: b.items, none, c = '-'⟩ cs
        else none
      else
        match c, cs with
        | '[', cs =>
          match readNamedClass cs with
          | some (negated, cs) =>
            if if f.unicode then !f.ignoresCase else !negated then
              readBracket f fuel outer (b.add 0) cs
            else none
          | none => do readBracket f fuel (b :: outer) .start (← readOpening f cs)
        | ']', cs =>
          match outer with
          | [] => some (b.height + 1, cs)
          | o :: outer => readBracket f fuel outer (o.add (b.height + 1)) cs
        | '&', '&' :: cs => readBracket f fuel outer b.operate cs
        | '-', '-' :: cs => readBracket f fuel outer b.operate cs
        | '~', '~' :: cs => readBracket f fuel outer b.operate cs
        | c, cs => do readBracket f fuel outer (b.add 0) (← readRange f (c :: cs))

end OwnerRules.Pattern

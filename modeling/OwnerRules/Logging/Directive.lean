import OwnerRules.Decimal.Numeral
import OwnerRules.Logging.Event
import OwnerRules.Pattern.Expression
import OwnerRules.Text.Slice

namespace OwnerRules

inductive Scope
  | events (field : Option String)
  | spans
  deriving DecidableEq

structure Directive where
  target : String
  scope : Scope
  level : Option Level
  deriving DecidableEq

namespace Directive

def level? (s : List Char) : Option (Option Level) :=
  let digits := match s with
    | '+' :: ds => ds
    | ds => ds
  if !digits.isEmpty && digits.all Char.isDigit then
    let n := Nat.ofDigitChars 10 digits 0
    if n = 0 then some none else (Level.all.find? (·.verbosity = n)).map some
  else
    let name := (String.ofList s).toUpper
    if name = "OFF" then some none else (Level.all.find? (·.name = name)).map some

def levelAfterSign? : List Char → Option (Option Level)
  | [] => some (some .trace)
  | s => level? s

def startsDirective (c : Char) : Bool :=
  Text.isAlphanumeric c || c = '-' || c = ':' || c = '_' || c = '['

def isValue : List Char → Bool
  | '+' :: cs => Decimal.isUnsigned cs
  | cs => Pattern.isExpression cs

def fieldScope? (field : List Char) : Option Scope :=
  match field.dropWhile (· ≠ '=') with
  | [] => if field.isEmpty then none else some (.events (some (String.ofList field)))
  | _ :: value => if isValue (value.takeWhile (· ≠ '=')) then some .spans else none

structure Bracketed where
  name : List Char
  field : Option (List Char)

structure Parts where
  target : List Char
  bracketed : Option Bracketed
  hasLevel : Bool

def splitBracketed? (s : List Char) : Option (Bracketed × List Char) :=
  let name := s.takeWhile fun c => c ≠ ']' && c ≠ '{'
  match s.dropWhile fun c => c ≠ ']' && c ≠ '{' with
  | ']' :: rest => some (⟨name, none⟩, rest)
  | '{' :: rest =>
    match rest.dropWhile (· ≠ '}') with
    | '}' :: ']' :: after => some (⟨name, some (rest.takeWhile (· ≠ '}'))⟩, after)
    | _ => none
  | _ => none

def split? (s : List Char) : Option Parts :=
  let target := s.takeWhile fun c => c ≠ '=' && c ≠ '['
  match s.dropWhile fun c => c ≠ '=' && c ≠ '[' with
  | '[' :: rest =>
    match splitBracketed? rest with
    | some (b, []) => some ⟨target, some b, false⟩
    | some (b, '=' :: _) => some ⟨target, some b, true⟩
    | _ => none
  | '=' :: _ => some ⟨target, none, true⟩
  | _ => some ⟨target, none, false⟩

def scopeAt? (s : List Char) (place : Nat) (b : Bracketed) : Option Scope :=
  let size := Text.byteSize b.name
  match b.field with
  | none => (Text.slice? (place + 1) size s).map fun _ => .spans
  | some field => do
    let name ← Text.slice? (place + 1) size s
    let scope ← fieldScope? (← Text.slice? (place + 2 + size) (Text.byteSize field) s)
    return if name.isEmpty then scope else .spans

def Bracketed.size (b : Bracketed) : Nat :=
  Text.byteSize b.name + 2 + (b.field.map fun field => Text.byteSize field + 2).getD 0

def ofBare (s : List Char) : Directive :=
  match level? s with
  | some level => ⟨"", .events none, level⟩
  | none => ⟨String.ofList s, .events none, some .trace⟩

def ofParts? (p : Parts) (s : List Char) : Option Directive := do
  let size := Text.byteSize p.target
  let target := String.ofList (← Text.slice? 0 size s)
  let scope ← (p.bracketed.map (scopeAt? s size)).getD (some (.events none))
  if p.hasLevel then
    let place := size + (p.bracketed.map Bracketed.size).getD 0 + 1
    return ⟨target, scope, ← levelAfterSign? (← Text.dropBytes? place s)⟩
  else return ⟨target, scope, some .trace⟩

/-- A level, or a target and a scope with a level after `=` or without, which lets everything
through. The parts are found in the text without the blanks around it, and then cut out of the text
itself at the same places: blanks after it belong to a name or level that comes last, and blanks
before it shift every cut. -/
def parse? (s : List Char) : Option Directive :=
  let body := Text.trim s
  if !body.head?.any startsDirective then none
  else
    match split? body with
    | none => none
    | some ⟨_, none, false⟩ => some (ofBare s)
    | some parts => ofParts? parts s

def field? (d : Directive) : Option String :=
  match d.scope with
  | .events field => field
  | .spans => none

def appliesTo (d : Directive) (e : Event) : Bool :=
  d.target.toList.isPrefixOf e.target.toList &&
    match d.scope with
    | .events field => field.all e.fieldNames.contains
    | .spans => false

def allows (d : Directive) (level : Level) : Bool :=
  d.level.any fun l => level.verbosity ≤ l.verbosity

/-- Whether `d` decides for an event to which both apply: a longer target comes first, then a field,
of two fields the greater, and then the later directive. -/
def yieldsTo (b d : Directive) : Bool :=
  b.target.length < d.target.length ||
    (b.target.length = d.target.length &&
      match b.field?, d.field? with
      | none, _ => true
      | some _, none => false
      | some f, some g => !(List.lex (g.toList.map Char.toNat) (f.toList.map Char.toNat)))

end Directive

end OwnerRules

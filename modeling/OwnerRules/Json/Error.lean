import OwnerRules.Text.Quoted

namespace OwnerRules.Json

inductive Found
  | null
  | bool (b : Bool)
  | integer (i : Int)
  | float (text : String)
  | text (s : String)
  | sequence
  | map
  deriving DecidableEq

inductive Error
  | endOfValue
  | endOfString
  | endOfList
  | endOfObject
  | expectedColon
  | expectedCommaInList
  | expectedCommaInObject
  | expectedWord
  | expectedValue
  | keyNotString
  | trailingComma
  | trailingCharacters
  | invalidNumber
  | numberOutOfRange
  | invalidEscape
  | controlCharacter
  | loneSurrogate
  | unpairedSurrogate
  | invalidType (found : Found) (expected : String)
  | invalidValue (value : Int) (expected : String)
  | invalidLength (length : Nat) (expected : String)
  | unknownVariant (name : String) (expected : String)
  | missingField (name : String)
  | duplicateField (name : String)
  | pathNotText
  deriving DecidableEq

inductive Error.Kind
  | ending
  | grammar
  | data
  deriving DecidableEq

namespace Found

def describe : Found → String
  | null => "null"
  | bool b => "boolean `" ++ toString b ++ "`"
  | integer i => "integer `" ++ toString i ++ "`"
  | float t => "floating point `" ++ t ++ "`"
  | text s => "string " ++ String.ofList (Text.Quoted.quote s.toList)
  | sequence => "sequence"
  | map => "map"

end Found

namespace Error

def kind : Error → Kind
  | endOfValue => .ending
  | endOfString => .ending
  | endOfList => .ending
  | endOfObject => .ending
  | invalidType .. => .data
  | invalidValue .. => .data
  | invalidLength .. => .data
  | unknownVariant .. => .data
  | missingField _ => .data
  | duplicateField _ => .data
  | pathNotText => .data
  | _ => .grammar

def message : Error → String
  | endOfValue => "EOF while parsing a value"
  | endOfString => "EOF while parsing a string"
  | endOfList => "EOF while parsing a list"
  | endOfObject => "EOF while parsing an object"
  | expectedColon => "expected `:`"
  | expectedCommaInList => "expected `,` or `]`"
  | expectedCommaInObject => "expected `,` or `\x7d`"
  | expectedWord => "expected ident"
  | expectedValue => "expected value"
  | keyNotString => "key must be a string"
  | trailingComma => "trailing comma"
  | trailingCharacters => "trailing characters"
  | invalidNumber => "invalid number"
  | numberOutOfRange => "number out of range"
  | invalidEscape => "invalid escape"
  | controlCharacter => "control character (\\u0000-\\u001F) found while parsing a string"
  | loneSurrogate => "lone leading surrogate in hex escape"
  | unpairedSurrogate => "unexpected end of hex escape"
  | invalidType found expected => "invalid type: " ++ found.describe ++ ", expected " ++ expected
  | invalidValue value expected =>
    "invalid value: integer `" ++ toString value ++ "`, expected " ++ expected
  | invalidLength length expected =>
    "invalid length " ++ toString length ++ ", expected " ++ expected
  | unknownVariant name expected => "unknown variant `" ++ name ++ "`, expected " ++ expected
  | missingField name => "missing field `" ++ name ++ "`"
  | duplicateField name => "duplicate field `" ++ name ++ "`"
  | pathNotText => "path contains invalid UTF-8 characters"

end Error

abbrev Reader (α : Type) := List Char → Except Error (α × List Char)

def Reader.Shrinks {α : Type} (r : Reader α) : Prop :=
  ∀ cs a rest, r cs = .ok (a, rest) → rest.length ≤ cs.length

theorem bind_eq_ok {α β : Type} {x : Except Error α} {f : α → Except Error β} {b : β} :
    (x >>= f) = .ok b ↔ ∃ a, x = .ok a ∧ f a = .ok b := by
  cases x <;> simp [bind, Except.bind]

def isBlank (c : Char) : Bool := c = ' ' || c = '\t' || c = '\n' || c = '\r'

def skipBlanks (cs : List Char) : List Char := cs.dropWhile isBlank

theorem length_skipBlanks (cs : List Char) : (skipBlanks cs).length ≤ cs.length :=
  (List.dropWhile_sublist _).length_le

def readWord : List Char → List Char → Except Error (List Char)
  | [], cs => .ok cs
  | _ :: _, [] => .error .endOfValue
  | w :: ws, c :: cs => if c = w then readWord ws cs else .error .expectedWord

theorem length_readWord {w cs rest : List Char} (h : readWord w cs = .ok rest) :
    rest.length ≤ cs.length := by
  induction w generalizing cs with
  | nil =>
    obtain rfl : cs = rest := by simpa [readWord] using h
    exact Nat.le_refl _
  | cons w ws ih =>
    cases cs with
    | nil => simp [readWord] at h
    | cons c cs =>
      simp only [readWord] at h
      split at h
      · exact Nat.le_succ_of_le (ih h)
      · cases h

end OwnerRules.Json

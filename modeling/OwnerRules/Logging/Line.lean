import OwnerRules.Logging.Filter

namespace OwnerRules

inductive Line
  | text (s : String)
  | record (level target : String) (fields : List (String × FieldValue))
  deriving DecidableEq

namespace FieldValue

def pretty : FieldValue → String
  | number n => toString n
  | text s => s
  | word s => "\"" ++ s ++ "\""

end FieldValue

namespace Line

def padded (level : Level) : String :=
  String.ofList (List.replicate (5 - level.name.length) ' ') ++ level.name

def pretty (e : Event) : String :=
  padded e.level ++ " " ++ e.target ++ ": " ++ e.message ++
    String.join (e.fields.map fun f => " " ++ f.1 ++ "=" ++ f.2.pretty)

def ofEvent (format : LogFormat) (e : Event) : List Line :=
  match format with
  | .pretty => ((pretty e).toList.splitOn '\n').map fun cs => text (String.ofList cs)
  | .json => [record e.level.name e.target (e.fields ++ [("message", .text e.message)])]

end Line

structure LogPrinter where
  format : LogFormat
  filter : Filter

namespace LogPrinter

def takenMessage : String := "a global default trace dispatcher has already been set"

def print (p : LogPrinter) (events : List Event) : List Line :=
  (events.filter p.filter.lets).flatMap (Line.ofEvent p.format)

end LogPrinter

end OwnerRules

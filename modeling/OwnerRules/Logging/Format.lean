namespace OwnerRules

inductive LogFormat
  | pretty
  | json
  deriving DecidableEq

namespace LogFormat

def name : LogFormat → String
  | pretty => "pretty"
  | json => "json"

def ofName? : String → Option LogFormat
  | "pretty" => some pretty
  | "json" => some json
  | _ => none

def title : LogFormat → String
  | pretty => "Pretty"
  | json => "Json"

end LogFormat

end OwnerRules

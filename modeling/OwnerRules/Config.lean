import OwnerRules.Json.Record
import OwnerRules.Logging.Format
import OwnerRules.Text.Blank

namespace OwnerRules

structure Config where
  mapPath : MapPath
  serializeMutations : Bool
  logFormat : LogFormat
  deriving DecidableEq

structure Environment where
  entries : List (String × List UInt8)

namespace Environment

/-- A value that is not text counts as unset. -/
def get? (e : Environment) (name : String) : Option String :=
  ((e.entries.lookup name).bind Text.Utf8.decode?).map String.ofList

end Environment

namespace Config

def default : Config := ⟨.default, true, .pretty⟩

structure Partial where
  mapPath : Option MapPath
  serializeMutations : Option Bool
  logFormat : Option LogFormat

open Json in
def shape : Shape Partial Config where
  name := "BridgeConfig"
  fields :=
    [.of "map_path" Partial.mapPath (fun p m => { p with mapPath := some m }) readPath
        shrinks_readPath,
      .of "serialize_mutations" Partial.serializeMutations
        (fun p b => { p with serializeMutations := some b }) readBool shrinks_readBool,
      .of "log_format" Partial.logFormat (fun p f => { p with logFormat := some f })
        (readVariant LogFormat.ofName? "`pretty` or `json`") (shrinks_readVariant _ _)]
  start := ⟨none, none, none⟩
  finish _ p :=
    .ok ⟨p.mapPath.getD default.mapPath, p.serializeMutations.getD default.serializeMutations,
      p.logFormat.getD default.logFormat⟩

def ofJson (text : String) : Except Json.Error Config := shape.ofText text

def toJson (c : Config) : Except Json.Error String :=
  match c.mapPath.text? with
  | none => .error .pathNotText
  | some s =>
    .ok <| String.ofList <| Json.writeObject
      [("map_path", Json.writeText s),
        ("serialize_mutations", (toString c.serializeMutations).toList),
        ("log_format", Json.writeText c.logFormat.name)]

def mapPathVariable : String := "UID_OWNER_MAP_PATH"

def serializeVariable : String := "UID_OWNER_SERIALIZE"

def logFormatVariable : String := "UID_OWNER_LOG_FORMAT"

def normalize (s : String) : String := String.ofList ((Text.trim s.toList).map Char.toLower)

def switch? (s : String) : Option Bool :=
  if normalize s ∈ ["1", "true", "yes", "on"] then some true
  else if normalize s ∈ ["0", "false", "no", "off"] then some false
  else none

def format? (s : String) : Option LogFormat :=
  if normalize s ∈ ["pretty", "text"] then some .pretty
  else if normalize s = "json" then some .json
  else none

def ofLookup (get? : String → Option String) : Config where
  mapPath := (((get? mapPathVariable).filter (· ≠ "")).map MapPath.ofString).getD default.mapPath
  serializeMutations := ((get? serializeVariable).bind switch?).getD default.serializeMutations
  logFormat := ((get? logFormatVariable).bind format?).getD default.logFormat

def ofEnvironment (e : Environment) : Config := ofLookup e.get?

end Config

end OwnerRules

import OwnerRules.Json.Record

namespace OwnerRules

structure FailureReport where
  operationName : String
  osErrorCode : Int32
  deriving DecidableEq

namespace FailureReport

structure Partial where
  operationName : Option String
  osErrorCode : Option Int32

open Json in
def shape : Shape Partial FailureReport where
  name := "ErrnoReport"
  fields :=
    [.of "operationName" Partial.operationName (fun p s => { p with operationName := some s })
        (readString "a string") (shrinks_readString _),
      .of "osErrorCode" Partial.osErrorCode (fun p i => { p with osErrorCode := some i })
        readInt32 shrinks_readInt32]
  start := ⟨none, none⟩
  finish missing p :=
    match p.operationName, p.osErrorCode with
    | none, _ => .error (missing 0 "operationName")
    | some _, none => .error (missing 1 "osErrorCode")
    | some operationName, some osErrorCode => .ok { operationName, osErrorCode }

def ofJson (text : String) : Except Json.Error FailureReport := shape.ofText text

def toJson (r : FailureReport) : String :=
  String.ofList <| Json.writeObject
    [("operationName", Json.writeText r.operationName),
      ("osErrorCode", Json.writeInteger r.osErrorCode.toInt)]

end FailureReport

end OwnerRules

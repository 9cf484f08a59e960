import OwnerRules.Bridge
import OwnerRules.Json.Record

namespace OwnerRules

structure Request where
  uid : Int32
  rules : UInt64
  mapPath : Option MapPath
  deriving DecidableEq

namespace Request

def defaultRules : UInt64 := Rule.iifMatch.bit.toUInt64

def ofUid (uid : Int32) : Request := ⟨uid, defaultRules, none⟩

structure Partial where
  uid : Option Int32
  rules : Option UInt64
  mapPath : Option (Option MapPath)

open Json in
def shape : Shape Partial Request where
  name := "RemoveUidInterfaceRuleCommand"
  fields :=
    [.of "uid" Partial.uid (fun p i => { p with uid := some i }) readInt32 shrinks_readInt32,
      .of "rules" Partial.rules (fun p n => { p with rules := some n }) readUInt64
        shrinks_readUInt64,
      .of "map_path" Partial.mapPath (fun p m => { p with mapPath := some m })
        (readNullable readPath) shrinks_readPath.nullable]
  start := ⟨none, none, none⟩
  finish missing p :=
    match p.uid with
    | none => .error (missing 0 "uid")
    | some uid => .ok ⟨uid, p.rules.getD defaultRules, p.mapPath.getD none⟩

def ofJson (text : String) : Except Json.Error Request := shape.ofText text

def toJson (r : Request) : Except Json.Error String :=
  let members :=
    [("uid", Json.writeInteger r.uid.toInt), ("rules", Json.writeInteger r.rules.toNat)]
  match r.mapPath with
  | none => .ok (String.ofList (Json.writeObject members))
  | some path =>
    match path.text? with
    | none => .error .pathNotText
    | some s => .ok (String.ofList (Json.writeObject (members ++ [("map_path", Json.writeText s)])))

def runOn {σ : Type} (r : Request) (g : Kernel.Gateway σ) (path : MapPath) (b : Bridge σ) :
    Except Failure Removal × Bridge σ :=
  b.clearRules g (r.mapPath.getD path) r.uid.toUInt32 r.rules

end Request

end OwnerRules

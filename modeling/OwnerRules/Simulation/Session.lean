import OwnerRules.Logging.Line
import OwnerRules.Request
import OwnerRules.Simulation.Kernel

namespace OwnerRules

open Kernel

inductive Step
  | clearRules (path : MapPath) (uid : UInt32) (rules : UInt64)
  | request (json : String) (path : MapPath)
  | openMap (path : MapPath)
  | call (c : Call)
  | put (e : Edit)
  | fail (c : Command) (i : Injection)
  | mend (c : Command)
  | race (es : List Edit)
  | setFd (fd : Int64)
  | setOkRet (ret : Int64)
  | setCapabilities (c : Capabilities)
  | exposeMetrics
  | answerHost (path : MapPath) (uid : Int32) (rules : Int64)
  | clearForHost (path : MapPath) (uid : Int32) (rules : Int64)
  | execute (json : String)
  | showConfig
  | startLogging (format : LogFormat)

inductive StepResult
  | none
  | done
  | fd (fd : Int32)
  | entry (e : Entry)
  | errno (e : Errno)
  | access (a : Access)
  | removal (r : Removal)
  | flag (b : Bool)
  | failure (f : Failure)
  | badJson (e : Json.Error)
  | config (c : Config)
  | text (s : String)
  | loggingTaken

namespace StepResult

def ofRemoval : Except Failure Removal → StepResult
  | .ok r => removal r
  | .error f => failure f

def ofFlag : Except Failure Bool → StepResult
  | .ok b => flag b
  | .error f => failure f

def ofAccess : Except Failure Access → StepResult
  | .ok a => access a
  | .error f => failure f

def ofAnswer (c : Call) (a : Except Errno c.Answer) : StepResult :=
  match c, a with
  | _, .error e => errno e
  | .objGet .., .ok n => fd n
  | .lookup .., .ok e => entry e
  | .update .., .ok _ => done
  | .delete .., .ok _ => done

end StepResult

abbrev Observed (κ : Type) : Type := SimulatedKernel × List κ

structure Session (κ : Type) where
  bridge : Bridge (Observed κ)
  environment : Environment
  config : Config
  printer : Option LogPrinter

structure StepReport (κ : Type) where
  result : StepResult
  calls : List κ
  entries : List (UInt32 × Entry)
  cached : Option Int32
  telemetry : Telemetry
  events : List Event
  lines : List Line

namespace Session

variable {κ : Type}

def start (entries : List (UInt32 × Entry)) (serializes : Bool) : Session κ where
  bridge := .start (.ofEntries entries, []) serializes
  environment := ⟨[]⟩
  config := .default
  printer := none

def startGlobal (entries : List (UInt32 × Entry)) (e : Environment) : Session κ where
  bridge := .start (.ofEntries entries, []) (Config.ofEnvironment e).serializeMutations
  environment := e
  config := .ofEnvironment e
  printer := none

def kernel (s : Session κ) : SimulatedKernel := s.bridge.kernel.1

def mapKernel (s : Session κ) (f : SimulatedKernel → SimulatedKernel) : Session κ :=
  { s with bridge := { s.bridge with kernel := (f s.kernel, s.bridge.kernel.2) } }

def withBridge {α : Type} (s : Session κ) (r : α × Bridge (Observed κ)) (f : α → StepResult) :
    StepResult × Session κ :=
  (f r.1, { s with bridge := r.2 })

def runRequest {α : Type} (s : Session κ) (g : Gateway (Observed κ)) (json : String)
    (path : MapPath) (after : Removal → Except Failure α) (f : Except Failure α → StepResult) :
    StepResult × Session κ :=
  match Request.ofJson json with
  | .error e => (.badJson e, s)
  | .ok r => s.withBridge (r.runOn g path s.bridge) fun a => f (a.bind after)

def startLogging (s : Session κ) (format : LogFormat) : StepResult × Session κ :=
  match s.printer with
  | some _ => (.loggingTaken, s)
  | none =>
    (.done,
      { s with
        bridge := s.bridge.emit (.loggingReady format)
        printer := some ⟨format, .ofEnvironment s.environment⟩ })

def step (g : Gateway (Observed κ)) (s : Session κ) : Step → StepResult × Session κ
  | .clearRules path uid rules => s.withBridge (s.bridge.clearRules g path uid rules) .ofRemoval
  | .request json path => s.runRequest g json path .ok .ofRemoval
  | .openMap path => s.withBridge (s.bridge.ensureOpen g path) .ofAccess
  | .call c => s.withBridge (s.bridge.call g c) (.ofAnswer c)
  | .put e => (.none, s.mapKernel fun k => { k with map := k.map.edit e })
  | .fail c i => (.none, s.mapKernel fun k => k.setInjection c (some i))
  | .mend c => (.none, s.mapKernel fun k => k.setInjection c none)
  | .race es => (.none, s.mapKernel fun k => { k with race := es })
  | .setFd fd => (.none, s.mapKernel fun k => { k with nextFd := fd })
  | .setOkRet ret => (.none, s.mapKernel fun k => { k with okRet := ret })
  | .setCapabilities c => (.none, { s with bridge := { s.bridge with capabilities := c } })
  | .exposeMetrics => (.text s.bridge.telemetry.exposition, s)
  | .answerHost path uid rules =>
    s.withBridge (s.bridge.answerHost g path uid rules) .ofFlag
  | .clearForHost path uid rules =>
    s.withBridge (s.bridge.clearForHost g path uid rules) .ofRemoval
  | .execute json => s.runRequest g json s.config.mapPath Removal.answer .ofFlag
  | .showConfig => (.config s.config, s)
  | .startLogging format => s.startLogging format

def clearTrace (s : Session κ) : Session κ :=
  { s with bridge := { s.bridge with kernel := (s.kernel, []), log := [] } }

def report (s : Session κ) (result : StepResult) : StepReport κ where
  result := result
  calls := s.bridge.kernel.2
  entries := s.kernel.map.toList
  cached := s.bridge.descriptor
  telemetry := s.bridge.telemetry
  events := s.bridge.log
  lines := (s.printer.map fun p => p.print s.bridge.log).getD []

def run (g : Gateway (Observed κ)) (s : Session κ) : List Step → List (StepReport κ)
  | [] => []
  | t :: ts =>
    let (result, s) := s.clearTrace.step g t
    s.report result :: run g s ts

def typedGateway : Gateway (Observed Exchange) := SimulatedKernel.gateway.recorded

def byteGateway (p : Placement) : Gateway (Observed Invocation) :=
  SimulatedKernel.syscall.recorded.gateway p

end Session

end OwnerRules

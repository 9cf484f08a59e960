import OwnerRules.Proofs.Finished
import OwnerRules.Proofs.SessionRun

namespace OwnerRules

open Kernel

def Request.operation (r : Request) (path : MapPath) : Operation :=
  .clearRules (r.mapPath.getD path) r.uid.toUInt32 r.rules

namespace Step

def operation? (c : Config) : Step → Option Operation
  | .clearRules path uid rules => some (.clearRules path uid rules)
  | .request json path => (Request.ofJson json).toOption.map (·.operation path)
  | .openMap path => some (.openMap path)
  | .answerHost path uid rules => some (.clearRules path uid.toUInt32 rules.toUInt64)
  | .clearForHost path uid rules => some (.clearRules path uid.toUInt32 rules.toUInt64)
  | .execute json => (Request.ofJson json).toOption.map (·.operation c.mapPath)
  | _ => none

/-- The steps that ask for no operation; with a refused text they leave any session as it is. -/
inductive Idle : Step → Prop
  | refused {t : Step} (e : Json.Error)
      (h : ∀ {κ : Type} (s : Session κ) (g : Gateway (Observed κ)), s.step g t = (.badJson e, s)) :
      Idle t
  | call (c : Call) : Idle (.call c)
  | put (e : Edit) : Idle (.put e)
  | fail (c : Command) (i : Injection) : Idle (.fail c i)
  | mend (c : Command) : Idle (.mend c)
  | race (es : List Edit) : Idle (.race es)
  | setFd (fd : Int64) : Idle (.setFd fd)
  | setOkRet (ret : Int64) : Idle (.setOkRet ret)
  | setCapabilities (c : Capabilities) : Idle (.setCapabilities c)
  | exposeMetrics : Idle .exposeMetrics
  | showConfig : Idle .showConfig
  | startLogging (format : LogFormat) : Idle (.startLogging format)

def shows : Step → Finished → StepResult
  | .answerHost .., ⟨.clearRules .., r⟩ => .ofFlag (r.bind Removal.answer)
  | .execute _, ⟨.clearRules .., r⟩ => .ofFlag (r.bind Removal.answer)
  | _, ⟨.clearRules .., r⟩ => .ofRemoval r
  | _, ⟨.openMap _, r⟩ => .ofAccess r

end Step

namespace Session

variable {κ : Type}

theorem ofJson_of_operation {json : String} {path : MapPath} {op : Operation}
    (h : (Request.ofJson json).toOption.map (·.operation path) = some op) :
    ∃ r, Request.ofJson json = .ok r ∧ r.operation path = op := by
  cases hr : Request.ofJson json with
  | error e =>
    rw [hr] at h
    cases h
  | ok r =>
    rw [hr] at h
    exact ⟨r, rfl, Option.some.inj h⟩

theorem ofJson_of_no_operation {json : String} {path : MapPath}
    (h : (Request.ofJson json).toOption.map (·.operation path) = none) :
    ∃ e, Request.ofJson json = .error e := by
  cases hr : Request.ofJson json with
  | error e => exact ⟨e, rfl⟩
  | ok r =>
    rw [hr] at h
    cases h

theorem runRequest_of_ok {α : Type} {json : String} {r : Request}
    (h : Request.ofJson json = .ok r) (s : Session κ) (g : Gateway (Observed κ)) (path : MapPath)
    (after : Removal → Except Failure α) (f : Except Failure α → StepResult) :
    s.runRequest g json path after f =
      s.withBridge (r.runOn g path s.bridge) fun a => f (a.bind after) := by
  rw [runRequest, h]

theorem runRequest_of_error {α : Type} {json : String} {e : Json.Error}
    (h : Request.ofJson json = .error e) (s : Session κ) (g : Gateway (Observed κ))
    (path : MapPath) (after : Removal → Except Failure α) (f : Except Failure α → StepResult) :
    s.runRequest g json path after f = (.badJson e, s) := by
  rw [runRequest, h]

theorem step_of_operation {s : Session κ} {t : Step} {op : Operation}
    (h : t.operation? s.config = some op) (g : Gateway (Observed κ)) :
    s.step g t =
      (t.shows (s.bridge.finished g op), { s with bridge := (s.bridge.perform g op).2 }) := by
  cases t with
  | clearRules path uid rules =>
    obtain rfl := Option.some.inj h
    rfl
  | request json path =>
    obtain ⟨r, hr, rfl⟩ := ofJson_of_operation h
    have hbind (a : Except Failure Removal) : a.bind .ok = a := by cases a <;> rfl
    simp only [step, runRequest_of_ok hr, hbind]
    rfl
  | openMap path =>
    obtain rfl := Option.some.inj h
    rfl
  | answerHost path uid rules =>
    obtain rfl := Option.some.inj h
    rfl
  | clearForHost path uid rules =>
    obtain rfl := Option.some.inj h
    rfl
  | execute json =>
    obtain ⟨r, hr, rfl⟩ := ofJson_of_operation h
    rw [step, runRequest_of_ok hr]
    rfl
  | _ => cases h

theorem idle_of_no_operation {t : Step} {c : Config} (h : t.operation? c = none) : t.Idle := by
  cases t with
  | clearRules path uid rules => cases h
  | openMap path => cases h
  | answerHost path uid rules => cases h
  | clearForHost path uid rules => cases h
  | request json path =>
    obtain ⟨e, he⟩ := ofJson_of_no_operation h
    exact .refused e fun s g => by rw [step, runRequest_of_error he]
  | execute json =>
    obtain ⟨e, he⟩ := ofJson_of_no_operation h
    exact .refused e fun s g => by rw [step, runRequest_of_error he]
  | call c => exact .call c
  | put e => exact .put e
  | fail c i => exact .fail c i
  | mend c => exact .mend c
  | race es => exact .race es
  | setFd fd => exact .setFd fd
  | setOkRet ret => exact .setOkRet ret
  | setCapabilities c => exact .setCapabilities c
  | exposeMetrics => exact .exposeMetrics
  | showConfig => exact .showConfig
  | startLogging format => exact .startLogging format

theorem keeps_of_no_operation {s : Session κ} {t : Step} (h : t.operation? s.config = none)
    (g : Gateway (Observed κ)) :
    (s.step g t).2.bridge.descriptor = s.bridge.descriptor ∧
      (s.step g t).2.bridge.telemetry = s.bridge.telemetry := by
  cases idle_of_no_operation h with
  | refused e hstep =>
    rw [hstep]
    exact ⟨rfl, rfl⟩
  | startLogging format =>
    simp only [step, startLogging]
    split <;> exact ⟨rfl, rfl⟩
  | _ => exact ⟨rfl, rfl⟩

end Session

end OwnerRules

import OwnerRules.Proofs.HostCall

namespace OwnerRules

open Kernel

variable {σ : Type}

namespace Event

def hintless : Event → Event
  | mapOpenFailed path e privileges =>
    mapOpenFailed path e (if e = .EPERM ∨ e = .EACCES then "" else privileges)
  | commandFailed uid c e privileges =>
    commandFailed uid c e (if e = .EPERM ∨ e = .EACCES then "" else privileges)
  | v => v

theorem hintless_mapOpenFailed (path : MapPath) (e : Errno) (c : Capabilities) :
    (mapOpenFailed path e (c.hintFor e)).hintless = mapOpenFailed path e "" := by
  by_cases h : e = .EPERM ∨ e = .EACCES <;> simp [hintless, Capabilities.hintFor, h]

theorem hintless_commandFailed (uid : UInt32) (d : Command) (e : Errno)
    (c : Capabilities) :
    (commandFailed uid d e (c.hintFor e)).hintless = commandFailed uid d e "" := by
  by_cases h : e = .EPERM ∨ e = .EACCES <;> simp [hintless, Capabilities.hintFor, h]

end Event

def Bridge.hintless (b : Bridge σ) : Bridge σ :=
  { b with log := b.log.map Event.hintless, capabilities := .empty }

theorem Bridge.hintless_eq_iff {b b' : Bridge σ} :
    b.hintless = b'.hintless ↔
      b.kernel = b'.kernel ∧ b.serializes = b'.serializes ∧ b.descriptor = b'.descriptor ∧
        b.telemetry = b'.telemetry ∧ b.log.map Event.hintless = b'.log.map Event.hintless := by
  simp [hintless]

namespace Bridge

variable {b b' : Bridge σ}

theorem emit_hintless (h : b.hintless = b'.hintless) {v v' : Event}
    (hv : v.hintless = v'.hintless) : (b.emit v).hintless = (b'.emit v').hintless := by
  obtain ⟨hk, hs, hd, ht, hl⟩ := hintless_eq_iff.mp h
  apply hintless_eq_iff.mpr
  refine ⟨hk, hs, hd, ht, ?_⟩
  simp only [emit, List.map_append, List.map_cons, List.map_nil, hl, hv]

theorem countKernelError_hintless (h : b.hintless = b'.hintless) (c : Command) :
    (b.countKernelError c).hintless = (b'.countKernelError c).hintless := by
  obtain ⟨hk, hs, hd, ht, hl⟩ := hintless_eq_iff.mp h
  apply hintless_eq_iff.mpr
  exact ⟨hk, hs, hd, congrArg (·.countKernelError c) ht, hl⟩

theorem fill_hintless (h : b.hintless = b'.hintless) (path : MapPath) (fd : Int32) :
    (b.fill path fd).hintless = (b'.fill path fd).hintless := by
  have hemit := emit_hintless h (v := .mapOpened path fd) rfl
  obtain ⟨hk, hs, -, ht, hl⟩ := hintless_eq_iff.mp hemit
  apply hintless_eq_iff.mpr
  exact ⟨hk, hs, rfl, congrArg Telemetry.countMapOpen ht, hl⟩

theorem conclude_hintless (h : b.hintless = b'.hintless) (uid : UInt32) (r : Removal) :
    (b.conclude uid r).2.hintless = (b'.conclude uid r).2.hintless := by
  have hemit := emit_hintless h (v := .removalFinished uid r.outcome) rfl
  obtain ⟨hk, hs, hd, ht, hl⟩ := hintless_eq_iff.mp hemit
  apply hintless_eq_iff.mpr
  exact ⟨hk, hs, hd, congrArg (·.countOutcome r.outcome) ht, hl⟩

theorem noteFailure_hintless (h : b.hintless = b'.hintless) (c : Command) (uid : UInt32)
    (e : Errno) : (b.noteFailure c uid e).hintless = (b'.noteFailure c uid e).hintless := by
  apply countKernelError_hintless
  apply emit_hintless h
  rw [Event.hintless_commandFailed, Event.hintless_commandFailed]

end Bridge

theorem Opening.leave_hintless {b b' : Bridge σ} (h : b.hintless = b'.hintless) (o : Opening)
    (path : MapPath) : (o.leave path b).hintless = (o.leave path b').hintless := by
  cases o with
  | cached fd => exact h
  | invalidPath => exact h
  | opened fd => exact Bridge.fill_hintless h path fd
  | unsupported => exact Bridge.emit_hintless h rfl
  | failed e =>
    apply Bridge.countKernelError_hintless
    apply Bridge.emit_hintless h
    rw [Event.hintless_mapOpenFailed, Event.hintless_mapOpenFailed]

theorem Clearing.note_hintless {b b' : Bridge σ} (h : b.hintless = b'.hintless) (c : Clearing)
    (uid mask : UInt32) : (c.note uid mask b).hintless = (c.note uid mask b').hintless := by
  cases c with
  | absent => exact h
  | lookupFailed e => exact Bridge.noteFailure_hintless h .lookup uid e
  | noMatch found => exact Bridge.emit_hintless h rfl
  | updated found => exact Bridge.emit_hintless h rfl
  | updateFailed found e => exact Bridge.noteFailure_hintless h .update uid e
  | deleted found => exact Bridge.emit_hintless h rfl
  | alreadyDeleted found => exact Bridge.emit_hintless h rfl
  | deleteFailed found e => exact Bridge.noteFailure_hintless h .delete uid e

theorem Clearing.leave_hintless {b b' : Bridge σ} (h : b.hintless = b'.hintless) (c : Clearing)
    (uid mask : UInt32) : (c.leave uid mask b).hintless = (c.leave uid mask b').hintless := by
  have hnote := c.note_hintless h uid mask
  simp only [leave]
  cases c.answer with
  | ok r => exact Bridge.conclude_hintless hnote uid r
  | error f => exact hnote

theorem Course.leave_hintless {b b' : Bridge σ} (h : b.hintless = b'.hintless) (c : Course)
    (path : MapPath) (uid mask : UInt32) :
    (c.leave path uid mask b).hintless = (c.leave path uid mask b').hintless := by
  cases c with
  | stopped o =>
    have ho := o.leave_hintless h path
    simp only [leave]
    cases o.answer path with
    | ok a => exact Bridge.conclude_hintless ho uid _
    | error f => exact ho
  | reached o fd c => exact c.leave_hintless (o.leave_hintless h path) uid mask

namespace Bridge

variable {b b' : Bridge σ}

theorem perform_hintless (h : b.hintless = b'.hintless) (g : Gateway σ) (op : Operation) :
    (b.perform g op).1 = (b'.perform g op).1 ∧
      (b.perform g op).2.hintless = (b'.perform g op).2.hintless := by
  -- The course depends on the kernel and the descriptor alone, so both bridges take the same.
  obtain ⟨hkernel, -, hdescriptor, -, -⟩ := hintless_eq_iff.mp h
  have hserved (k : σ) : hintless { b with kernel := k } = hintless { b' with kernel := k } := by
    obtain ⟨-, hs, hd, ht, hl⟩ := hintless_eq_iff.mp h
    exact hintless_eq_iff.mpr ⟨rfl, hs, hd, ht, hl⟩
  cases op with
  | openMap path =>
    obtain ⟨o, k, hp, hs, ho, -⟩ := b.openMap_opening g path
    rw [hdescriptor] at hp
    rw [hkernel] at hs
    rw [perform, perform, ho, ensureOpen_eq hp hs]
    exact ⟨rfl, o.leave_hintless (hserved k) path⟩
  | clearRules path uid rules =>
    obtain ⟨c, k, hp, hs, hc, -⟩ := b.clearRules_course g path uid rules
    rw [hdescriptor] at hp
    rw [hkernel] at hs
    rw [perform, perform, hc, clearRules_eq hp hs]
    exact ⟨rfl, c.leave_hintless (hserved k) path uid rules.toUInt32⟩

theorem exchanges_hintless (h : b.hintless = b'.hintless) (g : Gateway σ) (op : Operation) :
    b.exchanges g op = b'.exchanges g op := by
  obtain ⟨hk, hs, hd, ht, hl⟩ := hintless_eq_iff.mp h
  have hrecorded : (b.withKernel (b.kernel, ([] : List Exchange))).hintless =
      (b'.withKernel (b'.kernel, [])).hintless :=
    hintless_eq_iff.mpr ⟨by simp [withKernel, hk], hs, hd, ht, hl⟩
  have hafter := (perform_hintless hrecorded g.recorded op).2
  exact congrArg Prod.snd (hintless_eq_iff.mp hafter).1

theorem call_hintless (h : b.hintless = b'.hintless) (g : Gateway σ) (c : Call) :
    (b.call g c).1 = (b'.call g c).1 ∧ (b.call g c).2.hintless = (b'.call g c).2.hintless := by
  obtain ⟨hk, hs, hd, ht, hl⟩ := hintless_eq_iff.mp h
  rw [call_eq, call_eq, hk]
  exact ⟨rfl, hintless_eq_iff.mpr ⟨rfl, hs, hd, ht, hl⟩⟩

theorem handle_hintless (h : b.hintless = b'.hintless) (g : Gateway σ) (c : HostCall) :
    (b.handle g c).1 = (b'.handle g c).1 ∧
      (b.handle g c).2.hintless = (b'.handle g c).2.hintless := by
  obtain ⟨hanswer, hafter⟩ := perform_hintless h g c.operation
  cases c with
  | openMap path => exact ⟨congrArg StepResult.ofAccess hanswer, hafter⟩
  | clearRules path uid rules => exact ⟨congrArg StepResult.ofRemoval hanswer, hafter⟩
  | clearForHost path uid rules => exact ⟨congrArg StepResult.ofRemoval hanswer, hafter⟩
  | answerHost path uid rules =>
    have hbound (a a' : Except Failure Removal) (ha : a = a') :
        StepResult.ofFlag (a.bind Removal.answer) = .ofFlag (a'.bind Removal.answer) := by
      rw [ha]
    exact ⟨hbound _ _ hanswer, hafter⟩
  | request r path => exact ⟨congrArg StepResult.ofRemoval hanswer, hafter⟩

end Bridge

def Turn.hintless (t : Turn σ) : Turn σ := { t with after := t.after.hintless }

namespace Bridge

def withCapabilities (b : Bridge σ) (c : Capabilities) : Bridge σ := { b with capabilities := c }

/-- Calls each of which finds certain capabilities; a call looks at them once at most. -/
def turnsUnder (g : Gateway σ) : Bridge σ → List (Capabilities × HostCall) → List (Turn σ)
  | _, [] => []
  | b, (c, call) :: cs =>
    (b.withCapabilities c).turn g call :: turnsUnder g ((b.withCapabilities c).turn g call).after cs

theorem turn_hintless {b b' : Bridge σ} (h : b.hintless = b'.hintless) (g : Gateway σ)
    (c : HostCall) : (b.turn g c).hintless = (b'.turn g c).hintless := by
  obtain ⟨hresult, hafter⟩ := handle_hintless h g c
  have hexchanges : (b.turn g c).exchanges = (b'.turn g c).exchanges := by
    rw [exchanges_turn, exchanges_turn, exchanges_hintless h]
  simp only [Turn.hintless, Turn.mk.injEq]
  exact ⟨hresult, hexchanges, hafter⟩

theorem turnsUnder_hintless (g : Gateway σ) {b b' : Bridge σ} (h : b.hintless = b'.hintless)
    {cs cs' : List (Capabilities × HostCall)} (hcs : cs.map Prod.snd = cs'.map Prod.snd) :
    (b.turnsUnder g cs).map Turn.hintless = (b'.turnsUnder g cs').map Turn.hintless := by
  induction cs generalizing b b' cs' with
  | nil =>
    obtain rfl : cs' = [] := by simpa using hcs.symm
    rfl
  | cons c cs ih =>
    cases cs' with
    | nil => cases hcs
    | cons c' cs' =>
      obtain ⟨hc, hcs⟩ := List.cons.inj hcs
      have hunder : (b.withCapabilities c.1).hintless = (b'.withCapabilities c'.1).hintless := h
      have hturn := turn_hintless hunder g c.2
      rw [turnsUnder, turnsUnder, List.map_cons, List.map_cons, ← hc, hturn,
        ih (congrArg Turn.after hturn) hcs]

end Bridge

namespace Session

variable {κ : Type} {s s' : Session κ}

def hintless (s : Session κ) : Session κ := { s with bridge := s.bridge.hintless }

theorem hintless_eq_iff :
    s.hintless = s'.hintless ↔ s.bridge.hintless = s'.bridge.hintless ∧
      s.environment = s'.environment ∧ s.config = s'.config ∧ s.printer = s'.printer := by
  simp [hintless]

theorem mapKernel_hintless (h : s.hintless = s'.hintless) (f : SimulatedKernel → SimulatedKernel) :
    (s.mapKernel f).hintless = (s'.mapKernel f).hintless := by
  obtain ⟨hbridge, he, hc, hp⟩ := hintless_eq_iff.mp h
  obtain ⟨hk, hs, hd, ht, hl⟩ := Bridge.hintless_eq_iff.mp hbridge
  apply hintless_eq_iff.mpr
  refine ⟨Bridge.hintless_eq_iff.mpr ⟨?_, hs, hd, ht, hl⟩, he, hc, hp⟩
  simp only [mapKernel, kernel, hk]

theorem startLogging_hintless (h : s.hintless = s'.hintless) (format : LogFormat) :
    (s.startLogging format).1 = (s'.startLogging format).1 ∧
      (s.startLogging format).2.hintless = (s'.startLogging format).2.hintless := by
  obtain ⟨hbridge, he, hc, hp⟩ := hintless_eq_iff.mp h
  rw [startLogging, startLogging, ← hp]
  cases s.printer with
  | some p => exact ⟨rfl, h⟩
  | none =>
    refine ⟨rfl, hintless_eq_iff.mpr ⟨?_, he, hc, by rw [he]⟩⟩
    exact Bridge.emit_hintless hbridge rfl

theorem step_hintless (h : s.hintless = s'.hintless) (g : Gateway (Observed κ)) (t : Step) :
    (s.step g t).1 = (s'.step g t).1 ∧ (s.step g t).2.hintless = (s'.step g t).2.hintless := by
  obtain ⟨hbridge, he, hc, hp⟩ := hintless_eq_iff.mp h
  cases hop : t.operation? s.config with
  | some op =>
    have hop' : t.operation? s'.config = some op := hc ▸ hop
    obtain ⟨hanswer, hafter⟩ := Bridge.perform_hintless hbridge g op
    rw [step_of_operation hop, step_of_operation hop', Bridge.finished, Bridge.finished, hanswer]
    exact ⟨rfl, hintless_eq_iff.mpr ⟨hafter, he, hc, hp⟩⟩
  | none =>
    cases idle_of_no_operation hop with
    | refused e hstep =>
      rw [hstep, hstep]
      exact ⟨rfl, h⟩
    | call c =>
      obtain ⟨hanswer, hafter⟩ := Bridge.call_hintless hbridge g c
      exact ⟨congrArg (StepResult.ofAnswer c) hanswer,
        hintless_eq_iff.mpr ⟨hafter, he, hc, hp⟩⟩
    | setCapabilities c => exact ⟨rfl, h⟩
    | exposeMetrics =>
      have ht := (Bridge.hintless_eq_iff.mp hbridge).2.2.2.1
      exact ⟨by rw [step, step, ht], h⟩
    | showConfig => exact ⟨by rw [step, step, hc], h⟩
    | startLogging format => exact startLogging_hintless h format
    | _ => exact ⟨rfl, mapKernel_hintless h _⟩

theorem clearTrace_hintless (h : s.hintless = s'.hintless) :
    s.clearTrace.hintless = s'.clearTrace.hintless := by
  obtain ⟨hbridge, he, hc, hp⟩ := hintless_eq_iff.mp h
  obtain ⟨hk, hs, hd, ht, hl⟩ := Bridge.hintless_eq_iff.mp hbridge
  apply hintless_eq_iff.mpr
  refine ⟨Bridge.hintless_eq_iff.mpr ⟨?_, hs, hd, ht, rfl⟩, he, hc, hp⟩
  simp only [clearTrace, kernel, hk]

end Session

def StepReport.hintless {κ : Type} (r : StepReport κ) : StepReport κ :=
  { r with events := r.events.map Event.hintless, lines := [] }

namespace Step

def setsCapabilities : Step → Bool
  | setCapabilities _ => true
  | _ => false

end Step

namespace Session

variable {κ : Type} {s s' : Session κ}

theorem report_hintless (h : s.hintless = s'.hintless) (result : StepResult) :
    (s.report result).hintless = (s'.report result).hintless := by
  obtain ⟨hk, hs, hd, ht, hl⟩ := Bridge.hintless_eq_iff.mp (hintless_eq_iff.mp h).1
  simp only [StepReport.hintless, report, kernel, hk, hd, ht, hl]

theorem run_hintless (g : Gateway (Observed κ)) (ts : List Step)
    (h : s.clearTrace.hintless = s'.clearTrace.hintless) :
    (s.run g ts).map StepReport.hintless = (s'.run g ts).map StepReport.hintless := by
  induction ts generalizing s s' with
  | nil => rfl
  | cons t ts ih =>
    obtain ⟨hresult, hafter⟩ := step_hintless h g t
    simp only [run, List.map_cons]
    rw [hresult, report_hintless hafter, ih (clearTrace_hintless hafter)]

def observe (g : Gateway (Observed κ)) (s : Session κ) (ts : List Step) : List (StepReport κ) :=
  (ts.zip (s.run g ts)).filterMap fun p => if p.1.setsCapabilities then none else some p.2

theorem observe_hintless (g : Gateway (Observed κ)) (s : Session κ) (ts : List Step) :
    (s.observe g ts).map StepReport.hintless =
      (s.run g (ts.filter fun t => !t.setsCapabilities)).map StepReport.hintless := by
  induction ts generalizing s with
  | nil => rfl
  | cons t ts ih =>
    cases ht : t.setsCapabilities with
    | true =>
      have hrest : s.observe g (t :: ts) = (s.clearTrace.step g t).2.observe g ts := by
        simp [observe, run, ht]
      -- The session goes on from a state that differs in its capabilities only.
      have hsame : (s.clearTrace.step g t).2.clearTrace.hintless = s.clearTrace.hintless := by
        cases t <;> cases ht
        rfl
      rw [hrest, ih, List.filter_cons_of_neg (by simp [ht])]
      exact run_hintless g _ hsame
    | false =>
      have hrest : s.observe g (t :: ts) =
          (s.clearTrace.step g t).2.report (s.clearTrace.step g t).1 ::
            (s.clearTrace.step g t).2.observe g ts := by
        simp [observe, run, ht]
      rw [hrest, List.map_cons, ih, List.filter_cons_of_pos (by simp [ht])]
      rfl

def withCapabilities (s : Session κ) (c : Capabilities) : Session κ :=
  { s with bridge := s.bridge.withCapabilities c }

theorem observe_of_filter_eq (g : Gateway (Observed κ)) (s : Session κ) (c c' : Capabilities)
    {ts ts' : List Step}
    (h : (ts.filter fun t => !t.setsCapabilities) = ts'.filter fun t => !t.setsCapabilities) :
    ((s.withCapabilities c).observe g ts).map StepReport.hintless =
      ((s.withCapabilities c').observe g ts').map StepReport.hintless := by
  rw [observe_hintless, observe_hintless, h]
  exact run_hintless g _ rfl

end Session

end OwnerRules

import Mathlib.Data.List.Sublists
import OwnerRules.Proofs.Hintless
import OwnerRules.Proofs.LoggedEvents

namespace OwnerRules

open Kernel

variable {σ : Type}

theorem MapCapability.mem_all (m : MapCapability) : m ∈ all := by
  cases m <;> decide

namespace Capabilities

def Has (c : Capabilities) (number : Nat) : Prop := ∃ ns ∈ c.effective, number ∈ ns

/-- Both can be read or neither, and the same of CAP_NET_ADMIN, CAP_SYS_ADMIN and CAP_BPF are among
them. -/
def Alike (c c' : Capabilities) : Prop :=
  c.effective.isSome = c'.effective.isSome ∧ ∀ number ∈ [12, 21, 39], c.Has number ↔ c'.Has number

theorem alike_iff {c c' : Capabilities} :
    c.Alike c' ↔ c.effective.isSome = c'.effective.isSome ∧
      ∀ m : MapCapability, c.Has m.number ↔ c'.Has m.number := by
  apply and_congr_right
  intro _
  constructor
  · intro h m
    apply h
    cases m <;> decide
  · intro h
    have hbpf := h .bpf
    have hnet := h .netAdmin
    have hsys := h .sysAdmin
    simp only [MapCapability.number] at hbpf hnet hsys
    simp [hbpf, hnet, hsys]

theorem held_eq_iff {c c' : Capabilities} : c.held = c'.held ↔ c.Alike c' := by
  rw [alike_iff]
  obtain ⟨ns⟩ := c
  obtain ⟨ns'⟩ := c'
  cases ns with
  | none => cases ns' <;> simp [held, Has]
  | some ns =>
    cases ns' with
    | none => simp [held]
    | some ns' =>
      simp only [held, Has, Option.map_some, Option.some.injEq, Option.isSome_some,
        Option.mem_def, exists_eq_left', true_and]
      constructor
      · intro h m
        have hm := congrArg (m ∈ ·) h
        simpa [MapCapability.mem_all] using hm
      · intro h
        apply List.filter_congr
        intro m _
        simp [h m]

def holdings : List (Option (List MapCapability)) :=
  none :: MapCapability.all.sublists.map some

theorem held_mem_holdings (c : Capabilities) : c.held ∈ holdings := by
  cases hc : c.effective with
  | none => simp [held, holdings, hc]
  | some ns =>
    rw [held, hc, holdings]
    apply List.mem_cons_of_mem
    apply List.mem_map_of_mem
    exact List.mem_sublists.mpr List.filter_sublist

theorem describe_eq_iff {c c' : Capabilities} : c.describe = c'.describe ↔ c.Alike c' := by
  rw [← held_eq_iff]
  delta describe
  constructor
  · -- There are nine cases of what is held, and their texts differ.
    have hc := c.held_mem_holdings
    have hc' := c'.held_mem_holdings
    generalize c.held = h at *
    generalize c'.held = h' at *
    revert h h'
    decide
  · intro h
    rw [h]

theorem hintFor_eq_iff {e : Errno} (he : e = .EPERM ∨ e = .EACCES) {c c' : Capabilities} :
    c.hintFor e = c'.hintFor e ↔ c.Alike c' := by
  rw [hintFor, hintFor, if_pos he, if_pos he, describe_eq_iff]

end Capabilities

def Event.Hints (c : Capabilities) (v : Event) : Prop :=
  v.level = .warn → ∃ e : Errno,
    v.field? "errno" = some (.text (e.name ++ ": " ++ e.description)) ∧
    v.field? "privileges" = some (.text (c.hintFor e))

theorem Kernel.Exchange.hints_of_event? {uid mask : UInt32} {c : Capabilities} {x : Exchange}
    {v : Event} (h : x.event? uid mask c = some v) : v.Hints c := by
  intro hwarn
  by_cases hx : ∀ e, x.errno? = some e → x.call.command.Expects e
  · have hquiet : (x.event? uid mask c).filter (·.level = .warn) = none := filter_warn hx
    simp [h, Option.filter, hwarn] at hquiet
  · obtain ⟨e, he, hne⟩ : ∃ e, x.errno? = some e ∧ ¬ x.call.command.Expects e := by
      simpa using hx
    obtain ⟨w, hw, -, herrno, hprivileges, -⟩ := exists_warning he hne uid mask c
    obtain rfl := Option.some.inj (h.symm.trans hw)
    exact ⟨e, herrno, hprivileges⟩

theorem Event.hints_of_mem_conclusion {uid : UInt32} {a : Except Failure Removal} {v : Event}
    (h : v ∈ conclusion uid a) (c : Capabilities) : v.Hints c := by
  cases a with
  | ok r =>
    obtain rfl := List.mem_singleton.mp h
    rintro ⟨⟩
  | error f => cases h

namespace Bridge

theorem hints_of_mem_perform {b : Bridge σ} {g : Gateway σ} {op : Operation} {v : Event}
    (h : v ∈ (b.perform g op).2.log) : v ∈ b.log ∨ v.Hints b.capabilities := by
  cases op with
  | openMap path =>
    obtain ⟨o, k, hp, -, ho, -⟩ := b.openMap_opening g path
    rw [perform, ho, o.log_leave hp 0 0] at h
    rcases List.mem_append.mp h with h | h
    · exact .inl h
    · obtain ⟨x, -, hx⟩ := List.mem_filterMap.mp h
      exact .inr (Exchange.hints_of_event? hx)
  | clearRules path uid rules =>
    rw [perform, log_clearRules] at h
    rcases List.mem_append.mp h with h | h
    · exact .inl h
    rcases List.mem_append.mp h with h | h
    · obtain ⟨x, -, hx⟩ := List.mem_filterMap.mp h
      exact .inr (Exchange.hints_of_event? hx)
    · exact .inr (Event.hints_of_mem_conclusion h _)

end Bridge

@[simp] theorem Clearing.capabilities_leave (c : Clearing) (uid mask : UInt32) (b : Bridge σ) :
    (c.leave uid mask b).capabilities = b.capabilities := by
  cases c <;> rfl

theorem Course.capabilities_leave (c : Course) (path : MapPath) (uid mask : UInt32)
    (b : Bridge σ) : (c.leave path uid mask b).capabilities = b.capabilities := by
  cases c with
  | stopped o =>
    rw [leave]
    split <;> exact o.capabilities_leave path b
  | reached o fd c => rw [leave, c.capabilities_leave, o.capabilities_leave]

theorem Bridge.capabilities_perform (b : Bridge σ) (g : Gateway σ) (op : Operation) :
    (b.perform g op).2.capabilities = b.capabilities := by
  cases op with
  | openMap path =>
    obtain ⟨o, k, -, -, ho, -⟩ := b.openMap_opening g path
    rw [perform, ho, o.capabilities_leave]
  | clearRules path uid rules =>
    obtain ⟨c, k, -, -, hc, -⟩ := b.clearRules_course g path uid rules
    rw [perform, hc, c.capabilities_leave]

def Capabilities.after (c : Capabilities) (ts : List Step) : Capabilities :=
  ts.foldl
    (fun c t =>
      match t with
      | .setCapabilities c' => c'
      | _ => c)
    c

namespace Session

variable {κ : Type} {s : Session κ}

theorem events_of_no_operation {t : Step} (h : t.operation? s.config = none)
    (g : Gateway (Observed κ)) :
    (s.step g t).2.bridge.capabilities = s.bridge.capabilities.after [t] ∧
      ∀ v ∈ (s.step g t).2.bridge.log, v ∈ s.bridge.log ∨ v.level = .info := by
  cases idle_of_no_operation h with
  | refused e hstep =>
    have hkept : s.bridge.capabilities.after [t] = s.bridge.capabilities := by
      cases t with
      | setCapabilities c => cases congrArg Prod.fst (hstep s g)
      | _ => rfl
    rw [hstep, hkept]
    exact ⟨rfl, fun v hv => .inl hv⟩
  | startLogging format =>
    rw [step, startLogging]
    cases s.printer with
    | some p => exact ⟨rfl, fun v hv => .inl hv⟩
    | none =>
      refine ⟨rfl, fun v hv => ?_⟩
      rcases List.mem_append.mp hv with hv | hv
      · exact .inl hv
      · obtain rfl := List.mem_singleton.mp hv
        exact .inr rfl
  | _ => exact ⟨rfl, fun v hv => .inl hv⟩

theorem capabilities_step (s : Session κ) (g : Gateway (Observed κ)) (t : Step) :
    (s.step g t).2.bridge.capabilities = s.bridge.capabilities.after [t] := by
  cases hop : t.operation? s.config with
  | some op =>
    have hsame : s.bridge.capabilities.after [t] = s.bridge.capabilities := by
      cases t with
      | setCapabilities c => cases hop
      | _ => rfl
    rw [step_of_operation hop, hsame]
    exact s.bridge.capabilities_perform g op
  | none => exact (events_of_no_operation hop g).1

theorem hints_of_mem_step {g : Gateway (Observed κ)} {t : Step} {v : Event}
    (h : v ∈ (s.step g t).2.bridge.log) : v ∈ s.bridge.log ∨ v.Hints s.bridge.capabilities := by
  cases hop : t.operation? s.config with
  | some op =>
    rw [step_of_operation hop] at h
    exact Bridge.hints_of_mem_perform h
  | none =>
    rcases (events_of_no_operation hop g).2 v h with hv | hlevel
    · exact .inl hv
    · right
      intro hwarn
      rw [hlevel] at hwarn
      cases hwarn

theorem hints_of_mem_run {g : Gateway (Observed κ)} {ts : List Step} {n : Nat}
    {r : StepReport κ} (h : (s.run g ts)[n]? = some r) :
    ∀ v ∈ r.events, v.Hints (s.bridge.capabilities.after (ts.take n)) := by
  induction ts generalizing s n with
  | nil => cases h
  | cons t ts ih =>
    cases n with
    | zero =>
      obtain rfl := Option.some.inj h
      intro v hv
      rcases hints_of_mem_step hv with hold | hhints
      · cases hold
      · exact hhints
    | succ n =>
      have hrest := ih (s := (s.clearTrace.step g t).2) h
      rw [capabilities_step] at hrest
      exact hrest

theorem reports_under_capabilities (g : Gateway σ) (b : Bridge σ) (gs : Gateway (Observed κ))
    (s : Session κ) :
    (∀ cs cs' : List (Capabilities × HostCall), cs.map Prod.snd = cs'.map Prod.snd →
      (b.turnsUnder g cs).map Turn.hintless = (b.turnsUnder g cs').map Turn.hintless) ∧
    (∀ (c c' : Capabilities) (ts ts' : List Step),
      (ts.filter fun t => !t.setsCapabilities) = (ts'.filter fun t => !t.setsCapabilities) →
      ((s.withCapabilities c).observe gs ts).map StepReport.hintless =
        ((s.withCapabilities c').observe gs ts').map StepReport.hintless) ∧
    (∀ c : HostCall, ∀ v ∈ (b.turn g c).after.log, v ∈ b.log ∨ v.Hints b.capabilities) ∧
    (∀ (ts : List Step) (n : Nat) (r : StepReport κ), (s.run gs ts)[n]? = some r →
      ∀ v ∈ r.events, v.Hints (s.bridge.capabilities.after (ts.take n))) ∧
    ∀ (c c' : Capabilities) (e : Errno), e = .EPERM ∨ e = .EACCES →
      (c.hintFor e = c'.hintFor e ↔ c.Alike c') := by
  refine ⟨fun cs cs' h => Bridge.turnsUnder_hintless g rfl h,
    fun c c' ts ts' h => observe_of_filter_eq gs s c c' h, ?_,
    fun ts n r h => hints_of_mem_run h, fun c c' e he => Capabilities.hintFor_eq_iff he⟩
  intro c v hv
  rw [Bridge.after_turn] at hv
  exact Bridge.hints_of_mem_perform hv

example :
    let k := (SimulatedKernel.ofEntries [(7, ⟨3, 5⟩)]).setInjection .update (some ⟨1, none, -1⟩)
    let b := Bridge.start k true
    let calls : List HostCall := [.clearRules ⟨[47]⟩ 7 1]
    let events (c : Capabilities) :=
      (b.turnsUnder SimulatedKernel.gateway (calls.map (Prod.mk c))).flatMap (·.after.log)
    (events ⟨none⟩)[1]? =
        some (.commandFailed 7 .update .EPERM "effective caps: (unable to read)") ∧
      (events ⟨some [12, 7, 12]⟩)[1]? =
        some (.commandFailed 7 .update .EPERM "effective caps: CAP_NET_ADMIN") := by
  decide

end Session

end OwnerRules

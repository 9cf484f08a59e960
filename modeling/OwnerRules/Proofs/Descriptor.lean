import OwnerRules.Proofs.Operation
import OwnerRules.Simulation.Kernel

namespace OwnerRules

open Kernel

def Kernel.Call.fd? : Call → Option Int32
  | .objGet .. => none
  | .lookup fd _ => some fd
  | .update fd _ _ _ => some fd
  | .delete fd _ => some fd

theorem Kernel.Invocation.fdOf_attr {c : Call} {fd : Int32} (h : c.fd? = some fd) (p : Placement) :
    Attributes.fdOf (Invocation.ofCall p c).attr = fd.toUInt32 := by
  cases c with
  | objGet path flags => cases h
  | lookup fd' uid =>
    obtain rfl := Option.some.inj h
    exact Attributes.fdOf_element _ _ _ _
  | update fd' uid entry flags =>
    obtain rfl := Option.some.inj h
    exact Attributes.fdOf_element _ _ _ _
  | delete fd' uid =>
    obtain rfl := Option.some.inj h
    exact Attributes.fdOf_element _ _ _ _

def Kernel.Exchange.opens (x : Exchange) : Bool := x.call.fd?.isNone && x.errno?.isNone

theorem Kernel.Exchange.opens_iff (x : Exchange) :
    x.opens = true ↔ x.call.fd? = none ∧ x.errno? = none := by
  simp [opens]

theorem Opening.errno?_ne_none {o : Opening} {path : MapPath} {x : Exchange}
    (ho : o.descriptor = none) (hx : x ∈ o.exchanges path) : x.errno? ≠ none := by
  cases o with
  | cached fd => cases ho
  | opened fd => cases ho
  | invalidPath => cases hx
  | _ =>
    rw [List.mem_singleton.mp hx]
    exact Option.some_ne_none _

theorem Clearing.fd?_of_mem_exchanges {c : Clearing} {fd : Int32} {uid mask : UInt32} {x : Exchange}
    (hx : x ∈ c.exchanges fd uid mask) : x.call.fd? = some fd := by
  cases c with
  | absent => rw [List.mem_singleton.mp hx]; rfl
  | lookupFailed e => rw [List.mem_singleton.mp hx]; rfl
  | noMatch found => rw [List.mem_singleton.mp hx]; rfl
  | _ =>
    obtain rfl | hx := List.mem_cons.mp hx
    · rfl
    · rw [List.mem_singleton.mp hx]; rfl

def Operation.unsupported : (op : Operation) → op.Result
  | .openMap _ => .unsupported
  | .clearRules .. => .of .unsupported

section Stages

variable {σ : Type}

theorem Opening.mapOpens_leave (o : Opening) (path : MapPath) {b b' : Bridge σ}
    (h : b.telemetry = b'.telemetry) :
    (o.leave path b).telemetry.mapOpens = (o.leave path b').telemetry.mapOpens := by
  cases o <;> simp [leave, Bridge.fill, Bridge.emit, Bridge.countKernelError,
    Telemetry.countMapOpen, Telemetry.countKernelError, h]

theorem Clearing.mapOpens_leave (c : Clearing) (uid mask : UInt32) (b : Bridge σ) :
    (c.leave uid mask b).telemetry.mapOpens = b.telemetry.mapOpens := by
  cases c <;> rfl

theorem Course.mapOpens_leave (c : Course) {path : MapPath} (uid mask : UInt32) {b b' : Bridge σ}
    (h : b.telemetry = b'.telemetry) :
    (c.leave path uid mask b).telemetry.mapOpens =
      (c.opening.leave path b').telemetry.mapOpens := by
  cases c with
  | stopped o =>
    rw [opening, ← o.mapOpens_leave path h, leave]
    split <;> rfl
  | reached o fd c => rw [opening, ← o.mapOpens_leave path h, leave, c.mapOpens_leave]

theorem Course.answer_of_unsupported {c : Course} {d : Option Int32} {path : MapPath}
    {mask : UInt32} (h : c.Possible d path mask) (hu : c.opening.answer path = .ok .unsupported) :
    c.answer path = .ok (.of .unsupported) := by
  cases c with
  | stopped o =>
    have ho : o.answer path = .ok .unsupported := hu
    rw [answer, ho]
    rfl
  | reached o fd c =>
    obtain ⟨-, hd, -⟩ := h
    cases o with
    | unsupported => cases hd
    | _ => cases hu

end Stages

namespace Bridge

variable {σ : Type} {g : Gateway σ}

theorem nil_of_no_descriptor {d : Option Int32} {xs : List Exchange} (hd : d = none)
    (h : ∀ x ∈ xs, ∃ fd, d = some fd ∧ x.call.fd? = some fd) : xs = [] := by
  apply List.eq_nil_iff_forall_not_mem.mpr
  intro x hx
  obtain ⟨fd, hfd, -⟩ := h x hx
  rw [hd] at hfd
  cases hfd

theorem perform_opening (b : Bridge σ) (g : Gateway σ) (op : Operation) :
    ∃ (o : Opening) (xs : List Exchange), o.Possible b.descriptor op.path ∧
      b.exchanges g op = o.exchanges op.path ++ xs ∧
      (b.perform g op).2.descriptor = o.descriptor ∧
      (∀ x ∈ xs, ∃ fd, o.descriptor = some fd ∧ x.call.fd? = some fd) ∧
      (∀ f, o.answer op.path = .error f → (b.perform g op).1 = .error f) ∧
      (o.answer op.path = .ok .unsupported → (b.perform g op).1 = .ok op.unsupported) ∧
      (b.perform g op).2.telemetry.mapOpens = (o.leave op.path b).telemetry.mapOpens := by
  cases op with
  | openMap path =>
    obtain ⟨o, k, hp, -, he, hx⟩ := b.openMap_opening g path
    refine ⟨o, [], hp, by simp [hx, Operation.path], ?_, by simp, ?_, ?_, ?_⟩
    · rw [perform, he]
      exact o.descriptor_leave (b := { b with kernel := k }) hp
    · intro f hf
      rw [perform, he]
      exact hf
    · intro hu
      rw [perform, he]
      exact hu
    · rw [perform, he]
      exact o.mapOpens_leave path rfl
  | clearRules path uid rules =>
    obtain ⟨c, k, hp, -, hc, hx⟩ := b.clearRules_course g path uid rules
    obtain ⟨xs, hxs, hfd⟩ : ∃ xs, c.exchanges path uid rules.toUInt32 =
        c.opening.exchanges path ++ xs ∧
        ∀ x ∈ xs, ∃ fd, c.opening.descriptor = some fd ∧ x.call.fd? = some fd := by
      cases c with
      | stopped o => exact ⟨[], (List.append_nil _).symm, by simp⟩
      | reached o fd c =>
        exact ⟨_, rfl, fun x hx => ⟨fd, hp.2.1, c.fd?_of_mem_exchanges hx⟩⟩
    refine ⟨c.opening, xs, c.opening_possible hp, hx.trans hxs, ?_, hfd, ?_, ?_, ?_⟩
    · rw [perform, hc]
      exact c.descriptor_leave (b := { b with kernel := k }) hp
    · intro f hf
      rw [perform, hc]
      exact c.answer_of_opening hp hf
    · intro hu
      rw [perform, hc]
      exact c.answer_of_unsupported hp hu
    · rw [perform, hc]
      exact c.mapOpens_leave uid rules.toUInt32 rfl

theorem descriptor_of_run {b : Bridge σ} {fd : Int32} (hb : b.descriptor = some fd)
    (ops : List Operation) :
    (b.after g ops).descriptor = some fd ∧ ∀ x ∈ b.history g ops, x.call.fd? = some fd := by
  induction ops generalizing b with
  | nil => exact ⟨hb, by simp [history]⟩
  | cons op ops ih =>
    obtain ⟨o, xs, hp, hx, hd, hfd, -⟩ := b.perform_opening g op
    rw [hb] at hp
    obtain rfl := hp.eq_cached
    obtain ⟨hafter, hhist⟩ := ih hd
    refine ⟨hafter, ?_⟩
    intro x hmem
    rcases List.mem_append.mp hmem with hmem | hmem
    · rw [hx] at hmem
      obtain ⟨fd', hfd', hcall⟩ := hfd x hmem
      exact hcall.trans hfd'.symm
    · exact hhist x hmem

theorem perform_of_empty {b : Bridge σ} (hb : b.descriptor = none) (op : Operation) :
    ((b.perform g op).2.descriptor = none ∧
      ∀ x ∈ b.exchanges g op, x.call.fd? = none ∧ x.errno? ≠ none) ∨
    ∃ fd xs, (b.perform g op).2.descriptor = some fd ∧
      b.exchanges g op = ⟨.objGet op.path Flag.readWrite, .ok fd⟩ :: xs ∧
      ∀ x ∈ xs, x.call.fd? = some fd := by
  obtain ⟨o, xs, hp, hx, hd, hfd, -⟩ := b.perform_opening g op
  rw [hx, hd]
  by_cases ho : o.descriptor = none
  · obtain rfl := nil_of_no_descriptor ho hfd
    refine .inl ⟨ho, ?_⟩
    intro x hmem
    rw [List.append_nil] at hmem
    rw [o.call_of_mem_exchanges hmem]
    exact ⟨rfl, o.errno?_ne_none ho hmem⟩
  · cases o with
    | cached fd => rw [hb] at hp; cases hp
    | opened fd =>
      refine .inr ⟨fd, xs, rfl, rfl, ?_⟩
      intro x hmem
      obtain ⟨fd', hfd', hcall⟩ := hfd x hmem
      exact hcall.trans hfd'.symm
    | _ => exact absurd rfl ho

structure Unopened (g : Gateway σ) (b : Bridge σ) (ops : List Operation) : Prop where
  descriptor : ∀ p, p <+: ops → (b.after g p).descriptor = none
  history : ∀ x ∈ b.history g ops, x.call.fd? = none ∧ x.errno? ≠ none

namespace Unopened

theorem nil {b : Bridge σ} (hb : b.descriptor = none) : b.Unopened g [] := by
  constructor
  · intro p hp
    rw [List.prefix_nil.mp hp]
    exact hb
  · intro x hx
    cases hx

theorem cons {b : Bridge σ} {op : Operation} {ops : List Operation} (hb : b.descriptor = none)
    (hx : ∀ x ∈ b.exchanges g op, x.call.fd? = none ∧ x.errno? ≠ none)
    (h : (b.perform g op).2.Unopened g ops) : b.Unopened g (op :: ops) := by
  constructor
  · intro p hp
    rcases List.prefix_cons_iff.mp hp with rfl | ⟨q, rfl, hq⟩
    · exact hb
    · exact h.descriptor q hq
  · intro x hmem
    rcases List.mem_append.mp hmem with hmem | hmem
    · exact hx x hmem
    · exact h.history x hmem

end Unopened

/-- The call of `op` opened the map as `fd`, after failed opens alone, and `fd` is kept. -/
structure Opened (g : Gateway σ) (b : Bridge σ) (before : List Operation) (op : Operation)
    (later : List Operation) (fd : Int32) : Prop where
  unopened : b.Unopened g before
  opens : ∃ xs, (b.after g before).exchanges g op = ⟨.objGet op.path Flag.readWrite, .ok fd⟩ :: xs ∧
    ∀ x ∈ xs, x.call.fd? = some fd
  descriptor : ∀ p, p <+: later → (b.after g (before ++ op :: p)).descriptor = some fd
  history : ∀ x ∈ (b.after g (before ++ [op])).history g later, x.call.fd? = some fd

theorem unopened_or_opened {b : Bridge σ} (hb : b.descriptor = none) (ops : List Operation) :
    b.Unopened g ops ∨
      ∃ before op later fd, ops = before ++ op :: later ∧ b.Opened g before op later fd := by
  induction ops generalizing b with
  | nil => exact .inl (.nil hb)
  | cons op ops ih =>
    rcases perform_of_empty hb op with ⟨hd, hnow⟩ | ⟨fd, xs, hd, hnow, hfd⟩
    · rcases ih hd with h | ⟨before, op', later, fd, rfl, h⟩
      · exact .inl (.cons hb hnow h)
      · exact .inr ⟨op :: before, op', later, fd, rfl, .cons hb hnow h.unopened, h.opens,
          h.descriptor, h.history⟩
    · have hkept (p : List Operation) : (b.after g (op :: p)).descriptor = some fd :=
        (descriptor_of_run hd p).1
      exact .inr ⟨[], op, ops, fd, rfl, .nil hb, ⟨xs, hnow, hfd⟩, fun p _ => hkept p,
        (descriptor_of_run hd ops).2⟩

theorem Opened.history_eq {b : Bridge σ} {before later : List Operation} {op : Operation}
    {fd : Int32} (h : b.Opened g before op later fd) :
    ∃ xs, b.history g (before ++ op :: later) =
        b.history g before ++ ⟨.objGet op.path Flag.readWrite, .ok fd⟩ :: xs ∧
      ∀ x ∈ xs, x.call.fd? = some fd := by
  obtain ⟨xs, hx, hfd⟩ := h.opens
  have hafter : ((b.after g before).perform g op).2 = b.after g (before ++ [op]) := by
    rw [after_append]
    rfl
  refine ⟨xs ++ (b.after g (before ++ [op])).history g later, ?_, ?_⟩
  · rw [history_append, history_cons, hx, hafter, List.cons_append]
  · intro x hmem
    rcases List.mem_append.mp hmem with hmem | hmem
    · exact hfd x hmem
    · exact h.history x hmem

theorem filter_opens_eq_nil {xs : List Exchange}
    (h : ∀ x ∈ xs, x.call.fd? ≠ none ∨ x.errno? ≠ none) : xs.filter Exchange.opens = [] := by
  apply List.filter_eq_nil_iff.mpr
  intro x hx ho
  obtain ⟨hc, he⟩ := x.opens_iff.mp ho
  rcases h x hx with h | h
  · exact h hc
  · exact h he

theorem length_filter_opens_le {b : Bridge σ} (hb : b.descriptor = none) (ops : List Operation) :
    ((b.history g ops).filter Exchange.opens).length ≤ 1 := by
  have hunopened {p : List Operation} (h : b.Unopened g p) :
      (b.history g p).filter Exchange.opens = [] :=
    filter_opens_eq_nil fun x hx => .inr (h.history x hx).2
  rcases unopened_or_opened hb ops with h | ⟨before, op, later, fd, rfl, h⟩
  · rw [hunopened h]
    exact Nat.zero_le 1
  · obtain ⟨xs, hx, hfd⟩ := h.history_eq
    have hrest : xs.filter Exchange.opens = [] :=
      filter_opens_eq_nil fun x hmem => .inl (by simp [hfd x hmem])
    rw [hx, List.filter_append, hunopened h.unopened, List.filter_cons_of_pos rfl, hrest]
    exact Nat.le_refl 1

theorem attempt_of_empty {b : Bridge σ} (hb : b.descriptor = none) (op : Operation) :
    (op.path.hasNul = true → b.exchanges g op = [] ∧
      (b.perform g op).1 = .error (.invalidPath op.path.lossyText) ∧
      (b.perform g op).2.descriptor = none) ∧
    (op.path.hasNul = false → ∃ answer xs,
      b.exchanges g op = ⟨.objGet op.path Flag.readWrite, answer⟩ :: xs ∧
      ∀ e, answer = .error e → xs = [] ∧ (b.perform g op).2.descriptor = none) := by
  obtain ⟨o, xs, hp, hx, hd, hfd, hf, -⟩ := b.perform_opening g op
  rw [hx, hd]
  cases o with
  | cached fd => rw [hb] at hp; cases hp
  | invalidPath =>
    obtain rfl := nil_of_no_descriptor rfl hfd
    exact ⟨fun _ => ⟨rfl, hf _ rfl, rfl⟩, fun hn => by simp [hp.2] at hn⟩
  | opened fd =>
    exact ⟨fun hn => by simp [hp.2] at hn, fun _ => ⟨.ok fd, xs, rfl, fun e he => by cases he⟩⟩
  | unsupported =>
    obtain rfl := nil_of_no_descriptor rfl hfd
    exact ⟨fun hn => by simp [hp.2] at hn, fun _ => ⟨_, [], rfl, fun _ _ => ⟨rfl, rfl⟩⟩⟩
  | failed e =>
    obtain rfl := nil_of_no_descriptor rfl hfd
    exact ⟨fun hn => by simp [hp.2.1] at hn, fun _ => ⟨_, [], rfl, fun _ _ => ⟨rfl, rfl⟩⟩⟩

theorem descriptor_of_operations {b : Bridge σ} (hb : b.descriptor = none)
    (ops : List Operation) :
    ((b.history g ops).filter Exchange.opens).length ≤ 1 ∧
    (b.Unopened g ops ∨
      ∃ before op later fd, ops = before ++ op :: later ∧ b.Opened g before op later fd) ∧
    ∀ before op, (b.after g before).descriptor = none →
      (op.path.hasNul = true → (b.after g before).exchanges g op = [] ∧
        ((b.after g before).perform g op).1 = .error (.invalidPath op.path.lossyText) ∧
        (b.after g (before ++ [op])).descriptor = none) ∧
      (op.path.hasNul = false → ∃ answer xs,
        (b.after g before).exchanges g op = ⟨.objGet op.path Flag.readWrite, answer⟩ :: xs ∧
        ∀ e, answer = .error e → xs = [] ∧ (b.after g (before ++ [op])).descriptor = none) := by
  refine ⟨length_filter_opens_le hb ops, unopened_or_opened hb ops, ?_⟩
  intro before op hd
  rw [after_append]
  exact attempt_of_empty hd op

theorem descriptor_of_second_open :
    let k := (SimulatedKernel.ofEntries []).setInjection .objGet (some ⟨13, some 1, -1⟩)
    let b := Bridge.start k false
    let failed : Operation := .openMap ⟨[47]⟩
    let next : Operation := .clearRules ⟨[47, 65]⟩ 7 1
    b.descriptor = none ∧ (b.after SimulatedKernel.gateway [failed]).descriptor = none ∧
      (b.after SimulatedKernel.gateway [failed, next]).descriptor = some 77 ∧
      ((b.history SimulatedKernel.gateway [failed, next]).filter Exchange.opens).length ≤ 1 ∧
      ∃ answer xs, (b.after SimulatedKernel.gateway [failed]).exchanges SimulatedKernel.gateway
        next = ⟨.objGet ⟨[47, 65]⟩ Flag.readWrite, answer⟩ :: xs := by
  intro k b failed next
  have hb : b.descriptor = none := rfl
  have h := descriptor_of_operations (g := SimulatedKernel.gateway) hb [failed, next]
  obtain ⟨answer, xs, hx, -⟩ := (h.2.2 [failed] next rfl).2 rfl
  exact ⟨hb, rfl, rfl, h.1, answer, xs, hx⟩

end Bridge

end OwnerRules

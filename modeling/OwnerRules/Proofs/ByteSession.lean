import OwnerRules.Proofs.KernelStep
import OwnerRules.Proofs.StepOperation
/-!
Sessions over the kernel that is called in bytes. Main statement: they show what the same sessions
over typed calls show, and their invocations decode to the typed calls.
-/
namespace OwnerRules

open Kernel

/-- A path that its closing NUL ends. -/
def Kernel.Call.Passable : Call → Prop
  | .objGet path _ => path.hasNul = false
  | _ => True

theorem Kernel.Invocation.call?_of_passable (p : Placement) {c : Call} (hc : c.Passable) :
    (Invocation.ofCall p c).call? = some c := by
  apply Invocation.call?_ofCall
  rintro path flags rfl
  exact hc

theorem Opening.exchanges_passable {o : Opening} {d : Option Int32} {path : MapPath}
    (h : o.Possible d path) {x : Exchange} (hx : x ∈ o.exchanges path) : x.call.Passable := by
  rw [o.call_of_mem_exchanges hx]
  exact ((o.exchanges_ne_nil h).mp (List.ne_nil_of_mem hx)).2

theorem Clearing.exchanges_passable {c : Clearing} {mask : UInt32} (h : c.Possible mask)
    {fd : Int32} {uid : UInt32} {x : Exchange} (hx : x ∈ c.exchanges fd uid mask) :
    x.call.Passable := by
  obtain ⟨l, ws, hc, -, -, hws⟩ := c.exchanges_eq_cons h fd uid
  rw [hc] at hx
  rcases List.mem_cons.mp hx with rfl | hx
  · trivial
  · rcases hws x hx with hcall | ⟨entry, hcall⟩ <;> rw [hcall] <;> trivial

theorem Course.exchanges_passable {c : Course} {d : Option Int32} {path : MapPath} {mask : UInt32}
    (h : c.Possible d path mask) {uid : UInt32} {x : Exchange}
    (hx : x ∈ c.exchanges path uid mask) : x.call.Passable := by
  cases c with
  | stopped o => exact Opening.exchanges_passable h.1 hx
  | reached o fd c =>
    rcases List.mem_append.mp hx with hx | hx
    · exact Opening.exchanges_passable h.1 hx
    · exact Clearing.exchanges_passable h.2.2 hx

def Effect.Legible (c : Call) : Effect → Prop
  | .refused _ ret => ret < 0
  | .opened fd => c.command = .objGet ∧ 0 ≤ fd ∧ fd ≤ 0x7FFFFFFF
  | .found _ => c.command = .lookup
  | .done => c.command = .update ∨ c.command = .delete

theorem Effect.legible_failed (c : Call) (e : Errno) : (Effect.failed e).Legible c := by
  simp only [failed, Legible]
  decide

theorem Effect.answer_reply {e : Effect} {c : Call} (h : e.Legible c) {okRet : Int64}
    (hret : 0 ≤ okRet) (p : Placement) :
    (e.reply okRet (Invocation.ofCall p c).attr).answer p c = e.answer c := by
  have hok : ¬ okRet < 0 := Int64.not_lt.mpr hret
  cases e with
  | refused errno ret =>
    have hneg : ret < 0 := h
    cases c <;> exact if_pos hneg
  | opened fd =>
    obtain ⟨hc, hlo, hhi⟩ := h
    cases c with
    | objGet path flags =>
      exact (if_neg (Int64.not_lt.mpr hlo)).trans (if_neg (Int64.not_lt.mpr hhi))
    | _ => cases hc
  | found entry =>
    cases c with
    | lookup fd uid =>
      -- The kernel writes where the record points, and the caller reads its own buffer.
      have hbuffer : Attributes.valueOf (Invocation.ofCall p (.lookup fd uid)).attr = p.value :=
        Attributes.valueOf_element _ _ _ _
      have hread : (Reply.pointee ⟨okRet, 0, [(p.value, entry.toBytes)]⟩ p.value) =
          entry.toBytes := by
        simp [Reply.pointee]
      rw [reply, hbuffer]
      refine (if_neg hok).trans ?_
      rw [hread, entry.ofBytes_toBytes]
      rfl
    | _ => cases h
  | done =>
    cases c with
    | update fd uid entry flags => exact if_neg hok
    | delete fd uid => exact if_neg hok
    | _ => rcases h with h | h <;> cases h

structure SimulatedKernel.Legible (k : SimulatedKernel) : Prop where
  injections : ∀ c i, k.injections c = some i → i.ret < 0
  nextFd : 0 ≤ k.nextFd ∧ k.nextFd ≤ 0x7FFFFFFF
  okRet : 0 ≤ k.okRet

namespace SimulatedKernel

theorem legible_ofEntries (entries : List (UInt32 × Entry)) : (ofEntries entries).Legible := by
  have hnext : (ofEntries entries).nextFd = 77 := rfl
  have hret : (ofEntries entries).okRet = 0 := rfl
  refine ⟨?_, ?_, ?_⟩
  · rintro c i ⟨⟩
  · rw [hnext]
    decide
  · rw [hret]
    decide

variable {k : SimulatedKernel}

theorem Legible.setInjection (hk : k.Legible) {c : Command} {i : Option Injection}
    (hi : ∀ j, i = some j → j.ret < 0) : (k.setInjection c i).Legible := by
  refine ⟨?_, hk.nextFd, hk.okRet⟩
  intro d j hj
  by_cases hd : d = c
  · exact hi j (by simpa [SimulatedKernel.setInjection, hd] using hj)
  · exact hk.injections d j (by simpa [SimulatedKernel.setInjection, hd] using hj)

theorem Legible.steps {k' : SimulatedKernel} {c : Call} {e : Effect} (hk : k.Legible)
    (h : k.Steps c e k') : e.Legible c ∧ k'.Legible := by
  cases h with
  | injected times hi =>
    have hret := hk.injections _ _ hi
    refine ⟨hret, hk.setInjection ?_⟩
    rintro j ⟨rfl⟩
    exact hret
  | closed hc => exact ⟨Effect.legible_failed _ _, hk⟩
  | barred uid entry flags e hfd => exact ⟨Effect.legible_failed _ _, hk⟩
  | opened path flags => exact ⟨⟨rfl, hk.nextFd⟩, hk.injections, hk.nextFd, hk.okRet⟩
  | missed hfd hnone => exact ⟨Effect.legible_failed _ _, hk⟩
  | found hfd hsome => exact ⟨rfl, hk.injections, hk.nextFd, hk.okRet⟩
  | stored uid entry flags hfd => exact ⟨.inl rfl, hk.injections, hk.nextFd, hk.okRet⟩
  | gone hfd hnone => exact ⟨Effect.legible_failed _ _, hk⟩
  | erased hfd hsome => exact ⟨.inr rfl, hk.injections, hk.nextFd, hk.okRet⟩

theorem Legible.run (hk : k.Legible) (c : Call) : (k.run c).1.Legible c ∧ (k.run c).2.Legible :=
  hk.steps (k.steps_run c)

end SimulatedKernel

namespace Session

theorem serve_byteGateway (p : Placement) {c : Call} (hc : c.Passable) {k : SimulatedKernel}
    (hk : k.Legible) (is : List Invocation) :
    (byteGateway p).serve c (k, is) =
      ((SimulatedKernel.gateway.serve c k).1, (SimulatedKernel.gateway.serve c k).2,
        is ++ [.ofCall p c]) := by
  have hanswer := Effect.answer_reply (hk.run c).1 hk.okRet p
  simp only [byteGateway, Syscall.gateway, Syscall.recorded, SimulatedKernel.syscall,
    Invocation.call?_of_passable p hc, hanswer, SimulatedKernel.gateway]

def LegibleTrace (s : Observed Exchange) : Prop := s.1.Legible ∧ ∀ x ∈ s.2, x.call.Passable

def traceInBytes (p : Placement) (s : Observed Exchange) : Observed Invocation :=
  (s.1, s.2.map fun x => .ofCall p x.call)

theorem serve_typedGateway {s : Observed Exchange} (hs : LegibleTrace s) {c : Call}
    (hc : c.Passable) (p : Placement) :
    (byteGateway p).serve c (traceInBytes p s) =
        ((typedGateway.serve c s).1, traceInBytes p (typedGateway.serve c s).2) ∧
      LegibleTrace (typedGateway.serve c s).2 := by
  refine ⟨?_, (hs.1.run c).2, ?_⟩
  · rw [traceInBytes, serve_byteGateway p hc hs.1]
    simp [typedGateway, Gateway.serve_recorded, traceInBytes]
  · intro x hx
    rcases List.mem_append.mp hx with hx | hx
    · exact hs.2 x hx
    · rw [List.mem_singleton.mp hx]
      exact hc

theorem serves_byteGateway (p : Placement) {xs : List Exchange} (hxs : ∀ x ∈ xs, x.call.Passable)
    {s s' : Observed Exchange} (hs : LegibleTrace s) (h : typedGateway.Serves s xs s') :
    (byteGateway p).Serves (traceInBytes p s) xs (traceInBytes p s') ∧ LegibleTrace s' := by
  -- Each exchange leaves the trace legible, which is what the next one needs to be answered alike.
  induction xs generalizing s with
  | nil =>
    obtain rfl : s = s' := h
    exact ⟨rfl, hs⟩
  | cons x xs ih =>
    obtain ⟨hserve, hs'⟩ := serve_typedGateway hs (hxs x List.mem_cons_self) p
    obtain ⟨hrest, hend⟩ := ih (fun y hy => hxs y (List.mem_cons_of_mem x hy)) hs' h.2
    refine ⟨⟨?_, ?_⟩, hend⟩
    · rw [hserve]
      exact h.1
    · rw [hserve]
      exact hrest

end Session

def Bridge.inBytes (p : Placement) (b : Bridge (Observed Exchange)) :
    Bridge (Observed Invocation) :=
  b.withKernel (Session.traceInBytes p b.kernel)

theorem Opening.inBytes_leave (o : Opening) (path : MapPath) (p : Placement)
    (b : Bridge (Observed Exchange)) :
    (o.leave path b).inBytes p = o.leave path (b.inBytes p) := by
  cases o <;> rfl

theorem Clearing.inBytes_leave (c : Clearing) (uid mask : UInt32) (p : Placement)
    (b : Bridge (Observed Exchange)) :
    (c.leave uid mask b).inBytes p = c.leave uid mask (b.inBytes p) := by
  cases c <;> rfl

theorem Course.inBytes_leave (c : Course) (path : MapPath) (uid mask : UInt32) (p : Placement)
    (b : Bridge (Observed Exchange)) :
    (c.leave path uid mask b).inBytes p = c.leave path uid mask (b.inBytes p) := by
  cases c with
  | stopped o => cases o <;> rfl
  | reached o fd c => rw [leave, leave, c.inBytes_leave, o.inBytes_leave]

namespace Session

theorem perform_inBytes (p : Placement) {b : Bridge (Observed Exchange)}
    (hb : LegibleTrace b.kernel) (op : Operation) :
    (b.inBytes p).perform (byteGateway p) op =
        ((b.perform typedGateway op).1, (b.perform typedGateway op).2.inBytes p) ∧
      LegibleTrace (b.perform typedGateway op).2.kernel := by
  cases op with
  | openMap path =>
    obtain ⟨o, k, hp, hs, he, -⟩ := b.openMap_opening typedGateway path
    obtain ⟨hbytes, hk⟩ := serves_byteGateway p (fun x => o.exchanges_passable hp) hb hs
    simp only [Bridge.perform, he, Opening.kernel_leave, Opening.inBytes_leave]
    exact ⟨Bridge.ensureOpen_eq hp hbytes, hk⟩
  | clearRules path uid rules =>
    obtain ⟨c, k, hp, hs, he, -⟩ := b.clearRules_course typedGateway path uid rules
    obtain ⟨hbytes, hk⟩ := serves_byteGateway p (fun x => c.exchanges_passable hp) hb hs
    simp only [Bridge.perform, he, Course.kernel_leave, Course.inBytes_leave]
    exact ⟨Bridge.clearRules_eq hp hbytes, hk⟩

def inBytes (p : Placement) (s : Session Exchange) : Session Invocation :=
  ⟨s.bridge.inBytes p, s.environment, s.config, s.printer⟩

end Session

/-- What a step sets the kernel to return tells failures from successes, its descriptor fits, and
the path of a call of its own can be passed. -/
def Step.Legible : Step → Prop
  | .call c => c.Passable
  | .fail _ i => i.ret < 0
  | .setFd fd => 0 ≤ fd ∧ fd ≤ 0x7FFFFFFF
  | .setOkRet ret => 0 ≤ ret
  | _ => True

namespace Session

theorem step_inBytes (p : Placement) {s : Session Exchange} (hs : LegibleTrace s.bridge.kernel)
    {t : Step} (ht : t.Legible) :
    (s.inBytes p).step (byteGateway p) t =
        ((s.step typedGateway t).1, (s.step typedGateway t).2.inBytes p) ∧
      LegibleTrace (s.step typedGateway t).2.bridge.kernel := by
  cases h : t.operation? s.config with
  | some op =>
    obtain ⟨hperform, hk⟩ := perform_inBytes p hs op
    rw [step_of_operation (s := s.inBytes p) h, step_of_operation h]
    refine ⟨?_, hk⟩
    simp only [Bridge.finished, inBytes, hperform]
  | none =>
    obtain ⟨hkernel, hcalls⟩ := hs
    cases idle_of_no_operation h with
    | refused e hstep =>
      rw [hstep, hstep]
      exact ⟨rfl, hkernel, hcalls⟩
    | call c =>
      obtain ⟨hserve, hk⟩ := serve_typedGateway ⟨hkernel, hcalls⟩ ht p
      refine ⟨?_, hk⟩
      simp only [step, withBridge, Bridge.call_eq, inBytes, Bridge.inBytes, Bridge.withKernel,
        hserve]
    | fail c i =>
      refine ⟨rfl, hkernel.setInjection ?_, hcalls⟩
      rintro j ⟨⟩
      exact ht
    | mend c =>
      refine ⟨rfl, hkernel.setInjection ?_, hcalls⟩
      rintro j ⟨⟩
    | setFd fd => exact ⟨rfl, ⟨hkernel.injections, ht, hkernel.okRet⟩, hcalls⟩
    | setOkRet ret => exact ⟨rfl, ⟨hkernel.injections, hkernel.nextFd, ht⟩, hcalls⟩
    | startLogging format =>
      simp only [step, startLogging, inBytes]
      split <;> exact ⟨rfl, hkernel, hcalls⟩
    | _ => exact ⟨rfl, ⟨hkernel.injections, hkernel.nextFd, hkernel.okRet⟩, hcalls⟩

end Session

def StepReport.mapCalls {κ τ : Type} (f : κ → τ) (r : StepReport κ) : StepReport τ :=
  ⟨r.result, r.calls.map f, r.entries, r.cached, r.telemetry, r.events, r.lines⟩

namespace Session

theorem legibleTrace_clearTrace {s : Session Exchange} (hs : s.kernel.Legible) :
    LegibleTrace s.clearTrace.bridge.kernel := ⟨hs, by simp [clearTrace]⟩

theorem run_inBytes (p : Placement) {s : Session Exchange} (hs : s.kernel.Legible)
    {steps : List Step} (ht : ∀ t ∈ steps, t.Legible) :
    (s.inBytes p).run (byteGateway p) steps =
      (s.run typedGateway steps).map (.mapCalls fun x => .ofCall p x.call) := by
  induction steps generalizing s with
  | nil => rfl
  | cons t steps ih =>
    obtain ⟨hstep, hnext⟩ := step_inBytes p (legibleTrace_clearTrace hs) (ht t List.mem_cons_self)
    have hrest := ih hnext.1 fun u hu => ht u (List.mem_cons_of_mem t hu)
    have hbytes : (s.inBytes p).clearTrace = s.clearTrace.inBytes p := rfl
    simp only [run, hbytes, hstep, hrest, List.map_cons]
    rfl

theorem passable_of_mem_run (p : Placement) {s : Session Exchange}
    (hs : LegibleTrace s.bridge.kernel) {steps : List Step} (ht : ∀ t ∈ steps, t.Legible)
    {r : StepReport Exchange} (hr : r ∈ s.run typedGateway steps) :
    ∀ x ∈ r.calls, x.call.Passable := by
  have hstep : ∀ t ∈ steps, ∀ s : Session Exchange, LegibleTrace s.bridge.kernel →
      LegibleTrace (s.clearTrace.step typedGateway t).2.bridge.kernel := by
    intro t hmem s hs
    exact (step_inBytes p (legibleTrace_clearTrace hs.1) (ht t hmem)).2
  obtain ⟨s', result, hs', rfl⟩ := exists_report hstep hs hr
  exact hs'.2

theorem run_decoded (p : Placement) {s : Session Exchange} (hs : LegibleTrace s.bridge.kernel)
    {steps : List Step} (ht : ∀ t ∈ steps, t.Legible) :
    ((s.inBytes p).run (byteGateway p) steps).map (·.mapCalls Invocation.call?) =
      (s.run typedGateway steps).map (·.mapCalls fun x => some x.call) := by
  rw [run_inBytes p hs.1 ht, List.map_map]
  apply List.map_congr_left
  intro r hr
  have hcalls : (r.calls.map fun x => Invocation.ofCall p x.call).map Invocation.call? =
      r.calls.map fun x => some x.call := by
    rw [List.map_map]
    apply List.map_congr_left
    intro x hx
    exact Invocation.call?_of_passable p (passable_of_mem_run p hs ht hr x hx)
  simp only [StepReport.mapCalls, Function.comp_apply, hcalls]

theorem reports_in_bytes (p : Placement) (entries : List (UInt32 × Entry)) (steps : List Step)
    (h : ∀ t ∈ steps, t.Legible) :
    (∀ serializes,
      ((start entries serializes).run (byteGateway p) steps).map (·.mapCalls Invocation.call?) =
        ((start entries serializes).run typedGateway steps).map
          (·.mapCalls fun x => some x.call)) ∧
    ∀ e,
      ((startGlobal entries e).run (byteGateway p) steps).map (·.mapCalls Invocation.call?) =
        ((startGlobal entries e).run typedGateway steps).map (·.mapCalls fun x => some x.call) := by
  have hstart : LegibleTrace (.ofEntries entries, []) :=
    ⟨SimulatedKernel.legible_ofEntries entries, by simp⟩
  constructor
  · intro serializes
    exact run_decoded p (s := start entries serializes) hstart h
  · intro e
    exact run_decoded p (s := startGlobal entries e) hstart h

theorem reports_in_bytes_after_failure :
    let entries : List (UInt32 × Entry) := [(7, ⟨-1, 5⟩)]
    let steps : List Step :=
      [.setFd 0x7FFFFFFF, .fail .update ⟨524, some 1, -2⟩, .clearRules ⟨[47]⟩ 7 1,
        .clearRules ⟨[]⟩ 7 1]
    let typed := (start entries true).run typedGateway steps
    typed.map (·.entries) = [[(7, ⟨-1, 5⟩)], [(7, ⟨-1, 5⟩)], [(7, ⟨-1, 5⟩)], [(7, ⟨-1, 4⟩)]] ∧
      ((start entries true).run (byteGateway .default) steps).map (·.mapCalls Invocation.call?) =
        typed.map (·.mapCalls fun x => some x.call) := by
  intro entries steps typed
  have h : ∀ t ∈ steps, t.Legible := by
    simp [steps, Step.Legible]
  exact ⟨rfl, (reports_in_bytes .default entries steps h).1 true⟩

end Session

end OwnerRules

import OwnerRules.Proofs.CallOrder

namespace OwnerRules

open Kernel

structure Finished where
  op : Operation
  result : Except Failure op.Result

namespace Finished

def outcome? : Finished → Option Outcome
  | ⟨.clearRules .., .ok r⟩ => some r.outcome
  | _ => none

def failure? : Finished → Option Failure
  | ⟨_, .error f⟩ => some f
  | ⟨.clearRules .., .ok r⟩ => r.deferred
  | ⟨.openMap _, .ok _⟩ => none

theorem failure?_clearRules (path : MapPath) (uid : UInt32) (rules : UInt64)
    (a : Except Failure Removal) (f : Failure) :
    failure? ⟨.clearRules path uid rules, a⟩ = some f ↔ a.bind Removal.answer = .error f := by
  cases a with
  | error e => simp [failure?, Except.bind]
  | ok r => cases h : r.deferred <;> simp [failure?, Except.bind, Removal.answer, h]

end Finished

theorem Course.getLast?_of_errno? {c : Course} {d : Option Int32} {path : MapPath}
    {uid mask : UInt32} (h : c.Possible d path mask) {x : Exchange}
    (hx : x ∈ c.exchanges path uid mask) {e : Errno} (he : x.errno? = some e) :
    (c.exchanges path uid mask).getLast? = some x := by
  have hne := List.ne_nil_of_mem hx
  have hsplit : x ∈ (c.exchanges path uid mask).dropLast ++
      [(c.exchanges path uid mask).getLast hne] := by
    rwa [List.dropLast_concat_getLast]
  rcases List.mem_append.mp hsplit with hx | hx
  · rw [c.errno?_of_mem_dropLast h uid hx] at he
    cases he
  · rw [List.mem_singleton.mp hx, List.getLast?_eq_some_getLast hne]

variable {σ : Type}

namespace Bridge

def finished (g : Gateway σ) (b : Bridge σ) (op : Operation) : Finished := ⟨op, (b.perform g op).1⟩

theorem failure?_eq_kernel_iff (b : Bridge σ) (g : Gateway σ) (op : Operation) (c : Command)
    (e : Errno) :
    (b.finished g op).failure? = some (.kernel c e) ↔
      ∃ x ∈ b.exchanges g op, x.call.command = c ∧ x.errno? = some e ∧ ¬ c.Expects e := by
  cases op with
  | openMap path =>
    obtain ⟨o, k, hp, -, he, hx⟩ := b.openMap_opening g path
    rw [finished, perform, he, hx]
    cases o with
    | failed n =>
      have hn : n ≠ .ENOSYS := hp.2.2
      simp only [Opening.answer, Opening.exchanges, Finished.failure?, Option.some.injEq,
        Failure.kernel.injEq, List.mem_singleton, exists_eq_left, Call.command, Exchange.errno?]
      constructor
      · rintro ⟨rfl, rfl⟩
        exact ⟨rfl, rfl, hn⟩
      · rintro ⟨rfl, rfl, -⟩
        exact ⟨rfl, rfl⟩
    | unsupported =>
      simp only [Opening.answer, Opening.exchanges, Finished.failure?, List.mem_singleton,
        exists_eq_left, Call.command, Exchange.errno?]
      constructor
      · rintro ⟨⟩
      · rintro ⟨rfl, ⟨rfl⟩, hne⟩
        exact absurd rfl hne
    | _ => simp [Opening.answer, Opening.exchanges, Finished.failure?, Exchange.errno?]
  | clearRules path uid rules =>
    obtain ⟨course, k, hp, -, he, hx⟩ := b.clearRules_course g path uid rules
    rw [finished, perform, he, hx, Finished.failure?_clearRules, course.answer_eq_error hp uid]
    constructor
    · rintro (⟨-, -, hf⟩ | ⟨x, n, hlast, hn, hne, hf⟩)
      · cases hf
      · obtain ⟨rfl, rfl⟩ := Failure.kernel.inj hf
        exact ⟨x, List.mem_of_getLast? hlast, rfl, hn, hne⟩
    · rintro ⟨x, hmem, rfl, hn, hne⟩
      exact .inr ⟨x, e, course.getLast?_of_errno? hp hmem hn, hn, hne, rfl⟩

end Bridge

end OwnerRules

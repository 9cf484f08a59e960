import Mathlib.Data.List.Forall2
import OwnerRules.Kernel.Syscall
import OwnerRules.Proofs.Operation

namespace OwnerRules

open Kernel

variable {σ : Type}

structure Kernel.Round where
  invocation : Invocation
  reply : Reply

namespace Kernel

def Syscall.transcribed (k : Syscall σ) : Syscall (σ × List Round) where
  invoke i s :=
    let (reply, k) := k.invoke i s.1
    (reply, k, s.2 ++ [⟨i, reply⟩])

/-- The round is how the exchange looks in bytes. -/
def Round.Carries (p : Placement) (r : Round) (x : Exchange) : Prop :=
  r.invocation = .ofCall p x.call ∧ r.reply.answer p x.call = x.answer

theorem Invocation.command_ofCall (p : Placement) (c : Call) :
    (Invocation.ofCall p c).command = c.command.number := by
  cases c <;> rfl

theorem Round.Carries.command {p : Placement} {r : Round} {x : Exchange} (h : r.Carries p x) :
    r.invocation.command = x.call.command.number := by
  rw [h.1, Invocation.command_ofCall]

theorem exists_of_mem_carried {p : Placement} {rs : List Round} {xs : List Exchange}
    (h : List.Forall₂ (Round.Carries p) rs xs) {r : Round} (hr : r ∈ rs) :
    ∃ x ∈ xs, r.Carries p x := by
  obtain ⟨n, hn, rfl⟩ := List.mem_iff_getElem.mp hr
  have hn' : n < xs.length := h.length_eq ▸ hn
  exact ⟨xs[n], List.getElem_mem hn', h.get hn hn'⟩

theorem Syscall.serves_transcribed (k : Syscall σ) (p : Placement) {xs : List Exchange} {s s' : σ}
    (h : (k.gateway p).Serves s xs s') (rounds : List Round) :
    ∃ later, (k.transcribed.gateway p).Serves (s, rounds) xs (s', rounds ++ later) ∧
      List.Forall₂ (Round.Carries p) later xs := by
  -- The rounds so far are general, since each exchange appends one.
  induction xs generalizing s rounds with
  | nil =>
    obtain rfl : s = s' := h
    exact ⟨[], by simp [Gateway.Serves], .nil⟩
  | cons x xs ih =>
    let r : Round := ⟨.ofCall p x.call, (k.invoke (.ofCall p x.call) s).1⟩
    obtain ⟨later, hserves, hcarries⟩ := ih h.2 (rounds ++ [r])
    refine ⟨r :: later, ⟨h.1, ?_⟩, .cons ⟨rfl, h.1⟩ hcarries⟩
    rw [List.append_cons]
    exact hserves

end Kernel

namespace Bridge

def rounds (k : Syscall σ) (p : Placement) (b : Bridge σ) (op : Operation) : List Round :=
  ((b.withKernel (b.kernel, [])).perform (k.transcribed.gateway p) op).2.kernel.2

def transcript (k : Syscall σ) (p : Placement) : Bridge σ → List Operation → List Round
  | _, [] => []
  | b, op :: ops => b.rounds k p op ++ transcript k p (b.perform (k.gateway p) op).2 ops

theorem rounds_carry (k : Syscall σ) (p : Placement) (b : Bridge σ) (op : Operation) :
    List.Forall₂ (Round.Carries p) (b.rounds k p op) (b.exchanges (k.gateway p) op) := by
  cases op with
  | openMap path =>
    obtain ⟨o, s, hp, hs, -, hx⟩ := b.openMap_opening (k.gateway p) path
    obtain ⟨later, hserves, hcarries⟩ := k.serves_transcribed p hs []
    rw [rounds, perform, ensureOpen_eq (b := b.withKernel (b.kernel, [])) hp hserves,
      Opening.kernel_leave, hx]
    exact hcarries
  | clearRules path uid rules =>
    obtain ⟨c, s, hp, hs, -, hx⟩ := b.clearRules_course (k.gateway p) path uid rules
    obtain ⟨later, hserves, hcarries⟩ := k.serves_transcribed p hs []
    rw [rounds, perform, clearRules_eq (b := b.withKernel (b.kernel, [])) hp hserves,
      Course.kernel_leave, hx]
    exact hcarries

theorem transcript_carries (k : Syscall σ) (p : Placement) (b : Bridge σ) (ops : List Operation) :
    List.Forall₂ (Round.Carries p) (b.transcript k p ops) (b.history (k.gateway p) ops) := by
  induction ops generalizing b with
  | nil => exact .nil
  | cons op ops ih => exact List.rel_append (b.rounds_carry k p op) (ih _)

theorem exists_exchange {k : Syscall σ} {p : Placement} {b : Bridge σ} {op : Operation}
    {r : Round} (hr : r ∈ b.rounds k p op) :
    ∃ x ∈ b.exchanges (k.gateway p) op, r.Carries p x :=
  exists_of_mem_carried (b.rounds_carry k p op) hr

end Bridge

end OwnerRules

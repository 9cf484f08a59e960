import OwnerRules.Kernel.Gateway

namespace OwnerRules.Kernel

variable {σ : Type}

namespace Exchange

def errno? (x : Exchange) : Option Errno :=
  match x.answer with
  | .ok _ => none
  | .error e => some e

end Exchange

namespace Gateway

def Serves (g : Gateway σ) : σ → List Exchange → σ → Prop
  | k, [], k' => k = k'
  | k, x :: xs, k' => (g.serve x.call k).1 = x.answer ∧ Serves g (g.serve x.call k).2 xs k'

theorem serves_append (g : Gateway σ) {xs ys : List Exchange} {k k' : σ} :
    g.Serves k (xs ++ ys) k' ↔ ∃ m, g.Serves k xs m ∧ g.Serves m ys k' := by
  induction xs generalizing k with
  | nil => simp [Serves]
  | cons x xs ih => simp [Serves, ih, and_assoc]

theorem serve_recorded (g : Gateway σ) (c : Call) (s : σ × List Exchange) :
    g.recorded.serve c s =
      ((g.serve c s.1).1, (g.serve c s.1).2, s.2 ++ [⟨c, (g.serve c s.1).1⟩]) := rfl

theorem serves_recorded (g : Gateway σ) {xs : List Exchange} {s t : σ × List Exchange} :
    g.recorded.Serves s xs t ↔ g.Serves s.1 xs t.1 ∧ t.2 = s.2 ++ xs := by
  induction xs generalizing s with
  | nil =>
    obtain ⟨k, h⟩ := s
    obtain ⟨k', h'⟩ := t
    simp [Serves, eq_comm]
  | cons x xs ih =>
    simp only [Serves, ih, serve_recorded, and_assoc]
    apply and_congr_right
    intro hx
    simp [hx]

theorem Serves.preserves {g : Gateway σ} {P : σ → Prop} {xs : List Exchange} {k k' : σ}
    (h : g.Serves k xs k') (hstep : ∀ x ∈ xs, ∀ k, P k → P (g.serve x.call k).2)
    (hk : P k) : P k' := by
  induction xs generalizing k with
  | nil => exact h ▸ hk
  | cons x xs ih =>
    apply ih h.2
    · intro y hy
      exact hstep y (List.mem_cons_of_mem x hy)
    · exact hstep x List.mem_cons_self k hk

end Gateway

end OwnerRules.Kernel

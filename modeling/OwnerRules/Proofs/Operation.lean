import OwnerRules.Proofs.Course

namespace OwnerRules

open Kernel

inductive Operation
  | openMap (path : MapPath)
  | clearRules (path : MapPath) (uid : UInt32) (rules : UInt64)

namespace Operation

abbrev Result : Operation → Type
  | openMap _ => Access
  | clearRules .. => Removal

def path : Operation → MapPath
  | openMap path => path
  | clearRules path _ _ => path

end Operation

namespace Bridge

variable {σ τ : Type}

def withKernel (b : Bridge σ) (k : τ) : Bridge τ :=
  ⟨k, b.serializes, b.descriptor, b.telemetry, b.log, b.capabilities⟩

def perform (b : Bridge σ) (g : Gateway σ) : (op : Operation) → Except Failure op.Result × Bridge σ
  | .openMap path => b.ensureOpen g path
  | .clearRules path uid rules => b.clearRules g path uid rules

/-- What a kernel that writes everything down has written when the operation is done. -/
def exchanges (b : Bridge σ) (g : Gateway σ) (op : Operation) : List Exchange :=
  ((b.withKernel (b.kernel, [])).perform g.recorded op).2.kernel.2

def after (g : Gateway σ) (b : Bridge σ) (ops : List Operation) : Bridge σ :=
  ops.foldl (fun b op => (b.perform g op).2) b

def history (g : Gateway σ) : Bridge σ → List Operation → List Exchange
  | _, [] => []
  | b, op :: ops => b.exchanges g op ++ history g (b.perform g op).2 ops

@[simp] theorem after_cons (g : Gateway σ) (b : Bridge σ) (op : Operation) (ops : List Operation) :
    b.after g (op :: ops) = (b.perform g op).2.after g ops := rfl

@[simp] theorem history_cons (g : Gateway σ) (b : Bridge σ) (op : Operation)
    (ops : List Operation) :
    b.history g (op :: ops) = b.exchanges g op ++ (b.perform g op).2.history g ops := rfl

theorem after_append (g : Gateway σ) (b : Bridge σ) (ops ops' : List Operation) :
    b.after g (ops ++ ops') = (b.after g ops).after g ops' := by
  simp [after]

theorem history_append (g : Gateway σ) (b : Bridge σ) (ops ops' : List Operation) :
    b.history g (ops ++ ops') = b.history g ops ++ (b.after g ops).history g ops' := by
  induction ops generalizing b with
  | nil => rfl
  | cons op ops ih => simp [history, ih]

theorem openMap_opening (b : Bridge σ) (g : Gateway σ) (path : MapPath) :
    ∃ (o : Opening) (k : σ), o.Possible b.descriptor path ∧
      g.Serves b.kernel (o.exchanges path) k ∧
      b.ensureOpen g path = (o.answer path, o.leave path { b with kernel := k }) ∧
      b.exchanges g (.openMap path) = o.exchanges path := by
  obtain ⟨o, k, hp, hs⟩ := b.exists_opening g path
  refine ⟨o, k, hp, hs, ensureOpen_eq hp hs, ?_⟩
  have hr : g.recorded.Serves (b.withKernel (b.kernel, [])).kernel (o.exchanges path)
      (k, o.exchanges path) := g.serves_recorded.mpr ⟨hs, rfl⟩
  rw [exchanges, perform, ensureOpen_eq (b := b.withKernel (b.kernel, [])) hp hr,
    Opening.kernel_leave]

theorem exchanges_of_course {b : Bridge σ} {g : Gateway σ} {path : MapPath} {uid : UInt32}
    {rules : UInt64} {c : Course} {k : σ} (hp : c.Possible b.descriptor path rules.toUInt32)
    (hs : g.Serves b.kernel (c.exchanges path uid rules.toUInt32) k) :
    b.exchanges g (.clearRules path uid rules) = c.exchanges path uid rules.toUInt32 := by
  have hr : g.recorded.Serves (b.withKernel (b.kernel, [])).kernel
      (c.exchanges path uid rules.toUInt32) (k, c.exchanges path uid rules.toUInt32) :=
    g.serves_recorded.mpr ⟨hs, rfl⟩
  rw [exchanges, perform, clearRules_eq (b := b.withKernel (b.kernel, [])) hp hr,
    Course.kernel_leave]

theorem clearRules_course (b : Bridge σ) (g : Gateway σ) (path : MapPath) (uid : UInt32)
    (rules : UInt64) :
    ∃ (c : Course) (k : σ), c.Possible b.descriptor path rules.toUInt32 ∧
      g.Serves b.kernel (c.exchanges path uid rules.toUInt32) k ∧
      b.clearRules g path uid rules =
        (c.answer path, c.leave path uid rules.toUInt32 { b with kernel := k }) ∧
      b.exchanges g (.clearRules path uid rules) = c.exchanges path uid rules.toUInt32 := by
  obtain ⟨c, k, hp, hs⟩ := b.exists_course g path uid rules.toUInt32
  exact ⟨c, k, hp, hs, clearRules_eq hp hs, exchanges_of_course hp hs⟩

theorem perform_serves (b : Bridge σ) (g : Gateway σ) (op : Operation) :
    g.Serves b.kernel (b.exchanges g op) (b.perform g op).2.kernel := by
  cases op with
  | openMap path =>
    obtain ⟨o, k, -, hs, he, hx⟩ := b.openMap_opening g path
    rwa [hx, perform, he, Opening.kernel_leave]
  | clearRules path uid rules =>
    obtain ⟨c, k, -, hs, hc, hx⟩ := b.clearRules_course g path uid rules
    rwa [hx, perform, hc, Course.kernel_leave]

end Bridge

end OwnerRules

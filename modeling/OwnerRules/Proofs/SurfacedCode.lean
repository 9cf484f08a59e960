import OwnerRules.Proofs.Finished
import OwnerRules.Proofs.Rounds

namespace OwnerRules

open Kernel

variable {σ : Type}

namespace Errno

theorem isSome_lookup_errnoTable {m : Nat} :
    (errnoTable.lookup m).isSome ↔ m ≤ 133 ∧ m ≠ 41 ∧ m ≠ 58 := by
  by_cases hm : m ≤ 133
  · have hsmall : ∀ m < 134, ((errnoTable.lookup m).isSome ↔ m ≠ 41 ∧ m ≠ 58) := by decide +kernel
    rw [hsmall m (Nat.lt_succ_of_le hm), and_iff_right hm]
  · have hlarge : errnoTable.lookup m = none := by
      have hkeys : ∀ p ∈ errnoTable, p.1 ≤ 133 := by decide +kernel
      refine List.lookup_eq_none_iff.mpr fun p hp => bne_iff_ne.mpr ?_
      rintro rfl
      exact hm (hkeys p hp)
    simp [hlarge, hm]

/-- What is left of a number: all of one with a name, and nothing of any other. -/
def surfaced (n : Int32) : Int32 := if n ≤ 133 ∧ n ≠ 41 ∧ n ≠ 58 then n else 0

theorem number_ofNumber {n : Int32} (hn : 0 < n) :
    Int32.ofNat (ofNumber n.toInt).number = surfaced n := by
  have hpos : 0 < n.toInt := by simpa [Int32.lt_iff_toInt_lt] using hn
  obtain ⟨m, hm⟩ := Int.eq_ofNat_of_zero_le (Int.le_of_lt hpos)
  have hlisted : (errnoTable.lookup m).isSome ↔ n ≤ 133 ∧ n ≠ 41 ∧ n ≠ 58 := by
    rw [isSome_lookup_errnoTable, Int32.le_iff_toInt_le, ne_eq n, ne_eq n, ← Int32.toInt_inj,
      ← Int32.toInt_inj, hm, show (133 : Int32).toInt = 133 by decide,
      show (41 : Int32).toInt = 41 by decide, show (58 : Int32).toInt = 58 by decide]
    omega
  rw [surfaced, hm]
  split
  · next h =>
    have hnumber : (ofNumber (m : Int)).number = m := by simp [ofNumber, hlisted.mpr h]
    rw [hnumber, ← Int32.ofInt_eq_ofNat, ← hm, Int32.ofInt_toInt]
  · next h =>
    have hnumber : (ofNumber (m : Int)).number = 0 := by
      simp [ofNumber, mt hlisted.mp h, unknown]
    rw [hnumber]
    rfl

theorem eq_of_ofNumber {n : Int32} (hn : 0 < n) {e : Errno} (he : Int32.ofNat e.number ≠ 0)
    (h : ofNumber n.toInt = e) : n = Int32.ofNat e.number := by
  have hs := number_ofNumber hn
  rw [h, surfaced] at hs
  split at hs
  · exact hs.symm
  · exact absurd hs he

end Errno

namespace Kernel.Command

def expectedNumber? : Command → Option Int32
  | lookup => some 2
  | update => none
  | delete => some 2
  | objGet => some 38

theorem expectedNumber?_of_expects {c : Command} {n : Int32} (hn : 0 < n)
    (h : c.Expects (.ofNumber n.toInt)) : c.expectedNumber? = some n := by
  cases c with
  | lookup => exact congrArg some (Errno.eq_of_ofNumber hn (by decide) h).symm
  | update => cases h
  | delete => exact congrArg some (Errno.eq_of_ofNumber hn (by decide) h).symm
  | objGet => exact congrArg some (Errno.eq_of_ofNumber hn (by decide) h).symm

theorem number_injective {c d : Command} (h : c.number = d.number) : c = d := by
  cases c <;> cases d <;> simp_all [number]

end Kernel.Command

theorem code_of_failed_call (k : Syscall σ) (p : Placement) (b : Bridge σ) (op : Operation)
    {r : Round} (hr : r ∈ b.rounds k p op) {c : Command}
    (hc : r.invocation.command = c.number) (hret : r.reply.ret < 0) (hpos : 0 < r.reply.errno)
    (hne : c.expectedNumber? ≠ some r.reply.errno) :
    ∃ f, (b.finished (k.gateway p) op).failure? = some f ∧ f.operation = c.name ∧
      f.code = Errno.surfaced r.reply.errno ∧
      f.report = ⟨c.name, Errno.surfaced r.reply.errno⟩ ∧
      f.systemError = ⟨Errno.surfaced r.reply.errno⟩ := by
  obtain ⟨x, hx, hinvocation, hanswer⟩ := Bridge.exists_exchange hr
  obtain rfl : x.call.command = c := by
    rw [hinvocation, Invocation.command_ofCall] at hc
    exact Command.number_injective hc
  have herrno : x.errno? = some (.ofNumber r.reply.errno.toInt) := by
    simp only [Reply.answer, if_pos hret] at hanswer
    rw [Exchange.errno?, ← hanswer]
  have hunexpected : ¬ x.call.command.Expects (.ofNumber r.reply.errno.toInt) := by
    intro h
    exact hne (Command.expectedNumber?_of_expects hpos h)
  have hcode := Errno.number_ofNumber hpos
  refine ⟨.kernel x.call.command (.ofNumber r.reply.errno.toInt), ?_, rfl, hcode, ?_, ?_⟩
  · exact (b.failure?_eq_kernel_iff _ op _ _).mpr ⟨x, hx, rfl, herrno, hunexpected⟩
  · exact congrArg (FailureReport.mk _) hcode
  · exact congrArg SystemError.mk hcode

theorem code_of_failed_update :
    let k : Syscall (List Reply) := ⟨fun _ replies => (replies.headD ⟨-1, 22, []⟩, replies.tail)⟩
    let replies : List Reply :=
      [⟨77, 0, []⟩, ⟨0, 0, [(Placement.default.value, Entry.toBytes ⟨3, 5⟩)]⟩, ⟨-1, 12, []⟩]
    let b := Bridge.start replies true
    let op : Operation := .clearRules ⟨[47]⟩ 7 1
    ∃ r ∈ b.rounds k .default op,
      r.invocation.command = Command.update.number ∧ r.reply.ret < 0 ∧ 0 < r.reply.errno ∧
        Command.update.expectedNumber? ≠ some r.reply.errno ∧
        ∃ f, (b.finished (k.gateway .default) op).failure? = some f ∧
          f.code = 12 ∧ f.report.osErrorCode = 12 ∧ f.systemError.code = 12 := by
  intro k replies b op
  obtain ⟨r, hr, hi, hreply⟩ : ∃ r ∈ b.rounds k .default op,
      r.invocation.command = Command.update.number ∧ r.reply = ⟨-1, 12, []⟩ :=
    ⟨_, List.getLast_mem (by decide), by decide, by decide⟩
  have hret : r.reply.ret < 0 := by rw [hreply]; decide
  have hpos : 0 < r.reply.errno := by rw [hreply]; decide
  have hne : Command.update.expectedNumber? ≠ some r.reply.errno := by rw [hreply]; decide
  obtain ⟨f, hf, -, hcode, hreport, herror⟩ :=
    code_of_failed_call k .default b op hr hi hret hpos hne
  refine ⟨r, hr, hi, hret, hpos, hne, f, hf, ?_, ?_, ?_⟩
  · rw [hcode, hreply]
    rfl
  · rw [hreport, hreply]
    rfl
  · rw [herror, hreply]
    rfl

theorem code_of_unlisted_number :
    let k : Syscall (List Reply) := ⟨fun _ replies => (replies.headD ⟨-1, 22, []⟩, replies.tail)⟩
    let replies : List Reply :=
      [⟨77, 0, []⟩, ⟨0, 0, [(Placement.default.value, Entry.toBytes ⟨3, 5⟩)]⟩, ⟨-1, 524, []⟩]
    let b := Bridge.start replies true
    let op : Operation := .clearRules ⟨[47]⟩ 7 1
    ∃ r ∈ b.rounds k .default op,
      r.invocation.command = Command.update.number ∧ r.reply = ⟨-1, 524, []⟩ ∧
        ∃ f, (b.finished (k.gateway .default) op).failure? = some f ∧
          f.code = 0 ∧ f.report.osErrorCode ≠ 524 ∧ f.systemError.code ≠ 524 := by
  intro k replies b op
  refine ⟨_, List.getLast_mem (by decide), by decide, by decide, .kernel .update .unknown,
    by decide, ?_⟩
  decide

end OwnerRules

import OwnerRules.Simulation.Kernel

namespace OwnerRules.SimulatedKernel

open Kernel

inductive Steps (k : SimulatedKernel) : Call → Effect → SimulatedKernel → Prop
  | injected {c : Call} {i : Injection} (times : Option Nat) : k.injections c.command = some i →
    Steps k c (.refused i.errno i.ret)
      (k.setInjection c.command (some { i with times := times }))
  | closed {c : Call} : c.command ≠ .objGet → Steps k c (.failed .EBADF) k
  | barred {fd : Int32} (uid : UInt32) (entry : Entry) (flags : UInt64) (e : Errno) :
    k.isOpen fd = true → Steps k (.update fd uid entry flags) (.failed e) k
  | opened (path : MapPath) (flags : UInt32) :
    Steps k (.objGet path flags) (.opened k.nextFd) { k with openFd := some k.nextFd }
  | missed {fd : Int32} {uid : UInt32} : k.isOpen fd = true → k.map.get? uid = none →
    Steps k (.lookup fd uid) (.failed .ENOENT) k
  | found {fd : Int32} {uid : UInt32} {entry : Entry} : k.isOpen fd = true →
    k.map.get? uid = some entry →
    Steps k (.lookup fd uid) (.found entry) { k with map := k.map.editAll k.race, race := [] }
  | stored {fd : Int32} (uid : UInt32) (entry : Entry) (flags : UInt64) : k.isOpen fd = true →
    Steps k (.update fd uid entry flags) .done { k with map := k.map.insert uid entry }
  | gone {fd : Int32} {uid : UInt32} : k.isOpen fd = true → k.map.get? uid = none →
    Steps k (.delete fd uid) (.failed .ENOENT) k
  | erased {fd : Int32} {uid : UInt32} {entry : Entry} : k.isOpen fd = true →
    k.map.get? uid = some entry →
    Steps k (.delete fd uid) .done { k with map := k.map.erase uid }

theorem setInjection_self {k : SimulatedKernel} {c : Command} {i : Injection}
    (h : k.injections c = some i) : k.setInjection c (some i) = k := by
  have hsame : (fun d => if d = c then some i else k.injections d) = k.injections := by
    funext d
    split
    · next hd => exact hd ▸ h.symm
    · rfl
  rw [setInjection, hsame]

theorem eq_setInjection_of_takeInjection {k k' : SimulatedKernel} {c : Command} {i : Injection}
    (h : k.takeInjection c = some (i, k')) :
    k.injections c = some i ∧ ∃ times, k' = k.setInjection c (some { i with times := times }) := by
  unfold takeInjection at h
  split at h
  · cases h
  · next j hj =>
    split at h
    · next hforever =>
      cases h
      refine ⟨hj, none, ?_⟩
      rw [← hforever]
      exact (setInjection_self hj).symm
    · cases h
    · next n _ =>
      cases h
      exact ⟨hj, some n, rfl⟩

theorem steps_perform (k : SimulatedKernel) (c : Call) :
    k.Steps c (k.perform c).1 (k.perform c).2 := by
  cases c with
  | objGet path flags => exact .opened path flags
  | lookup fd uid =>
    rw [perform]
    split
    · next hfd =>
      unfold lookupElement
      split
      · next h => exact .missed hfd h
      · next entry h => exact .found hfd h
    · exact .closed nofun
  | update fd uid entry flags =>
    rw [perform]
    split
    · next hfd =>
      unfold updateElement
      split
      · exact .barred uid entry flags _ hfd
      split
      · exact .barred uid entry flags _ hfd
      split
      · exact .barred uid entry flags _ hfd
      · exact .stored uid entry flags hfd
    · exact .closed nofun
  | delete fd uid =>
    rw [perform]
    split
    · next hfd =>
      unfold deleteElement
      split
      · next h => exact .gone hfd h
      · next entry h => exact .erased hfd h
    · exact .closed nofun

theorem steps_run (k : SimulatedKernel) (c : Call) : k.Steps c (k.run c).1 (k.run c).2 := by
  unfold run
  split
  · next i k' h =>
    obtain ⟨hi, times, rfl⟩ := eq_setInjection_of_takeInjection h
    exact .injected times hi
  · exact k.steps_perform c

end OwnerRules.SimulatedKernel

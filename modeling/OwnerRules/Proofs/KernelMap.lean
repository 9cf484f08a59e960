import OwnerRules.Proofs.Exchange
import OwnerRules.Proofs.KernelStep

namespace OwnerRules

open Kernel

/-- What an exchange tells of the map before it, and what it makes of the map. -/
def Kernel.Exchange.Moves (m m' : OwnerMap) : Exchange → Prop
  | ⟨.objGet .., _⟩ => m' = m
  | ⟨.lookup _ uid, .ok entry⟩ => m.get? uid = some entry ∧ m' = m
  | ⟨.lookup _ uid, .error e⟩ => (e = .ENOENT → m.get? uid = none) ∧ m' = m
  | ⟨.update _ uid entry _, .ok _⟩ => m' = m.insert uid entry
  | ⟨.update .., .error _⟩ => m' = m
  | ⟨.delete _ uid, .ok _⟩ => m' = m.erase uid
  | ⟨.delete _ uid, .error e⟩ => (e = .ENOENT → m.get? uid = none) ∧ m' = m

def OwnerMap.Follows : OwnerMap → List Exchange → OwnerMap → Prop
  | m, [], m' => m = m'
  | m, x :: xs, m' => ∃ n, x.Moves m n ∧ Follows n xs m'

theorem OwnerMap.follows_append {m m' : OwnerMap} {xs ys : List Exchange} :
    m.Follows (xs ++ ys) m' ↔ ∃ n, m.Follows xs n ∧ n.Follows ys m' := by
  induction xs generalizing m with
  | nil => simp [Follows]
  | cons x xs ih =>
    simp only [List.cons_append, Follows, ih]
    constructor
    · rintro ⟨n, hx, o, hxs, hys⟩
      exact ⟨o, ⟨n, hx, hxs⟩, hys⟩
    · rintro ⟨o, ⟨n, hx, hxs⟩, hys⟩
      exact ⟨n, hx, o, hxs, hys⟩

theorem Errno.eq_two_of_ofNumber {n : Int} (h : ofNumber n = .ENOENT) : n = 2 := by
  have hnumber := congrArg number h
  cases n with
  | negSucc n => cases hnumber
  | ofNat n =>
    by_cases hl : (errnoTable.lookup n).isSome
    · rw [ofNumber, dif_pos hl] at hnumber
      exact congrArg Int.ofNat hnumber
    · rw [ofNumber, dif_neg hl] at hnumber
      cases hnumber

/-- The failure does not pretend that an entry is absent. -/
def Injection.Honest (c : Command) (i : Injection) : Prop :=
  c = .lookup ∨ c = .delete → i.errno ≠ 2

theorem Injection.Honest.errno_ne {c : Command} {i : Injection} (h : i.Honest c)
    (hc : c = .lookup ∨ c = .delete) : Errno.ofNumber i.errno.toInt ≠ .ENOENT := by
  intro he
  apply h hc
  apply Int32.toInt_inj.mp
  exact Errno.eq_two_of_ofNumber he

theorem Kernel.Exchange.moves_error {m : OwnerMap} {c : Call} {e : Errno}
    (h : c.command = .lookup ∨ c.command = .delete → e ≠ .ENOENT) :
    Moves m m ⟨c, .error e⟩ := by
  cases c with
  | objGet path flags => rfl
  | lookup fd uid => exact ⟨fun he => absurd he (h (.inl rfl)), rfl⟩
  | update fd uid entry flags => rfl
  | delete fd uid => exact ⟨fun he => absurd he (h (.inr rfl)), rfl⟩

structure SimulatedKernel.Quiet (k : SimulatedKernel) : Prop where
  race : k.race = []
  honest : ∀ c i, k.injections c = some i → i.Honest c

namespace SimulatedKernel

theorem quiet_ofEntries (entries : List (UInt32 × Entry)) : (ofEntries entries).Quiet :=
  ⟨rfl, by simp [ofEntries]⟩

theorem Quiet.setInjection {k : SimulatedKernel} (hk : k.Quiet) {c : Command}
    {i : Option Injection} (hi : ∀ j, i = some j → j.Honest c) : (k.setInjection c i).Quiet := by
  refine ⟨hk.race, ?_⟩
  intro d j hj
  simp only [SimulatedKernel.setInjection] at hj
  split at hj
  · next hd => exact hd ▸ hi j hj
  · exact hk.honest d j hj

theorem Quiet.moves {k k' : SimulatedKernel} {c : Call} {e : Effect} (hk : k.Quiet)
    (h : k.Steps c e k') : Exchange.Moves k.map k'.map ⟨c, e.answer c⟩ ∧ k'.Quiet := by
  cases h with
  | injected times hi =>
    have hhonest := hk.honest _ _ hi
    refine ⟨Exchange.moves_error hhonest.errno_ne, hk.setInjection ?_⟩
    rintro j ⟨rfl⟩
    exact hhonest
  | closed hc => exact ⟨Exchange.moves_error fun _ => by decide, hk⟩
  | barred uid entry flags e hfd => exact ⟨rfl, hk⟩
  | opened path flags => exact ⟨rfl, hk.race, hk.honest⟩
  | missed hfd hnone => exact ⟨⟨fun _ => hnone, rfl⟩, hk⟩
  | found hfd hsome => exact ⟨⟨hsome, by rw [hk.race]; rfl⟩, rfl, hk.honest⟩
  | stored uid entry flags hfd => exact ⟨rfl, hk.race, hk.honest⟩
  | gone hfd hnone => exact ⟨⟨fun _ => hnone, rfl⟩, hk⟩
  | erased hfd hsome => exact ⟨rfl, hk.race, hk.honest⟩

theorem Quiet.serve {k : SimulatedKernel} (hk : k.Quiet) (c : Call) :
    Exchange.Moves k.map (gateway.serve c k).2.map ⟨c, (gateway.serve c k).1⟩ ∧
      (gateway.serve c k).2.Quiet :=
  hk.moves (k.steps_run c)

theorem Quiet.serves {k k' : SimulatedKernel} {xs : List Exchange} (hk : k.Quiet)
    (h : gateway.Serves k xs k') : k.map.Follows xs k'.map ∧ k'.Quiet := by
  induction xs generalizing k with
  | nil => exact ⟨congrArg map h, h ▸ hk⟩
  | cons x xs ih =>
    obtain ⟨hmoves, hquiet⟩ := hk.serve x.call
    obtain ⟨hfollows, hend⟩ := ih hquiet h.2
    rw [h.1] at hmoves
    exact ⟨⟨_, hmoves, hfollows⟩, hend⟩

end SimulatedKernel

end OwnerRules

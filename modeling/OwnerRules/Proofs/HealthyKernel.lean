import OwnerRules.Proofs.KernelMap
import OwnerRules.Proofs.Operation

namespace OwnerRules

open Kernel

namespace SimulatedKernel

def Healthy (k : SimulatedKernel) : Prop := ∀ c i, k.injections c = some i → i.times = some 0

def overtaken (k : SimulatedKernel) : SimulatedKernel :=
  { k with map := k.map.editAll k.race, race := [] }

theorem isOpen_nextFd (k : SimulatedKernel) :
    isOpen { k with openFd := some k.nextFd } k.nextFd.toInt32 = true := by
  simp only [isOpen, Option.any_some, decide_eq_true_eq]
  apply UInt32.toBitVec_inj.mp
  rw [UInt64.toBitVec_toUInt32]
  exact (k.nextFd.toBitVec.signExtend_eq_setWidth_of_le (by decide)).symm

theorem overtaken_of_no_race {k : SimulatedKernel} (h : k.race = []) : k.overtaken = k := by
  obtain ⟨map, nextFd, openFd, injections, race, okRet⟩ := k
  obtain rfl : race = [] := h
  rfl

namespace Healthy

variable {k : SimulatedKernel} {fd : Int32} {uid : UInt32}

theorem serve (hk : k.Healthy) (c : Call) :
    gateway.serve c k = ((k.perform c).1.answer c, (k.perform c).2) := by
  have hnone : k.takeInjection c.command = none := by
    unfold takeInjection
    split
    · rfl
    · next i hi => rw [hk c.command i hi]
  simp only [gateway, run, hnone]

theorem serve_lookup_some (hk : k.Healthy) (hfd : k.isOpen fd = true) {found : Entry}
    (h : k.map.get? uid = some found) :
    gateway.serve (.lookup fd uid) k = (.ok found, k.overtaken) := by
  rw [hk.serve, perform, if_pos hfd]
  simp only [lookupElement, h]
  rfl

theorem serve_lookup_none (hk : k.Healthy) (hfd : k.isOpen fd = true)
    (h : k.map.get? uid = none) : gateway.serve (.lookup fd uid) k = (.error .ENOENT, k) := by
  rw [hk.serve, perform, if_pos hfd]
  simp only [lookupElement, h]
  rfl

theorem serve_update (hk : k.Healthy) (hfd : k.isOpen fd = true) (entry : Entry) :
    gateway.serve (.update fd uid entry Flag.any) k =
      (.ok (), { k with map := k.map.insert uid entry }) := by
  rw [hk.serve, perform, if_pos hfd, updateElement, if_neg (by decide),
    if_neg fun h => absurd h.1 (by decide), if_neg fun h => absurd h.1 (by decide)]
  rfl

theorem serve_delete_some (hk : k.Healthy) (hfd : k.isOpen fd = true) {found : Entry}
    (h : k.map.get? uid = some found) :
    gateway.serve (.delete fd uid) k = (.ok (), { k with map := k.map.erase uid }) := by
  rw [hk.serve, perform, if_pos hfd]
  simp only [deleteElement, h]
  rfl

theorem serve_delete_none (hk : k.Healthy) (hfd : k.isOpen fd = true)
    (h : k.map.get? uid = none) : gateway.serve (.delete fd uid) k = (.error .ENOENT, k) := by
  rw [hk.serve, perform, if_pos hfd]
  simp only [deleteElement, h]
  rfl

end Healthy

inductive Due (k : SimulatedKernel) (uid mask : UInt32) : Clearing → SimulatedKernel → Prop
  | absent : k.map.get? uid = none → Due k uid mask .absent k
  | noMatch (found : Entry) : k.map.get? uid = some found → found.rule &&& mask = 0 →
    Due k uid mask (.noMatch found) k.overtaken
  | updated (found : Entry) : k.map.get? uid = some found → found.rule &&& mask ≠ 0 →
    (found.without mask).rule ≠ 0 →
    Due k uid mask (.updated found)
      { k.overtaken with map := k.overtaken.map.insert uid (found.without mask) }
  | deleted (found stays : Entry) : k.map.get? uid = some found → found.rule &&& mask ≠ 0 →
    (found.without mask).rule = 0 → k.overtaken.map.get? uid = some stays →
    Due k uid mask (.deleted found) { k.overtaken with map := k.overtaken.map.erase uid }
  | alreadyDeleted (found : Entry) : k.map.get? uid = some found → found.rule &&& mask ≠ 0 →
    (found.without mask).rule = 0 → k.overtaken.map.get? uid = none →
    Due k uid mask (.alreadyDeleted found) k.overtaken

theorem exists_due (k : SimulatedKernel) (uid mask : UInt32) : ∃ c k', k.Due uid mask c k' := by
  cases h : k.map.get? uid with
  | none => exact ⟨_, _, .absent h⟩
  | some found =>
    by_cases hm : found.rule &&& mask = 0
    · exact ⟨_, _, .noMatch found h hm⟩
    by_cases hr : (found.without mask).rule = 0
    · cases hs : k.overtaken.map.get? uid with
      | none => exact ⟨_, _, .alreadyDeleted found h hm hr hs⟩
      | some stays => exact ⟨_, _, .deleted found stays h hm hr hs⟩
    · exact ⟨_, _, .updated found h hm hr⟩

namespace Due

variable {k k' : SimulatedKernel} {uid mask : UInt32} {c : Clearing}

theorem possible (h : k.Due uid mask c k') : c.Possible mask := by
  cases h with
  | absent _ => trivial
  | noMatch found _ hm => exact hm
  | updated found _ hm hr => exact ⟨hm, hr⟩
  | deleted found stays _ hm hr _ => exact ⟨hm, hr⟩
  | alreadyDeleted found _ hm hr _ => exact ⟨hm, hr⟩

theorem serves (h : k.Due uid mask c k') (hk : k.Healthy) {fd : Int32} (hfd : k.isOpen fd = true) :
    gateway.Serves k (c.exchanges fd uid mask) k' := by
  have hk' : k.overtaken.Healthy := hk
  have hfd' : k.overtaken.isOpen fd = true := hfd
  cases h with
  | absent hnone =>
    simp only [Clearing.exchanges, Gateway.Serves, hk.serve_lookup_none hfd hnone, and_self]
  | noMatch found hfound hm =>
    simp only [Clearing.exchanges, Gateway.Serves, hk.serve_lookup_some hfd hfound, and_self]
  | updated found hfound hm hr =>
    simp only [Clearing.exchanges, Gateway.Serves, hk.serve_lookup_some hfd hfound,
      hk'.serve_update hfd', and_self]
  | deleted found stays hfound hm hr hstays =>
    simp only [Clearing.exchanges, Gateway.Serves, hk.serve_lookup_some hfd hfound,
      hk'.serve_delete_some hfd' hstays, and_self]
  | alreadyDeleted found hfound hm hr hgone =>
    simp only [Clearing.exchanges, Gateway.Serves, hk.serve_lookup_some hfd hfound,
      hk'.serve_delete_none hfd' hgone, and_self]

theorem keeps (h : k.Due uid mask c k') :
    k'.injections = k.injections ∧ k'.openFd = k.openFd ∧ (k.race = [] → k'.race = []) := by
  cases h with
  | absent _ => exact ⟨rfl, rfl, id⟩
  | _ => exact ⟨rfl, rfl, fun _ => rfl⟩

theorem map_eq (h : k.Due uid mask c k') {found : Entry} (hfound : k.map.get? uid = some found)
    (hm : found.rule &&& mask ≠ 0) :
    k'.map = (k.map.editAll k.race).edit ⟨uid, found.clear mask⟩ := by
  cases h with
  | absent hnone =>
    rw [hnone] at hfound
    cases hfound
  | noMatch found' hfound' hm' =>
    obtain rfl : found' = found := Option.some.inj (hfound'.symm.trans hfound)
    exact absurd hm' hm
  | updated found' hfound' _ hr =>
    obtain rfl : found' = found := Option.some.inj (hfound'.symm.trans hfound)
    rw [Entry.clear, if_neg hm, if_neg (show ¬ found'.rule &&& ~~~mask = 0 from hr)]
    rfl
  | deleted found' stays hfound' _ hr _ =>
    obtain rfl : found' = found := Option.some.inj (hfound'.symm.trans hfound)
    rw [Entry.clear, if_neg hm, if_pos (show found'.rule &&& ~~~mask = 0 from hr)]
    rfl
  | alreadyDeleted found' hfound' _ hr hgone =>
    obtain rfl : found' = found := Option.some.inj (hfound'.symm.trans hfound)
    rw [Entry.clear, if_neg hm, if_pos (show found'.rule &&& ~~~mask = 0 from hr)]
    -- Nothing is erased here, since the edits have emptied the slot.
    apply OwnerMap.ext_get?
    intro u
    rw [OwnerMap.get?_edit]
    split
    · next hu => exact hu ▸ hgone
    · rfl

end Due

end SimulatedKernel

structure Bridge.Ready (b : Bridge SimulatedKernel) (path : MapPath) : Prop where
  healthy : b.kernel.Healthy
  path : b.descriptor = none → path.hasNul = false
  descriptor : ∀ fd, b.descriptor = some fd → b.kernel.isOpen fd = true

namespace Bridge.Ready

open SimulatedKernel (gateway)

variable {b : Bridge SimulatedKernel} {path : MapPath}

theorem exists_opening (h : b.Ready path) :
    ∃ (o : Opening) (fd : Int32) (n : Option Int64), o.Possible b.descriptor path ∧
      o.descriptor = some fd ∧ (b.descriptor ≠ none → n = b.kernel.openFd) ∧
      gateway.Serves b.kernel (o.exchanges path) { b.kernel with openFd := n } ∧
      SimulatedKernel.isOpen { b.kernel with openFd := n } fd = true := by
  cases hd : b.descriptor with
  | some fd =>
    exact ⟨.cached fd, fd, b.kernel.openFd, rfl, rfl, fun _ => rfl, rfl, h.descriptor fd hd⟩
  | none =>
    have hopen : gateway.serve (.objGet path Flag.readWrite) b.kernel =
        (.ok b.kernel.nextFd.toInt32, { b.kernel with openFd := some b.kernel.nextFd }) :=
      h.healthy.serve _
    refine ⟨.opened b.kernel.nextFd.toInt32, _, some b.kernel.nextFd, ⟨rfl, h.path hd⟩, rfl,
      fun hne => absurd rfl hne, ?_, b.kernel.isOpen_nextFd⟩
    simp only [Opening.exchanges, Gateway.Serves, hopen, and_self]

theorem clearRules_due (h : b.Ready path) (uid : UInt32) (rules : UInt64) :
    ∃ (o : Opening) (fd : Int32) (n : Option Int64) (c : Clearing) (k : SimulatedKernel),
      o.descriptor = some fd ∧ (b.descriptor ≠ none → n = b.kernel.openFd) ∧
      SimulatedKernel.isOpen { b.kernel with openFd := n } fd = true ∧
      SimulatedKernel.Due { b.kernel with openFd := n } uid rules.toUInt32 c k ∧
      b.exchanges gateway (.clearRules path uid rules) =
        o.exchanges path ++ c.exchanges fd uid rules.toUInt32 ∧
      (b.clearRules gateway path uid rules).1 = c.answer ∧
      (b.clearRules gateway path uid rules).2.kernel = k ∧
      (b.clearRules gateway path uid rules).2.descriptor = some fd := by
  obtain ⟨o, fd, n, hp, ho, hn, hserves, hfd⟩ := h.exists_opening
  obtain ⟨c, k, hdue⟩ := SimulatedKernel.exists_due { b.kernel with openFd := n } uid rules.toUInt32
  have hhealthy : SimulatedKernel.Healthy { b.kernel with openFd := n } := h.healthy
  let course : Course := .reached o fd c
  have hcourse : course.Possible b.descriptor path rules.toUInt32 := ⟨hp, ho, hdue.possible⟩
  have hall : gateway.Serves b.kernel (course.exchanges path uid rules.toUInt32) k :=
    (gateway.serves_append).mpr ⟨_, hserves, hdue.serves hhealthy hfd⟩
  have hresult := Bridge.clearRules_eq hcourse hall
  refine ⟨o, fd, n, c, k, ho, hn, hfd, hdue, exchanges_of_course hcourse hall, ?_, ?_, ?_⟩
  · rw [hresult]
    rfl
  · rw [hresult, Course.kernel_leave]
  · rw [hresult, Course.descriptor_leave (b := { b with kernel := k }) hcourse]
    exact ho

theorem after (h : b.Ready path) (uid : UInt32) (rules : UInt64) (path' : MapPath) :
    (b.clearRules gateway path uid rules).2.Ready path' ∧
      (b.clearRules gateway path uid rules).2.descriptor ≠ none ∧
      (b.kernel.race = [] → (b.clearRules gateway path uid rules).2.kernel.race = []) := by
  obtain ⟨o, fd, n, c, k, -, -, hfd, hdue, -, -, hkernel, hd⟩ := h.clearRules_due uid rules
  obtain ⟨hinjections, hopen, hrace⟩ := hdue.keeps
  rw [hkernel, hd]
  refine ⟨⟨?_, ?_, ?_⟩, Option.some_ne_none fd, hrace⟩
  · rw [hkernel, SimulatedKernel.Healthy, hinjections]
    exact h.healthy
  · rw [hd]
    rintro ⟨⟩
  · rw [hd, hkernel]
    rintro fd' ⟨rfl⟩
    rw [SimulatedKernel.isOpen, hopen]
    exact hfd

end Bridge.Ready

end OwnerRules

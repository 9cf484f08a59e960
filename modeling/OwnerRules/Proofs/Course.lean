import OwnerRules.Bridge
import OwnerRules.Proofs.Exchange
import OwnerRules.Proofs.RuleBits
/-!
The courses that the bridge's work can take, whatever kernel answers. Main statements: the work
always takes a possible course, and a possible course that the kernel serves is the one taken.
-/
namespace OwnerRules

open Kernel

variable {σ : Type}

namespace Bridge

theorem call_eq (b : Bridge σ) (g : Gateway σ) (c : Call) :
    b.call g c = ((g.serve c b.kernel).1, { b with kernel := (g.serve c b.kernel).2 }) := rfl

end Bridge

inductive Opening
  | cached (fd : Int32)
  | invalidPath
  | opened (fd : Int32)
  | unsupported
  | failed (errno : Errno)

namespace Opening

def Possible (d : Option Int32) (path : MapPath) : Opening → Prop
  | cached fd => d = some fd
  | invalidPath => d = none ∧ path.hasNul = true
  | opened _ => d = none ∧ path.hasNul = false
  | unsupported => d = none ∧ path.hasNul = false
  | failed e => d = none ∧ path.hasNul = false ∧ e ≠ .ENOSYS

def exchanges (path : MapPath) : Opening → List Exchange
  | cached _ => []
  | invalidPath => []
  | opened fd => [⟨.objGet path Flag.readWrite, .ok fd⟩]
  | unsupported => [⟨.objGet path Flag.readWrite, .error .ENOSYS⟩]
  | failed e => [⟨.objGet path Flag.readWrite, .error e⟩]

def answer (path : MapPath) : Opening → Except Failure Access
  | cached fd => .ok (.opened fd)
  | invalidPath => .error (.invalidPath path.lossyText)
  | opened fd => .ok (.opened fd)
  | unsupported => .ok .unsupported
  | failed e => .error (.kernel .objGet e)

def descriptor : Opening → Option Int32
  | cached fd => some fd
  | opened fd => some fd
  | _ => none

def leave (path : MapPath) (b : Bridge σ) : Opening → Bridge σ
  | cached _ => b
  | invalidPath => b
  | opened fd => b.fill path fd
  | unsupported => b.emit (.mapUnsupported path)
  | failed e =>
    (b.emit (.mapOpenFailed path e (b.capabilities.hintFor e))).countKernelError .objGet

theorem call_of_mem_exchanges {o : Opening} {path : MapPath} {x : Exchange}
    (h : x ∈ o.exchanges path) : x.call = .objGet path Flag.readWrite := by
  cases o with
  | cached fd => cases h
  | invalidPath => cases h
  | opened fd => rw [List.mem_singleton.mp h]
  | unsupported => rw [List.mem_singleton.mp h]
  | failed e => rw [List.mem_singleton.mp h]

theorem Possible.eq_cached {o : Opening} {fd : Int32} {path : MapPath}
    (h : o.Possible (some fd) path) : o = .cached fd := by
  cases o with
  | cached fd' => rw [Option.some.inj h]
  | invalidPath => cases h.1
  | opened fd' => cases h.1
  | unsupported => cases h.1
  | failed e => cases h.1

@[simp] theorem kernel_leave (o : Opening) (path : MapPath) (b : Bridge σ) :
    (o.leave path b).kernel = b.kernel := by
  cases o <;> rfl

theorem descriptor_leave {o : Opening} {path : MapPath} {b : Bridge σ}
    (h : o.Possible b.descriptor path) : (o.leave path b).descriptor = o.descriptor := by
  cases o with
  | cached fd => exact h
  | invalidPath => exact h.1
  | opened fd => rfl
  | unsupported => exact h.1
  | failed e => exact h.1

end Opening

theorem Bridge.ensureOpen_eq {b : Bridge σ} {g : Gateway σ} {path : MapPath} {o : Opening} {k : σ}
    (hp : o.Possible b.descriptor path) (hs : g.Serves b.kernel (o.exchanges path) k) :
    b.ensureOpen g path = (o.answer path, o.leave path { b with kernel := k }) := by
  cases o with
  | cached fd =>
    obtain ⟨kernel, serializes, descriptor, telemetry, log, capabilities⟩ := b
    obtain rfl : descriptor = some fd := hp
    obtain rfl : kernel = k := hs
    rfl
  | invalidPath =>
    obtain ⟨kernel, serializes, descriptor, telemetry, log, capabilities⟩ := b
    obtain ⟨rfl, hn⟩ : descriptor = none ∧ path.hasNul = true := hp
    obtain rfl : kernel = k := hs
    simp only [ensureOpen, hn, if_true]
    rfl
  | opened fd =>
    obtain ⟨ha, rfl⟩ := hs
    simp [ensureOpen, call_eq, hp.1, hp.2, ha, Opening.answer, Opening.leave]
  | unsupported =>
    obtain ⟨ha, rfl⟩ := hs
    simp [ensureOpen, call_eq, hp.1, hp.2, ha, Opening.answer, Opening.leave]
  | failed e =>
    obtain ⟨ha, rfl⟩ := hs
    simp [ensureOpen, call_eq, hp.1, hp.2.1, hp.2.2, ha, Opening.answer, Opening.leave]

theorem Bridge.exists_opening (b : Bridge σ) (g : Gateway σ) (path : MapPath) :
    ∃ (o : Opening) (k : σ), o.Possible b.descriptor path ∧
      g.Serves b.kernel (o.exchanges path) k := by
  cases hd : b.descriptor with
  | some fd => exact ⟨.cached fd, b.kernel, rfl, rfl⟩
  | none =>
    cases hn : path.hasNul with
    | true => exact ⟨.invalidPath, b.kernel, ⟨rfl, hn⟩, rfl⟩
    | false =>
      cases ha : (g.serve (.objGet path Flag.readWrite) b.kernel).1 with
      | ok fd => exact ⟨.opened fd, _, ⟨rfl, hn⟩, ha, rfl⟩
      | error e =>
        by_cases he : e = .ENOSYS
        · exact ⟨.unsupported, _, ⟨rfl, hn⟩, he ▸ ha, rfl⟩
        · exact ⟨.failed e, _, ⟨rfl, hn, he⟩, ha, rfl⟩

inductive Clearing
  | absent
  | lookupFailed (errno : Errno)
  | noMatch (found : Entry)
  | updated (found : Entry)
  | updateFailed (found : Entry) (errno : Errno)
  | deleted (found : Entry)
  | alreadyDeleted (found : Entry)
  | deleteFailed (found : Entry) (errno : Errno)

namespace Clearing

def Possible (mask : UInt32) : Clearing → Prop
  | absent => True
  | lookupFailed e => e ≠ .ENOENT
  | noMatch found => found.rule &&& mask = 0
  | updated found => found.rule &&& mask ≠ 0 ∧ (found.without mask).rule ≠ 0
  | updateFailed found _ => found.rule &&& mask ≠ 0 ∧ (found.without mask).rule ≠ 0
  | deleted found => found.rule &&& mask ≠ 0 ∧ (found.without mask).rule = 0
  | alreadyDeleted found => found.rule &&& mask ≠ 0 ∧ (found.without mask).rule = 0
  | deleteFailed found e =>
    found.rule &&& mask ≠ 0 ∧ (found.without mask).rule = 0 ∧ e ≠ .ENOENT

def exchanges (fd : Int32) (uid mask : UInt32) : Clearing → List Exchange
  | absent => [⟨.lookup fd uid, .error .ENOENT⟩]
  | lookupFailed e => [⟨.lookup fd uid, .error e⟩]
  | noMatch found => [⟨.lookup fd uid, .ok found⟩]
  | updated found =>
    [⟨.lookup fd uid, .ok found⟩, ⟨.update fd uid (found.without mask) Flag.any, .ok ()⟩]
  | updateFailed found e =>
    [⟨.lookup fd uid, .ok found⟩, ⟨.update fd uid (found.without mask) Flag.any, .error e⟩]
  | deleted found => [⟨.lookup fd uid, .ok found⟩, ⟨.delete fd uid, .ok ()⟩]
  | alreadyDeleted found => [⟨.lookup fd uid, .ok found⟩, ⟨.delete fd uid, .error .ENOENT⟩]
  | deleteFailed found e => [⟨.lookup fd uid, .ok found⟩, ⟨.delete fd uid, .error e⟩]

def answer : Clearing → Except Failure Removal
  | absent => .ok (.of .notFound)
  | lookupFailed e => .error (.kernel .lookup e)
  | noMatch _ => .ok (.of .noMatch)
  | updated _ => .ok (.afterWrite none)
  | updateFailed _ e => .ok (.afterWrite (some (.kernel .update e)))
  | deleted _ => .ok (.afterWrite none)
  | alreadyDeleted _ => .ok (.afterWrite none)
  | deleteFailed _ e => .ok (.afterWrite (some (.kernel .delete e)))

def note (uid mask : UInt32) (b : Bridge σ) : Clearing → Bridge σ
  | absent => b
  | lookupFailed e => b.noteFailure .lookup uid e
  | noMatch found => b.emit (.noRequestedBits uid found.rule mask)
  | updated found => b.emit (.entryUpdated uid (found.without mask).rule)
  | updateFailed _ e => b.noteFailure .update uid e
  | deleted _ => b.emit (.entryDeleted uid)
  | alreadyDeleted _ => b.emit (.entryAlreadyDeleted uid)
  | deleteFailed _ e => b.noteFailure .delete uid e

def leave (uid mask : UInt32) (b : Bridge σ) (c : Clearing) : Bridge σ :=
  match c.answer with
  | .ok r => ((c.note uid mask b).conclude uid r).2
  | .error _ => c.note uid mask b

@[simp] theorem kernel_leave (c : Clearing) (uid mask : UInt32) (b : Bridge σ) :
    (c.leave uid mask b).kernel = b.kernel := by
  cases c <;> rfl

@[simp] theorem descriptor_leave (c : Clearing) (uid mask : UInt32) (b : Bridge σ) :
    (c.leave uid mask b).descriptor = b.descriptor := by
  cases c <;> rfl

end Clearing

theorem Clearing.exchanges_cases {c : Clearing} {mask : UInt32} (h : c.Possible mask) (fd : Int32)
    (uid : UInt32) :
    (∃ l, c.exchanges fd uid mask = [⟨.lookup fd uid, l⟩]) ∨
    (∃ found a, found.rule &&& mask ≠ 0 ∧ (found.without mask).rule ≠ 0 ∧
      c.exchanges fd uid mask = [⟨.lookup fd uid, .ok found⟩,
        ⟨.update fd uid (found.without mask) Flag.any, a⟩]) ∨
    ∃ found a, found.rule &&& mask ≠ 0 ∧ (found.without mask).rule = 0 ∧
      c.exchanges fd uid mask = [⟨.lookup fd uid, .ok found⟩, ⟨.delete fd uid, a⟩] := by
  cases c with
  | absent => exact .inl ⟨_, rfl⟩
  | lookupFailed e => exact .inl ⟨_, rfl⟩
  | noMatch found => exact .inl ⟨_, rfl⟩
  | updated found => exact .inr (.inl ⟨found, _, h.1, h.2, rfl⟩)
  | updateFailed found e => exact .inr (.inl ⟨found, _, h.1, h.2, rfl⟩)
  | deleted found => exact .inr (.inr ⟨found, _, h.1, h.2, rfl⟩)
  | alreadyDeleted found => exact .inr (.inr ⟨found, _, h.1, h.2, rfl⟩)
  | deleteFailed found e => exact .inr (.inr ⟨found, _, h.1, h.2.1, rfl⟩)

theorem Bridge.clearAt_found {b : Bridge σ} {g : Gateway σ} {fd : Int32} {uid mask : UInt32}
    {found : Entry} (hl : (g.serve (.lookup fd uid) b.kernel).1 = .ok found)
    (hm : found.rule &&& mask ≠ 0) :
    b.clearAt g fd uid mask =
      let w := Bridge.writeBack { b with kernel := (g.serve (.lookup fd uid) b.kernel).2 } g fd uid
        (found.without mask)
      w.2.conclude uid (.afterWrite w.1) := by
  simp only [clearAt, call_eq, hl, if_neg hm]
  rfl

theorem Bridge.clearAt_eq {b : Bridge σ} {g : Gateway σ} {fd : Int32} {uid mask : UInt32}
    {c : Clearing} {k : σ} (hp : c.Possible mask)
    (hs : g.Serves b.kernel (c.exchanges fd uid mask) k) :
    b.clearAt g fd uid mask = (c.answer, c.leave uid mask { b with kernel := k }) := by
  cases c with
  | absent =>
    obtain ⟨hl, rfl⟩ := hs
    simp only [clearAt, call_eq, hl, if_true]
    rfl
  | lookupFailed e =>
    obtain ⟨hl, rfl⟩ := hs
    simp only [clearAt, call_eq, hl, if_neg hp]
    rfl
  | noMatch found =>
    obtain ⟨hl, rfl⟩ := hs
    have hm : found.rule &&& mask = 0 := hp
    simp only [clearAt, call_eq, hl, if_pos hm]
    rfl
  | updated found =>
    obtain ⟨hl, hu, rfl⟩ := hs
    simp only [clearAt_found hl hp.1, writeBack, if_pos hp.2, call_eq, hu]
    rfl
  | updateFailed found e =>
    obtain ⟨hl, hu, rfl⟩ := hs
    simp only [clearAt_found hl hp.1, writeBack, if_pos hp.2, call_eq, hu]
    rfl
  | deleted found =>
    obtain ⟨hl, hd, rfl⟩ := hs
    simp only [clearAt_found hl hp.1, writeBack, if_neg (not_not_intro hp.2), call_eq, hd]
    rfl
  | alreadyDeleted found =>
    obtain ⟨hl, hd, rfl⟩ := hs
    simp only [clearAt_found hl hp.1, writeBack, if_neg (not_not_intro hp.2), call_eq, hd, if_true]
    rfl
  | deleteFailed found e =>
    obtain ⟨hl, hd, rfl⟩ := hs
    simp only [clearAt_found hl hp.1, writeBack, if_neg (not_not_intro hp.2.1), call_eq, hd,
      if_neg hp.2.2]
    rfl

theorem Bridge.exists_clearing (b : Bridge σ) (g : Gateway σ) (fd : Int32) (uid mask : UInt32) :
    ∃ (c : Clearing) (k : σ), c.Possible mask ∧ g.Serves b.kernel (c.exchanges fd uid mask) k := by
  cases hl : (g.serve (.lookup fd uid) b.kernel).1 with
  | error e =>
    by_cases he : e = .ENOENT
    · exact ⟨.absent, _, trivial, he ▸ hl, rfl⟩
    · exact ⟨.lookupFailed e, _, he, hl, rfl⟩
  | ok found =>
    by_cases hm : found.rule &&& mask = 0
    · exact ⟨.noMatch found, _, hm, hl, rfl⟩
    by_cases hr : (found.without mask).rule = 0
    · cases hd : (g.serve (.delete fd uid) (g.serve (.lookup fd uid) b.kernel).2).1 with
      | ok a => exact ⟨.deleted found, _, ⟨hm, hr⟩, hl, hd, rfl⟩
      | error e =>
        by_cases he : e = .ENOENT
        · exact ⟨.alreadyDeleted found, _, ⟨hm, hr⟩, hl, he ▸ hd, rfl⟩
        · exact ⟨.deleteFailed found e, _, ⟨hm, hr, he⟩, hl, hd, rfl⟩
    · cases hu : (g.serve (.update fd uid (found.without mask) Flag.any)
          (g.serve (.lookup fd uid) b.kernel).2).1 with
      | ok a => exact ⟨.updated found, _, ⟨hm, hr⟩, hl, hu, rfl⟩
      | error e => exact ⟨.updateFailed found e, _, ⟨hm, hr⟩, hl, hu, rfl⟩

/-- How a removal goes: only a descriptor leads to work on the entry. -/
inductive Course
  | stopped (o : Opening)
  | reached (o : Opening) (fd : Int32) (c : Clearing)

namespace Course

def Possible (d : Option Int32) (path : MapPath) (mask : UInt32) : Course → Prop
  | stopped o => o.Possible d path ∧ o.descriptor = none
  | reached o fd c => o.Possible d path ∧ o.descriptor = some fd ∧ c.Possible mask

def exchanges (path : MapPath) (uid mask : UInt32) : Course → List Exchange
  | stopped o => o.exchanges path
  | reached o fd c => o.exchanges path ++ c.exchanges fd uid mask

def answer (path : MapPath) : Course → Except Failure Removal
  | stopped o => (o.answer path).map fun _ => .of .unsupported
  | reached _ _ c => c.answer

def leave (path : MapPath) (uid mask : UInt32) (b : Bridge σ) : Course → Bridge σ
  | stopped o =>
    match o.answer path with
    | .ok _ => ((o.leave path b).conclude uid (.of .unsupported)).2
    | .error _ => o.leave path b
  | reached o _ c => c.leave uid mask (o.leave path b)

@[simp] theorem kernel_leave (c : Course) (path : MapPath) (uid mask : UInt32) (b : Bridge σ) :
    (c.leave path uid mask b).kernel = b.kernel := by
  cases c with
  | stopped o => cases o <;> rfl
  | reached o fd c => simp [leave]

def opening : Course → Opening
  | stopped o => o
  | reached o _ _ => o

variable {path : MapPath} {uid mask : UInt32}

theorem opening_possible {c : Course} {d : Option Int32} (h : c.Possible d path mask) :
    c.opening.Possible d path := by
  cases c with
  | stopped o => exact h.1
  | reached o fd c => exact h.1

theorem descriptor_leave {c : Course} {b : Bridge σ} (h : c.Possible b.descriptor path mask) :
    (c.leave path uid mask b).descriptor = c.opening.descriptor := by
  cases c with
  | stopped o =>
    have ho : (o.leave path b).descriptor = o.descriptor := o.descriptor_leave h.1
    rw [leave]
    split <;> exact ho
  | reached o fd c =>
    rw [leave, Clearing.descriptor_leave, o.descriptor_leave h.1]
    rfl

theorem answer_of_opening {c : Course} {d : Option Int32} (h : c.Possible d path mask)
    {f : Failure} (hf : c.opening.answer path = .error f) : c.answer path = .error f := by
  cases c with
  | stopped o =>
    have ho : o.answer path = .error f := hf
    rw [answer, ho]
    rfl
  | reached o fd c =>
    obtain ⟨-, hd, -⟩ := h
    cases o with
    | cached fd' => cases hf
    | opened fd' => cases hf
    | unsupported => cases hf
    | invalidPath => cases hd
    | failed e => cases hd

end Course

theorem Bridge.clearRules_eq {b : Bridge σ} {g : Gateway σ} {path : MapPath} {uid : UInt32}
    {rules : UInt64} {c : Course} {k : σ} (hp : c.Possible b.descriptor path rules.toUInt32)
    (hs : g.Serves b.kernel (c.exchanges path uid rules.toUInt32) k) :
    b.clearRules g path uid rules =
      (c.answer path, c.leave path uid rules.toUInt32 { b with kernel := k }) := by
  cases c with
  | stopped o =>
    rw [clearRules, ensureOpen_eq hp.1 hs]
    cases o with
    | cached fd => cases hp.2
    | opened fd => cases hp.2
    | invalidPath => rfl
    | unsupported => rfl
    | failed e => rfl
  | reached o fd c =>
    obtain ⟨m, ho, hc⟩ := (g.serves_append).mp hs
    rw [clearRules, ensureOpen_eq hp.1 ho]
    cases o with
    | cached fd' =>
      obtain rfl : fd' = fd := Option.some.inj hp.2.1
      exact clearAt_eq hp.2.2 hc
    | opened fd' =>
      obtain rfl : fd' = fd := Option.some.inj hp.2.1
      exact clearAt_eq hp.2.2 hc
    | invalidPath => cases hp.2.1
    | unsupported => cases hp.2.1
    | failed e => cases hp.2.1

theorem Bridge.exists_course (b : Bridge σ) (g : Gateway σ) (path : MapPath) (uid mask : UInt32) :
    ∃ (c : Course) (k : σ), c.Possible b.descriptor path mask ∧
      g.Serves b.kernel (c.exchanges path uid mask) k := by
  obtain ⟨o, m, ho, hm⟩ := b.exists_opening g path
  cases hd : o.descriptor with
  | none => exact ⟨.stopped o, m, ⟨ho, hd⟩, hm⟩
  | some fd =>
    obtain ⟨c, k, hc, hk⟩ := Bridge.exists_clearing { b with kernel := m } g fd uid mask
    exact ⟨.reached o fd c, k, ⟨ho, hd, hc⟩, (g.serves_append).mpr ⟨m, hm, hk⟩⟩

end OwnerRules

import OwnerRules.Proofs.Descriptor
import OwnerRules.Proofs.StepOperation

namespace OwnerRules

open Kernel

variable {σ : Type}

inductive HostCall
  | openMap (path : MapPath)
  | clearRules (path : MapPath) (uid : UInt32) (rules : UInt64)
  | clearForHost (path : MapPath) (uid : Int32) (rules : Int64)
  | answerHost (path : MapPath) (uid : Int32) (rules : Int64)
  | request (r : Request) (path : MapPath)

namespace HostCall

def pathless : HostCall → HostCall
  | openMap _ => openMap ⟨[]⟩
  | clearRules _ uid rules => clearRules ⟨[]⟩ uid rules
  | clearForHost _ uid rules => clearForHost ⟨[]⟩ uid rules
  | answerHost _ uid rules => answerHost ⟨[]⟩ uid rules
  | request r _ => request { r with mapPath := none } ⟨[]⟩

def operation : HostCall → Operation
  | openMap path => .openMap path
  | clearRules path uid rules => .clearRules path uid rules
  | clearForHost path uid rules => .clearRules path uid.toUInt32 rules.toUInt64
  | answerHost path uid rules => .clearRules path uid.toUInt32 rules.toUInt64
  | request r path => r.operation path

end HostCall

/-- A call with all that can be seen of it: what its caller is told, the exchanges it makes with the
kernel, and the bridge, the kernel behind it, the counts and the events afterwards. -/
structure Turn (σ : Type) where
  result : StepResult
  exchanges : List Exchange
  after : Bridge σ

namespace StepResult

theorem eq_error_of_ofRemoval {a : Except Failure Removal} {f : Failure}
    (h : ofRemoval a = .failure f) : a = .error f := by
  cases a with
  | ok r => cases h
  | error f' => exact congrArg Except.error (StepResult.failure.inj h)

theorem eq_error_of_ofFlag {a : Except Failure Bool} {f : Failure} (h : ofFlag a = .failure f) :
    a = .error f := by
  cases a with
  | ok r => cases h
  | error f' => exact congrArg Except.error (StepResult.failure.inj h)

end StepResult

namespace Bridge

def handle (b : Bridge σ) (g : Gateway σ) : HostCall → StepResult × Bridge σ
  | .openMap path => (b.ensureOpen g path).map .ofAccess id
  | .clearRules path uid rules => (b.clearRules g path uid rules).map .ofRemoval id
  | .clearForHost path uid rules => (b.clearForHost g path uid rules).map .ofRemoval id
  | .answerHost path uid rules => (b.answerHost g path uid rules).map .ofFlag id
  | .request r path => (r.runOn g path b).map .ofRemoval id

def turn (g : Gateway σ) (b : Bridge σ) (c : HostCall) : Turn σ where
  result := (b.handle g c).1
  exchanges := ((b.withKernel (b.kernel, [])).handle g.recorded c).2.kernel.2
  after := (b.handle g c).2

def turns (g : Gateway σ) : Bridge σ → List HostCall → List (Turn σ)
  | _, [] => []
  | b, c :: cs => b.turn g c :: turns g (b.turn g c).after cs

theorem after_turn (g : Gateway σ) (b : Bridge σ) (c : HostCall) :
    (b.turn g c).after = (b.perform g c.operation).2 := by
  cases c <;> rfl

theorem exchanges_turn (g : Gateway σ) (b : Bridge σ) (c : HostCall) :
    (b.turn g c).exchanges = b.exchanges g c.operation := by
  cases c <;> rfl

theorem handle_pathless {b : Bridge σ} {fd : Int32} (hd : b.descriptor = some fd) (g : Gateway σ)
    (c : HostCall) : b.handle g c = b.handle g c.pathless := by
  have hopen (path : MapPath) : b.ensureOpen g path = (.ok (.opened fd), b) := by
    rw [ensureOpen, hd]
  have hclear (path : MapPath) (uid : UInt32) (rules : UInt64) :
      b.clearRules g path uid rules = b.clearAt g fd uid rules.toUInt32 := by
    rw [clearRules, hopen]
  cases c with
  | openMap path => simp only [HostCall.pathless, handle, hopen]
  | clearRules path uid rules => simp only [HostCall.pathless, handle, hclear]
  | clearForHost path uid rules => simp only [HostCall.pathless, handle, clearForHost, hclear]
  | answerHost path uid rules =>
    simp only [HostCall.pathless, handle, answerHost, clearForHost, hclear]
  | request r path => simp only [HostCall.pathless, handle, Request.runOn, hclear]

theorem turn_pathless {b : Bridge σ} {fd : Int32} (hd : b.descriptor = some fd) (g : Gateway σ)
    (c : HostCall) : b.turn g c = b.turn g c.pathless := by
  have hrecorded : (b.withKernel (b.kernel, ([] : List Exchange))).descriptor = some fd := hd
  rw [turn, handle_pathless hd g c, handle_pathless hrecorded g.recorded c]
  rfl

theorem descriptor_turn {b : Bridge σ} {fd : Int32} (hd : b.descriptor = some fd) (g : Gateway σ)
    (c : HostCall) : (b.turn g c).after.descriptor = some fd := by
  rw [after_turn]
  exact (descriptor_of_run hd [c.operation]).1

theorem turns_pathless {b : Bridge σ} {fd : Int32} (hd : b.descriptor = some fd) (g : Gateway σ)
    (cs : List HostCall) : b.turns g cs = b.turns g (cs.map HostCall.pathless) := by
  -- The descriptor is the invariant: it is there before each call and is never given up.
  induction cs generalizing b with
  | nil => rfl
  | cons c cs ih =>
    have hrest := ih (descriptor_turn hd g c)
    rw [turns, hrest, turn_pathless hd g c]
    rfl

theorem answer_ne_invalidPath {b : Bridge σ} {fd : Int32} (hd : b.descriptor = some fd)
    (g : Gateway σ) (path : MapPath) (uid : UInt32) (rules : UInt64) (s : String) :
    (b.clearRules g path uid rules).1.bind Removal.answer ≠ .error (.invalidPath s) := by
  obtain ⟨c, k, hp, -, hc, -⟩ := b.clearRules_course g path uid rules
  rw [hc]
  intro hanswer
  rcases (c.answer_eq_error hp uid _).mp hanswer with ⟨hnone, -⟩ | ⟨x, e, -, -, -, hf⟩
  · rw [hd] at hnone
    cases hnone
  · cases hf

theorem result_turn_ne_invalidPath {b : Bridge σ} {fd : Int32} (hd : b.descriptor = some fd)
    (g : Gateway σ) (c : HostCall) (s : String) :
    (b.turn g c).result ≠ .failure (.invalidPath s) := by
  have hplain (path : MapPath) (uid : UInt32) (rules : UInt64) :
      StepResult.ofRemoval (b.clearRules g path uid rules).1 ≠ .failure (.invalidPath s) := by
    intro hresult
    apply answer_ne_invalidPath hd g path uid rules s
    rw [StepResult.eq_error_of_ofRemoval hresult]
    rfl
  cases c with
  | openMap path =>
    simp only [turn, handle, ensureOpen, hd]
    rintro ⟨⟩
  | clearRules path uid rules => exact hplain path uid rules
  | clearForHost path uid rules => exact hplain path uid.toUInt32 rules.toUInt64
  | answerHost path uid rules =>
    intro hresult
    apply answer_ne_invalidPath hd g path uid.toUInt32 rules.toUInt64 s
    exact StepResult.eq_error_of_ofFlag hresult
  | request r path => exact hplain (r.mapPath.getD path) r.uid.toUInt32 r.rules

theorem exists_of_mem_turns {g : Gateway σ} {b : Bridge σ} {fd : Int32}
    (hd : b.descriptor = some fd) {cs : List HostCall} {t : Turn σ} (ht : t ∈ b.turns g cs) :
    ∃ (b' : Bridge σ) (c : HostCall), b'.descriptor = some fd ∧ t = b'.turn g c := by
  induction cs generalizing b with
  | nil => cases ht
  | cons c cs ih =>
    rcases List.mem_cons.mp ht with rfl | ht
    · exact ⟨b, c, hd, rfl⟩
    · exact ih (descriptor_turn hd g c) ht

theorem turns_of_open_map (g : Gateway σ) {b : Bridge σ} (hd : b.descriptor ≠ none)
    {cs cs' : List HostCall} (h : cs.map HostCall.pathless = cs'.map HostCall.pathless) :
    b.turns g cs = b.turns g cs' ∧
      ∀ t ∈ b.turns g cs, ∀ s, t.result ≠ .failure (.invalidPath s) := by
  obtain ⟨fd, hd⟩ := Option.ne_none_iff_exists'.mp hd
  constructor
  · rw [turns_pathless hd g cs, h, turns_pathless hd g cs']
  · intro t ht s
    obtain ⟨b', c, hd', rfl⟩ := exists_of_mem_turns hd ht
    exact result_turn_ne_invalidPath hd' g c s

theorem turns_of_open_map_at_nul :
    let k := { SimulatedKernel.ofEntries [(7, ⟨3, 5⟩)] with openFd := some 77 }
    let b : Bridge SimulatedKernel := { Bridge.start k true with descriptor := some 77 }
    let cs : List HostCall :=
      [.clearRules ⟨[0]⟩ 7 1, .request ⟨7, 4, some ⟨[255]⟩⟩ ⟨[]⟩, .openMap ⟨[]⟩]
    let cs' : List HostCall :=
      [.clearRules ⟨[47]⟩ 7 1, .request ⟨7, 4, none⟩ ⟨[0, 0]⟩, .openMap ⟨[47, 0]⟩]
    b.descriptor ≠ none ∧ cs.map HostCall.pathless = cs'.map HostCall.pathless ∧
      b.turns SimulatedKernel.gateway cs = b.turns SimulatedKernel.gateway cs' ∧
      (b.turns SimulatedKernel.gateway cs).map (fun t => t.after.kernel.map.toList) =
        [[(7, ⟨3, 4⟩)], [], []] := by
  intro k b cs cs'
  have hd : b.descriptor ≠ none := by rintro ⟨⟩
  have h : cs.map HostCall.pathless = cs'.map HostCall.pathless := rfl
  exact ⟨hd, h, (turns_of_open_map SimulatedKernel.gateway hd h).1, by decide⟩

end Bridge

end OwnerRules

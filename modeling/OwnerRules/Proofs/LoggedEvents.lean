import Mathlib.Data.List.Forall2
import OwnerRules.Proofs.Descriptor
import OwnerRules.Proofs.Finished
import OwnerRules.Proofs.MaskText

namespace OwnerRules

open Kernel

variable {σ : Type}

theorem Outcome.name_injective : Function.Injective Outcome.name := by
  intro o o' h
  have hread : ∀ o : Outcome, ofName? o.name = some o := by
    intro o
    cases o <;> decide
  exact Option.some.inj ((hread o).symm.trans (h ▸ hread o'))

theorem Kernel.Command.name_injective : Function.Injective Command.name := by
  intro c c' h
  have hread : ∀ c : Command, ofName? c.name = some c := by
    intro c
    cases c <;> decide
  exact Option.some.inj ((hread c).symm.trans (h ▸ hread c'))

namespace Event

variable {α : Type} {v : Event} {name : String} {shown : α → FieldValue} {a : α}

def field? (v : Event) (name : String) : Option FieldValue := v.fields.lookup name

/-- The field shows this value, and it would show any other value differently. -/
def Tells (v : Event) (name : String) (shown : α → FieldValue) (a : α) : Prop :=
  ∀ b, v.field? name = some (shown b) ↔ b = a

def TellsUid (v : Event) (uid : UInt32) : Prop :=
  v.Tells "uid" (fun u : UInt32 => .number u.toNat) uid

theorem Tells.of_injective (hi : Function.Injective shown) (h : v.field? name = some (shown a)) :
    v.Tells name shown a := by
  intro b
  rw [h, Option.some_inj, hi.eq_iff, eq_comm]

theorem TellsUid.of_field {uid : UInt32} (h : v.field? "uid" = some (.number uid.toNat)) :
    v.TellsUid uid := by
  refine .of_injective ?_ h
  intro u u' hu
  exact UInt32.toNat_inj.mp (Int.ofNat_inj.mp (FieldValue.number.inj hu))

theorem Tells.of_text {text : α → String} (hi : Function.Injective text)
    (h : v.field? name = some (.text (text a))) : v.Tells name (fun b => .text (text b)) a :=
  .of_injective (fun _ _ hb => hi (FieldValue.text.inj hb)) h

theorem Tells.of_word {word : α → String} (hi : Function.Injective word)
    (h : v.field? name = some (.word (word a))) : v.Tells name (fun b => .word (word b)) a :=
  .of_injective (fun _ _ hb => hi (FieldValue.word.inj hb)) h

theorem removalFinished_tells (uid : UInt32) (outcome : Outcome) :
    (removalFinished uid outcome).TellsUid uid ∧
      (removalFinished uid outcome).Tells "outcome" (fun o : Outcome => .text o.name) outcome :=
  ⟨.of_field rfl, .of_text Outcome.name_injective rfl⟩

theorem mapOpened_tells (path : MapPath) (fd : Int32) :
    (mapOpened path fd).field? "path" = some (.text path.lossyText) ∧
      (mapOpened path fd).Tells "fd" (fun d : Int32 => .number d.toInt) fd := by
  refine ⟨rfl, .of_injective ?_ rfl⟩
  intro d d' hd
  exact Int32.toInt_inj.mp (FieldValue.number.inj hd)

theorem entryUpdated_tells (uid remaining : UInt32) :
    (entryUpdated uid remaining).TellsUid uid ∧
      (entryUpdated uid remaining).Tells "remaining"
        (fun mask : UInt32 => .text (RuleMask.describe mask)) remaining :=
  ⟨.of_field rfl, .of_text RuleMask.describe_injective rfl⟩

theorem entryDeleted_tells (uid : UInt32) : (entryDeleted uid).TellsUid uid := .of_field rfl

theorem commandFailed_tells (uid : UInt32) (command : Command) (e : Errno) (privileges : String) :
    (commandFailed uid command e privileges).Tells "operation"
        (fun d : Command => .word d.name) command ∧
      (commandFailed uid command e privileges).TellsUid uid :=
  ⟨.of_word Command.name_injective rfl, .of_field rfl⟩

def conclusion (uid : UInt32) : Except Failure Removal → List Event
  | .ok r => [.removalFinished uid r.outcome]
  | .error _ => []

theorem filter_conclusion {uid : UInt32} {p : Event → Bool}
    (h : ∀ o, p (.removalFinished uid o) = false) (a : Except Failure Removal) :
    (conclusion uid a).filter p = [] := by
  cases a with
  | ok r => simp [conclusion, h r.outcome]
  | error f => rfl

end Event

namespace Capabilities

theorem describe_ne_empty (c : Capabilities) : c.describe ≠ "" := by
  intro h
  have hnil := (String.append_eq_empty_iff.mp h).1
  revert hnil
  decide

theorem hintFor_ne_empty (c : Capabilities) (e : Errno) :
    c.hintFor e ≠ "" ↔ e = .EPERM ∨ e = .EACCES := by
  by_cases h : e = .EPERM ∨ e = .EACCES
  · simp only [hintFor, h, iff_true]
    exact c.describe_ne_empty
  · simp [hintFor, h]

end Capabilities

namespace Kernel.Exchange

/-- The account of an exchange in a removal of `mask` at `uid`. -/
def event? (uid mask : UInt32) (c : Capabilities) : Exchange → Option Event
  | ⟨.objGet path _, .ok fd⟩ => some (.mapOpened path fd)
  | ⟨.objGet path _, .error e⟩ =>
    if e = .ENOSYS then some (.mapUnsupported path)
    else some (.mapOpenFailed path e (c.hintFor e))
  | ⟨.lookup .., .ok found⟩ =>
    if found.rule &&& mask = 0 then some (.noRequestedBits uid found.rule mask) else none
  | ⟨.lookup .., .error e⟩ =>
    if e = .ENOENT then none else some (.commandFailed uid .lookup e (c.hintFor e))
  | ⟨.update _ _ entry _, .ok _⟩ => some (.entryUpdated uid entry.rule)
  | ⟨.update .., .error e⟩ => some (.commandFailed uid .update e (c.hintFor e))
  | ⟨.delete .., .ok _⟩ => some (.entryDeleted uid)
  | ⟨.delete .., .error e⟩ =>
    if e = .ENOENT then some (.entryAlreadyDeleted uid)
    else some (.commandFailed uid .delete e (c.hintFor e))

def opened? : Exchange → Option (MapPath × Int32)
  | ⟨.objGet path _, .ok fd⟩ => some (path, fd)
  | _ => none

def updated? : Exchange → Option Entry
  | ⟨.update _ _ entry _, .ok _⟩ => some entry
  | _ => none

def deletes : Exchange → Bool
  | ⟨.delete .., .ok _⟩ => true
  | _ => false

variable {uid mask : UInt32} {c : Capabilities} {x : Exchange}

theorem filter_opened (x : Exchange) :
    (x.event? uid mask c).filter (·.message = "Opened uid owner map") =
      x.opened?.map fun o => .mapOpened o.1 o.2 := by
  obtain ⟨call, answer⟩ := x
  cases call <;> cases answer <;> simp only [event?, opened?] <;> grind [Event.message]

theorem filter_updated (x : Exchange) :
    (x.event? uid mask c).filter (·.message = "Updated uid owner entry") =
      x.updated?.map fun entry => .entryUpdated uid entry.rule := by
  obtain ⟨call, answer⟩ := x
  cases call <;> cases answer <;> simp only [event?, updated?] <;> grind [Event.message]

theorem filter_deleted (x : Exchange) :
    (x.event? uid mask c).filter (·.message = "Deleted uid owner entry") =
      (Option.guard deletes x).map fun _ => .entryDeleted uid := by
  obtain ⟨call, answer⟩ := x
  cases call <;> cases answer <;> simp only [event?, Option.guard, deletes] <;>
    grind [Event.message]

theorem filter_finished (x : Exchange) :
    (x.event? uid mask c).filter (·.message = "uid owner rule removal finished") = none := by
  obtain ⟨call, answer⟩ := x
  cases call <;> cases answer <;> simp only [event?] <;> grind [Event.message]

theorem filter_info (x : Exchange) :
    (x.event? uid mask c).filter (·.level = .info) ≠ none ↔
      x.call.command = .objGet ∧ x.errno? = some .ENOSYS := by
  obtain ⟨call, answer⟩ := x
  cases call <;> cases answer <;> simp only [event?, errno?, Call.command] <;> grind [Event.level]

theorem filter_warn (h : ∀ e, x.errno? = some e → x.call.command.Expects e) :
    (x.event? uid mask c).filter (·.level = .warn) = none := by
  obtain ⟨call, answer⟩ := x
  cases call <;> cases answer <;>
    simp only [event?, errno?, Call.command, Command.Expects] at h ⊢ <;>
    grind [Event.level]

theorem filterMap_warn {xs : List Exchange}
    (h : ∀ x ∈ xs, ∀ e, x.errno? = some e → x.call.command.Expects e) :
    xs.filterMap (fun x => (x.event? uid mask c).filter (·.level = .warn)) = [] :=
  List.filterMap_eq_nil_iff.mpr fun x hx => filter_warn (h x hx)

theorem exists_warning {e : Errno} (he : x.errno? = some e) (hne : ¬ x.call.command.Expects e)
    (uid mask : UInt32) (c : Capabilities) :
    ∃ w, x.event? uid mask c = some w ∧ w.level = .warn ∧
      w.field? "errno" = some (.text (e.name ++ ": " ++ e.description)) ∧
      w.field? "privileges" = some (.text (c.hintFor e)) ∧
      (x.call.command ≠ .objGet →
        w.Tells "operation" (fun d : Command => .word d.name) x.call.command ∧
          w.TellsUid uid) := by
  obtain ⟨call, answer⟩ := x
  cases answer with
  | ok a => cases he
  | error e' =>
    obtain rfl := Option.some.inj he
    cases call with
    | objGet path flags =>
      exact ⟨.mapOpenFailed path e' (c.hintFor e'), if_neg hne, rfl, rfl, rfl,
        fun h => absurd rfl h⟩
    | lookup fd key =>
      exact ⟨_, if_neg hne, rfl, rfl, rfl, fun _ => Event.commandFailed_tells uid .lookup e' _⟩
    | update fd key entry flags =>
      exact ⟨_, rfl, rfl, rfl, rfl, fun _ => Event.commandFailed_tells uid .update e' _⟩
    | delete fd key =>
      exact ⟨_, if_neg hne, rfl, rfl, rfl, fun _ => Event.commandFailed_tells uid .delete e' _⟩

end Kernel.Exchange

namespace Opening

@[simp] theorem capabilities_leave (o : Opening) (path : MapPath) (b : Bridge σ) :
    (o.leave path b).capabilities = b.capabilities := by
  cases o <;> rfl

theorem log_leave {o : Opening} {d : Option Int32} {path : MapPath} (h : o.Possible d path)
    (uid mask : UInt32) (b : Bridge σ) :
    (o.leave path b).log =
      b.log ++ (o.exchanges path).filterMap (Exchange.event? uid mask b.capabilities) := by
  cases o with
  | cached fd => exact (List.append_nil _).symm
  | invalidPath => exact (List.append_nil _).symm
  | opened fd => rfl
  | unsupported => rfl
  | failed e =>
    have he : e ≠ .ENOSYS := h.2.2
    simp [leave, exchanges, Exchange.event?, he, Bridge.emit, Bridge.countKernelError]

end Opening

namespace Clearing

variable {c : Clearing} {mask : UInt32}

theorem log_note (h : c.Possible mask) (fd : Int32) (uid : UInt32) (b : Bridge σ) :
    (c.note uid mask b).log =
      b.log ++ (c.exchanges fd uid mask).filterMap (Exchange.event? uid mask b.capabilities) := by
  -- A look-up that leads to a write is not logged itself.
  have hfound (found : Entry) (hm : found.rule &&& mask ≠ 0) :
      Exchange.event? uid mask b.capabilities ⟨.lookup fd uid, .ok found⟩ = none := if_neg hm
  cases c with
  | absent => exact (List.append_nil _).symm
  | lookupFailed e =>
    have he : Exchange.event? uid mask b.capabilities ⟨.lookup fd uid, .error e⟩ =
        some (.commandFailed uid .lookup e (b.capabilities.hintFor e)) := if_neg h
    rw [exchanges, List.filterMap_cons_some he]
    rfl
  | noMatch found =>
    have hm : Exchange.event? uid mask b.capabilities ⟨.lookup fd uid, .ok found⟩ =
        some (.noRequestedBits uid found.rule mask) := if_pos h
    rw [exchanges, List.filterMap_cons_some hm]
    rfl
  | updated found =>
    rw [exchanges, List.filterMap_cons_none (hfound found h.1)]
    rfl
  | updateFailed found e =>
    rw [exchanges, List.filterMap_cons_none (hfound found h.1)]
    rfl
  | deleted found =>
    rw [exchanges, List.filterMap_cons_none (hfound found h.1)]
    rfl
  | alreadyDeleted found =>
    rw [exchanges, List.filterMap_cons_none (hfound found h.1)]
    rfl
  | deleteFailed found e =>
    have he : Exchange.event? uid mask b.capabilities ⟨.delete fd uid, .error e⟩ =
        some (.commandFailed uid .delete e (b.capabilities.hintFor e)) := if_neg h.2.2
    rw [exchanges, List.filterMap_cons_none (hfound found h.1), List.filterMap_cons_some he]
    rfl

theorem log_leave (h : c.Possible mask) (fd : Int32) (uid : UInt32) (b : Bridge σ) :
    (c.leave uid mask b).log =
      b.log ++ (c.exchanges fd uid mask).filterMap (Exchange.event? uid mask b.capabilities) ++
        Event.conclusion uid c.answer := by
  rw [leave, ← c.log_note h fd uid b]
  cases c.answer with
  | ok r => rfl
  | error f => exact (List.append_nil _).symm

end Clearing

namespace Course

variable {c : Course} {d : Option Int32} {path : MapPath} {mask : UInt32}

theorem log_leave (h : c.Possible d path mask) (uid : UInt32) (b : Bridge σ) :
    (c.leave path uid mask b).log =
      b.log ++ (c.exchanges path uid mask).filterMap (Exchange.event? uid mask b.capabilities) ++
        Event.conclusion uid (c.answer path) := by
  cases c with
  | stopped o =>
    have ho := o.log_leave h.1 uid mask b
    rw [exchanges, answer, leave, ← ho]
    cases o.answer path with
    | ok a => rfl
    | error f => exact (List.append_nil _).symm
  | reached o fd c =>
    rw [leave, c.log_leave h.2.2 fd, o.log_leave h.1 uid mask b, o.capabilities_leave, exchanges,
      List.filterMap_append, List.append_assoc b.log]
    rfl

theorem unsupported_iff (h : c.Possible d path mask) (uid : UInt32) :
    (∃ r, c.answer path = .ok r ∧ r.outcome = .unsupported) ↔
      ∃ x ∈ c.exchanges path uid mask, x.call.command = .objGet ∧ x.errno? = some .ENOSYS := by
  cases c with
  | stopped o =>
    cases o with
    | cached fd => cases h.2
    | opened fd => cases h.2
    | invalidPath => simp [answer, Opening.answer, exchanges, Opening.exchanges, Except.map]
    | unsupported =>
      simp [answer, Opening.answer, exchanges, Opening.exchanges, Except.map, Removal.of,
        Call.command, Exchange.errno?]
    | failed e =>
      have he : e ≠ .ENOSYS := h.1.2.2
      simp [answer, Opening.answer, exchanges, Opening.exchanges, Except.map, Call.command,
        Exchange.errno?, he]
  | reached o fd c =>
    obtain ⟨l, ws, hc, -, -, hws⟩ := c.exchanges_eq_cons h.2.2 fd uid
    constructor
    · rintro ⟨r, hr, hu⟩
      have hr : c.answer = .ok r := hr
      cases c <;> cases hr <;> cases hu
    · rintro ⟨x, hx, hcommand, he⟩
      rcases List.mem_append.mp hx with hx | hx
      · rw [o.errno?_of_mem_exchanges h.2.1 hx] at he
        cases he
      · rw [hc] at hx
        rcases List.mem_cons.mp hx with rfl | hx
        · cases hcommand
        · rcases hws x hx with hcall | ⟨entry, hcall⟩ <;> rw [hcall] at hcommand <;> cases hcommand

end Course

namespace Bridge

def events (b : Bridge σ) (g : Gateway σ) (op : Operation) : List Event :=
  (b.perform g op).2.log.drop b.log.length

theorem filterMap_opened? (b : Bridge σ) (g : Gateway σ) (op : Operation) :
    (b.exchanges g op).filterMap Exchange.opened? =
      (if b.descriptor = none then (b.perform g op).2.descriptor else none).toList.map
        (Prod.mk op.path) := by
  obtain ⟨o, xs, hp, hx, hd, hfd, -⟩ := b.perform_opening g op
  have hrest : xs.filterMap Exchange.opened? = [] := by
    apply List.filterMap_eq_nil_iff.mpr
    rintro ⟨call, answer⟩ hmem
    obtain ⟨fd, -, hcall⟩ := hfd _ hmem
    cases call with
    | objGet path flags => cases hcall
    | _ => rfl
  rw [hx, hd, List.filterMap_append, hrest, List.append_nil]
  cases o with
  | cached fd => simp [Opening.exchanges, show b.descriptor = some fd from hp]
  | invalidPath => simp [Opening.exchanges, Opening.descriptor]
  | opened fd =>
    simp [Opening.exchanges, Opening.descriptor, Exchange.opened?,
      show b.descriptor = none from hp.1]
  | unsupported => simp [Opening.exchanges, Opening.descriptor, Exchange.opened?]
  | failed e => simp [Opening.exchanges, Opening.descriptor, Exchange.opened?]

section Removal

variable (b : Bridge σ) (g : Gateway σ) (path : MapPath) (uid : UInt32) (rules : UInt64)

theorem log_clearRules :
    (b.clearRules g path uid rules).2.log = b.log ++
      ((b.exchanges g (.clearRules path uid rules)).filterMap
        (Exchange.event? uid rules.toUInt32 b.capabilities) ++
      Event.conclusion uid (b.clearRules g path uid rules).1) := by
  obtain ⟨c, k, hp, -, hc, hx⟩ := b.clearRules_course g path uid rules
  rw [hc, hx, c.log_leave hp, List.append_assoc]

theorem events_clearRules :
    b.events g (.clearRules path uid rules) =
      (b.exchanges g (.clearRules path uid rules)).filterMap
        (Exchange.event? uid rules.toUInt32 b.capabilities) ++
      Event.conclusion uid (b.clearRules g path uid rules).1 := by
  rw [events, perform, log_clearRules, List.drop_left]

theorem filter_clearRules (p : Event → Bool) :
    (b.events g (.clearRules path uid rules)).filter p =
      (b.exchanges g (.clearRules path uid rules)).filterMap
        (fun x => (x.event? uid rules.toUInt32 b.capabilities).filter p) ++
      (Event.conclusion uid (b.clearRules g path uid rules).1).filter p := by
  rw [events_clearRules, List.filter_append, List.filter_filterMap]

variable {b g path uid rules}

theorem filter_warn_of_expected
    (h : ∀ x ∈ b.exchanges g (.clearRules path uid rules), ∀ e, x.errno? = some e →
      x.call.command.Expects e) :
    (b.events g (.clearRules path uid rules)).filter (·.level = .warn) = [] := by
  rw [filter_clearRules, Event.filter_conclusion fun o => rfl, List.append_nil]
  exact Exchange.filterMap_warn h

theorem filter_warn_of_no_failure
    (h : ∀ c e, (b.finished g (.clearRules path uid rules)).failure? ≠ some (.kernel c e)) :
    (b.events g (.clearRules path uid rules)).filter (·.level = .warn) = [] := by
  apply filter_warn_of_expected
  intro x hx e he
  by_contra hne
  exact h x.call.command e ((b.failure?_eq_kernel_iff g _ _ _).mpr ⟨x, hx, rfl, he, hne⟩)

theorem exists_warning {c : Command} {e : Errno}
    (h : (b.finished g (.clearRules path uid rules)).failure? = some (.kernel c e)) :
    ∃ w, (b.events g (.clearRules path uid rules)).filter (·.level = .warn) = [w] ∧
      w.field? "errno" = some (.text (e.name ++ ": " ++ e.description)) ∧
      w.field? "privileges" = some (.text (b.capabilities.hintFor e)) ∧
      (c ≠ .objGet → w.Tells "operation" (fun d : Command => .word d.name) c ∧
        w.TellsUid uid) := by
  obtain ⟨x, hx, rfl, he, hne⟩ := (b.failure?_eq_kernel_iff g _ _ _).mp h
  obtain ⟨course, k, hp, -, -, hcourse⟩ := b.clearRules_course g path uid rules
  obtain ⟨w, hw, hlevel, herrno, hprivileges, helement⟩ :=
    Exchange.exists_warning he hne uid rules.toUInt32 b.capabilities
  refine ⟨w, ?_, herrno, hprivileges, helement⟩
  have hone : (x.event? uid rules.toUInt32 b.capabilities).filter (·.level = .warn) = some w := by
    simp [hw, Option.filter, hlevel]
  rw [hcourse] at hx
  have hsplit := List.dropLast_append_getLast? x (course.getLast?_of_errno? hp hx he)
  -- All exchanges but the last succeed, so there is no other warning.
  have hquiet : (course.exchanges path uid rules.toUInt32).dropLast.filterMap
      (fun x => (x.event? uid rules.toUInt32 b.capabilities).filter (·.level = .warn)) = [] := by
    apply Exchange.filterMap_warn
    intro y hy n hn
    rw [course.errno?_of_mem_dropLast hp uid hy] at hn
    cases hn
  rw [filter_clearRules, Event.filter_conclusion fun o => rfl, List.append_nil, hcourse, ← hsplit,
    List.filterMap_append, hquiet, List.nil_append]
  simp only [List.filterMap_cons, hone, List.filterMap_nil]

variable (b g path uid rules)

theorem filter_finished_clearRules :
    (b.events g (.clearRules path uid rules)).filter
        (·.message = "uid owner rule removal finished") =
      Event.conclusion uid (b.clearRules g path uid rules).1 := by
  simp only [filter_clearRules, Exchange.filter_finished]
  cases (b.clearRules g path uid rules).1 <;> simp [Event.conclusion, Event.message]

theorem getLast?_events {r : Removal} (h : (b.clearRules g path uid rules).1 = .ok r) :
    (b.events g (.clearRules path uid rules)).getLast? = some (.removalFinished uid r.outcome) := by
  rw [events_clearRules, h, Event.conclusion, List.getLast?_concat]

theorem filter_opened_clearRules :
    (b.events g (.clearRules path uid rules)).filter (·.message = "Opened uid owner map") =
      (if b.descriptor = none then (b.clearRules g path uid rules).2.descriptor
        else none).toList.map (.mapOpened path) := by
  have hopened := b.filterMap_opened? g (.clearRules path uid rules)
  rw [filter_clearRules, Event.filter_conclusion fun o => by simp [Event.message], List.append_nil]
  simp only [Exchange.filter_opened, ← List.map_filterMap, hopened, List.map_map]
  rfl

theorem filter_updated_clearRules :
    (b.events g (.clearRules path uid rules)).filter (·.message = "Updated uid owner entry") =
      ((b.exchanges g (.clearRules path uid rules)).filterMap Exchange.updated?).map
        fun entry => .entryUpdated uid entry.rule := by
  rw [filter_clearRules, Event.filter_conclusion fun o => by simp [Event.message], List.append_nil]
  simp only [Exchange.filter_updated, ← List.map_filterMap]

theorem filter_deleted_clearRules :
    (b.events g (.clearRules path uid rules)).filter (·.message = "Deleted uid owner entry") =
      ((b.exchanges g (.clearRules path uid rules)).filter Exchange.deletes).map
        fun _ => .entryDeleted uid := by
  rw [filter_clearRules, Event.filter_conclusion fun o => by simp [Event.message], List.append_nil]
  simp only [Exchange.filter_deleted, ← List.map_filterMap]
  rw [← List.filterMap_eq_filter]

theorem exists_info_iff :
    (∃ v ∈ b.events g (.clearRules path uid rules), v.level = .info) ↔
      ∃ r, (b.clearRules g path uid rules).1 = .ok r ∧ r.outcome = .unsupported := by
  obtain ⟨c, k, hp, -, hc, hx⟩ := b.clearRules_course g path uid rules
  have hanswer : (b.clearRules g path uid rules).1 = c.answer path := congrArg Prod.fst hc
  have hfilter : (∃ v ∈ b.events g (.clearRules path uid rules), v.level = .info) ↔
      (b.events g (.clearRules path uid rules)).filter (·.level = .info) ≠ [] := by
    simp
  rw [hfilter, filter_clearRules, Event.filter_conclusion fun o => rfl, List.append_nil, hx,
    hanswer, c.unsupported_iff hp uid]
  simp only [ne_eq, List.filterMap_eq_nil_iff, not_forall, exists_prop]
  exact exists_congr fun x => and_congr_right fun _ => x.filter_info

end Removal

theorem forall₂_of_eq_map {α β : Type} {R : α → β → Prop} {f : β → α} {l : List α} {l' : List β}
    (h : l = l'.map f) (hf : ∀ b, R (f b) b) : List.Forall₂ R l l' := by
  rw [h, List.forall₂_map_left_iff, List.forall₂_same]
  exact fun b _ => hf b

theorem events_of_removal (g : Gateway σ) (b : Bridge σ) (path : MapPath) (uid : UInt32)
    (rules : UInt64) :
    let op : Operation := .clearRules path uid rules
    let xs := b.exchanges g op
    let es := b.events g op
    let answer := (b.clearRules g path uid rules).1
    let after := (b.clearRules g path uid rules).2
    let failure? := (b.finished g op).failure?
    after.log = b.log ++ es ∧
    (∀ f, answer = .error f → es.filter (·.message = "uid owner rule removal finished") = []) ∧
    (∀ r, answer = .ok r → ∃ v, es.filter (·.message = "uid owner rule removal finished") = [v] ∧
      es.getLast? = some v ∧ v = .removalFinished uid r.outcome ∧ v.TellsUid uid ∧
      v.Tells "outcome" (fun o : Outcome => .text o.name) r.outcome) ∧
    (∀ c e, failure? = some (.kernel c e) → ∃ w privileges,
      es.filter (·.level = .warn) = [w] ∧
      w.field? "errno" = some (.text (e.name ++ ": " ++ e.description)) ∧
      (c ≠ .objGet → w.Tells "operation" (fun d : Command => .word d.name) c ∧ w.TellsUid uid) ∧
      w.field? "privileges" = some (.text privileges) ∧
      (privileges ≠ "" ↔ e = .EPERM ∨ e = .EACCES)) ∧
    ((∀ c e, failure? ≠ some (.kernel c e)) → es.filter (·.level = .warn) = []) ∧
    (∀ s, answer = .error (.invalidPath s) → es.filter (·.level = .warn) = []) ∧
    ((∀ x ∈ xs, ∀ e, x.errno? = some e → x.call.command.Expects e) →
      es.filter (·.level = .warn) = []) ∧
    ((∃ v ∈ es, v.level = .info) ↔ ∃ r, answer = .ok r ∧ r.outcome = .unsupported) ∧
    List.Forall₂ (fun v fd => v = .mapOpened path fd ∧
        v.field? "path" = some (.text path.lossyText) ∧
        v.Tells "fd" (fun d : Int32 => .number d.toInt) fd)
      (es.filter (·.message = "Opened uid owner map"))
      (if b.descriptor = none then after.descriptor else none).toList ∧
    List.Forall₂ (fun v entry => v = .entryUpdated uid entry.rule ∧ v.TellsUid uid ∧
        v.Tells "remaining" (fun mask : UInt32 => .text (RuleMask.describe mask)) entry.rule)
      (es.filter (·.message = "Updated uid owner entry")) (xs.filterMap Exchange.updated?) ∧
    List.Forall₂ (fun v _ => v = .entryDeleted uid ∧ v.TellsUid uid)
      (es.filter (·.message = "Deleted uid owner entry")) (xs.filter Exchange.deletes) := by
  intro op xs es answer after failure?
  have hfinished : es.filter (·.message = "uid owner rule removal finished") =
      Event.conclusion uid answer := filter_finished_clearRules b g path uid rules
  refine ⟨?_, ?_, ?_, ?_, filter_warn_of_no_failure, ?_, filter_warn_of_expected,
    exists_info_iff b g path uid rules,
    forall₂_of_eq_map (filter_opened_clearRules b g path uid rules)
      fun fd => ⟨rfl, Event.mapOpened_tells path fd⟩,
    forall₂_of_eq_map (filter_updated_clearRules b g path uid rules)
      fun entry => ⟨rfl, Event.entryUpdated_tells uid entry.rule⟩,
    forall₂_of_eq_map (filter_deleted_clearRules b g path uid rules)
      fun _ => ⟨rfl, Event.entryDeleted_tells uid⟩⟩
  · have hes : es = _ := b.events_clearRules g path uid rules
    rw [hes]
    exact log_clearRules b g path uid rules
  · intro f hf
    rw [hfinished, hf]
    rfl
  · intro r hr
    rw [hr] at hfinished
    exact ⟨.removalFinished uid r.outcome, hfinished, getLast?_events b g path uid rules hr, rfl,
      Event.removalFinished_tells uid r.outcome⟩
  · intro c e hfailure
    obtain ⟨w, hw, herrno, hprivileges, helement⟩ := exists_warning hfailure
    exact ⟨w, _, hw, herrno, helement, hprivileges, b.capabilities.hintFor_ne_empty e⟩
  · intro s hs
    apply filter_warn_of_no_failure
    intro c e hfailure
    have hinvalid : (b.finished g op).failure? = some (.invalidPath s) := by
      rw [finished, Finished.failure?_clearRules]
      exact congrArg (·.bind Removal.answer) hs
    rw [hinvalid] at hfailure
    cases hfailure

example :
    let k := (SimulatedKernel.ofEntries [(7, ⟨3, 5⟩)]).setInjection .update (some ⟨1, none, -1⟩)
    (Bridge.start k true).events SimulatedKernel.gateway (.clearRules ⟨[47]⟩ 7 1) =
      [.mapOpened ⟨[47]⟩ 77, .commandFailed 7 .update .EPERM "effective caps: (none)",
        .removalFinished 7 .applied] := by
  decide

end Bridge

end OwnerRules

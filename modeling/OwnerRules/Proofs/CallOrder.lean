import OwnerRules.Proofs.Operation

namespace OwnerRules

open Kernel

/-- Error numbers that only tell of something absent. -/
def Kernel.Command.Expects : Command → Errno → Prop
  | .objGet, e => e = .ENOSYS
  | .lookup, e => e = .ENOENT
  | .update, _ => False
  | .delete, e => e = .ENOENT

namespace Kernel.Exchange

def EndsIn (xs : List Exchange) (f : Failure) : Prop :=
  ∃ x e, xs.getLast? = some x ∧ x.errno? = some e ∧ ¬ x.call.command.Expects e ∧
    f = .kernel x.call.command e

section Concat

variable (xs : List Exchange) (c : Call) (f : Failure)

theorem endsIn_concat {x : Exchange} : EndsIn (xs ++ [x]) f ↔
    ∃ e, x.errno? = some e ∧ ¬ x.call.command.Expects e ∧ f = .kernel x.call.command e := by
  simp [EndsIn]

theorem not_endsIn_ok (a : c.Answer) : ¬ EndsIn (xs ++ [⟨c, .ok a⟩]) f := by
  rw [endsIn_concat]
  rintro ⟨e, ⟨⟩, -⟩

theorem not_endsIn_expected {e : Errno} (he : c.command.Expects e) :
    ¬ EndsIn (xs ++ [⟨c, .error e⟩]) f := by
  rw [endsIn_concat]
  rintro ⟨n, hn, hne, -⟩
  obtain rfl : e = n := Option.some.inj hn
  exact hne he

theorem error_eq_iff_endsIn {α : Type} {e : Errno} (he : ¬ c.command.Expects e) :
    (.error (.kernel c.command e) : Except Failure α) = .error f ↔
      EndsIn (xs ++ [⟨c, .error e⟩]) f := by
  rw [endsIn_concat]
  constructor
  · intro hf
    exact ⟨e, rfl, he, (Except.error.inj hf).symm⟩
  · rintro ⟨n, hn, -, rfl⟩
    obtain rfl : e = n := Option.some.inj hn
    rfl

end Concat

end Kernel.Exchange

open Kernel.Exchange

namespace Opening

variable {d : Option Int32} {path : MapPath}

theorem exchanges_ne_nil {o : Opening} (h : o.Possible d path) :
    o.exchanges path ≠ [] ↔ d = none ∧ path.hasNul = false := by
  cases o with
  | cached fd => simp [exchanges, show d = some fd from h]
  | invalidPath => simp [exchanges, h.1, h.2]
  | opened fd => simp [exchanges, h.1, h.2]
  | unsupported => simp [exchanges, h.1, h.2]
  | failed e => simp [exchanges, h.1, h.2.1]

theorem length_exchanges (o : Opening) (path : MapPath) : (o.exchanges path).length ≤ 1 := by
  cases o <;> simp [exchanges]

theorem errno?_of_mem_exchanges {o : Opening} {fd : Int32} {x : Exchange}
    (ho : o.descriptor = some fd) (h : x ∈ o.exchanges path) : x.errno? = none := by
  cases o with
  | cached fd' => cases h
  | opened fd' =>
    obtain rfl := List.mem_singleton.mp h
    rfl
  | _ => cases ho

theorem hasNul_of_descriptor {o : Opening} {fd : Int32} (h : o.Possible none path)
    (ho : o.descriptor = some fd) : path.hasNul = false := by
  cases o with
  | cached fd' => cases h
  | opened fd' => exact h.2
  | _ => cases ho

theorem answer_eq_error {o : Opening} (h : o.Possible d path) (hd : o.descriptor = none)
    (f : Failure) :
    o.answer path = .error f ↔
      (d = none ∧ path.hasNul = true ∧ f = .invalidPath path.lossyText) ∨
      EndsIn (o.exchanges path) f := by
  cases o with
  | cached fd => cases hd
  | invalidPath => simp [answer, exchanges, EndsIn, h.1, h.2, eq_comm]
  | opened fd => cases hd
  | unsupported =>
    have hends : ¬ EndsIn (exchanges path unsupported) f :=
      not_endsIn_expected [] (.objGet path Flag.readWrite) f rfl
    simp [answer, h.2, hends]
  | failed e =>
    rw [or_iff_right (by simp [h.2.1])]
    exact error_eq_iff_endsIn [] (.objGet path Flag.readWrite) f h.2.2

end Opening

namespace Clearing

variable {mask : UInt32}

theorem exchanges_eq_cons {c : Clearing} (h : c.Possible mask) (fd : Int32) (uid : UInt32) :
    ∃ l ws, c.exchanges fd uid mask = ⟨.lookup fd uid, l⟩ :: ws ∧ ws.length ≤ 1 ∧
      (ws ≠ [] → ∃ found, l = .ok found) ∧
      ∀ x ∈ ws, x.call = .delete fd uid ∨ ∃ entry, x.call = .update fd uid entry Flag.any := by
  obtain ⟨l, hc⟩ | ⟨found, a, -, -, hc⟩ | ⟨found, a, -, -, hc⟩ := c.exchanges_cases h fd uid
  · exact ⟨l, [], hc, by simp, by simp, by simp⟩
  · exact ⟨_, [_], hc, by simp, fun _ => ⟨found, rfl⟩, by simp⟩
  · exact ⟨_, [_], hc, by simp, fun _ => ⟨found, rfl⟩, by simp⟩

theorem answer_eq_error {c : Clearing} (h : c.Possible mask) (fd : Int32) (uid : UInt32)
    (f : Failure) :
    c.answer.bind Removal.answer = .error f ↔ EndsIn (c.exchanges fd uid mask) f := by
  cases c with
  | absent => exact iff_of_false nofun (not_endsIn_expected [] (.lookup fd uid) f rfl)
  | lookupFailed e => exact error_eq_iff_endsIn [] (.lookup fd uid) f h
  | noMatch found => exact iff_of_false nofun (not_endsIn_ok [] (.lookup fd uid) f found)
  | updated found =>
    exact iff_of_false nofun (not_endsIn_ok [⟨.lookup fd uid, .ok found⟩]
      (.update fd uid (found.without mask) Flag.any) f ())
  | updateFailed found e =>
    exact error_eq_iff_endsIn [⟨.lookup fd uid, .ok found⟩]
      (.update fd uid (found.without mask) Flag.any) f id
  | deleted found =>
    exact iff_of_false nofun
      (not_endsIn_ok [⟨.lookup fd uid, .ok found⟩] (.delete fd uid) f ())
  | alreadyDeleted found =>
    exact iff_of_false nofun
      (not_endsIn_expected [⟨.lookup fd uid, .ok found⟩] (.delete fd uid) f rfl)
  | deleteFailed found e =>
    exact error_eq_iff_endsIn [⟨.lookup fd uid, .ok found⟩] (.delete fd uid) f h.2.2

theorem answer_kernel {c : Clearing} {command : Command} {e : Errno}
    (h : c.answer.bind Removal.answer = .error (.kernel command e)) :
    (command = .lookup ∧ c.answer = .error (.kernel command e)) ∨
      ((command = .update ∨ command = .delete) ∧
        c.answer = .ok ⟨.applied, some (.kernel command e)⟩) := by
  cases c with
  | lookupFailed n =>
    obtain ⟨rfl, rfl⟩ := Failure.kernel.inj (Except.error.inj h)
    exact .inl ⟨rfl, rfl⟩
  | updateFailed found n =>
    obtain ⟨rfl, rfl⟩ := Failure.kernel.inj (Except.error.inj h)
    exact .inr ⟨.inl rfl, rfl⟩
  | deleteFailed found n =>
    obtain ⟨rfl, rfl⟩ := Failure.kernel.inj (Except.error.inj h)
    exact .inr ⟨.inr rfl, rfl⟩
  | _ => cases h

end Clearing

namespace Course

variable {d : Option Int32} {path : MapPath} {mask : UInt32}

theorem answer_eq_error {c : Course} (h : c.Possible d path mask) (uid : UInt32) (f : Failure) :
    (c.answer path).bind Removal.answer = .error f ↔
      (d = none ∧ path.hasNul = true ∧ f = .invalidPath path.lossyText) ∨
      EndsIn (c.exchanges path uid mask) f := by
  cases c with
  | stopped o =>
    rw [exchanges, ← o.answer_eq_error h.1 h.2 f, answer]
    cases o.answer path <;> simp [Except.map, Except.bind, Removal.answer, Removal.of]
  | reached o fd c =>
    obtain ⟨l, ws, hc, -⟩ := c.exchanges_eq_cons h.2.2 fd uid
    have hlast : (exchanges path uid mask (reached o fd c)).getLast? =
        (c.exchanges fd uid mask).getLast? := by
      rw [exchanges, List.getLast?_append, hc]
      simp [List.getLast?_cons]
    have hopen : ¬ (d = none ∧ path.hasNul = true ∧ f = .invalidPath path.lossyText) := by
      rintro ⟨rfl, hn, -⟩
      rw [o.hasNul_of_descriptor h.1 h.2.1] at hn
      cases hn
    rw [EndsIn, hlast, or_iff_right hopen]
    exact c.answer_eq_error h.2.2 fd uid f

theorem answer_kernel {c : Course} (h : c.Possible d path mask) {command : Command} {e : Errno}
    (hf : (c.answer path).bind Removal.answer = .error (.kernel command e)) :
    ((command = .objGet ∨ command = .lookup) ∧ c.answer path = .error (.kernel command e)) ∨
      ((command = .update ∨ command = .delete) ∧
        c.answer path = .ok ⟨.applied, some (.kernel command e)⟩) := by
  cases c with
  | stopped o =>
    cases o with
    | cached fd => cases h.2
    | opened fd => cases h.2
    | invalidPath => cases hf
    | unsupported => cases hf
    | failed n =>
      obtain ⟨rfl, rfl⟩ := Failure.kernel.inj (Except.error.inj hf)
      exact .inl ⟨.inl rfl, rfl⟩
  | reached o fd c =>
    obtain ⟨hc, ha⟩ | h := c.answer_kernel hf
    · exact .inl ⟨.inr hc, ha⟩
    · exact .inr h

theorem answer_eq_kernel_iff {c : Course} (h : c.Possible d path mask) (command : Command)
    (e : Errno) :
    c.answer path = .error (.kernel command e) ↔
      (c.answer path).bind Removal.answer = .error (.kernel command e) ∧
        (command = .objGet ∨ command = .lookup) := by
  constructor
  · intro ha
    have hf : (c.answer path).bind Removal.answer = .error (.kernel command e) := by rw [ha]; rfl
    obtain ⟨hcmd, -⟩ | ⟨-, hd⟩ := c.answer_kernel h hf
    · exact ⟨hf, hcmd⟩
    · rw [ha] at hd
      cases hd
  · rintro ⟨hf, hcmd⟩
    obtain ⟨-, ha⟩ | ⟨hw, -⟩ := c.answer_kernel h hf
    · exact ha
    · rcases hcmd with rfl | rfl <;> simp at hw

theorem answer_eq_deferred_iff {c : Course} (h : c.Possible d path mask) (command : Command)
    (e : Errno) :
    c.answer path = .ok ⟨.applied, some (.kernel command e)⟩ ↔
      (c.answer path).bind Removal.answer = .error (.kernel command e) ∧
        (command = .update ∨ command = .delete) := by
  constructor
  · intro ha
    have hf : (c.answer path).bind Removal.answer = .error (.kernel command e) := by rw [ha]; rfl
    obtain ⟨-, hd⟩ | ⟨hcmd, -⟩ := c.answer_kernel h hf
    · rw [ha] at hd
      cases hd
    · exact ⟨hf, hcmd⟩
  · rintro ⟨hf, hcmd⟩
    obtain ⟨hr, -⟩ | ⟨-, ha⟩ := c.answer_kernel h hf
    · rcases hcmd with rfl | rfl <;> simp at hr
    · exact ha

theorem exchanges_split {c : Course} (h : c.Possible d path mask) (uid : UInt32) :
    ∃ opens lookups writes, c.exchanges path uid mask = opens ++ lookups ++ writes ∧
      opens.length ≤ 1 ∧ lookups.length ≤ 1 ∧ writes.length ≤ 1 ∧
      (opens ≠ [] ↔ d = none ∧ path.hasNul = false) ∧
      (∀ x ∈ opens, x.call = .objGet path Flag.readWrite) ∧
      (∀ x ∈ lookups, ∃ fd, x.call = .lookup fd uid) ∧
      ∀ x ∈ writes, ∃ fd, x.call = .delete fd uid ∨
        ∃ entry, x.call = .update fd uid entry Flag.any := by
  cases c with
  | stopped o =>
    exact ⟨o.exchanges path, [], [], by simp [exchanges], o.length_exchanges path, by simp,
      by simp, o.exchanges_ne_nil h.1, fun x hx => o.call_of_mem_exchanges hx, by simp, by simp⟩
  | reached o fd c =>
    obtain ⟨l, ws, hc, hlen, -, hws⟩ := c.exchanges_eq_cons h.2.2 fd uid
    refine ⟨o.exchanges path, [⟨.lookup fd uid, l⟩], ws, by simp [exchanges, hc],
      o.length_exchanges path, by simp, hlen, o.exchanges_ne_nil h.1,
      fun x hx => o.call_of_mem_exchanges hx, by simp, ?_⟩
    intro x hx
    exact ⟨fd, hws x hx⟩

theorem errno?_of_mem_dropLast {c : Course} (h : c.Possible d path mask) (uid : UInt32)
    {x : Exchange} (hx : x ∈ (c.exchanges path uid mask).dropLast) : x.errno? = none := by
  cases c with
  | stopped o => cases o <;> simp [exchanges, Opening.exchanges] at hx
  | reached o fd c =>
    obtain ⟨l, ws, hc, hlen, hl, -⟩ := c.exchanges_eq_cons h.2.2 fd uid
    rw [exchanges, hc, List.dropLast_append_of_ne_nil (by simp)] at hx
    rcases List.mem_append.mp hx with hx | hx
    · exact o.errno?_of_mem_exchanges h.2.1 hx
    · cases ws with
      | nil => simp at hx
      | cons w ws =>
        obtain rfl : ws = [] := List.eq_nil_of_length_eq_zero (by simpa using hlen)
        obtain ⟨found, rfl⟩ := hl (by simp)
        obtain rfl : x = ⟨.lookup fd uid, .ok found⟩ := by simpa using hx
        rfl

end Course

variable {σ : Type}

theorem calls_of_removal (g : Gateway σ) (b : Bridge σ) (path : MapPath) (uid : UInt32)
    (rules : UInt64) :
    let xs := b.exchanges g (.clearRules path uid rules)
    let answer := (b.clearRules g path uid rules).1
    (∃ opens lookups writes, xs = opens ++ lookups ++ writes ∧
      opens.length ≤ 1 ∧ lookups.length ≤ 1 ∧ writes.length ≤ 1 ∧
      (opens ≠ [] ↔ b.descriptor = none ∧ path.hasNul = false) ∧
      (∀ x ∈ opens, x.call = .objGet path Flag.readWrite) ∧
      (∀ x ∈ lookups, ∃ fd, x.call = .lookup fd uid) ∧
      ∀ x ∈ writes, ∃ fd, x.call = .delete fd uid ∨
        ∃ entry, x.call = .update fd uid entry Flag.any) ∧
    (∀ x ∈ xs.dropLast, x.errno? = none) ∧
    (∀ f, answer.bind Removal.answer = .error f ↔
      (b.descriptor = none ∧ path.hasNul = true ∧ f = .invalidPath path.lossyText) ∨
      ∃ x e, xs.getLast? = some x ∧ x.errno? = some e ∧ ¬ x.call.command.Expects e ∧
        f = .kernel x.call.command e) ∧
    ∀ command e,
      (answer = .error (.kernel command e) ↔
        answer.bind Removal.answer = .error (.kernel command e) ∧
          (command = .objGet ∨ command = .lookup)) ∧
      (answer = .ok ⟨.applied, some (.kernel command e)⟩ ↔
        answer.bind Removal.answer = .error (.kernel command e) ∧
          (command = .update ∨ command = .delete)) := by
  intro xs answer
  obtain ⟨c, k, hp, -, hc, hx⟩ := b.clearRules_course g path uid rules
  have ha : answer = c.answer path := congrArg Prod.fst hc
  have hxs : xs = c.exchanges path uid rules.toUInt32 := hx
  rw [ha, hxs]
  exact ⟨c.exchanges_split hp uid, fun x => c.errno?_of_mem_dropLast hp uid,
    c.answer_eq_error hp uid, fun command e =>
    ⟨c.answer_eq_kernel_iff hp command e, c.answer_eq_deferred_iff hp command e⟩⟩

end OwnerRules

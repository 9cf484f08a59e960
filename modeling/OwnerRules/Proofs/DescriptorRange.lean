import OwnerRules.Proofs.Descriptor
import OwnerRules.Proofs.Rounds

namespace OwnerRules

open Kernel

variable {σ : Type}

namespace Kernel

def Round.opens (r : Round) : Bool :=
  r.invocation.command = Command.objGet.number && 0 ≤ r.reply.ret && r.reply.ret ≤ 0x7FFFFFFF

namespace Reply

variable {r : Reply} {p : Placement} {path : MapPath} {flags : UInt32}

theorem toInt_le_of_le {n : Int64} (h : n ≤ 0x7FFFFFFF) : n.toInt ≤ 2147483647 :=
  Int64.le_iff_toInt_le.mp h

theorem zero_le_toInt_of_le {n : Int64} (h : 0 ≤ n) : 0 ≤ n.toInt := Int64.le_iff_toInt_le.mp h

theorem answer_objGet_negative (h : r.ret < 0) :
    r.answer p (.objGet path flags) = .error (.ofNumber r.errno.toInt) := by
  rw [answer, if_pos h]

theorem answer_objGet_large (h : 0x7FFFFFFF < r.ret) :
    r.answer p (.objGet path flags) = .error .EBADF := by
  have hpos : ¬ r.ret < 0 := by
    intro hneg
    exact absurd (Int64.lt_trans h hneg) (by decide)
  simp only [answer, if_neg hpos, if_pos h]

theorem answer_objGet_fits (p : Placement) (path : MapPath) (flags : UInt32) (hpos : 0 ≤ r.ret)
    (hle : r.ret ≤ 0x7FFFFFFF) :
    ∃ fd : Int32, r.answer p (.objGet path flags) = .ok fd ∧ fd.toInt = r.ret.toInt := by
  refine ⟨r.ret.toInt32, ?_, ?_⟩
  · simp only [answer, if_neg (Int64.not_lt.mpr hpos), if_neg (Int64.not_lt.mpr hle)]
  · have hlow := zero_le_toInt_of_le hpos
    have hhigh := toInt_le_of_le hle
    rw [Int64.toInt_toInt32]
    exact Int.bmod_eq_of_le (by omega) (by omega)

theorem ret_cases (r : Reply) :
    r.ret < 0 ∨ 0x7FFFFFFF < r.ret ∨ 0 ≤ r.ret ∧ r.ret ≤ 0x7FFFFFFF := by
  by_cases hneg : r.ret < 0
  · exact .inl hneg
  by_cases hlarge : 0x7FFFFFFF < r.ret
  · exact .inr (.inl hlarge)
  · exact .inr (.inr ⟨Int64.not_lt.mp hneg, Int64.not_lt.mp hlarge⟩)

theorem answer_objGet_ok_iff (r : Reply) (p : Placement) (path : MapPath) (flags : UInt32) :
    (∃ fd, r.answer p (.objGet path flags) = .ok fd) ↔ 0 ≤ r.ret ∧ r.ret ≤ 0x7FFFFFFF := by
  constructor
  · rintro ⟨fd, hfd⟩
    rcases r.ret_cases with hneg | hlarge | hfits
    · rw [answer_objGet_negative hneg] at hfd
      cases hfd
    · rw [answer_objGet_large hlarge] at hfd
      cases hfd
    · exact hfits
  · rintro ⟨hpos, hle⟩
    obtain ⟨fd, hfd, -⟩ := answer_objGet_fits p path flags hpos hle
    exact ⟨fd, hfd⟩

theorem toInt_of_answer_objGet {fd : Int32} (h : r.answer p (.objGet path flags) = .ok fd) :
    fd.toInt = r.ret.toInt := by
  obtain ⟨hpos, hle⟩ := (answer_objGet_ok_iff r p path flags).mp ⟨fd, h⟩
  obtain ⟨fd', hfd', htoInt⟩ := answer_objGet_fits p path flags hpos hle
  rw [h] at hfd'
  obtain rfl := Except.ok.inj hfd'
  exact htoInt

theorem answer_element (r : Reply) (p : Placement) {c : Call} (hc : c.fd? ≠ none) :
    (0 ≤ r.ret → ∃ a, r.answer p c = .ok a) ∧
      (r.ret < 0 → r.answer p c = .error (.ofNumber r.errno.toInt)) := by
  constructor
  · intro hpos
    have hnot : ¬ r.ret < 0 := Int64.not_lt.mpr hpos
    cases c with
    | objGet path flags => exact absurd rfl hc
    | lookup fd uid => exact ⟨.ofBytes (r.pointee p.value), by simp only [answer, if_neg hnot]⟩
    | update fd uid entry flags => exact ⟨(), by simp only [answer, if_neg hnot]⟩
    | delete fd uid => exact ⟨(), by simp only [answer, if_neg hnot]⟩
  · intro hneg
    simp only [answer, if_pos hneg]

end Reply

theorem Round.Carries.opens_iff {p : Placement} {r : Round} {x : Exchange} (h : r.Carries p x) :
    r.opens = true ↔ x.opens = true := by
  obtain ⟨c, a⟩ := x
  have hcommand := h.command
  have hanswer : r.reply.answer p c = a := h.2
  simp only [Round.opens, Bool.and_eq_true, decide_eq_true_eq, hcommand, Exchange.opens_iff]
  cases c with
  | objGet path flags =>
    have hok := Reply.answer_objGet_ok_iff r.reply p path flags
    rw [hanswer] at hok
    simp only [Call.command, ← hok, Call.fd?, true_and]
    cases a <;> simp [Exchange.errno?]
  | _ => simp [Call.command, Command.number, Call.fd?]

end Kernel

namespace Bridge

variable {k : Syscall σ} {p : Placement}

/-- What an operation without a descriptor makes of the reply to its open. -/
structure OpenedBy (k : Syscall σ) (p : Placement) (b : Bridge σ) (op : Operation) (r : Reply) :
    Prop where
  succeeds_iff : (b.perform (k.gateway p) op).2.descriptor ≠ none ↔
    0 ≤ r.ret ∧ r.ret ≤ 0x7FFFFFFF
  fits : 0 ≤ r.ret → r.ret ≤ 0x7FFFFFFF → ∃ fd : Int32, fd.toInt = r.ret.toInt ∧
    (b.perform (k.gateway p) op).2.descriptor = some fd ∧
    (b.perform (k.gateway p) op).2.telemetry.mapOpens = b.telemetry.mapOpens + 1 ∧
    ∀ path, op = .openMap path → (b.ensureOpen (k.gateway p) path).1 = .ok (.opened fd)
  large : 0x7FFFFFFF < r.ret → (b.perform (k.gateway p) op).1 = .error (.kernel .objGet .EBADF)
  negative : r.ret < 0 → ∀ e, e = Errno.ofNumber r.errno.toInt → e ≠ .ENOSYS →
    (b.perform (k.gateway p) op).1 = .error (.kernel .objGet e)
  unsupported : r.ret < 0 → Errno.ofNumber r.errno.toInt = .ENOSYS →
    (b.perform (k.gateway p) op).1 = .ok op.unsupported
  refused : r.ret < 0 ∨ 0x7FFFFFFF < r.ret →
    (b.perform (k.gateway p) op).2.descriptor = none ∧
    (b.perform (k.gateway p) op).2.telemetry.mapOpens = b.telemetry.mapOpens

theorem ensureOpen_of_descriptor {b : Bridge σ} {g : Gateway σ} {path : MapPath} {fd : Int32}
    (h : (b.ensureOpen g path).2.descriptor = some fd) :
    (b.ensureOpen g path).1 = .ok (.opened fd) := by
  obtain ⟨o, s, hp, -, he, -⟩ := b.openMap_opening g path
  rw [he] at h ⊢
  rw [o.descriptor_leave (b := { b with kernel := s }) hp] at h
  cases o with
  | cached fd' => exact congrArg (Except.ok ∘ Access.opened) (Option.some.inj h)
  | opened fd' => exact congrArg (Except.ok ∘ Access.opened) (Option.some.inj h)
  | _ => cases h

theorem openedBy_of_opened {b : Bridge σ} {op : Operation} {fd : Int32} {r : Reply}
    (hr : r.answer p (.objGet op.path Flag.readWrite) = .ok fd)
    (hd : (b.perform (k.gateway p) op).2.descriptor = some fd)
    (hm : (b.perform (k.gateway p) op).2.telemetry.mapOpens = b.telemetry.mapOpens + 1) :
    b.OpenedBy k p op r := by
  have hfits := (Reply.answer_objGet_ok_iff r p _ _).mp ⟨fd, hr⟩
  have hneg : ¬ r.ret < 0 := Int64.not_lt.mpr hfits.1
  have hlarge : ¬ 0x7FFFFFFF < r.ret := Int64.not_lt.mpr hfits.2
  constructor
  · simp [hd, hfits]
  · intro _ _
    refine ⟨fd, Reply.toInt_of_answer_objGet hr, hd, hm, ?_⟩
    rintro path rfl
    exact ensureOpen_of_descriptor hd
  · intro h
    exact absurd h hlarge
  · intro h
    exact absurd h hneg
  · intro h
    exact absurd h hneg
  · rintro (h | h)
    · exact absurd h hneg
    · exact absurd h hlarge

theorem openedBy_of_refused {b : Bridge σ} {op : Operation} {e : Errno} {r : Reply}
    (hr : r.answer p (.objGet op.path Flag.readWrite) = .error e)
    (hd : (b.perform (k.gateway p) op).2.descriptor = none)
    (hm : (b.perform (k.gateway p) op).2.telemetry.mapOpens = b.telemetry.mapOpens)
    (hfailed : e ≠ .ENOSYS → (b.perform (k.gateway p) op).1 = .error (.kernel .objGet e))
    (hunsupported : e = .ENOSYS → (b.perform (k.gateway p) op).1 = .ok op.unsupported) :
    b.OpenedBy k p op r := by
  have hfits : ¬ (0 ≤ r.ret ∧ r.ret ≤ 0x7FFFFFFF) := by
    rw [← Reply.answer_objGet_ok_iff r p op.path Flag.readWrite, hr]
    rintro ⟨fd, ⟨⟩⟩
  constructor
  · simp [hd, hfits]
  · intro hpos hle
    exact absurd ⟨hpos, hle⟩ hfits
  · intro hlarge
    rw [Reply.answer_objGet_large hlarge] at hr
    obtain rfl := Except.error.inj hr
    exact hfailed (by decide)
  · rintro hneg n rfl hn
    rw [Reply.answer_objGet_negative hneg] at hr
    obtain rfl := Except.error.inj hr
    exact hfailed hn
  · intro hneg hn
    rw [Reply.answer_objGet_negative hneg] at hr
    exact hunsupported ((Except.error.inj hr).symm.trans hn)
  · intro _
    exact ⟨hd, hm⟩

theorem openedBy_first_round {b : Bridge σ} (hb : b.descriptor = none) {op : Operation}
    (hpath : op.path.hasNul = false) :
    ∃ r later, b.rounds k p op = r :: later ∧
      r.invocation = .ofCall p (.objGet op.path Flag.readWrite) ∧ b.OpenedBy k p op r.reply := by
  obtain ⟨o, xs, hp, hx, hd, -, hf, hu, hm⟩ := b.perform_opening (k.gateway p) op
  have hcarry := b.rounds_carry k p op
  rw [hb] at hp
  rw [hx] at hcarry
  cases o with
  | cached fd => cases hp
  | invalidPath => simp [hp.2] at hpath
  | opened fd =>
    obtain ⟨r, later, ⟨hi, hanswer⟩, -, hrounds⟩ := List.forall₂_cons_right_iff.mp hcarry
    exact ⟨r, later, hrounds, hi, openedBy_of_opened hanswer hd hm⟩
  | unsupported =>
    obtain ⟨r, later, ⟨hi, hanswer⟩, -, hrounds⟩ := List.forall₂_cons_right_iff.mp hcarry
    exact ⟨r, later, hrounds, hi,
      openedBy_of_refused hanswer hd hm (absurd rfl) fun _ => hu rfl⟩
  | failed e =>
    obtain ⟨r, later, ⟨hi, hanswer⟩, -, hrounds⟩ := List.forall₂_cons_right_iff.mp hcarry
    exact ⟨r, later, hrounds, hi,
      openedBy_of_refused hanswer hd hm (fun _ => hf _ rfl) fun he => absurd he hp.2.2⟩

theorem element_of_command {x : Exchange} {r : Round} (h : r.Carries p x)
    (hc : r.invocation.command ≠ Command.objGet.number) : x.call.fd? ≠ none := by
  rw [h.command] at hc
  obtain ⟨c, a⟩ := x
  cases c with
  | objGet path flags => exact absurd rfl hc
  | _ => exact Option.some_ne_none _

theorem opens_of_transcript {b : Bridge σ} (hb : b.descriptor = none) (ops : List Operation) :
    ((b.after (k.gateway p) ops).descriptor = none ∧
      ∀ r ∈ b.transcript k p ops, r.invocation.command = Command.objGet.number) ∨
    ∃ (fd : Int32) (o : Round), (b.after (k.gateway p) ops).descriptor = some fd ∧
      (b.transcript k p ops).filter Round.opens = [o] ∧ fd.toInt = o.reply.ret.toInt ∧
      ∀ r ∈ b.transcript k p ops, r.invocation.command ≠ Command.objGet.number →
        Attributes.fdOf r.invocation.attr = fd.toUInt32 := by
  have hcarry := b.transcript_carries k p ops
  rcases unopened_or_opened (g := k.gateway p) hb ops with h | ⟨before, op, later, fd, rfl, h⟩
  · refine .inl ⟨h.descriptor ops List.prefix_rfl, ?_⟩
    intro r hr
    obtain ⟨x, hx, hrx⟩ := exists_of_mem_carried hcarry hr
    by_contra hc
    exact element_of_command hrx hc (h.history x hx).1
  · obtain ⟨xs, hhistory, hfd⟩ := h.history_eq
    have hbefore : (b.history (k.gateway p) before).filter Exchange.opens = [] :=
      filter_opens_eq_nil fun x hx => .inr (h.unopened.history x hx).2
    have hafter : xs.filter Exchange.opens = [] :=
      filter_opens_eq_nil fun x hx => .inl (by simp [hfd x hx])
    have honce := List.rel_filter (fun _ _ hrx => Round.Carries.opens_iff hrx) hcarry
    rw [hhistory, List.filter_append, hbefore, List.filter_cons_of_pos rfl, hafter,
      List.nil_append] at honce
    obtain ⟨o, rs, hopen, hnil, ho⟩ := List.forall₂_cons_right_iff.mp honce
    obtain rfl := List.forall₂_nil_right_iff.mp hnil
    refine .inr ⟨fd, o, h.descriptor later List.prefix_rfl, ho,
      Reply.toInt_of_answer_objGet hopen.2, ?_⟩
    intro r hr hc
    obtain ⟨x, hx, hrx⟩ := exists_of_mem_carried hcarry hr
    have helement := element_of_command hrx hc
    rw [hhistory] at hx
    rcases List.mem_append.mp hx with hx | hx
    · exact absurd (h.unopened.history x hx).1 helement
    rcases List.mem_cons.mp hx with rfl | hx
    · exact absurd rfl helement
    · rw [hrx.1, Invocation.fdOf_attr (hfd x hx)]

theorem descriptor_of_replies (k : Syscall σ) (p : Placement) {b : Bridge σ}
    (hb : b.descriptor = none) (ops : List Operation) :
    (∀ before op, (b.after (k.gateway p) before).descriptor = none → op.path.hasNul = false →
      ∃ r later, (b.after (k.gateway p) before).rounds k p op = r :: later ∧
        r.invocation = .ofCall p (.objGet op.path Flag.readWrite) ∧
        (b.after (k.gateway p) before).OpenedBy k p op r.reply) ∧
    (∀ fd, (b.after (k.gateway p) ops).descriptor = some fd →
      0 ≤ fd.toInt ∧ fd.toInt ≤ 0x7FFFFFFF) ∧
    (∀ r ∈ b.transcript k p ops, r.invocation.command ≠ Command.objGet.number →
      ∃ o, (b.transcript k p ops).filter Round.opens = [o] ∧
        ((Attributes.fdOf r.invocation.attr).toNat : Int) = o.reply.ret.toInt) ∧
    ∀ (c : Call) (s : σ), c.fd? ≠ none →
      let reply := (k.invoke (.ofCall p c) s).1
      (0 ≤ reply.ret → ∃ a, ((k.gateway p).serve c s).1 = .ok a) ∧
      (reply.ret < 0 → ((k.gateway p).serve c s).1 = .error (.ofNumber reply.errno.toInt)) := by
  have hopens := opens_of_transcript (k := k) (p := p) hb ops
  have hrange {o : Round} (ho : (b.transcript k p ops).filter Round.opens = [o]) :
      0 ≤ o.reply.ret.toInt ∧ o.reply.ret.toInt ≤ 0x7FFFFFFF := by
    have hmem : o ∈ (b.transcript k p ops).filter Round.opens := by simp [ho]
    have hopens := (List.mem_filter.mp hmem).2
    simp only [Round.opens, Bool.and_eq_true, decide_eq_true_eq] at hopens
    exact ⟨Reply.zero_le_toInt_of_le hopens.1.2, Reply.toInt_le_of_le hopens.2⟩
  refine ⟨fun before op hd hpath => openedBy_first_round hd hpath, ?_, ?_, ?_⟩
  · intro fd hfd
    rcases hopens with ⟨hnone, -⟩ | ⟨fd', o, hsome, ho, htoInt, -⟩
    · rw [hnone] at hfd
      cases hfd
    · rw [hsome] at hfd
      obtain rfl := Option.some.inj hfd
      rw [htoInt]
      exact hrange ho
  · intro r hr hc
    rcases hopens with ⟨-, hnone⟩ | ⟨fd, o, -, ho, htoInt, hfd⟩
    · exact absurd (hnone r hr) hc
    · have hsmall := hrange ho
      refine ⟨o, ho, ?_⟩
      rw [hfd r hr hc, Bytes.toNat_toUInt32]
      omega
  · intro c s hc
    exact Reply.answer_element _ _ hc

theorem descriptor_of_second_reply :
    let k : Syscall (List Reply) := ⟨fun _ replies => (replies.headD ⟨-1, 22, []⟩, replies.tail)⟩
    let replies : List Reply :=
      [⟨0x80000000, 0, []⟩, ⟨0x7FFFFFFF, 0, []⟩,
        ⟨0x100000000, 0, [(Placement.default.value, Entry.toBytes ⟨3, 5⟩)]⟩]
    let b := Bridge.start replies true
    let first : Operation := .openMap ⟨[47]⟩
    let second : Operation := .clearRules ⟨[47]⟩ 7 8
    b.descriptor = none ∧
      (b.perform (k.gateway .default) first).1 = .error (.kernel .objGet .EBADF) ∧
      (b.after (k.gateway .default) [first]).descriptor = none ∧
      (b.after (k.gateway .default) [first, second]).descriptor = some 0x7FFFFFFF ∧
      ∃ r ∈ b.transcript k .default [first, second],
        r.invocation.command = Command.lookup.number ∧
        ∃ o, (b.transcript k .default [first, second]).filter Round.opens = [o] ∧
          o.reply.ret = 0x7FFFFFFF ∧
          ((Attributes.fdOf r.invocation.attr).toNat : Int) = o.reply.ret.toInt := by
  intro k replies b first second
  have hb : b.descriptor = none := rfl
  obtain ⟨hopen, -, helement, -⟩ := descriptor_of_replies k .default hb [first, second]
  obtain ⟨r, later, hrounds, -, hfirst⟩ := hopen [] first rfl rfl
  have hr : r.reply = ⟨0x80000000, 0, []⟩ := by
    have hhead : (b.rounds k .default first).head? = some r := by
      change (Bridge.rounds k .default (b.after (k.gateway .default) []) first).head? = some r
      rw [hrounds]
      rfl
    have hreply := congrArg (Option.map Round.reply) hhead
    exact (Option.some.inj hreply).symm
  have hlarge : 0x7FFFFFFF < r.reply.ret := by rw [hr]; decide
  refine ⟨hb, hfirst.large hlarge, (hfirst.refused (.inr hlarge)).1, by decide, ?_⟩
  obtain ⟨q, hq, hcommand⟩ : ∃ q ∈ b.transcript k .default [first, second],
      q.invocation.command = Command.lookup.number := ⟨_, List.getLast_mem (by decide), by decide⟩
  obtain ⟨o, ho, hfd⟩ := helement q hq (by rw [hcommand]; decide)
  refine ⟨q, hq, hcommand, o, ho, ?_, hfd⟩
  have hreturned : ((b.transcript k .default [first, second]).filter Round.opens).map
      (fun r => r.reply.ret) = [0x7FFFFFFF] := by decide
  rw [ho] at hreturned
  exact (List.cons.inj hreturned).1

end Bridge

end OwnerRules

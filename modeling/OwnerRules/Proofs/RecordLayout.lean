import OwnerRules.Proofs.ByteSession
import OwnerRules.Proofs.Descriptor

namespace OwnerRules

open Kernel

namespace Bytes

/-- From offset `i` on stand the `w` bytes of `n`, the least significant first. -/
def StandsAt (bs : List UInt8) (i w n : Nat) : Prop :=
  ∀ j < w, bs[i + j]? = some (UInt8.ofNat (n / Nat.pow 256 j))

theorem getElem?_toLE {w j : Nat} (h : j < w) (n : Nat) :
    (toLE w n)[j]? = some (UInt8.ofNat (n / Nat.pow 256 j)) := by
  induction w generalizing n j with
  | zero => omega
  | succ w ih =>
    cases j with
    | zero => simp [toLE]
    | succ j =>
      have hpow : Nat.pow 256 (j + 1) = 256 * Nat.pow 256 j := Nat.mul_comm _ _
      rw [toLE, List.getElem?_cons_succ, ih (Nat.lt_of_succ_lt_succ h), hpow,
        Nat.div_div_eq_div_mul]

theorem standsAt_append {before : List UInt8} {i : Nat} (h : before.length = i) (w n : Nat)
    (after : List UInt8) : StandsAt (before ++ (toLE w n ++ after)) i w n := by
  intro j hj
  have hlength : j < (toLE w n).length := by rwa [length_toLE]
  rw [← h, List.getElem?_append_right (Nat.le_add_right _ _), Nat.add_sub_cancel_left,
    List.getElem?_append_left hlength, getElem?_toLE hj]

theorem standsAt_front (w n : Nat) (after : List UInt8) : StandsAt (toLE w n ++ after) 0 w n :=
  standsAt_append (List.length_nil : ([] : List UInt8).length = 0) w n after

theorem StandsAt.getElem?_eq_zero {bs : List UInt8} {i w : Nat} (h : StandsAt bs i w 0) {k : Nat}
    (hle : i ≤ k) (hlt : k < i + w) : bs[k]? = some 0 := by
  have hk := h (k - i) (by omega)
  rwa [Nat.add_sub_cancel' hle, Nat.zero_div] at hk

end Bytes

open Bytes

namespace Kernel

structure Invocation.ElementRecord (i : Invocation) (command : UInt32) (fd : Int32)
    (key value flags : UInt64) : Prop where
  command : i.command = command
  length : i.attr.length = 32
  size : i.size = 32
  fd : StandsAt i.attr 0 4 fd.toUInt32.toNat
  padding : StandsAt i.attr 4 4 0
  key : StandsAt i.attr 8 8 key.toNat
  value : StandsAt i.attr 16 8 value.toNat
  flags : StandsAt i.attr 24 8 flags.toNat

structure Invocation.PathRecord (i : Invocation) (command : UInt32) (path : UInt64)
    (flags : UInt32) : Prop where
  command : i.command = command
  length : i.attr.length = 24
  size : i.size = 24
  path : StandsAt i.attr 0 8 path.toNat
  flags : StandsAt i.attr 12 4 flags.toNat
  zeros : ∀ j, 8 ≤ j → j < 24 → ¬ (12 ≤ j ∧ j < 16) → i.attr[j]? = some 0

theorem Invocation.ElementRecord.of_attr {i : Invocation} {fd : Int32} {key value flags : UInt64}
    (h : i.attr = Attributes.element fd.toUInt32 key value flags) :
    i.ElementRecord i.command fd key value flags := by
  have hlength : i.attr.length = 32 := by rw [h, Attributes.length_element]
  refine ⟨rfl, hlength, by rw [Invocation.size, hlength]; rfl, ?_, ?_, ?_, ?_, ?_⟩ <;>
    rw [h, Attributes.element]
  · exact standsAt_front _ _ _
  · exact standsAt_append (length_toLE _ _) _ _ _
  · rw [← List.append_assoc]
    exact standsAt_append (by simp) _ _ _
  · rw [← List.append_assoc, ← List.append_assoc]
    exact standsAt_append (by simp) _ _ _
  · rw [← List.append_assoc, ← List.append_assoc, ← List.append_assoc]
    exact standsAt_append (by simp) _ _ _

theorem Invocation.PathRecord.of_attr {i : Invocation} {path : UInt64} {flags : UInt32}
    (h : i.attr = Attributes.objGet path flags) : i.PathRecord i.command path flags := by
  have hlength : i.attr.length = 24 := by rw [h, Attributes.length_objGet]
  have hunused : StandsAt i.attr 8 4 0 := by
    rw [h, Attributes.objGet]
    exact standsAt_append (length_toLE _ _) _ _ _
  have hlate : StandsAt i.attr 16 4 0 ∧ StandsAt i.attr 20 4 0 := by
    rw [h, Attributes.objGet, ← List.append_assoc, ← List.append_assoc]
    refine ⟨standsAt_append (by simp) _ _ _, ?_⟩
    rw [← List.append_assoc, ← List.append_nil (toLE 4 0)]
    exact standsAt_append (by simp) _ _ _
  refine ⟨rfl, hlength, by rw [Invocation.size, hlength]; rfl, ?_, ?_, ?_⟩
  · rw [h, Attributes.objGet]
    exact standsAt_front _ _ _
  · rw [h, Attributes.objGet, ← List.append_assoc]
    exact standsAt_append (by simp) _ _ _
  · intro j h8 h24 hflags
    by_cases h12 : j < 12
    · exact hunused.getElem?_eq_zero h8 h12
    by_cases h20 : j < 20
    · exact hlate.1.getElem?_eq_zero (by omega) h20
    · exact hlate.2.getElem?_eq_zero (by omega) h24

structure Invocation.KeyRecord (i : Invocation) (uid : UInt32) : Prop where
  length : i.key.length = 4
  uid : StandsAt i.key 0 4 uid.toNat

structure Invocation.ValueRecord (i : Invocation) (entry : Entry) : Prop where
  length : i.value.length = 8
  iif : StandsAt i.value 0 4 entry.iif.toUInt32.toNat
  rule : StandsAt i.value 4 4 entry.rule.toNat

theorem Invocation.KeyRecord.of_key {i : Invocation} {uid : UInt32} (h : i.key = keyBytes uid) :
    i.KeyRecord uid := by
  refine ⟨by rw [h, keyBytes, length_toLE], ?_⟩
  rw [h, keyBytes, ← List.append_nil (toLE 4 uid.toNat)]
  exact standsAt_front _ _ _

theorem Invocation.ValueRecord.of_value {i : Invocation} {entry : Entry}
    (h : i.value = entry.toBytes) : i.ValueRecord entry := by
  refine ⟨by simp [h, Entry.toBytes], ?_, ?_⟩ <;> rw [h, Entry.toBytes]
  · exact standsAt_front _ _ _
  · rw [← List.append_nil (toLE 4 entry.rule.toNat)]
    exact standsAt_append (length_toLE _ _) _ _ _

/-- The bytes that a kernel gets to see, the record and what it points to, are the same. -/
structure Invocation.SameBytes (i j : Invocation) : Prop where
  command : i.command = j.command
  attr : i.attr = j.attr
  path : i.path = j.path
  key : i.key = j.key
  value : i.value = j.value

theorem Invocation.SameBytes.call? {i j : Invocation} (h : i.SameBytes j) : i.call? = j.call? := by
  simp only [Invocation.call?, h.command, h.attr, h.path, h.key, h.value]

theorem Reply.answer_lookup {r : Reply} {p : Placement} {fd : Int32} {uid : UInt32}
    {bs : List UInt8} (hret : 0 ≤ r.ret)
    (hvalue : r.written.lookup (Attributes.valueOf (Invocation.ofCall p (.lookup fd uid)).attr) =
      some bs) (hbs : bs.length = 8) :
    ∃ e : Entry, r.answer p (.lookup fd uid) = .ok e ∧ e.toBytes = bs := by
  rw [Invocation.ofCall, Attributes.valueOf_element] at hvalue
  refine ⟨.ofBytes bs, ?_, Entry.toBytes_ofBytes hbs⟩
  simp [Reply.answer, Reply.pointee, Int64.not_lt.mpr hret, hvalue]

end Kernel

theorem bytes_of_calls (p : Placement) :
    (∀ fd uid, (Invocation.ofCall p (.lookup fd uid)).ElementRecord 1 fd p.key p.value 0 ∧
      (Invocation.ofCall p (.lookup fd uid)).KeyRecord uid) ∧
    (∀ fd uid entry flags,
      (Invocation.ofCall p (.update fd uid entry flags)).ElementRecord 2 fd p.key p.value flags ∧
      (Invocation.ofCall p (.update fd uid entry flags)).KeyRecord uid ∧
      (Invocation.ofCall p (.update fd uid entry flags)).ValueRecord entry) ∧
    (∀ fd uid, (Invocation.ofCall p (.delete fd uid)).ElementRecord 3 fd p.key 0 0 ∧
      (Invocation.ofCall p (.delete fd uid)).KeyRecord uid) ∧
    (∀ path flags, (Invocation.ofCall p (.objGet path flags)).PathRecord 7 p.path flags) ∧
    (∀ c : Call, c.Passable → (Invocation.ofCall p c).call? = some c) ∧
    (∀ (c : Call) (fd : Int32), c.fd? = some fd →
      ((Attributes.fdOf (Invocation.ofCall p c).attr).toNat : Int) = fd.toInt % 4294967296) ∧
    (∀ (q : Placement) (c d : Call), c.Passable → d.Passable →
      (Invocation.ofCall p c).SameBytes (.ofCall q d) → c = d) ∧
    ∀ (σ : Type) (k : Syscall σ) (s : σ) (fd : Int32) (uid : UInt32) (bs : List UInt8),
      let i := Invocation.ofCall p (.lookup fd uid)
      let reply := (k.invoke i s).1
      0 ≤ reply.ret → reply.written.lookup (Attributes.valueOf i.attr) = some bs → bs.length = 8 →
        ∃ e : Entry, ((k.gateway p).serve (.lookup fd uid) s).1 = .ok e ∧ e.toBytes = bs := by
  refine ⟨?_, ?_, ?_, ?_, ?_, ?_, ?_, ?_⟩
  · intro fd uid
    exact ⟨.of_attr rfl, .of_key (Invocation.key_lookup p fd uid)⟩
  · intro fd uid entry flags
    exact ⟨.of_attr rfl, .of_key (Invocation.key_update p fd uid entry flags),
      .of_value (Invocation.value_update p fd uid entry flags)⟩
  · intro fd uid
    exact ⟨.of_attr rfl, .of_key (Invocation.key_delete p fd uid)⟩
  · intro path flags
    exact .of_attr rfl
  · intro c hc
    exact Invocation.call?_of_passable p hc
  · intro c fd hfd
    rw [Invocation.fdOf_attr hfd, toNat_toUInt32]
  · intro q c d hc hd hsame
    have hcall := hsame.call?
    rw [Invocation.call?_of_passable p hc, Invocation.call?_of_passable q hd] at hcall
    exact Option.some.inj hcall
  · intro σ k s fd uid bs i reply hret hvalue hbs
    exact Reply.answer_lookup hret hvalue hbs

theorem bytes_of_negative_descriptor :
    let k : Syscall Unit := ⟨fun i s =>
      (⟨5, 0, [(Attributes.valueOf i.attr, [0xFE, 0xFF, 0xFF, 0xFF, 0x80, 0, 0, 0])]⟩, s)⟩
    let c : Call := .lookup (-2) 1000
    c.Passable ∧ c.fd? = some (-2) ∧ (Invocation.ofCall .default c).call? = some c ∧
      (Attributes.fdOf (Invocation.ofCall .default c).attr).toNat = 4294967294 ∧
      ¬ (Invocation.ofCall .default c).SameBytes (.ofCall .default (.lookup (-2) 1001)) ∧
      ∃ e : Entry, ((k.gateway .default).serve c ()).1 = .ok e ∧
        e.toBytes = [0xFE, 0xFF, 0xFF, 0xFF, 0x80, 0, 0, 0] := by
  intro k c
  obtain ⟨-, -, -, -, hcall, hfd, hsame, hlookup⟩ := bytes_of_calls .default
  refine ⟨trivial, rfl, hcall c trivial, ?_, ?_, ?_⟩
  · have h := hfd c (-2) rfl
    rw [show (-2 : Int32).toInt % 4294967296 = 4294967294 by decide] at h
    exact Int.ofNat_inj.mp h
  · intro h
    exact absurd (hsame .default c (.lookup (-2) 1001) trivial trivial h) (by decide)
  · exact hlookup Unit k () (-2) 1000 _ (by decide) rfl rfl

end OwnerRules

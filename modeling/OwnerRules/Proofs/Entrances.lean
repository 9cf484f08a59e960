import OwnerRules.Proofs.CallOrder
import OwnerRules.Proofs.HostCall

namespace OwnerRules

open Kernel

variable {σ κ : Type}

def Kernel.Call.uid? : Call → Option UInt32
  | .objGet .. => none
  | .lookup _ uid => some uid
  | .update _ uid .. => some uid
  | .delete _ uid => some uid

namespace HostCall

def rules : HostCall → Int
  | openMap _ => 0
  | clearRules _ _ rules => rules.toNat
  | clearForHost _ _ rules => rules.toInt
  | answerHost _ _ rules => rules.toInt
  | request r _ => r.rules.toNat

def maskless : HostCall → HostCall
  | openMap path => openMap path
  | clearRules path uid _ => clearRules path uid 0
  | clearForHost path uid _ => clearForHost path uid 0
  | answerHost path uid _ => answerHost path uid 0
  | request r path => request { r with rules := 0 } path

def uid? : HostCall → Option Int32
  | clearForHost _ uid _ => some uid
  | answerHost _ uid _ => some uid
  | request r _ => some r.uid
  | _ => none

theorem toNat_mask (rules : UInt64) : (rules.toUInt32.toNat : Int) = rules.toNat % 4294967296 := by
  have hlow := rules.toNat_toUInt32
  omega

theorem toNat_signedMask (rules : Int64) :
    (rules.toUInt64.toNat : Int) % 4294967296 = rules.toInt % 4294967296 := by
  have hsigned : rules.toInt = (rules.toUInt64.toNat : Int).bmod 18446744073709551616 :=
    rules.toBitVec.toInt_eq_toNat_bmod
  have hmod := Int.bmod_emod (x := (rules.toUInt64.toNat : Int)) (m := 18446744073709551616)
  omega

theorem mask_eq {rules rules' : UInt64}
    (h : (rules.toNat : Int) % 4294967296 = rules'.toNat % 4294967296) :
    rules.toUInt32 = rules'.toUInt32 := by
  have hlow := toNat_mask rules
  have hlow' := toNat_mask rules'
  apply UInt32.toNat_inj.mp
  omega

theorem signedMask_eq {rules rules' : Int64}
    (h : rules.toInt % 4294967296 = rules'.toInt % 4294967296) :
    rules.toUInt64.toUInt32 = rules'.toUInt64.toUInt32 := by
  apply mask_eq
  rw [toNat_signedMask, toNat_signedMask, h]

theorem key_eq {uid : Int32} {key : UInt32} (h : (key.toNat : Int) = uid.toInt % 4294967296) :
    uid.toUInt32 = key := by
  have hkey := Bytes.toNat_toUInt32 uid
  apply UInt32.toNat_inj.mp
  omega

theorem key_injective {uid uid' : Int32} (h : uid.toUInt32 = uid'.toUInt32) : uid = uid' := by
  cases uid
  cases uid'
  exact congrArg Int32.ofUInt32 h

theorem operation_of_uid? {c : HostCall} {uid : Int32} (h : c.uid? = some uid) :
    ∃ path rules, c.operation = .clearRules path uid.toUInt32 rules := by
  cases c with
  | openMap path => cases h
  | clearRules path uid rules => cases h
  | clearForHost path uid rules =>
    obtain rfl := Option.some.inj h
    exact ⟨path, _, rfl⟩
  | answerHost path uid rules =>
    obtain rfl := Option.some.inj h
    exact ⟨path, _, rfl⟩
  | request r path =>
    obtain rfl := Option.some.inj h
    exact ⟨_, _, rfl⟩

end HostCall

theorem Course.uid?_of_mem_exchanges {c : Course} {d : Option Int32} {path : MapPath}
    {uid mask : UInt32} (h : c.Possible d path mask) {x : Exchange}
    (hx : x ∈ c.exchanges path uid mask) {key : UInt32} (hkey : x.call.uid? = some key) :
    key = uid := by
  obtain ⟨opens, lookups, writes, hsplit, -, -, -, -, hopens, hlookups, hwrites⟩ :=
    c.exchanges_split h uid
  rw [hsplit, List.mem_append, List.mem_append] at hx
  rcases hx with (hx | hx) | hx
  · rw [hopens x hx] at hkey
    cases hkey
  · obtain ⟨fd, hcall⟩ := hlookups x hx
    rw [hcall] at hkey
    exact (Option.some.inj hkey).symm
  · obtain ⟨fd, hcall | ⟨entry, hcall⟩⟩ := hwrites x hx
    · rw [hcall] at hkey
      exact (Option.some.inj hkey).symm
    · rw [hcall] at hkey
      exact (Option.some.inj hkey).symm

namespace Bridge

theorem clearRules_congr {rules rules' : UInt64} (h : rules.toUInt32 = rules'.toUInt32)
    (b : Bridge σ) (g : Gateway σ) (path : MapPath) (uid : UInt32) :
    b.clearRules g path uid rules = b.clearRules g path uid rules' := by
  rw [clearRules, clearRules, h]

theorem turn_clearRules_congr {rules rules' : UInt64} (h : rules.toUInt32 = rules'.toUInt32)
    (b : Bridge σ) (g : Gateway σ) (path : MapPath) (uid : UInt32) :
    b.turn g (.clearRules path uid rules) = b.turn g (.clearRules path uid rules') := by
  simp only [turn, handle, clearRules_congr h]

theorem turn_congr {c c' : HostCall} (h : c.maskless = c'.maskless)
    (hrules : c.rules % 4294967296 = c'.rules % 4294967296) (b : Bridge σ) (g : Gateway σ) :
    b.turn g c = b.turn g c' := by
  cases c with
  | openMap path =>
    cases c' with
    | openMap path' => exact congrArg (b.turn g) h
    | _ => cases h
  | clearRules path uid rules =>
    cases c' with
    | clearRules path' uid' rules' =>
      cases h
      exact turn_clearRules_congr (HostCall.mask_eq hrules) b g path uid
    | _ => cases h
  | clearForHost path uid rules =>
    cases c' with
    | clearForHost path' uid' rules' =>
      cases h
      exact turn_clearRules_congr (HostCall.signedMask_eq hrules) b g path uid.toUInt32
    | _ => cases h
  | answerHost path uid rules =>
    cases c' with
    | answerHost path' uid' rules' =>
      cases h
      simp only [turn, handle, answerHost, clearForHost,
        clearRules_congr (HostCall.signedMask_eq hrules)]
    | _ => cases h
  | request r path =>
    cases c' with
    | request r' path' =>
      obtain ⟨uid, rules, own⟩ := r
      obtain ⟨uid', rules', own'⟩ := r'
      cases h
      exact turn_clearRules_congr (HostCall.mask_eq hrules) b g (own.getD path) uid.toUInt32
    | _ => cases h

theorem turn_request (b : Bridge σ) (g : Gateway σ) (r : Request) (path : MapPath) :
    b.turn g (.request r path) =
      b.turn g (.clearRules (r.mapPath.getD path) r.uid.toUInt32 r.rules) := rfl

theorem turn_clearForHost {uid : Int32} {rules : Int64} {key : UInt32} {mask : UInt64}
    (hkey : (key.toNat : Int) = uid.toInt % 4294967296)
    (hmask : (mask.toNat : Int) % 4294967296 = rules.toInt % 4294967296) (b : Bridge σ)
    (g : Gateway σ) (path : MapPath) :
    b.turn g (.clearForHost path uid rules) = b.turn g (.clearRules path key mask) := by
  obtain rfl := HostCall.key_eq hkey
  have hlow : rules.toUInt64.toUInt32 = mask.toUInt32 := by
    apply HostCall.mask_eq
    rw [HostCall.toNat_signedMask, hmask]
  exact turn_clearRules_congr hlow b g path uid.toUInt32

theorem uid?_of_mem_turn {c : HostCall} {uid : Int32} (h : c.uid? = some uid) {b : Bridge σ}
    {g : Gateway σ} {x : Exchange} (hx : x ∈ (b.turn g c).exchanges) {key : UInt32}
    (hkey : x.call.uid? = some key) : key = uid.toUInt32 := by
  obtain ⟨path, rules, hop⟩ := c.operation_of_uid? h
  obtain ⟨course, k, hp, -, -, hcourse⟩ := b.clearRules_course g path uid.toUInt32 rules
  rw [exchanges_turn, hop, hcourse] at hx
  exact course.uid?_of_mem_exchanges hp hx hkey

end Bridge

namespace Session

theorem config_step (g : Gateway (Observed κ)) (s : Session κ) (t : Step) :
    (s.step g t).2.config = s.config := by
  cases t with
  | request json path =>
    simp only [step, runRequest]
    split <;> rfl
  | execute json =>
    simp only [step, runRequest]
    split <;> rfl
  | startLogging format =>
    simp only [step, startLogging]
    split <;> rfl
  | _ => rfl

theorem config_finish (g : Gateway (Observed κ)) (s : Session κ) (steps : List Step) :
    (s.finish g steps).config = s.config := by
  induction steps generalizing s with
  | nil => rfl
  | cons t steps ih =>
    rw [finish_cons, ih, config_step]
    rfl

theorem execute_of_ok {json : String} {r : Request} (hr : Request.ofJson json = .ok r)
    {rules : Int64} (hrules : (r.rules.toNat : Int) % 4294967296 = rules.toInt % 4294967296)
    (g : Gateway (Observed κ)) (s : Session κ) :
    s.step g (.execute json) =
      s.step g (.answerHost (r.mapPath.getD s.config.mapPath) r.uid rules) := by
  have hlow : r.rules.toUInt32 = rules.toUInt64.toUInt32 := by
    apply HostCall.mask_eq
    rw [HostCall.toNat_signedMask, hrules]
  simp only [step, runRequest_of_ok hr, Request.runOn, Bridge.answerHost, Bridge.clearForHost,
    Bridge.clearRules_congr hlow]
  rfl

end Session

theorem entrances_agree (g : Gateway σ) (b : Bridge σ) (h : Gateway (Observed κ))
    (s : Session κ) :
    (∀ path other uid rules (key : UInt32) (mask : UInt64),
      (key.toNat : Int) = uid.toInt % 4294967296 →
      (mask.toNat : Int) % 4294967296 = rules.toInt % 4294967296 →
      b.turn g (.clearForHost path uid rules) = b.turn g (.clearRules path key mask) ∧
      b.turn g (.request ⟨uid, mask, some path⟩ other) = b.turn g (.clearRules path key mask)) ∧
    (∀ c c' : HostCall, c.maskless = c'.maskless →
      c.rules % 4294967296 = c'.rules % 4294967296 → b.turn g c = b.turn g c') ∧
    (∀ (c c' : HostCall) uid uid', c.uid? = some uid → c'.uid? = some uid' → uid ≠ uid' →
      ∀ b' : Bridge σ, ∀ x ∈ (b.turn g c).exchanges, ∀ y ∈ (b'.turn g c').exchanges, ∀ key,
        x.call.uid? = some key → y.call.uid? ≠ some key) ∧
    (∀ json r (rules : Int64), Request.ofJson json = .ok r →
      (r.rules.toNat : Int) % 4294967296 = rules.toInt % 4294967296 →
      s.step h (.execute json) =
        s.step h (.answerHost (r.mapPath.getD s.config.mapPath) r.uid rules)) ∧
    (∀ entries e steps,
      ((Session.startGlobal entries e).finish h steps).config = Config.ofEnvironment e) ∧
    ∀ json f, Request.ofJson json = .error f →
      s.step h (.execute json) = (.badJson f, s) ∧
      ∀ path, s.step h (.request json path) = (.badJson f, s) := by
  refine ⟨?_, ?_, ?_, ?_, ?_, ?_⟩
  · intro path other uid rules key mask hkey hmask
    obtain rfl := HostCall.key_eq hkey
    have hsigned := Bridge.turn_clearForHost hkey hmask b g path
    exact ⟨hsigned, b.turn_request g ⟨uid, mask, some path⟩ other⟩
  · intro c c' hc hrules
    exact Bridge.turn_congr hc hrules b g
  · intro c c' uid uid' hc hc' hne b' x hx y hy key hkey hkey'
    have hx : key = uid.toUInt32 := Bridge.uid?_of_mem_turn hc hx hkey
    have hy : key = uid'.toUInt32 := Bridge.uid?_of_mem_turn hc' hy hkey'
    exact hne (HostCall.key_injective (hx.symm.trans hy))
  · intro json r rules hr hrules
    exact Session.execute_of_ok hr hrules h s
  · intro entries e steps
    exact Session.config_finish h _ steps
  · intro json f hf
    refine ⟨Session.runRequest_of_error hf s h _ _ _, ?_⟩
    intro path
    exact Session.runRequest_of_error hf s h path _ _

theorem entrances_agree_on_negative_mask :
    let entries : List (UInt32 × Entry) := [(4294967295, ⟨3, 5⟩)]
    let b := Bridge.start (SimulatedKernel.ofEntries entries) true
    let s : Session Exchange := Session.start entries true
    let signed := b.turn SimulatedKernel.gateway (.clearForHost ⟨[47]⟩ (-1) (-4294967292))
    signed = b.turn SimulatedKernel.gateway (.clearRules ⟨[47]⟩ 4294967295 4294967300) ∧
      signed.after.kernel.map.toList = [(4294967295, ⟨3, 1⟩)] ∧
      s.step Session.typedGateway
          (.execute "\x7b\"uid\":-1,\"rules\":4294967300\x7d") =
        s.step Session.typedGateway (.answerHost .default (-1) (-4294967292)) := by
  intro entries b s signed
  obtain ⟨hturn, -, -, hexecute, -⟩ :=
    entrances_agree SimulatedKernel.gateway b Session.typedGateway s
  have hjson : (Request.ofJson "\x7b\"uid\":-1,\"rules\":4294967300\x7d").toOption =
      some ⟨-1, 4294967300, none⟩ := by decide +kernel
  have hsigned := (hturn ⟨[47]⟩ ⟨[]⟩ (-1) (-4294967292) 4294967295 4294967300 (by decide)
    (by decide)).1
  refine ⟨hsigned, by decide, ?_⟩
  cases hr : Request.ofJson "\x7b\"uid\":-1,\"rules\":4294967300\x7d" with
  | error f =>
    rw [hr] at hjson
    cases hjson
  | ok r =>
    rw [hr] at hjson
    obtain rfl := Option.some.inj hjson
    exact hexecute _ _ (-4294967292) hr (by decide)

end OwnerRules

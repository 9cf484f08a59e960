import Mathlib.Data.List.Basic
import OwnerRules.Bridge
import OwnerRules.Simulation.Kernel

namespace OwnerRules

open Kernel

namespace Text

def IsControl (c : Char) : Prop := c.toNat < 0x20 ∨ 0x7F ≤ c.toNat ∧ c.toNat ≤ 0x9F

instance (c : Char) : Decidable (IsControl c) := inferInstanceAs (Decidable (_ ∨ _))

theorem not_isControl_of_all {s : List Char} (h : s.all fun c => ¬ IsControl c) :
    ∀ c ∈ s, ¬ IsControl c :=
  fun c hc => of_decide_eq_true (List.all_eq_true.mp h c hc)

theorem isHidden_of_isControl {c : Char} (h : IsControl c) : isHidden c := by
  rcases h with h | h
  · exact isHidden_of_lt_space h
  · have hrun : (0x7F, 0xA0) ∈ hiddenBasic := List.mem_cons_self
    have hlarge : ¬ c.toNat < 0x7F := by omega
    have hbasic : c.toNat < 0x10000 := by omega
    rw [isHidden, if_neg hlarge, if_pos hbasic]
    exact List.any_eq_true.mpr ⟨_, hrun, by simp; omega⟩

theorem not_isControl_of_le {c : Char} (hlow : '0' ≤ c) (hhigh : c ≤ 'f') : ¬ IsControl c := by
  have hlow : 48 ≤ c.toNat := UInt32.le_iff_toNat_le.mp (Char.le_def.mp hlow)
  have hhigh : c.toNat ≤ 102 := UInt32.le_iff_toNat_le.mp (Char.le_def.mp hhigh)
  rintro (h | h) <;> omega

theorem not_isControl_of_hexValue? {c : Char} {v : Nat} (h : hexValue? c = some v) :
    ¬ IsControl c := by
  unfold hexValue? at h
  split at h
  · next hc => exact not_isControl_of_le hc.1 (Char.le_trans hc.2 (by decide))
  split at h
  · next hc => exact not_isControl_of_le (Char.le_trans (by decide) hc.1) hc.2
  split at h
  · next hc =>
    exact not_isControl_of_le (Char.le_trans (by decide) hc.1) (Char.le_trans hc.2 (by decide))
  · cases h

namespace Quoted

def letters : List (Char × Char) :=
  [('0', '\x00'), ('t', '\t'), ('n', '\n'), ('r', '\r'), ('"', '"'), ('\\', '\\')]

/-- How a text can stand between quotes. -/
inductive Shown : List Char → List Char → Prop
  | nil : Shown [] []
  | plain {c : Char} {body s : List Char} : ¬ IsControl c → c ≠ '"' → c ≠ '\\' → Shown body s →
      Shown (c :: body) (c :: s)
  | letter {e c : Char} {body s : List Char} : (e, c) ∈ letters → Shown body s →
      Shown ('\\' :: e :: body) (c :: s)
  | number {ds : List Char} {c : Char} {body s : List Char} : ds ≠ [] →
      ofHex? 0 ds = some c.toNat → Shown body s →
      Shown ('\\' :: 'u' :: '{' :: (ds ++ '}' :: body)) (c :: s)

theorem ne_of_mem_letters {e c : Char} (h : (e, c) ∈ letters) : e ≠ 'u' := by
  have hletters : ∀ p ∈ letters, p.1 ≠ 'u' := by decide
  exact hletters _ h

theorem shown_escape {c : Char} {body s : List Char} (h : Shown body s) :
    Shown (escape c ++ body) (c :: s) := by
  unfold escape
  split
  iterate 6 exact .letter (by decide) h
  next hquote hbackslash =>
    split
    · have hdigits : hex c.toNat ≠ [] := Nat.toDigits_ne_nil
      simpa using Shown.number hdigits (ofHex?_hex c.toNat) h
    · next hc =>
      refine .plain (fun hcontrol => hc (isHidden_of_isControl hcontrol)) ?_ ?_ h
      · exact fun he => hquote he
      · exact fun he => hbackslash he

theorem shown_encode (s : List Char) : Shown (encode s) s := by
  induction s with
  | nil => exact .nil
  | cons c s ih =>
    rw [encode, List.flatMap_cons]
    exact shown_escape ih

theorem decode_of_shown {body s : List Char} (h : Shown body s) : decode body = some s := by
  unfold decode
  induction h with
  | nil => rfl
  | plain hc hquote hbackslash h ih =>
    rw [decodeFrom]
    · simp [hquote, hbackslash, ih]
    · rintro _ rfl
      exact absurd rfl hbackslash
    · rintro _ _ rfl
      exact absurd rfl hbackslash
  | letter he h ih =>
    have hletters : ∀ p ∈ letters, plainEscape? p.1 = some p.2 := by decide
    rw [decodeFrom, hletters _ he, ih]
    · rfl
    · rintro _ rfl
      exact absurd rfl (ne_of_mem_letters he)
  | @number ds c body s hds hnumber h ih =>
    rw [decodeFrom, decodeFrom_digits body hnumber, ih, Char.ofNat_toNat, Option.map_some]

theorem not_isControl_of_shown {body s : List Char} (h : Shown body s) :
    ∀ c ∈ body, ¬ IsControl c := by
  induction h with
  | nil => exact fun c hc => absurd hc List.not_mem_nil
  | plain hc _ _ _ ih => exact List.forall_mem_cons.mpr ⟨hc, ih⟩
  | letter he _ ih =>
    have hletters : ∀ p ∈ letters, ¬ IsControl p.1 := by decide
    exact List.forall_mem_cons.mpr ⟨by decide, List.forall_mem_cons.mpr ⟨hletters _ he, ih⟩⟩
  | @number ds c body s hds hnumber _ ih =>
    have hdigits : ∀ d ∈ ds, ¬ IsControl d := by
      intro d hd
      obtain ⟨v, hv⟩ := hexValue?_of_mem hnumber d hd
      exact not_isControl_of_hexValue? hv
    simp only [List.forall_mem_cons, List.forall_mem_append]
    exact ⟨by decide, by decide, by decide, hdigits, by decide, ih⟩

theorem takeWhile_digits {ds : List Char} {n m : Nat} (h : ofHex? n ds = some m) (r : List Char) :
    (ds ++ '}' :: r).takeWhile (· ≠ '}') = ds := by
  rw [List.takeWhile_append_of_pos]
  · simp
  · intro d hd
    obtain ⟨v, hv⟩ := hexValue?_of_mem h d hd
    exact decide_eq_true (hexValue?_ne_brace hv)

theorem append_quote_inj {body s : List Char} (h : Shown body s) {body' s' r r' : List Char}
    (h' : Shown body' s') (heq : body ++ '"' :: r = body' ++ '"' :: r') :
    body = body' ∧ r = r' := by
  -- Two forms that go on in different ways already differ in the first or the second character.
  induction h generalizing body' s' with
  | nil =>
    cases h' with
    | nil => exact ⟨rfl, (List.cons.inj heq).2⟩
    | plain _ hquote _ _ => exact absurd (List.cons.inj heq).1.symm hquote
    | letter _ _ => cases heq
    | number _ _ _ => cases heq
  | @plain c body s hc hquote hbackslash _ ih =>
    cases h' with
    | nil => exact absurd (List.cons.inj heq).1 hquote
    | plain _ _ _ h' =>
      obtain ⟨rfl, hrest⟩ := List.cons.inj heq
      obtain ⟨rfl, rfl⟩ := ih h' hrest
      exact ⟨rfl, rfl⟩
    | letter _ _ => exact absurd (List.cons.inj heq).1 hbackslash
    | number _ _ _ => exact absurd (List.cons.inj heq).1 hbackslash
  | @letter e c body s he _ ih =>
    cases h' with
    | nil => cases heq
    | plain _ _ hbackslash _ => exact absurd (List.cons.inj heq).1.symm hbackslash
    | letter _ h' =>
      obtain ⟨rfl, hrest⟩ := List.cons.inj (List.cons.inj heq).2
      obtain ⟨rfl, rfl⟩ := ih h' hrest
      exact ⟨rfl, rfl⟩
    | number _ _ _ =>
      obtain ⟨rfl, -⟩ := List.cons.inj (List.cons.inj heq).2
      exact absurd rfl (ne_of_mem_letters he)
  | @number ds c body s _ hnumber _ ih =>
    cases h' with
    | nil => cases heq
    | plain _ _ hbackslash _ => exact absurd (List.cons.inj heq).1.symm hbackslash
    | letter he _ =>
      obtain ⟨rfl, -⟩ := List.cons.inj (List.cons.inj heq).2
      exact absurd rfl (ne_of_mem_letters he)
    | @number ds' c' body' s' _ hnumber' h' =>
      simp only [List.cons_append, List.append_assoc, List.cons.injEq, true_and] at heq
      have hdigits := congrArg (List.takeWhile (· ≠ '}')) heq
      rw [takeWhile_digits hnumber, takeWhile_digits hnumber'] at hdigits
      subst hdigits
      obtain ⟨rfl, rfl⟩ := ih h' (List.cons.inj (List.append_cancel_left heq)).2
      exact ⟨rfl, rfl⟩

end Quoted

end Text

namespace Failure

open Text

variable (s t : String)

theorem message_invalidPath :
    (invalidPath s).message =
      "invalid map path \"" ++ String.ofList (Quoted.encode s.toList) ++ "\"" := by
  have hmessage : (invalidPath s).message =
      "invalid map path " ++ String.ofList (Quoted.quote s.toList) := rfl
  have hopen : "invalid map path \"".toList = "invalid map path ".toList ++ ['"'] := by decide
  have hclose : "\"".toList = ['"'] := by decide
  rw [hmessage]
  apply String.toList_injective
  simp only [Quoted.quote, String.toList_append, String.toList_ofList, hopen, hclose,
    List.append_assoc, List.cons_append, List.nil_append]

variable {s t}

theorem message_invalidPath_inj (h : (invalidPath t).message = (invalidPath s).message) :
    t = s := by
  rw [message_invalidPath, message_invalidPath] at h
  have hlists := congrArg String.toList h
  simp only [String.toList_append, String.toList_ofList] at hlists
  have hbody := List.append_cancel_left (List.append_cancel_right hlists)
  have hdecoded := congrArg Quoted.decode hbody
  rw [Quoted.decode_encode, Quoted.decode_encode] at hdecoded
  exact String.toList_injective (Option.some.inj hdecoded)

theorem not_isControl_message : ∀ c ∈ (invalidPath s).message.toList, ¬ IsControl c := by
  have hbody := Quoted.not_isControl_of_shown (Quoted.shown_encode s.toList)
  rw [message_invalidPath]
  simp only [String.toList_append, String.toList_ofList, List.forall_mem_append]
  exact ⟨⟨not_isControl_of_all (by decide), hbody⟩, not_isControl_of_all (by decide)⟩

end Failure

namespace Bridge

variable {σ : Type}

theorem ensureOpen_of_hasNul (g : Gateway σ) {b : Bridge σ} {path : MapPath}
    (hempty : b.descriptor = none) (hnul : path.hasNul) :
    b.ensureOpen g path = (.error (.invalidPath path.lossyText), b) := by
  rw [ensureOpen, hempty]
  exact if_pos hnul

theorem message_of_nul_path (g : Gateway σ) {b : Bridge σ} {path : MapPath}
    (hempty : b.descriptor = none) (hnul : 0 ∈ path.bytes) :
    ∃ s body,
      let f := Failure.invalidPath s
      b.ensureOpen g path = (.error f, b) ∧
      s = path.lossyText ∧
      (∀ t, path = .ofString t → s = t) ∧
      f.message = "invalid map path \"" ++ String.ofList body ++ "\"" ∧
      (∀ c ∈ f.message.toList, ¬ Text.IsControl c) ∧
      Text.Quoted.Shown body s.toList ∧
      (∀ body' t r r', Text.Quoted.Shown body' t → body' ++ '"' :: r' = body ++ '"' :: r →
        body' = body ∧ r' = r ∧ t = s.toList) ∧
      Text.Quoted.decode body = some s.toList ∧
      (∀ t, (Failure.invalidPath t).message = f.message → t = s) ∧
      f.operation = "BPF_OBJ_GET" ∧ f.errno = .EINVAL ∧ f.code = 22 ∧
      f.report = ⟨"BPF_OBJ_GET", 22⟩ := by
  have hshown := Text.Quoted.shown_encode path.lossyText.toList
  refine ⟨path.lossyText, Text.Quoted.encode path.lossyText.toList,
    ensureOpen_of_hasNul g hempty (List.contains_iff_mem.mpr hnul), rfl, ?_,
    Failure.message_invalidPath _, Failure.not_isControl_message, hshown, ?_,
    Text.Quoted.decode_encode _, fun t => Failure.message_invalidPath_inj, rfl, rfl, rfl, rfl⟩
  · rintro t rfl
    exact MapPath.lossyText_ofString t
  · intro body' t r r' h' heq
    obtain ⟨rfl, rfl⟩ := Text.Quoted.append_quote_inj h' hshown heq
    have hdecoded := Text.Quoted.decode_of_shown h'
    rw [Text.Quoted.decode_encode] at hdecoded
    exact ⟨rfl, rfl, (Option.some.inj hdecoded).symm⟩

theorem message_of_unprintable_path :
    let b := start (SimulatedKernel.ofEntries []) true
    let path : MapPath := ⟨[47, 0, 10, 34, 127, 255]⟩
    b.descriptor = none ∧ 0 ∈ path.bytes ∧ ∃ s,
      b.ensureOpen SimulatedKernel.gateway path = (.error (.invalidPath s), b) ∧
      s = "/\x00\n\"\x7f\uFFFD" ∧
      (Failure.invalidPath s).message =
        "invalid map path \"/\\0\\n\\\"\\u\x7b7f\x7d\uFFFD\"" ∧
      ∀ t, (Failure.invalidPath t).message = (Failure.invalidPath s).message → t = s := by
  intro b path
  have hnul : 0 ∈ path.bytes := by decide
  obtain ⟨s, body, hopen, hs, -, -, -, -, -, -, hinj, -⟩ :=
    message_of_nul_path SimulatedKernel.gateway (b := b) rfl hnul
  have htext : s = "/\x00\n\"\x7f\uFFFD" := hs.trans (by decide +kernel)
  refine ⟨rfl, hnul, s, hopen, htext, ?_, hinj⟩
  rw [htext]
  decide +kernel

end Bridge

end OwnerRules

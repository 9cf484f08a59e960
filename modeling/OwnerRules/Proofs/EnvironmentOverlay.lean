import Mathlib.Data.List.TakeWhile
import OwnerRules.Proofs.WrittenRecords

namespace OwnerRules

namespace Text

theorem toNat_toLower (c : Char) :
    c.toLower.toNat = if 65 ≤ c.toNat ∧ c.toNat ≤ 90 then c.toNat + 32 else c.toNat := by
  have hcapital : (c.val ≥ 'A'.val ∧ c.val ≤ 'Z'.val) ↔ 65 ≤ c.toNat ∧ c.toNat ≤ 90 :=
    and_congr UInt32.le_iff_toNat_le UInt32.le_iff_toNat_le
  unfold Char.toLower
  split
  · next h =>
    have hsum : (c.val + ('a'.val - 'A'.val)).toNat = (c.toNat + 32) % 4294967296 :=
      UInt32.toNat_add _ _
    rw [if_pos (hcapital.mp h)]
    have hbound := (hcapital.mp h).2
    rw [Nat.mod_eq_of_lt (by omega)] at hsum
    exact hsum
  · next h => rw [if_neg (mt hcapital.mpr h)]

theorem toLower_toLower (c : Char) : c.toLower.toLower = c.toLower := by
  have h : c.toLower.toLower.toNat = c.toLower.toNat := by
    rw [toNat_toLower c.toLower, toNat_toLower c]
    split
    · rw [if_neg (by omega)]
    · rfl
  exact Char.toNat_inj.mp h

theorem isBlank_toLower (c : Char) : isBlank c.toLower = isBlank c := by
  rw [Bool.eq_iff_iff]
  simp only [isBlank, toNat_toLower, Bool.or_eq_true, Bool.and_eq_true, decide_eq_true_eq,
    beq_iff_eq]
  split <;> omega

theorem trim_append {pre post : List Char} (hpre : ∀ c ∈ pre, isBlank c)
    (hpost : ∀ c ∈ post, isBlank c) (s : List Char) : trim (pre ++ s ++ post) = trim s := by
  have hnil : post.dropWhile isBlank = [] := List.dropWhile_eq_nil_iff.mpr hpost
  rw [trim, List.append_assoc, List.dropWhile_append_of_pos hpre, List.dropWhile_append]
  split
  · next h =>
    rw [hnil, trim, List.isEmpty_iff.mp h]
  · rw [List.reverse_append, List.dropWhile_append_of_pos, trim]
    exact fun c hc => hpost c (List.mem_reverse.mp hc)

theorem exists_trim (s : List Char) :
    ∃ pre post, s = pre ++ trim s ++ post ∧ (∀ c ∈ pre, isBlank c) ∧ ∀ c ∈ post, isBlank c := by
  refine ⟨s.takeWhile isBlank, ((s.dropWhile isBlank).reverse.takeWhile isBlank).reverse, ?_,
    fun c hc => List.mem_takeWhile_imp hc,
    fun c hc => List.mem_takeWhile_imp (List.mem_reverse.mp hc)⟩
  rw [trim, List.append_assoc, ← List.reverse_append, List.takeWhile_append_dropWhile,
    List.reverse_reverse, List.takeWhile_append_dropWhile]

theorem mem_trim {s : List Char} {c : Char} (hc : c ∈ s) (hblank : ¬ isBlank c) : c ∈ trim s := by
  obtain ⟨pre, post, hs, hpre, hpost⟩ := exists_trim s
  rw [hs] at hc
  rcases List.mem_append.mp hc with hc | hc
  · rcases List.mem_append.mp hc with hc | hc
    · exact absurd (hpre c hc) hblank
    · exact hc
  · exact absurd (hpost c hc) hblank

theorem mem_trim_of_between {l r : List Char} {a a' : Char} (ha : a ∈ l) (hl : ¬ isBlank a)
    (ha' : a' ∈ r) (hr : ¬ isBlank a') (c : Char) : c ∈ trim (l ++ c :: r) := by
  have hkept : ∀ {l : List Char} {a : Char}, a ∈ l → ¬ isBlank a → ∀ t,
      (l ++ t).dropWhile isBlank = l.dropWhile isBlank ++ t := by
    intro l a ha hl t
    rw [List.dropWhile_append, if_neg]
    rw [List.isEmpty_iff, List.dropWhile_eq_nil_iff]
    exact fun h => hl (h a ha)
  rw [trim, hkept ha hl, List.reverse_append, List.reverse_cons, List.append_assoc,
    hkept (List.mem_reverse.mpr ha') hr]
  simp

theorem trim_map_toLower (s : List Char) :
    trim (s.map Char.toLower) = (trim s).map Char.toLower := by
  have hblank : isBlank ∘ Char.toLower = isBlank := funext isBlank_toLower
  simp only [trim, List.dropWhile_map, hblank, ← List.map_reverse]

/-- The property White_Space, by its code points. -/
def IsSpace (c : Char) : Prop :=
  c.toNat ∈ [0x9, 0xA, 0xB, 0xC, 0xD, 0x20, 0x85, 0xA0, 0x1680, 0x2000, 0x2001, 0x2002, 0x2003,
    0x2004, 0x2005, 0x2006, 0x2007, 0x2008, 0x2009, 0x200A, 0x2028, 0x2029, 0x202F, 0x205F, 0x3000]

theorem isSpace_iff {c : Char} : IsSpace c ↔ isBlank c = true := by
  simp only [IsSpace, isBlank, List.mem_cons, List.not_mem_nil, or_false, Bool.or_eq_true,
    Bool.and_eq_true, decide_eq_true_eq, beq_iff_eq]
  omega

def IsVariant (word s : List Char) : Prop :=
  ∃ pre body post, s = pre ++ body ++ post ∧ (∀ c ∈ pre, IsSpace c) ∧ (∀ c ∈ post, IsSpace c) ∧
    body.map Char.toLower = word.map Char.toLower

/-- A character outside ASCII, or a gap between two others. -/
inductive Broken : List Char → Prop
  | foreign {s : List Char} {c : Char} : c ∈ s → ¬ IsSpace c → 0x80 ≤ c.toNat → Broken s
  | gap {l r : List Char} {c a a' : Char} : IsSpace c → a ∈ l → ¬ IsSpace a → a' ∈ r →
      ¬ IsSpace a' → Broken (l ++ c :: r)

end Text

namespace Config

open Text

theorem normalize_of_isVariant {word s : String} (h : IsVariant word.toList s.toList) :
    normalize s = normalize word := by
  obtain ⟨pre, body, post, hs, hpre, hpost, hbody⟩ := h
  rw [normalize, normalize, hs, trim_append (fun c hc => isSpace_iff.mp (hpre c hc))
    (fun c hc => isSpace_iff.mp (hpost c hc)), ← trim_map_toLower, hbody, trim_map_toLower]

theorem isVariant_normalize (s : String) : IsVariant (normalize s).toList s.toList := by
  obtain ⟨pre, post, hs, hpre, hpost⟩ := exists_trim s.toList
  refine ⟨pre, trim s.toList, post, hs, fun c hc => isSpace_iff.mpr (hpre c hc),
    fun c hc => isSpace_iff.mpr (hpost c hc), ?_⟩
  rw [normalize, String.toList_ofList, List.map_map]
  exact List.map_congr_left fun c _ => (toLower_toLower c).symm

def switchWords : Bool → List String
  | true => ["1", "true", "yes", "on"]
  | false => ["0", "false", "no", "off"]

def formatWords : LogFormat → List String
  | .pretty => ["pretty", "text"]
  | .json => ["json"]

def Means {α : Type} (words : α → List String) (s : String) (a : α) : Prop :=
  ∃ w ∈ words a, IsVariant w.toList s.toList

structure Lexicon {α : Type} (words : α → List String) (values : List α) : Prop where
  complete : ∀ a, a ∈ values
  normal : ∀ a ∈ values, ∀ w ∈ words a, normalize w = w
  plain : ∀ a ∈ values, ∀ w ∈ words a, w.toList.all fun c => c.toNat < 0x80 ∧ ¬ isBlank c
  disjoint : ∀ a ∈ values, ∀ b ∈ values, ∀ w ∈ words a, w ∈ words b → a = b

theorem lexicon_switchWords : Lexicon switchWords [true, false] where
  complete := by decide
  normal := by decide
  plain := by decide
  disjoint := by decide

theorem lexicon_formatWords : Lexicon formatWords [.pretty, .json] where
  complete a := by cases a <;> decide
  normal := by decide
  plain := by decide
  disjoint := by decide

namespace Lexicon

variable {α : Type} {words : α → List String} {values : List α} (h : Lexicon words values)
include h

theorem means_iff {s : String} {a : α} : Means words s a ↔ normalize s ∈ words a := by
  have ha := h.complete a
  constructor
  · rintro ⟨w, hw, hs⟩
    rw [normalize_of_isVariant hs, h.normal a ha w hw]
    exact hw
  · intro hs
    exact ⟨normalize s, hs, isVariant_normalize s⟩

theorem find?_eq_some_iff {s : String} {a : α} :
    values.find? (fun a => normalize s ∈ words a) = some a ↔ Means words s a := by
  rw [h.means_iff]
  constructor
  · intro hfind
    simpa using List.find?_some hfind
  · intro hs
    cases hfind : values.find? (fun a => normalize s ∈ words a) with
    | none => exact absurd (by simpa using hs) (List.find?_eq_none.mp hfind a (h.complete a))
    | some b =>
      have hb : normalize s ∈ words b := by simpa using List.find?_some hfind
      rw [h.disjoint b (h.complete b) a (h.complete a) _ hb hs]

theorem not_means_of_broken {s : String} (hs : Broken s.toList) (a : α) : ¬ Means words s a := by
  rw [h.means_iff]
  intro hmem
  have hplain := h.plain a (h.complete a) _ hmem
  have hlower : ∀ c ∈ trim s.toList, c.toLower.toNat < 0x80 ∧ ¬ isBlank c := by
    intro c hc
    have hword : c.toLower ∈ (normalize s).toList := by
      rw [normalize, String.toList_ofList]
      exact List.mem_map_of_mem hc
    rw [← isBlank_toLower c]
    exact of_decide_eq_true (List.all_eq_true.mp hplain _ hword)
  generalize s.toList = cs at hs hlower
  cases hs with
  | foreign hc hspace hforeign =>
    have hsmall := (hlower _ (mem_trim hc (mt isSpace_iff.mpr hspace))).1
    rw [toNat_toLower] at hsmall
    split at hsmall <;> omega
  | @gap l r c a a' hc ha hl ha' hr =>
    have hmem : c ∈ trim (l ++ c :: r) :=
      mem_trim_of_between ha (mt isSpace_iff.mpr hl) ha' (mt isSpace_iff.mpr hr) c
    exact (hlower _ hmem).2 (isSpace_iff.mp hc)

end Lexicon

theorem switch?_eq_find? (s : String) :
    switch? s = [true, false].find? fun b => normalize s ∈ switchWords b := by
  grind [switch?, switchWords]

theorem format?_eq_find? (s : String) :
    format? s = [.pretty, .json].find? fun f => normalize s ∈ formatWords f := by
  grind [format?, formatWords]

theorem switch?_eq_some_iff {s : String} {b : Bool} :
    switch? s = some b ↔ Means switchWords s b := by
  rw [switch?_eq_find?]
  exact lexicon_switchWords.find?_eq_some_iff

theorem format?_eq_some_iff {s : String} {f : LogFormat} :
    format? s = some f ↔ Means formatWords s f := by
  rw [format?_eq_find?]
  exact lexicon_formatWords.find?_eq_some_iff

def Names (s : String) (p : MapPath) : Prop := s ≠ "" ∧ p = .ofString s

end Config

namespace Environment

variable {α : Type} {e e' : Environment} {name : String}

def Sets (e : Environment) (name s : String) : Prop :=
  e.entries.lookup name = some (Text.Utf8.encode s.toList)

def unset (e : Environment) (name : String) : Environment :=
  ⟨e.entries.filter (·.1 ≠ name)⟩

theorem get?_eq_some_iff {s : String} : e.get? name = some s ↔ e.Sets name s := by
  simp only [get?, Sets, Option.map_eq_some_iff, Option.bind_eq_some_iff,
    Text.Utf8.decode?_eq_some_iff]
  constructor
  · rintro ⟨cs, ⟨bs, hbs, rfl⟩, rfl⟩
    rw [String.toList_ofList]
    exact hbs
  · intro h
    exact ⟨s.toList, ⟨_, h, rfl⟩, String.ofList_toList⟩

theorem get?_congr (h : e.entries.lookup name = e'.entries.lookup name) :
    e.get? name = e'.get? name := by
  rw [get?, get?, h]

theorem lookup_unset_self (e : Environment) (name : String) :
    (e.unset name).entries.lookup name = none := by
  apply List.lookup_eq_none_iff.mpr
  intro p hp
  have hne := of_decide_eq_true (List.mem_filter.mp hp).2
  exact bne_iff_ne.mpr (Ne.symm hne)

theorem lookup_unset_of_ne (e : Environment) {other : String} (h : other ≠ name) :
    (e.unset name).entries.lookup other = e.entries.lookup other := by
  obtain ⟨entries⟩ := e
  dsimp only [unset]
  induction entries with
  | nil => rfl
  | cons p ps ih =>
    rw [List.filter_cons]
    split
    · rw [List.lookup_cons, List.lookup_cons, ih]
    · next hp =>
      have heq : p.1 = name := by simpa using hp
      have hother : (other == p.1) = false := beq_eq_false_iff_ne.mpr (heq ▸ h)
      rw [ih, List.lookup_cons, hother]

def IsMute (e : Environment) (name : String) (Means : String → α → Prop) : Prop :=
  ∀ s a, e.Sets name s → ¬ Means s a

theorem isMute_unset (e : Environment) (name : String) (Means : String → α → Prop) :
    (e.unset name).IsMute name Means := by
  intro s a hs
  rw [Sets, lookup_unset_self] at hs
  cases hs

/-- How a variable sets a field: by a value that stands for one, and else not at all. -/
structure Overlays (e : Environment) (name : String) (Means : String → α → Prop)
    (fallback a : α) : Prop where
  of_means : ∀ s b, e.Sets name s → Means s b → a = b
  of_isMute : e.IsMute name Means → a = fallback

theorem overlays {parse? : String → Option α} {Means : String → α → Prop}
    (h : ∀ s a, parse? s = some a ↔ Means s a) (e : Environment) (name : String) (fallback : α) :
    e.Overlays name Means fallback (((e.get? name).bind parse?).getD fallback) where
  of_means s b hs hb := by
    rw [get?_eq_some_iff.mpr hs, Option.bind_some, (h s b).mpr hb, Option.getD_some]
  of_isMute hmute := by
    have hbind : (e.get? name).bind parse? = none := by
      rw [Option.eq_none_iff_forall_ne_some]
      intro a ha
      obtain ⟨s, hs, ha⟩ := Option.bind_eq_some_iff.mp ha
      exact hmute s a (get?_eq_some_iff.mp hs) ((h s a).mp ha)
    rw [hbind, Option.getD_none]

theorem Overlays.eq_of_isMute {Means : String → α → Prop} {fallback a a' : α}
    (h : e.Overlays name Means fallback a) (h' : (e.unset name).Overlays name Means fallback a')
    (hmute : e.IsMute name Means) : a' = a :=
  (h'.of_isMute (e.isMute_unset name Means)).trans (h.of_isMute hmute).symm

structure Spells (e : Environment) (c : Config) : Prop where
  mapPath : e.entries.lookup "UID_OWNER_MAP_PATH" = some c.mapPath.bytes
  serializes : ∃ s, e.Sets "UID_OWNER_SERIALIZE" s ∧
    Config.Means Config.switchWords s c.serializeMutations
  logFormat : ∃ s, e.Sets "UID_OWNER_LOG_FORMAT" s ∧
    Config.Means Config.formatWords s c.logFormat

end Environment

namespace Config

open Text

def toEnvironment (c : Config) : Environment :=
  ⟨[(mapPathVariable, c.mapPath.bytes),
    (serializeVariable, Utf8.encode (toString c.serializeMutations).toList),
    (logFormatVariable, Utf8.encode c.logFormat.name.toList)]⟩

theorem means_of_mem {α : Type} {words : α → List String} {w : String} {a : α} (h : w ∈ words a) :
    Means words w a :=
  ⟨w, h, [], w.toList, [], by simp, by simp, by simp, rfl⟩

theorem spells_toEnvironment (c : Config) : c.toEnvironment.Spells c where
  mapPath := rfl
  serializes := by
    refine ⟨toString c.serializeMutations, rfl, means_of_mem ?_⟩
    cases c.serializeMutations <;> decide
  logFormat := by
    refine ⟨c.logFormat.name, rfl, means_of_mem ?_⟩
    cases c.logFormat <;> decide

theorem eq_of_fields {c c' : Config} (hpath : c.mapPath = c'.mapPath)
    (hserializes : c.serializeMutations = c'.serializeMutations)
    (hformat : c.logFormat = c'.logFormat) : c = c' := by
  cases c
  cases c'
  cases hpath
  cases hserializes
  cases hformat
  rfl

section Overlay

variable (e : Environment)

theorem overlays_mapPath :
    e.Overlays mapPathVariable Names default.mapPath (ofEnvironment e).mapPath := by
  have hparse : ∀ s p, (Option.guard (· ≠ "") s).map MapPath.ofString = some p ↔ Names s p := by
    intro s p
    by_cases hs : s = "" <;> simp [Option.guard, Names, hs, eq_comm]
  have hvalue : ((e.get? mapPathVariable).filter (· ≠ "")).map MapPath.ofString =
      (e.get? mapPathVariable).bind fun s => (Option.guard (· ≠ "") s).map MapPath.ofString := by
    cases e.get? mapPathVariable <;> rfl
  simp only [ofEnvironment, ofLookup, hvalue]
  exact e.overlays hparse mapPathVariable default.mapPath

theorem overlays_serializeMutations :
    e.Overlays serializeVariable (Means switchWords) true (ofEnvironment e).serializeMutations :=
  e.overlays (fun _ _ => switch?_eq_some_iff) serializeVariable true

theorem overlays_logFormat :
    e.Overlays logFormatVariable (Means formatWords) .pretty (ofEnvironment e).logFormat :=
  e.overlays (fun _ _ => format?_eq_some_iff) logFormatVariable .pretty

variable {e} {e' : Environment} {s t : String}

theorem mapPath_congr (h : e.entries.lookup mapPathVariable = e'.entries.lookup mapPathVariable) :
    (ofEnvironment e).mapPath = (ofEnvironment e').mapPath := by
  simp only [ofEnvironment, ofLookup, Environment.get?_congr h]

theorem serializeMutations_congr
    (h : e.entries.lookup serializeVariable = e'.entries.lookup serializeVariable) :
    (ofEnvironment e).serializeMutations = (ofEnvironment e').serializeMutations := by
  simp only [ofEnvironment, ofLookup, Environment.get?_congr h]

theorem logFormat_congr
    (h : e.entries.lookup logFormatVariable = e'.entries.lookup logFormatVariable) :
    (ofEnvironment e).logFormat = (ofEnvironment e').logFormat := by
  simp only [ofEnvironment, ofLookup, Environment.get?_congr h]

theorem serializeMutations_of_isVariant (h : IsVariant s.toList t.toList)
    (hs : e.Sets serializeVariable s) (ht : e'.Sets serializeVariable t) :
    (ofEnvironment e).serializeMutations = (ofEnvironment e').serializeMutations := by
  simp only [ofEnvironment, ofLookup, Environment.get?_eq_some_iff.mpr hs,
    Environment.get?_eq_some_iff.mpr ht, Option.bind_some, switch?, normalize_of_isVariant h]

theorem logFormat_of_isVariant (h : IsVariant s.toList t.toList)
    (hs : e.Sets logFormatVariable s) (ht : e'.Sets logFormatVariable t) :
    (ofEnvironment e).logFormat = (ofEnvironment e').logFormat := by
  simp only [ofEnvironment, ofLookup, Environment.get?_eq_some_iff.mpr hs,
    Environment.get?_eq_some_iff.mpr ht, Option.bind_some, format?, normalize_of_isVariant h]

theorem unset_mapPath (h : e.IsMute mapPathVariable Names) :
    ofEnvironment (e.unset mapPathVariable) = ofEnvironment e := by
  apply eq_of_fields
  · exact (overlays_mapPath e).eq_of_isMute (overlays_mapPath _) h
  · exact serializeMutations_congr (e.lookup_unset_of_ne (by decide))
  · exact logFormat_congr (e.lookup_unset_of_ne (by decide))

theorem unset_serializeMutations (h : e.IsMute serializeVariable (Means switchWords)) :
    ofEnvironment (e.unset serializeVariable) = ofEnvironment e := by
  apply eq_of_fields
  · exact mapPath_congr (e.lookup_unset_of_ne (by decide))
  · exact (overlays_serializeMutations e).eq_of_isMute (overlays_serializeMutations _) h
  · exact logFormat_congr (e.lookup_unset_of_ne (by decide))

theorem unset_logFormat (h : e.IsMute logFormatVariable (Means formatWords)) :
    ofEnvironment (e.unset logFormatVariable) = ofEnvironment e := by
  apply eq_of_fields
  · exact mapPath_congr (e.lookup_unset_of_ne (by decide))
  · exact serializeMutations_congr (e.lookup_unset_of_ne (by decide))
  · exact (overlays_logFormat e).eq_of_isMute (overlays_logFormat _) h

theorem Lexicon.isMute_of_broken {α : Type} {words : α → List String} {values : List α}
    (hwords : Lexicon words values) {name : String} (hs : e.Sets name s) (h : Broken s.toList) :
    e.IsMute name (Means words) := by
  intro t a ht
  have heq : s = t := by
    rw [← Environment.get?_eq_some_iff] at hs ht
    rw [hs] at ht
    exact Option.some.inj ht
  exact hwords.not_means_of_broken (heq ▸ h) a

theorem ofEnvironment_of_spells {c : Config} (htext : c.mapPath.IsText)
    (hne : c.mapPath.bytes ≠ []) (h : e.Spells c) : ofEnvironment e = c := by
  obtain ⟨s, hpath⟩ := htext
  obtain ⟨switch, hswitch, hb⟩ := h.serializes
  obtain ⟨format, hformat, hf⟩ := h.logFormat
  have hs : e.Sets mapPathVariable s := by
    have hlookup := h.mapPath
    rw [hpath] at hlookup
    exact hlookup
  have hnames : Names s c.mapPath := by
    refine ⟨?_, hpath⟩
    rintro rfl
    exact hne (by rw [hpath]; rfl)
  apply eq_of_fields
  · exact (overlays_mapPath e).of_means s _ hs hnames
  · exact (overlays_serializeMutations e).of_means switch _ hswitch hb
  · exact (overlays_logFormat e).of_means format _ hformat hf

end Overlay

theorem config_of_environment :
    (∀ e : Environment,
      e.Overlays "UID_OWNER_MAP_PATH" Names
        (.ofString "/sys/fs/bpf/netd_shared/map_netd_uid_owner_map") (ofEnvironment e).mapPath ∧
      e.Overlays "UID_OWNER_SERIALIZE" (Means switchWords) true
        (ofEnvironment e).serializeMutations ∧
      e.Overlays "UID_OWNER_LOG_FORMAT" (Means formatWords) .pretty (ofEnvironment e).logFormat) ∧
    (∀ e e' : Environment,
      (e.entries.lookup "UID_OWNER_MAP_PATH" = e'.entries.lookup "UID_OWNER_MAP_PATH" →
        (ofEnvironment e).mapPath = (ofEnvironment e').mapPath) ∧
      (e.entries.lookup "UID_OWNER_SERIALIZE" = e'.entries.lookup "UID_OWNER_SERIALIZE" →
        (ofEnvironment e).serializeMutations = (ofEnvironment e').serializeMutations) ∧
      (e.entries.lookup "UID_OWNER_LOG_FORMAT" = e'.entries.lookup "UID_OWNER_LOG_FORMAT" →
        (ofEnvironment e).logFormat = (ofEnvironment e').logFormat)) ∧
    (∀ (e e' : Environment) (s t : String), IsVariant s.toList t.toList →
      (e.Sets "UID_OWNER_SERIALIZE" s → e'.Sets "UID_OWNER_SERIALIZE" t →
        (ofEnvironment e).serializeMutations = (ofEnvironment e').serializeMutations) ∧
      (e.Sets "UID_OWNER_LOG_FORMAT" s → e'.Sets "UID_OWNER_LOG_FORMAT" t →
        (ofEnvironment e).logFormat = (ofEnvironment e').logFormat)) ∧
    (∀ (e : Environment) (s : String), Broken s.toList →
      (e.Sets "UID_OWNER_SERIALIZE" s →
        ofEnvironment (e.unset "UID_OWNER_SERIALIZE") = ofEnvironment e) ∧
      (e.Sets "UID_OWNER_LOG_FORMAT" s →
        ofEnvironment (e.unset "UID_OWNER_LOG_FORMAT") = ofEnvironment e)) ∧
    (∀ e : Environment,
      (e.IsMute "UID_OWNER_MAP_PATH" Names →
        ofEnvironment (e.unset "UID_OWNER_MAP_PATH") = ofEnvironment e) ∧
      (e.IsMute "UID_OWNER_SERIALIZE" (Means switchWords) →
        ofEnvironment (e.unset "UID_OWNER_SERIALIZE") = ofEnvironment e) ∧
      (e.IsMute "UID_OWNER_LOG_FORMAT" (Means formatWords) →
        ofEnvironment (e.unset "UID_OWNER_LOG_FORMAT") = ofEnvironment e)) ∧
    (∀ c : Config, c.toEnvironment.Spells c) ∧
    ∀ (c : Config) (e : Environment), c.mapPath.IsText → c.mapPath.bytes ≠ [] → e.Spells c →
      ofEnvironment e = c ∧ ∃ text, c.toJson = .ok text ∧ ofJson text = .ok (ofEnvironment e) := by
  refine ⟨fun e => ⟨overlays_mapPath e, overlays_serializeMutations e, overlays_logFormat e⟩,
    fun e e' => ⟨mapPath_congr, serializeMutations_congr, logFormat_congr⟩,
    fun e e' s t h => ⟨serializeMutations_of_isVariant h, logFormat_of_isVariant h⟩, ?_,
    fun e => ⟨unset_mapPath, unset_serializeMutations, unset_logFormat⟩, spells_toEnvironment, ?_⟩
  · intro e s h
    exact ⟨fun hs => unset_serializeMutations (lexicon_switchWords.isMute_of_broken hs h),
      fun hs => unset_logFormat (lexicon_formatWords.isMute_of_broken hs h)⟩
  · intro c e htext hne hspells
    obtain ⟨text, hwrite, hread⟩ := roundTrips.read_of_writable c htext
    have hc := ofEnvironment_of_spells htext hne hspells
    exact ⟨hc, text, hwrite, hc.symm ▸ hread⟩

example :
    ofEnvironment ⟨[(serializeVariable, Utf8.encode " oFF\u2003".toList),
      (logFormatVariable, Utf8.encode "j son".toList), (mapPathVariable, [0x20, 0x2F])]⟩ =
      ⟨⟨[0x20, 0x2F]⟩, false, .pretty⟩ := by
  decide +kernel

end Config

end OwnerRules

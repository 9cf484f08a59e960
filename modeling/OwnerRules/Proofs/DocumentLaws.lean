import OwnerRules.Config
import OwnerRules.Request
import OwnerRules.Proofs.RecordDocument
/-!
Documents that are read alike. Main statement: spacing, spelling, the order of members, unknown
members and fields given their defaults make no difference to requests and configurations.
-/
namespace OwnerRules

namespace Json

open Shape (listed)

variable {ρ α : Type}

/-- What makes a difference to the record that is read from a document, and what makes none. -/
structure DocumentLaws (read : String → Except Error α) (fields : List String)
    (defaults : List (String × Value)) : Prop where
  document : ∀ text a, read text = .ok a → ∃ v, Document v text
  respelled : ∀ v text text', Document v text → Document v text' →
    ∀ a, read text = .ok a ↔ read text' = .ok a
  rearranged : ∀ ms ms' others text text', ms'.Perm (others ++ ms) →
    (∀ m ∈ others, ∃ key, m.1 = some key ∧ key ∉ fields) →
    Document (.object ms) text → Document (.object ms') text' →
    ∀ a, read text = .ok a ↔ read text' = .ok a
  listed : ∀ vs text text', vs.length ≤ fields.length →
    Document (.list vs) text → Document (.object (listed fields vs)) text' →
    ∀ a, read text = .ok a ↔ read text' = .ok a
  defaulted : ∀ name v, (name, v) ∈ defaults → ∀ ms text text', (∀ m ∈ ms, m.1 ≠ some name) →
    Document (.object ms) text → Document (.object ((some name, v) :: ms)) text' →
    ∀ a, read text = .ok a ↔ read text' = .ok a
  repeated : ∀ name ∈ fields, ∀ ms text, 2 ≤ (named name ms).length →
    Document (.object ms) text → ∃ e, read text = .error e
  overlong : ∀ vs text, fields.length < vs.length → Document (.list vs) text →
    ∃ e, read text = .error e
  scalar : ∀ v text, (∀ ms, v ≠ .object ms) → (∀ vs, v ≠ .list vs) → Document v text →
    ∃ e, read text = .error e

theorem exists_error {x : Except Error α} (h : ∀ a, ¬ x = .ok a) : ∃ e, x = .error e := by
  cases x with
  | error e => exact ⟨e, rfl⟩
  | ok a => exact absurd rfl (h a)

section Members

variable {ms ms' : List (Option String × Value)}

theorem named_perm (h : ms.Perm ms') (name : String) : (named name ms).Perm (named name ms') :=
  (h.filter _).map _

theorem named_append (name : String) (ms ms' : List (Option String × Value)) :
    named name (ms ++ ms') = named name ms ++ named name ms' := by
  simp [named]

theorem named_eq_nil {name : String} (h : ∀ m ∈ ms, m.1 ≠ some name) : named name ms = [] := by
  simpa [named] using h

end Members

namespace Slot

variable {t : Slot ρ α} {a : α} {vs vs' : List Value}

theorem not_holds_of_two_le (h : 2 ≤ vs.length) : ¬ t.Holds a none vs := by
  match vs, h with
  | v :: w :: vs, _ => simp [holds_cons_iff]

theorem holds_perm (h : vs.Perm vs') : t.Holds a none vs ↔ t.Holds a none vs' := by
  by_cases htwo : 2 ≤ vs.length
  · exact iff_of_false (not_holds_of_two_le htwo) (not_holds_of_two_le (h.length_eq ▸ htwo))
  · match vs, htwo with
    | [], _ => rw [h.nil_eq]
    | [v], _ => rw [h.singleton_eq]
    | v :: w :: vs, htwo => exact absurd (Nat.le_add_left 2 vs.length) htwo

theorem holds_default {c : t.Content} (hdefault : t.default? = some c) {v : Value}
    (hv : ∀ c', t.Means v c' ↔ c' = c) : t.Holds a none [v] ↔ t.Holds a none [] := by
  rw [holds_cons_iff, hv]
  simp [Holds, hdefault, eq_comm]

end Slot

namespace Shape

variable {s : Shape ρ α} {slots : List (Slot ρ α)}

theorem says_object_perm {ms ms' others : List (Option String × Value)} {a : α}
    (hperm : ms'.Perm (others ++ ms))
    (hothers : ∀ m ∈ others, ∃ key, m.1 = some key ∧ key ∉ slots.map Slot.name) :
    Says slots a (.object ms) ↔ Says slots a (.object ms') := by
  have hkeys : (∀ m ∈ ms, m.1 ≠ none) ↔ ∀ m ∈ ms', m.1 ≠ none := by
    have hsome : ∀ m ∈ others, m.1 ≠ none := by
      intro m hm
      obtain ⟨key, hkey, -⟩ := hothers m hm
      simp [hkey]
    simp only [hperm.mem_iff, List.forall_mem_append]
    exact (and_iff_right hsome).symm
  have hnamed : ∀ t ∈ slots, (named t.name ms).Perm (named t.name ms') := by
    intro t ht
    have hnone : named t.name others = [] := by
      refine named_eq_nil fun m hm hname => ?_
      obtain ⟨key, hkey, hnot⟩ := hothers m hm
      rw [hkey] at hname
      cases hname
      exact hnot (List.mem_map_of_mem ht)
    have h := named_perm hperm t.name
    rw [named_append, hnone, List.nil_append] at h
    exact h.symm
  refine and_congr hkeys (forall_congr' fun t => forall_congr' fun ht => ?_)
  exact Slot.holds_perm (hnamed t ht)

theorem Laid.says_object_default (h : s.Laid slots) {name : String} {v : Value}
    (hd : ∃ t ∈ slots, t.name = name ∧ ∃ c, t.default? = some c ∧ ∀ c', t.Means v c' ↔ c' = c)
    {ms : List (Option String × Value)} (hnone : ∀ m ∈ ms, m.1 ≠ some name) (a : α) :
    Says slots a (.object ms) ↔ Says slots a (.object ((some name, v) :: ms)) := by
  obtain ⟨t₀, ht₀, rfl, c, hdefault, hc⟩ := hd
  have hkeys : (∀ m ∈ ms, m.1 ≠ none) ↔ ∀ m ∈ (some t₀.name, v) :: ms, m.1 ≠ none := by
    simp
  refine and_congr hkeys (forall_congr' fun t => forall_congr' fun ht => ?_)
  by_cases hname : t₀.name = t.name
  · obtain rfl := h.eq_of_name ht₀ ht hname
    rw [named_cons_self, named_eq_nil hnone]
    exact (Slot.holds_default hdefault hc).symm
  · rw [named_cons_of_ne]
    simpa using hname

theorem Laid.documentLaws (h : s.Laid slots) {defaults : List (String × Value)}
    (hdefaults : ∀ d ∈ defaults, ∃ t ∈ slots, t.name = d.1 ∧ ∃ c, t.default? = some c ∧
      ∀ c', t.Means d.2 c' ↔ c' = c) :
    DocumentLaws s.ofText (slots.map Slot.name) defaults where
  document text a hread := h.exists_document hread
  respelled v text text' hv hv' a := by rw [h.ofText_iff hv, h.ofText_iff hv']
  rearranged ms ms' others text text' hperm hothers hms hms' a := by
    rw [h.ofText_iff hms, h.ofText_iff hms', says_object_perm hperm hothers]
  listed vs text text' hlength hvs hms a := by
    rw [List.length_map] at hlength
    rw [h.ofText_iff hvs, h.ofText_iff hms]
    exact (and_iff_right hlength).trans (and_iff_right key_of_mem_listed).symm
  defaulted name v hd ms text text' hnone hms hms' a := by
    rw [h.ofText_iff hms, h.ofText_iff hms']
    exact h.says_object_default (hdefaults _ hd) hnone a
  repeated name hname ms text htwo hms := by
    obtain ⟨t, ht, rfl⟩ := List.mem_map.mp hname
    refine exists_error fun a hread => ?_
    have hmeans := (h.ofText_iff hms a).mp hread
    exact Slot.not_holds_of_two_le htwo (hmeans.2 t ht)
  overlong vs text hlength hvs := by
    refine exists_error fun a hread => ?_
    have hmeans := (h.ofText_iff hvs a).mp hread
    rw [List.length_map] at hlength
    exact absurd hmeans.1 (Nat.not_le_of_lt hlength)
  scalar v text hobject hlist hv := by
    refine exists_error fun a hread => ?_
    have hmeans := (h.ofText_iff hv a).mp hread
    cases v with
    | object ms => exact hobject ms rfl
    | list vs => exact hlist vs rfl
    | _ => exact hmeans

end Shape

end Json

open Json

theorem Json.IntegerLiteral.eq_of_whole {w : List Char} {i : Int} (h : IntegerLiteral w i)
    (hw : Whole w) : i = Nat.ofDigitChars 10 w 0 := by
  cases h with
  | positive _ => rfl
  | negative _ _ => exact absurd (hw.isDigit '-' (List.mem_cons_self ..)) (by decide)

namespace Request

def uidSlot : Slot Partial Request where
  name := "uid"
  Content := Int32
  get := Partial.uid
  set p i := { p with uid := some i }
  read := readInt32
  shrinks := shrinks_readInt32
  Means := _
  reads := reads_readInt32
  content := Request.uid
  default? := none

def rulesSlot : Slot Partial Request where
  name := "rules"
  Content := UInt64
  get := Partial.rules
  set p n := { p with rules := some n }
  read := readUInt64
  shrinks := shrinks_readUInt64
  Means := _
  reads := reads_readUInt64
  content := Request.rules
  default? := some defaultRules

def mapPathSlot : Slot Partial Request where
  name := "map_path"
  Content := Option MapPath
  get := Partial.mapPath
  set p m := { p with mapPath := some m }
  read := readNullable readPath
  shrinks := shrinks_readPath.nullable
  Means := _
  reads := reads_readPath.nullable
  content := Request.mapPath
  default? := some none

def slots : List (Slot Partial Request) := [uidSlot, rulesSlot, mapPathSlot]

theorem laid : shape.Laid slots where
  fields_eq := rfl
  names_nodup := by decide
  get_set := by simp [slots, uidSlot, rulesSlot, mapPathSlot]
  get_set_of_ne := by simp [slots, uidSlot, rulesSlot, mapPathSlot]
  get_start := by
    simp only [slots, List.forall_mem_cons]
    exact ⟨rfl, rfl, rfl, List.forall_mem_nil _⟩
  finish_iff missing p a := by
    obtain ⟨uid, rules, mapPath⟩ := p
    obtain ⟨i, n, m⟩ := a
    cases uid <;> cases rules <;> cases mapPath <;>
      simp [slots, shape, uidSlot, rulesSlot, mapPathSlot]

theorem documentLaws :
    DocumentLaws ofJson ["uid", "rules", "map_path"]
      [("rules", .number ['1', '2', '8']), ("map_path", .null)] := by
  have hwhole : Whole ['1', '2', '8'] := .digits rfl (by decide) (by simp)
  refine laid.documentLaws fun d hd => ?_
  simp only [List.mem_cons, List.not_mem_nil, or_false] at hd
  rcases hd with rfl | rfl
  · refine ⟨rulesSlot, by simp [slots], rfl, defaultRules, rfl, fun n => ⟨?_, ?_⟩⟩
    · rintro ⟨l, hl, hn⟩
      cases hl
      have hvalue := hn.eq_of_whole hwhole
      exact UInt64.toNat_inj.mp (Int.ofNat_inj.mp hvalue)
    · rintro rfl
      exact ⟨_, rfl, .positive hwhole⟩
  · refine ⟨mapPathSlot, by simp [slots], rfl, none, rfl, fun m => ?_⟩
    cases m <;> simp [mapPathSlot, Nullable]

theorem says_uid {l : List Char} {r : Request} :
    Shape.Says slots r (.object [(some "uid", .number l)]) ↔
      IntegerLiteral l r.uid.toInt ∧ r.rules = defaultRules ∧ r.mapPath = none := by
  constructor
  · rintro ⟨-, h⟩
    simp only [slots, List.forall_mem_cons] at h
    obtain ⟨⟨l', hl', hi⟩, hrules, hpath, -⟩ := h
    cases hl'
    exact ⟨hi, (Option.some.inj hrules).symm, (Option.some.inj hpath).symm⟩
  · rintro ⟨hi, hrules, hpath⟩
    refine ⟨by simp, ?_⟩
    simp only [slots, List.forall_mem_cons]
    exact ⟨⟨l, rfl, hi⟩, congrArg some hrules.symm, congrArg some hpath.symm,
      List.forall_mem_nil _⟩

theorem ofJson_uid {i : Int32} {l : List Char} {text : String} (hl : IntegerLiteral l i.toInt)
    (h : Document (.object [(some "uid", .number l)]) text) : ofJson text = .ok (ofUid i) :=
  (laid.ofText_iff h _).mpr (says_uid.mpr ⟨hl, rfl, rfl⟩)

theorem error_of_no_uid {ms : List (Option String × Value)} {text : String}
    (hnone : ∀ m ∈ ms, m.1 ≠ some "uid") (h : Document (.object ms) text) :
    ∃ e, ofJson text = .error e := by
  refine exists_error fun r hread => ?_
  have hmeans := (laid.ofText_iff h r).mp hread
  have huid := hmeans.2 uidSlot (List.mem_cons_self ..)
  have hnamed : named uidSlot.name ms = [] := named_eq_nil hnone
  rw [hnamed] at huid
  cases huid

theorem error_of_no_element {text : String} (h : Document (.list []) text) :
    ∃ e, ofJson text = .error e := by
  refine exists_error fun r hread => ?_
  have hmeans := (laid.ofText_iff h r).mp hread
  cases hmeans.2 uidSlot (List.mem_cons_self ..)

end Request

namespace Config

def mapPathSlot : Slot Partial Config where
  name := "map_path"
  Content := MapPath
  get := Partial.mapPath
  set p m := { p with mapPath := some m }
  read := readPath
  shrinks := shrinks_readPath
  Means := _
  reads := reads_readPath
  content := Config.mapPath
  default? := some default.mapPath

def serializeSlot : Slot Partial Config where
  name := "serialize_mutations"
  Content := Bool
  get := Partial.serializeMutations
  set p b := { p with serializeMutations := some b }
  read := readBool
  shrinks := shrinks_readBool
  Means := _
  reads := reads_readBool
  content := Config.serializeMutations
  default? := some default.serializeMutations

def logFormatSlot : Slot Partial Config where
  name := "log_format"
  Content := LogFormat
  get := Partial.logFormat
  set p f := { p with logFormat := some f }
  read := readVariant LogFormat.ofName? "`pretty` or `json`"
  shrinks := shrinks_readVariant _ _
  Means := _
  reads := reads_readVariant _ _
  content := Config.logFormat
  default? := some default.logFormat

def slots : List (Slot Partial Config) := [mapPathSlot, serializeSlot, logFormatSlot]

theorem laid : shape.Laid slots where
  fields_eq := rfl
  names_nodup := by decide
  get_set := by simp [slots, mapPathSlot, serializeSlot, logFormatSlot]
  get_set_of_ne := by simp [slots, mapPathSlot, serializeSlot, logFormatSlot]
  get_start := by
    simp only [slots, List.forall_mem_cons]
    exact ⟨rfl, rfl, rfl, List.forall_mem_nil _⟩
  finish_iff missing p a := by
    obtain ⟨path, serializes, format⟩ := p
    obtain ⟨m, b, f⟩ := a
    cases path <;> cases serializes <;> cases format <;>
      simp [slots, shape, mapPathSlot, serializeSlot, logFormatSlot]

theorem documentLaws :
    DocumentLaws ofJson ["map_path", "serialize_mutations", "log_format"]
      [("map_path", .text (some "/sys/fs/bpf/netd_shared/map_netd_uid_owner_map")),
        ("serialize_mutations", .bool true), ("log_format", .text (some "pretty")),
        ("log_format", .object [(some "pretty", .null)])] := by
  have hpretty : LogFormat.ofName? "pretty" = some default.logFormat := rfl
  refine laid.documentLaws fun d hd => ?_
  simp only [List.mem_cons, List.not_mem_nil, or_false] at hd
  rcases hd with rfl | rfl | rfl | rfl
  · refine ⟨mapPathSlot, by simp [slots], rfl, default.mapPath, rfl, fun m => ?_⟩
    simp [mapPathSlot, default, MapPath.default]
    exact eq_comm
  · refine ⟨serializeSlot, by simp [slots], rfl, true, rfl, fun (b : Bool) => ?_⟩
    simp [serializeSlot]
  · refine ⟨logFormatSlot, by simp [slots], rfl, default.logFormat, rfl, fun (f : LogFormat) => ?_⟩
    simp [logFormatSlot, VariantMeans, hpretty]
    exact eq_comm
  · refine ⟨logFormatSlot, by simp [slots], rfl, default.logFormat, rfl, fun (f : LogFormat) => ?_⟩
    simp [logFormatSlot, VariantMeans, hpretty]
    exact eq_comm

theorem ofJson_no_members {text : String} (h : Document (.object []) text) :
    ofJson text = .ok default := by
  refine (laid.ofText_iff h _).mpr ⟨List.forall_mem_nil _, ?_⟩
  simp only [slots, List.forall_mem_cons]
  exact ⟨rfl, rfl, rfl, List.forall_mem_nil _⟩

end Config

theorem documents_read_alike :
    DocumentLaws Request.ofJson ["uid", "rules", "map_path"]
      [("rules", .number ['1', '2', '8']), ("map_path", .null)] ∧
    DocumentLaws Config.ofJson ["map_path", "serialize_mutations", "log_format"]
      [("map_path", .text (some "/sys/fs/bpf/netd_shared/map_netd_uid_owner_map")),
        ("serialize_mutations", .bool true), ("log_format", .text (some "pretty")),
        ("log_format", .object [(some "pretty", .null)])] ∧
    (∀ ms text, (∀ m ∈ ms, m.1 ≠ some "uid") → Document (.object ms) text →
      ∃ e, Request.ofJson text = .error e) ∧
    (∀ text, Document (.list []) text → ∃ e, Request.ofJson text = .error e) ∧
    (∀ i l text, IntegerLiteral l (Int32.toInt i) →
      Document (.object [(some "uid", .number l)]) text →
      Request.ofJson text = .ok (.ofUid i)) ∧
    ∀ text, Document (.object []) text → Config.ofJson text = .ok .default :=
  ⟨Request.documentLaws, Config.documentLaws, fun _ _ => Request.error_of_no_uid,
    fun _ => Request.error_of_no_element, fun _ _ _ => Request.ofJson_uid,
    fun _ => Config.ofJson_no_members⟩

theorem documents_read_alike_rearranged :
    ∃ ms ms' : List (Option String × Value),
      Document (.object ms) "\x7b\"uid\":7\x7d" ∧
      Document (.object ms') "\x7b \"x\":[null],\"\\u0075id\" : 7\x7d" ∧
      ms'.Perm ([(some "x", .list [.null])] ++ ms) ∧
      Request.ofJson "\x7b\"uid\":7\x7d" = .ok (.ofUid 7) ∧
      Request.ofJson "\x7b \"x\":[null],\"\\u0075id\" : 7\x7d" = .ok (.ofUid 7) := by
  have hblank : Blanks [' '] := List.forall_mem_singleton.mpr rfl
  have hseven : IntegerLiteral ['7'] 7 :=
    .positive (.digits rfl (by decide) (List.forall_mem_nil _))
  have hnumber : Writes (.value (.number ['7'])) ['7'] := .number hseven.numeral
  have huid : Literal ['"', 'u', 'i', 'd', '"'] (some "uid") := Literal.of_writeText "uid"
  have hplain : Document (.object [(some "uid", .number ['7'])]) "\x7b\"uid\":7\x7d" :=
    (Writes.object (.oneMember (.member blanks_nil huid blanks_nil hnumber.bare))).bare
  have hunit : IsUnit ['0', '0', '7', '5'] 0x75 := ⟨rfl, rfl⟩
  have hid : Spells true ['i', 'd'] ['i', 'd'] :=
    .plain (by decide) (by decide) (by decide) (.plain (by decide) (by decide) (by decide) .nil)
  have hspells : Spells true ['\\', 'u', '0', '0', '7', '5', 'i', 'd'] ['u', 'i', 'd'] :=
    Spells.escape (Escape.unit hunit (by decide)) hid
  have hescaped : Literal ['"', '\\', 'u', '0', '0', '7', '5', 'i', 'd', '"'] (some "uid") :=
    Literal.paired (s := "uid") hspells
  have hx : Literal ['"', 'x', '"'] (some "x") := Literal.of_writeText "x"
  have hlist : Writes (.value (.list [.null])) ['[', 'n', 'u', 'l', 'l', ']'] :=
    .list (.oneElement Writes.null.bare)
  have hrearranged : Document (.object [(some "x", .list [.null]), (some "uid", .number ['7'])])
      "\x7b \"x\":[null],\"\\u0075id\" : 7\x7d" :=
    (Writes.object (.moreMembers (.member hblank hx blanks_nil hlist.bare)
      (.oneMember (.member blanks_nil hescaped hblank
        (.element hblank hnumber blanks_nil))))).bare
  have hread : Request.ofJson "\x7b\"uid\":7\x7d" = .ok (.ofUid 7) :=
    documents_read_alike.2.2.2.2.1 7 ['7'] _ hseven hplain
  have hother : ∀ m ∈ [(some "x", Value.list [.null])],
      ∃ key, m.1 = some key ∧ key ∉ ["uid", "rules", "map_path"] := by
    simp
  exact ⟨_, _, hplain, hrearranged, .refl _, hread,
    (documents_read_alike.1.rearranged _ _ _ _ _ (.refl _) hother hplain hrearranged _).mp hread⟩

end OwnerRules

import OwnerRules.Config
import OwnerRules.FailureReport
import OwnerRules.Request
import OwnerRules.Proofs.WellFormedText
import OwnerRules.Proofs.WrittenValues

namespace OwnerRules

namespace Json

variable {ρ α : Type}

def membersText (first : Bool) : List (String × List Char) → List Char
  | [] => []
  | m :: ms => (if first then [] else [',']) ++ writeMember m ++ membersText false ms

theorem writeObject_eq (ms : List (String × List Char)) :
    writeObject ms = '{' :: (membersText true ms ++ ['}']) := by
  have htext : ∀ ms, [','].intercalate (ms.map writeMember) = membersText true ms := by
    intro ms
    induction ms with
    | nil => rfl
    | cons m ms ih =>
      cases ms with
      | nil => simp [membersText, List.intercalate]
      | cons m' ms =>
        rw [List.map_cons, List.map_cons, List.intercalate_cons_cons, ← List.map_cons, ih]
        simp [membersText]
  rw [writeObject, htext, List.cons_append]

theorem closing_membersText (ms : List (String × List Char)) (rest : List Char) :
    Closing (membersText false ms ++ '}' :: rest) := by
  cases ms with
  | nil => exact .brace rest
  | cons m ms => exact .comma _

theorem nextKey_membersText (first : Bool) (m : String × List Char)
    (ms : List (String × List Char)) (rest : List Char) :
    nextKey first (membersText first (m :: ms) ++ rest) =
      .ok (true, m.1.toList.flatMap writeChar ++
        '"' :: ':' :: (m.2 ++ (membersText false ms ++ rest))) := by
  cases first <;> simp [membersText, writeMember, writeText, nextKey, skipBlanks, isBlank]

namespace Shape

variable {s : Shape ρ α}

inductive Fills (s : Shape ρ α) : ρ → List (String × List Char) → ρ → Prop
  | nil (p : ρ) : s.Fills p [] p
  | cons {p q r : ρ} {name : String} {text : List Char} {ms : List (String × List Char)}
      (f : Field ρ) (hfind : s.fields.find? (fun f => f.name = name) = some f)
      (hgiven : f.given p = false) (htakes : (f.read p).Takes text q) (hrest : s.Fills q ms r) :
      s.Fills p ((name, text) :: ms) r

theorem Fills.value {β : Type} {p q : ρ} {name name' : String} {get : ρ → Option β}
    {set : ρ → β → ρ} {read : Reader β} {shrinks : read.Shrinks} {text : List Char} {b : β}
    {ms : List (String × List Char)}
    (hfind : s.fields.find? (fun f => f.name = name) = some (.of name' get set read shrinks))
    (hgiven : (get p).isSome = false) (htakes : read.Takes text b)
    (hrest : s.Fills (set p b) ms q) : s.Fills p ((name, text) :: ms) q :=
  .cons _ hfind hgiven (htakes.map (set p)) hrest

theorem readMembers_membersText {p q : ρ} {ms : List (String × List Char)} (h : s.Fills p ms q)
    (first : Bool) (rest : List Char) :
    s.readMembers first p (membersText first ms ++ '}' :: rest) = .ok (q, rest) := by
  induction h generalizing first with
  | nil p =>
    rw [readMembers_eq]
    cases first <;> rfl
  | @cons p q r name text ms f hfind hgiven htakes hrest ih =>
    have hmember : s.readMember p (name.toList.flatMap writeChar ++
        '"' :: ':' :: (text ++ (membersText false ms ++ '}' :: rest))) =
        .ok (q, membersText false ms ++ '}' :: rest) := by
      -- What follows the value is a comma or the brace, whichever members are left.
      have hvalue := htakes _ (closing_membersText ms rest)
      simp only [readMember, readText_writeText, bind, Except.bind, hfind, hgiven]
      exact hvalue
    rw [readMembers_eq, nextKey_membersText]
    simp only [Except.bind, hmember]
    exact ih false

theorem ofText_writeObject {q : ρ} {a : α} {ms : List (String × List Char)}
    (h : s.Fills s.start ms q)
    (hfinish : s.finish (fun _ name => .missingField name) q = .ok a) :
    s.ofText (String.ofList (writeObject ms)) = .ok a := by
  have hmembers := readMembers_membersText h true []
  have hblank : isBlank '{' = false := rfl
  simp only [ofText, String.toList_ofList, writeObject_eq, skipBlanks,
    List.dropWhile_cons_of_neg, hblank, Bool.false_eq_true, not_false_eq_true, readObject, bind,
    Except.bind, hmembers, hfinish, pure, Except.pure]
  rfl

end Shape

/-- Exactly the writable values are written, each to a text of its own that reads back as it. -/
structure RoundTrips (write : α → Except Error String) (read : String → Except Error α)
    (Writable : α → Prop) : Prop where
  read_of_writable : ∀ a, Writable a → ∃ text, write a = .ok text ∧ read text = .ok a
  refused : ∀ a, ¬ Writable a → write a = .error .pathNotText
  eq_of_write_eq : ∀ a b text, write a = .ok text → write b = .ok text → a = b

theorem RoundTrips.of_read {write : α → Except Error String} {read : String → Except Error α}
    {Writable : α → Prop}
    (hread : ∀ a, Writable a → ∃ text, write a = .ok text ∧ read text = .ok a)
    (hrefused : ∀ a, ¬ Writable a → write a = .error .pathNotText) :
    RoundTrips write read Writable where
  read_of_writable := hread
  refused := hrefused
  eq_of_write_eq := by
    have hback : ∀ a text, write a = .ok text → read text = .ok a := by
      intro a text h
      by_cases ha : Writable a
      · obtain ⟨text', h', hr⟩ := hread a ha
        rw [h] at h'
        cases h'
        exact hr
      · rw [hrefused a ha] at h
        cases h
    intro a b text ha hb
    have heq := (hback a text ha).symm.trans (hback b text hb)
    cases heq
    rfl

end Json

namespace Request

theorem fills_numbers (r : Request) {ms : List (String × List Char)} {q : Partial}
    (h : shape.Fills ⟨some r.uid, some r.rules, none⟩ ms q) :
    shape.Fills shape.start
      (("uid", Json.writeInteger r.uid.toInt) :: ("rules", Json.writeInteger r.rules.toNat) :: ms)
      q := by
  refine .value rfl rfl (Json.takes_readInt32 r.uid) ?_
  exact .value rfl rfl (Json.takes_readUInt64 r.rules) h

theorem roundTrips : Json.RoundTrips toJson ofJson fun r => ∀ p ∈ r.mapPath, p.IsText := by
  refine .of_read (fun r hr => ?_) fun r hr => ?_
  · obtain ⟨uid, rules, mapPath⟩ := r
    cases mapPath with
    | none =>
      have hfills := fills_numbers ⟨uid, rules, none⟩ (.nil _)
      exact ⟨_, rfl, Json.Shape.ofText_writeObject hfills rfl⟩
    | some p =>
      obtain ⟨s, rfl⟩ := hr p rfl
      have hpath : shape.Fills ⟨some uid, some rules, none⟩ [("map_path", Json.writeText s)]
          ⟨some uid, some rules, some (some (.ofString s))⟩ :=
        .value rfl rfl (Json.takes_readPath s).nullable (.nil _)
      have hfills := fills_numbers ⟨uid, rules, some (.ofString s)⟩ hpath
      refine ⟨_, ?_, Json.Shape.ofText_writeObject hfills rfl⟩
      simp only [toJson, MapPath.text?_ofString]
      rfl
  · obtain ⟨p, hp, htext⟩ : ∃ p, r.mapPath = some p ∧ ¬ p.IsText := by
      simpa using hr
    simp only [toJson, hp, MapPath.text?_eq_none_iff.mpr htext]

example : (ofUid (-5)).toJson = .ok "\x7b\"uid\":-5,\"rules\":128\x7d" := rfl

end Request

namespace Config

theorem roundTrips : Json.RoundTrips toJson ofJson fun c => c.mapPath.IsText := by
  refine .of_read (fun c hc => ?_) fun c hc => ?_
  · obtain ⟨mapPath, serializes, format⟩ := c
    obtain ⟨s, rfl⟩ := hc
    have hformat : LogFormat.ofName? format.name = some format := by
      cases format <;> rfl
    have hfills : shape.Fills shape.start
        [("map_path", Json.writeText s), ("serialize_mutations", (toString serializes).toList),
          ("log_format", Json.writeText format.name)]
        ⟨some (.ofString s), some serializes, some format⟩ :=
      .value rfl rfl (Json.takes_readPath s) <|
        .value rfl rfl (Json.takes_readBool serializes) <|
        .value rfl rfl (Json.takes_readVariant hformat _) (.nil _)
    refine ⟨_, ?_, Json.Shape.ofText_writeObject hfills rfl⟩
    simp only [toJson, MapPath.text?_ofString]
  · simp only [toJson, MapPath.text?_eq_none_iff.mpr hc]

end Config

theorem FailureReport.roundTrips :
    Json.RoundTrips (fun r : FailureReport => .ok r.toJson) ofJson fun _ => True := by
  refine .of_read (fun r _ => ⟨_, rfl, ?_⟩) fun r hr => absurd trivial hr
  have hfills : shape.Fills shape.start
      [("operationName", Json.writeText r.operationName),
        ("osErrorCode", Json.writeInteger r.osErrorCode.toInt)]
      ⟨some r.operationName, some r.osErrorCode⟩ :=
    .value rfl rfl (Json.takes_readString _ r.operationName) <|
      .value rfl rfl (Json.takes_readInt32 r.osErrorCode) (.nil _)
  exact Json.Shape.ofText_writeObject hfills rfl

theorem marshalled_round_trips :
    Json.RoundTrips Request.toJson Request.ofJson (fun r => ∀ p ∈ r.mapPath, p.IsText) ∧
    Json.RoundTrips Config.toJson Config.ofJson (fun c => c.mapPath.IsText) ∧
    Json.RoundTrips (fun r : FailureReport => .ok r.toJson) FailureReport.ofJson fun _ => True :=
  ⟨Request.roundTrips, Config.roundTrips, FailureReport.roundTrips⟩

end OwnerRules

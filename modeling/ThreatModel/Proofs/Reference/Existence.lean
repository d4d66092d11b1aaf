import ThreatModel.Proofs.Reference.Grammar
import ThreatModel.Proofs.Reference.Resolution
import ThreatModel.Proofs.Settings.Records
import ThreatModel.Verification.Validator

/-!
Values of a column, asked for in two ways: by a validator that is set to the column, and by a reference tag
that names it. Both look below the first key with the data tag, through all keys with the field tag, and
compare normal forms, so a value passes exactly if the tag leads to a match.
-/

namespace ThreatModel

/-- The document that is meant. -/
def Side.document (side : Side) (model template : Document) : Document :=
  match side with
  | .model => model
  | .template => template

/-- How settings call the document. -/
def Side.word : Side → String
  | .model => "model"
  | .template => "template"

/-- The members of a setting that names a column, and the document unless it is the model. -/
structure ColumnSetting (members : List (String × Json)) (dataTag fieldTag : String) (side : Side) :
    Prop where
  known : ∀ member ∈ members, member.1 ∈ ["data-tag", "field-tag", "document"]
  once : (members.map (·.1)).Nodup
  dataTag : Json.lookup? members "data-tag" = some (.string dataTag)
  fieldTag : Json.lookup? members "field-tag" = some (.string fieldTag)
  document : Json.lookup? members "document" = some (.string side.word) ∨
    Json.lookup? members "document" = none ∧ side = .model

/-- The tag names the column, and no other tag of the family is on the key. -/
structure Key.RefersOnlyTo (key : Key) (family dataTag fieldTag : String) : Prop where
  carries : family ++ "/" ++ dataTag ++ "/" ++ fieldTag ∈ key.tags
  only : ∀ tag ∈ ReferenceTag.ofKey key family, tag.text = family ++ "/" ++ dataTag ++ "/" ++ fieldTag

variable {model template doc : Document} {members : List (String × Json)} {key : Key} {config : Json}
  {family dataTag fieldTag value : String} {side : Side} {tag : ReferenceTag}

theorem ColumnSetting.test?_eq (setting : ColumnSetting members dataTag fieldTag side) :
    Validator.exists.test? (.object members) = .ok (.exists dataTag fieldTag side) := by
  have read : Validator.settingFields? ["data-tag", "field-tag", "document"] (.object members) =
      some (Source.ofMembers members) := by
    have listed : (Source.json (.object members)).members? = some (Source.ofMembers members) := rfl
    refine Source.record?_of_members? listed (fun member listed => ?_) ?_
    · obtain ⟨own, isMember, rfl⟩ := List.mem_map.mp listed
      exact setting.known own isMember
    · rw [Source.names_ofMembers]
      exact setting.once
  have sideRead : Source.withDefault? (Source.ofMembers members) "document"
      (Source.choice? [("model", Side.model), ("template", .template)]) .model = some side := by
    rw [Source.withDefault?_ofMembers]
    rcases setting.document with named | ⟨absent, rfl⟩
    · rw [named]
      cases side <;> rfl
    · rw [absent]
  simp only [Validator.test?, read, Option.bind_eq_bind, Option.bind_some, Source.required?_ofMembers,
    setting.dataTag, setting.fieldTag, Source.string?, sideRead]
  rfl

namespace ReferenceTag

/-- The tag of texts equal to those of a column. -/
def ofColumn (family dataTag fieldTag : String) : ReferenceTag :=
  ⟨family ++ "/" ++ dataTag ++ "/" ++ fieldTag, family, dataTag, fieldTag, equals⟩

theorem mem_ofKey_iff_eq_ofColumn (each : ∀ segment ∈ [family, dataTag, fieldTag], IsSegment segment)
    (refers : key.RefersOnlyTo family dataTag fieldTag) :
    tag ∈ ofKey key family ↔ tag = ofColumn family dataTag fieldTag := by
  have read := parse?_of_three each
  constructor
  · intro onKey
    obtain ⟨_, own, _⟩ := mem_ofKey_iff.mp onKey
    rw [refers.only tag onKey, read] at own
    exact (Option.some.inj own).symm
  · rintro rfl
    exact mem_ofKey_iff.mpr ⟨refers.carries, read, rfl⟩

end ReferenceTag

namespace Document

theorem references_ofColumn_eq_nil_iff
    (each : ∀ segment ∈ [family, dataTag, fieldTag], ReferenceTag.IsSegment segment)
    (refers : key.RefersOnlyTo family dataTag fieldTag) :
    doc.references family key value none = [] ↔
      doc.matchesOf none value (.ofColumn family dataTag fieldTag) = [] := by
  simp only [List.eq_nil_iff_forall_not_mem, references, List.mem_eraseDups, List.mem_flatMap,
    ReferenceTag.mem_ofKey_iff_eq_ofColumn each refers, exists_eq_left]

theorem accepts_ofColumn {field : KeyId} {text : String} :
    (ReferenceTag.ofColumn family dataTag fieldTag).accepts none value field text =
      (normalise text == normalise value) := by
  rw [Bool.beq_comm]
  rfl

/-- The tag of a column leads to no match exactly if the section is missing or the column does not hold the
value. -/
theorem matchesOf_ofColumn_eq_nil_iff :
    doc.matchesOf none value (.ofColumn family dataTag fieldTag) = [] ↔
      ∀ carrier region, doc.section? dataTag = some (carrier, region) →
        doc.holdsText region fieldTag value = false := by
  have dataTag_eq : (ReferenceTag.ofColumn family dataTag fieldTag).dataTag = dataTag := rfl
  cases found : doc.section? dataTag with
  | none => simp [matchesOf, dataTag_eq, found]
  | some entry =>
      obtain ⟨carrier, region⟩ := entry
      have none_iff : doc.matchesOf none value (.ofColumn family dataTag fieldTag) = [] ↔
          ∀ entry ∈ doc.findAllTagged region fieldTag, ∀ text ∈ entry.2.texts,
            ¬ (normalise text == normalise value) := by
        simp only [matchesOf, dataTag_eq, found, List.flatMap_eq_nil_iff, List.map_eq_nil_iff,
          List.filter_eq_nil_iff, accepts_ofColumn]
        rfl
      have holds_iff : doc.holdsText region fieldTag value = false ↔
          ∀ entry ∈ doc.findAllTagged region fieldTag, ∀ text ∈ entry.2.texts,
            ¬ (normalise text == normalise value) := by
        simp only [holdsText, List.any_eq_false, Bool.not_eq_true]
      rw [none_iff, ← holds_iff]
      constructor
      · rintro missing _ _ same
        cases same
        exact missing
      · exact fun missing => missing carrier region rfl

end Document

theorem passes_exists_eq_false_iff
    (asks : Validator.exists.test? config = .ok (.exists dataTag fieldTag side)) :
    Validator.exists.passes config model template value = false ↔
      ∀ carrier region, (side.document model template).section? dataTag = some (carrier, region) →
        (side.document model template).holdsText region fieldTag value = false := by
  have chosen : Validator.exists.passes config model template value =
      ((side.document model template).section? dataTag).elim false fun entry =>
        (side.document model template).holdsText entry.2 fieldTag value := by
    rw [Validator.passes, asks]
    cases side with
    | model =>
        simp only [ValueTest.passes, Side.document]
        cases model.section? dataTag <;> rfl
    | template =>
        simp only [ValueTest.passes, Side.document]
        cases template.section? dataTag <;> rfl
  rw [chosen]
  cases (side.document model template).section? dataTag with
  | none =>
      refine iff_of_true rfl fun _ _ absent => ?_
      cases absent
  | some entry =>
      constructor
      · rintro missing _ _ same
        cases same
        exact missing
      · exact fun missing => missing entry.1 entry.2 rfl

/-- For every column, the setting that names it is read as such, and under a setting that asks for the column
a value passes exactly if a key whose only reference of its family is to the column resolves for the value. -/
theorem exists_passes_iff_resolves (model template : Document) (value : String)
    (each : ∀ segment ∈ [family, dataTag, fieldTag], ReferenceTag.IsSegment segment)
    (refers : key.RefersOnlyTo family dataTag fieldTag) (side : Side) :
    (∀ members, ColumnSetting members dataTag fieldTag side →
      Validator.exists.test? (.object members) = .ok (.exists dataTag fieldTag side)) ∧
    ∀ config, Validator.exists.test? config = .ok (.exists dataTag fieldTag side) →
      (Validator.exists.passes config model template value ↔
        (side.document model template).references family key value none ≠ []) := by
  refine ⟨fun members setting => setting.test?_eq, fun config asks => ?_⟩
  rw [← Bool.not_eq_false, passes_exists_eq_false_iff asks, Ne,
    Document.references_ofColumn_eq_nil_iff each refers, Document.matchesOf_ofColumn_eq_nil_iff]

/-- An asset table whose only cell lists two names. -/
def listedAssets : Document :=
  let names : Node := .list [.ofString "DB", .list [.ofString " Keys"]]
  .ofNode (.map [(.withTags "assets" ["assets-data"], .list [.map [(.withTags "name" ["asset-name"], names)]])])

/-- A key that refers to the names of assets. -/
def assetReference : Key := .withTags "asset" ["row-identifier", "ref/assets-data/asset-name"]

theorem exists_passes_iff_resolves_listed :
    Validator.exists.passes (.object [("document", .string "template"), ("field-tag", .string "asset-name"),
      ("data-tag", .string "assets-data")]) default listedAssets "KEYS" ∧
    listedAssets.references "ref" assetReference "KEYS" none ≠ [] := by
  have each : ∀ segment ∈ ["ref", "assets-data", "asset-name"], ReferenceTag.IsSegment segment := by
    simp only [List.forall_mem_cons, List.not_mem_nil, false_implies, implies_true, and_true]
    exact ⟨⟨by decide, by decide⟩, ⟨by decide, by decide⟩, ⟨by decide, by decide⟩⟩
  have onKey : ReferenceTag.ofKey assetReference "ref" = [.ofColumn "ref" "assets-data" "asset-name"] := by
    decide +kernel
  have refers : assetReference.RefersOnlyTo "ref" "assets-data" "asset-name" := by
    refine ⟨by decide, fun tag listed => ?_⟩
    rw [onKey, List.mem_singleton] at listed
    rw [listed]
    rfl
  have setting : ColumnSetting [("document", .string "template"), ("field-tag", .string "asset-name"),
      ("data-tag", .string "assets-data")] "assets-data" "asset-name" .template :=
    ⟨by decide, by decide, rfl, rfl, .inl rfl⟩
  obtain ⟨reads, agrees⟩ := exists_passes_iff_resolves default listedAssets "KEYS" each refers .template
  have passes : Validator.exists.passes (.object [("document", .string "template"),
      ("field-tag", .string "asset-name"), ("data-tag", .string "assets-data")]) default listedAssets "KEYS" := by
    decide +kernel
  exact ⟨passes, (agrees _ (reads _ setting)).mp passes⟩

end ThreatModel

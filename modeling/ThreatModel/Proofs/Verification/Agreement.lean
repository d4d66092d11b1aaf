import ThreatModel.Proofs.Verification.Run

/-!
Documents that look alike to the rules. What a verification finds depends on the shape and the texts of
the documents, on the names and tags of their keys, on the sections and columns that the keys name, and on
what the template says is approved. Where a text comes from and all other properties do not matter.
-/

namespace ThreatModel

theorem Json.asString?_eq_some_iff {value : Json} {text : String} :
    value.asString? = some text ↔ value = .string text := by
  cases value <;> simp [asString?]

namespace Key

variable {kept : List String} {left right : Key}

/-- The keys have the same name and tags, name the same section and column, and have the same properties
of the names `kept`. -/
structure Agrees (kept : List String) (left right : Key) : Prop where
  name : left.name = right.name
  tags : left.tags = right.tags
  sectionName : left.section? = right.section?
  columnName : left.columnName? = right.columnName?
  property? : ∀ name ∈ kept, left.property? name = right.property? name

theorem filter_isString_congr {name : String}
    (same : left.stringProperty? name = right.stringProperty? name) :
    (left.property? name).filter (·.asString?.isSome) =
      (right.property? name).filter (·.asString?.isSome) := by
  ext value
  have holds : ∀ key : Key, value ∈ (key.property? name).filter (·.asString?.isSome) ↔
      ∃ text, key.stringProperty? name = some text ∧ value = .string text := by
    intro key
    rw [Option.mem_def, Option.filter_eq_some_iff, stringProperty?]
    constructor
    · rintro ⟨found, isString⟩
      obtain ⟨text, read⟩ := Option.isSome_iff_exists.mp isString
      exact ⟨text, by rw [found]; exact read, Json.asString?_eq_some_iff.mp read⟩
    · rintro ⟨text, found, rfl⟩
      obtain ⟨value, present, read⟩ := Option.bind_eq_some_iff.mp found
      obtain rfl := Json.asString?_eq_some_iff.mp read
      exact ⟨present, rfl⟩
  rw [← Option.mem_def, ← Option.mem_def, holds, holds, same]

theorem Agrees.outline_eq (agrees : left.Agrees kept right) :
    left.outline kept = right.outline kept := by
  have properties : left.properties.keep (heeds kept) = right.properties.keep (heeds kept) := by
    apply Properties.ext_get?
    intro name
    rw [Properties.get?_keep, Properties.get?_keep]
    by_cases asked : name ∈ kept
    · exact congrArg (Option.filter _) (agrees.property? name asked)
    by_cases naming : name = Property.sectionName ∨ name = Property.columnName
    · have onlyStrings : heeds kept name = fun value => value.asString?.isSome := by
        funext value
        simp [heeds, asked, naming]
      rw [onlyStrings]
      rcases naming with rfl | rfl
      · exact filter_isString_congr agrees.sectionName
      · exact filter_isString_congr agrees.columnName
    · have unheeded : heeds kept name = fun _ => false := by
        funext value
        simpa [heeds, asked] using fun named => absurd named naming
      rw [unheeded]
      cases left.properties.get? name <;> cases right.properties.get? name <;> rfl
  rw [outline, outline, agrees.name, agrees.tags, properties]

end Key

namespace Document

variable {kept : List String} {left right : Document}

/-- The documents have the same shape and the same texts, and their keys agree. -/
structure Agrees (kept : List String) (left right : Document) : Prop where
  skeleton : left.source.skeleton = right.source.skeleton
  keys : ∀ id ∈ left.keyIds, (left.key id).Agrees kept (right.key id)

theorem Agrees.outline_eq (agrees : left.Agrees kept right) :
    left.outline kept = right.outline kept := by
  have size : left.keys.size = right.keys.size := by
    have count := congrArg (·.keys.length) agrees.skeleton
    simp only [Node.length_keys_skeleton] at count
    rw [left.keys_size, right.keys_size, count]
  apply ext_keys
  · exact agrees.skeleton
  · apply Array.ext
    · rw [keys_outline, keys_outline, Array.size_map, Array.size_map, size]
    · intro index inLeft inRight
      rw [keys_outline, Array.size_map] at inLeft inRight
      have isKey : ⟨index⟩ ∈ left.keyIds :=
        List.mem_map_of_mem (List.mem_range.mpr inLeft)
      have outlines := (agrees.keys ⟨index⟩ isKey).outline_eq
      simpa [key, inLeft, inRight] using outlines

end Document

namespace Setup

variable (setup : Setup)

theorem outline_prepareTemplate_congr {left right : Document}
    (same : left.outline [Property.preApproved] = right.outline [Property.preApproved]) :
    (setup.prepareTemplate left).outline [Property.preApproved] =
      (setup.prepareTemplate right).outline [Property.preApproved] := by
  have tagged : (left.assignTags setup.tags).outline [Property.preApproved] =
      (right.assignTags setup.tags).outline [Property.preApproved] := by
    rw [Document.outline_assignTags, same, Document.outline_assignTags]
  rw [prepareTemplate, prepareTemplate, Rule.markApproved_eq_written, Rule.markApproved_eq_written,
    Rule.approvals_congr tagged]
  exact Document.outline_written_congr _ tagged

/-- Documents that agree in what the rules read have the same issues. -/
theorem issues_verify_congr {model template otherModel otherTemplate : Document}
    (models : model.Agrees [] otherModel)
    (templates : template.Agrees [Property.preApproved] otherTemplate) :
    (setup.verify model template).issues = (setup.verify otherModel otherTemplate).issues := by
  have tagged : (model.assignTags setup.tags).outline [] =
      (otherModel.assignTags setup.tags).outline [] := by
    rw [Document.outline_assignTags, models.outline_eq, Document.outline_assignTags]
  have prepared := setup.outline_prepareTemplate_congr templates.outline_eq
  have seen : (setup.startingScene model template).outline =
      (setup.startingScene otherModel otherTemplate).outline :=
    setup.sceneOf_outline_congr tagged prepared
  rw [verify_eq, verify_eq, Scene.issuesFrom_congr seen]

def referencesOnly : Setup :=
  { standard with rules := [("reference-existence", ⟨true, .null⟩)] }

/-- Two references, one to a kind of component. -/
def plainReferences : Document := .ofNode (.map [
  (.withTags "name" ["ref/assets-data/asset-name"], .ofString "DB"),
  (.withTags "kind" ["ref/kinds-data/kind"], .ofString "Server")])

/-- The same references, with the place where they were found. -/
def locatedReferences : Document := .ofNode (.map [
  ((Key.withTags "name" ["ref/assets-data/asset-name"]).setProperty "line" (.string "4"),
    .text ⟨"DB", .ofList [("file", "assets")]⟩),
  (.withTags "kind" ["ref/kinds-data/kind"], .text ⟨"Server", .ofList [("file", "kinds")]⟩)])

def approvedKind : Document := .ofNode (.map [
  ((Key.ofName "kind").setProperty Property.preApproved (.bool true), .ofString "Server")])

def locatedKind : Document := .ofNode (.map [
  (((Key.ofName "kind").setProperty Property.preApproved (.bool true)).setProperty Property.validation
    .null, .text ⟨"Server", .ofList [("file", "template")]⟩)])

/-- The kind is approved and the name resolves nowhere, wherever the texts were found. -/
theorem issues_verify_of_located :
    plainReferences.Agrees [] locatedReferences ∧
    approvedKind.Agrees [Property.preApproved] locatedKind ∧
    (referencesOnly.verify plainReferences approvedKind).issues.length = 1 ∧
    (referencesOnly.verify plainReferences approvedKind).issues =
      (referencesOnly.verify locatedReferences locatedKind).issues := by
  have models : plainReferences.Agrees [] locatedReferences := by
    refine ⟨rfl, ?_⟩
    have keyIds : plainReferences.keyIds = [⟨0⟩, ⟨1⟩] := rfl
    intro id isKey
    rw [keyIds] at isKey
    rcases List.mem_pair.mp isKey with rfl | rfl
    · exact ⟨rfl, rfl, rfl, rfl, by simp⟩
    · exact ⟨rfl, rfl, rfl, rfl, by simp⟩
  have templates : approvedKind.Agrees [Property.preApproved] locatedKind := by
    refine ⟨rfl, ?_⟩
    have keyIds : approvedKind.keyIds = [⟨0⟩] := rfl
    rw [keyIds, List.forall_mem_singleton]
    exact ⟨rfl, rfl, rfl, rfl, List.forall_mem_singleton.mpr rfl⟩
  exact ⟨models, templates, by decide +kernel, referencesOnly.issues_verify_congr models templates⟩

end Setup

end ThreatModel

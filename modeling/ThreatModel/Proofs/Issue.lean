import ThreatModel.Issue
import ThreatModel.Proofs.Json.ReadBack
import ThreatModel.Proofs.Settings.Records

/-!
Issues that are written and read back. Null as data is written, but read as no data, so an issue comes back
as it was if and only if no data is null. In a text, data has to be read back besides: not nested too deep,
and without doubles that their texts are not read as.
-/

namespace ThreatModel.Issue

/-- Data that is not null. -/
def present? : Option Json → Option Json
  | some .null => none
  | value? => value?

/-- The issue without data that is null. -/
def withoutNulls (issue : Issue) : Issue :=
  { issue with data := present? issue.data, fixData := present? issue.fixData }

/-- The data that an issue comes with. -/
def attached (issue : Issue) : List Json := issue.data.toList ++ issue.fixData.toList

def fieldNames : List String :=
  ["type", "kind", "table", "table-row", "error-description", "error-data", "fix-description", "fix-data",
    "verifier"]

/-- The fields in which an issue is written. -/
def fields (issue : Issue) : List (String × Option Json) := [
  ("type", some (.string issue.severity.name)),
  ("kind", some (.string issue.kind)),
  ("table", issue.table.map .string),
  ("table-row", issue.row.map .string),
  ("error-description", some (.string issue.description)),
  ("error-data", issue.data),
  ("fix-description", issue.fixDescription.map .string),
  ("fix-data", issue.fixData),
  ("verifier", some (.string issue.rule))]

variable {members : List (String × Option Json)} {issue : Issue} {name : String}

theorem toJson_eq (issue : Issue) : issue.toJson = .object (presentMembers issue.fields) := rfl

theorem presentMembers_cons (name : String) (value? : Option Json) (members : List (String × Option Json)) :
    presentMembers ((name, value?) :: members) =
      (value?.map fun value => (name, value)).toList ++ presentMembers members := by
  cases value? <;> rfl

theorem names_presentMembers_sublist (members : List (String × Option Json)) :
    ((presentMembers members).map (·.1)).Sublist (members.map (·.1)) := by
  induction members with
  | nil => exact List.Sublist.refl []
  | cons member rest ih =>
      obtain ⟨name, value?⟩ := member
      rw [presentMembers_cons]
      cases value? with
      | none => exact ih.cons name
      | some value => exact ih.cons_cons name

theorem lookup?_presentMembers_of_not_mem (absent : name ∉ members.map (·.1)) :
    Json.lookup? (presentMembers members) name = none :=
  Json.lookup?_eq_none_iff.mpr fun isPresent =>
    absent ((names_presentMembers_sublist members).subset isPresent)

theorem lookup?_presentMembers (distinct : (members.map (·.1)).Nodup) {value? : Option Json}
    (listed : (name, value?) ∈ members) : Json.lookup? (presentMembers members) name = value? := by
  induction members with
  | nil => cases listed
  | cons member rest ih =>
      obtain ⟨absent, others⟩ := List.nodup_cons.mp distinct
      rw [presentMembers_cons, Json.lookup?_append, Json.lookup?_optional]
      rcases List.mem_cons.mp listed with rfl | inRest
      · rw [if_pos rfl, lookup?_presentMembers_of_not_mem absent, Option.or_none, Option.map_id']
      · have different : member.1 ≠ name := fun same =>
          absent (List.mem_map.mpr ⟨_, inRest, same.symm⟩)
        rw [if_neg different, Option.none_or, ih others inRest]

theorem names_fields (issue : Issue) : issue.fields.map (·.1) = fieldNames := rfl

theorem nodup_fieldNames : fieldNames.Nodup := by decide

theorem record?_toJson (issue : Issue) :
    (Source.json issue.toJson).record? fieldNames false =
      some (Source.ofMembers (presentMembers issue.fields)) :=
  Source.record?_ofMembers rfl (names_fields issue ▸ names_presentMembers_sublist issue.fields) nodup_fieldNames

theorem lookup?_fields {value? : Option Json} (listed : (name, value?) ∈ issue.fields) :
    Json.lookup? (presentMembers issue.fields) name = value? :=
  lookup?_presentMembers (names_fields issue ▸ nodup_fieldNames) listed

theorem required?_fields {value : Json} (listed : (name, some value) ∈ issue.fields)
    (read : Source → Option α) :
    Source.required? (Source.ofMembers (presentMembers issue.fields)) name read = read (.json value) := by
  rw [Source.required?_ofMembers, lookup?_fields listed, Option.bind_some]

theorem optionalString_fields {value? : Option String} (listed : (name, value?.map .string) ∈ issue.fields) :
    Source.withDefault? (Source.ofMembers (presentMembers issue.fields)) name
      (Source.optional? Source.string?) none = some value? :=
  Source.withDefault?_optional .string (lookup?_fields listed) fun _ _ => rfl

/-- Null that was written as data is read as none. -/
theorem optionalData_fields {value? : Option Json} (listed : (name, value?) ∈ issue.fields) :
    Source.withDefault? (Source.ofMembers (presentMembers issue.fields)) name
      (Source.optional? someValue?) none = some (present? value?) := by
  rw [Source.withDefault?_ofMembers, lookup?_fields listed]
  match value? with
  | none | some .null | some (.bool _) | some (.number _) | some (.string _) | some (.array _)
  | some (.object _) => rfl

theorem readSeverity_name (severity : Severity) :
    Source.choice? (Severity.all.map fun severity => (severity.name, severity))
      (.json (.string severity.name)) = some severity := by
  cases severity <;> rfl

theorem ofJson?_toJson (issue : Issue) : ofJson? issue.toJson = some issue.withoutNulls := by
  have record := record?_toJson issue
  have severity : ("type", some (Json.string issue.severity.name)) ∈ issue.fields := by simp [fields]
  have kind : ("kind", some (Json.string issue.kind)) ∈ issue.fields := by simp [fields]
  have table : ("table", issue.table.map Json.string) ∈ issue.fields := by simp [fields]
  have row : ("table-row", issue.row.map Json.string) ∈ issue.fields := by simp [fields]
  have description : ("error-description", some (Json.string issue.description)) ∈ issue.fields := by
    simp [fields]
  have data : ("error-data", issue.data) ∈ issue.fields := by simp [fields]
  have fixDescription : ("fix-description", issue.fixDescription.map Json.string) ∈ issue.fields := by
    simp [fields]
  have fixData : ("fix-data", issue.fixData) ∈ issue.fields := by simp [fields]
  have rule : ("verifier", some (Json.string issue.rule)) ∈ issue.fields := by simp [fields]
  rw [fieldNames] at record
  simp only [ofJson?, record, required?_fields severity, readSeverity_name, required?_fields kind,
    required?_fields description, optionalString_fields table, optionalString_fields row,
    optionalString_fields fixDescription, optionalData_fields data, optionalData_fields fixData,
    Source.withDefault?_ofMembers, lookup?_fields rule, Source.string?, Option.bind_eq_bind, Option.bind_some]
  rfl

theorem present?_eq_self_iff {value? : Option Json} :
    present? value? = value? ↔ ∀ value ∈ value?, value ≠ .null := by
  match value? with
  | none => simp [present?]
  | some .null => simp [present?]
  | some (.bool _) | some (.number _) | some (.string _) | some (.array _) | some (.object _) =>
      simp [present?]

theorem forall_mem_attached {P : Json → Prop} : (∀ value ∈ issue.attached, P value) ↔
    (∀ value ∈ issue.data, P value) ∧ ∀ value ∈ issue.fixData, P value := by
  simp [attached, or_imp, forall_and]

theorem withoutNulls_eq_self_iff : issue.withoutNulls = issue ↔ ∀ value ∈ issue.attached, value ≠ .null := by
  rw [forall_mem_attached, ← present?_eq_self_iff, ← present?_eq_self_iff]
  obtain ⟨severity, kind, table, row, description, data, fixDescription, fixData, rule⟩ := issue
  simp [withoutNulls]

section Texts

/-- Read an issue from its text. -/
def ofText? (text : String) : Option Issue := (Json.parse? text).bind ofJson?

def rereadData? : Option Json → Option (Option Json)
  | none => some none
  | some value => value.reread?.map some

/-- The issue with its data as the texts of data are read. -/
def reread? (issue : Issue) : Option Issue :=
  (rereadData? issue.data).bind fun data =>
    (rereadData? issue.fixData).map fun fixData => { issue with data := data, fixData := fixData }

def rereadFields? : List (String × Option Json) → Option (List (String × Option Json))
  | [] => some []
  | (name, value?) :: rest =>
      (rereadData? value?).bind fun value? => (rereadFields? rest).map ((name, value?) :: ·)

theorem rereadMembers?_presentMembers (members : List (String × Option Json)) :
    Json.rereadMembers? (presentMembers members) = (rereadFields? members).map presentMembers := by
  induction members with
  | nil => rfl
  | cons member rest ih =>
      obtain ⟨name, value?⟩ := member
      rw [presentMembers_cons, rereadFields?]
      cases value? with
      | none =>
          rw [Option.map_none, Option.toList_none, List.nil_append, ih]
          cases rereadFields? rest <;> rfl
      | some value =>
          rw [Option.map_some, Option.toList_some, List.singleton_append, Json.rereadMembers?, ih, rereadData?]
          cases value.reread? <;> cases rereadFields? rest <;> rfl

theorem reread?_toJson (issue : Issue) : issue.toJson.reread? = issue.reread?.map toJson := by
  have strings (value? : Option String) : rereadData? (value?.map .string) = some (value?.map .string) := by
    cases value? <;> rfl
  have string (value : String) : rereadData? (some (.string value)) = some (some (.string value)) := rfl
  rw [toJson_eq, Json.reread?, rereadMembers?_presentMembers, reread?]
  simp only [fields, rereadFields?, strings, string, Option.bind_some, Option.map_some]
  cases rereadData? issue.data with
  | none => rfl
  | some data => cases rereadData? issue.fixData <;> rfl

theorem present?_of_rereadData? {value? : Option Json} :
    (rereadData? value?).map present? = some value? ↔
      ∀ value ∈ value?, value ≠ .null ∧ value.reread? = some value := by
  cases value? with
  | none => simp [rereadData?, present?]
  | some value =>
      rw [rereadData?, Option.map_map]
      constructor
      · intro same held isValue
        cases isValue
        obtain ⟨read, reread, present⟩ := Option.map_eq_some_iff.mp same
        have isRead : read = value := by
          cases read <;> cases present <;> rfl
        subst isRead
        exact ⟨present?_eq_self_iff.mp present read rfl, reread⟩
      · intro kept
        obtain ⟨notNull, reread⟩ := kept value rfl
        have present : present? (some value) = some value :=
          present?_eq_self_iff.mpr fun held isValue => by
            cases isValue
            exact notNull
        rw [reread, Option.map_some, Function.comp, present]

theorem withoutNulls_of_reread? : issue.reread?.map withoutNulls = some issue ↔
    ∀ value ∈ issue.attached, value ≠ .null ∧ value.reread? = some value := by
  rw [forall_mem_attached, ← present?_of_rereadData?, ← present?_of_rereadData?]
  obtain ⟨severity, kind, table, row, description, data, fixDescription, fixData, rule⟩ := issue
  rw [reread?]
  cases rereadData? data <;> cases rereadData? fixData <;> simp [withoutNulls]

theorem forall_mem_presentMembers {P : Json → Prop} : (∀ member ∈ presentMembers members, P member.2) ↔
    ∀ field ∈ members, ∀ value ∈ field.2, P value := by
  simp only [presentMembers, List.mem_filterMap, Option.map_eq_some_iff]
  constructor
  · intro each field listed value isValue
    exact each (field.1, value) ⟨field, listed, value, isValue, rfl⟩
  · rintro each member ⟨field, listed, value, isValue, rfl⟩
    exact each field listed value isValue

/-- Besides its data an issue holds texts. -/
theorem forall_presentMembers_fields {P : Json → Prop} (strings : ∀ text, P (.string text)) :
    (∀ member ∈ presentMembers issue.fields, P member.2) ↔ ∀ value ∈ issue.attached, P value := by
  rw [forall_mem_presentMembers, forall_mem_attached]
  simp [fields, strings]

theorem height_toJson_le_iff {depth : Nat} :
    issue.toJson.height ≤ depth ↔ 0 < depth ∧ ∀ value ∈ issue.attached, value.height < depth := by
  rw [toJson_eq, Json.height, Nat.succ_le_iff, Json.heightOfMembers_lt_iff]
  exact and_congr_right fun positive =>
    @forall_presentMembers_fields issue (fun value => value.height < depth) fun _ => positive

theorem distinctMembers_toJson
    (distinct : ∀ value ∈ issue.attached, value.Everywhere Json.DistinctMembers) :
    issue.toJson.Everywhere Json.DistinctMembers := by
  have names := (names_presentMembers_sublist issue.fields).nodup (names_fields issue ▸ nodup_fieldNames)
  have strings (text : String) : (Json.string text).Everywhere Json.DistinctMembers :=
    List.forall_mem_singleton.mpr List.nodup_nil
  exact Json.everywhere_object.mpr ⟨names, (forall_presentMembers_fields strings).mpr distinct⟩

theorem ofText?_compress_toJson
    (distinct : ∀ value ∈ issue.attached, value.Everywhere Json.DistinctMembers) :
    ofText? issue.toJson.compress =
      Json.within Json.maxDepth issue.toJson.height (issue.reread?.map withoutNulls) := by
  rw [ofText?, Json.parse?_compress (distinctMembers_toJson distinct), Json.within_bind, reread?_toJson]
  cases issue.reread? with
  | none => rfl
  | some reread => rw [Option.map_some, Option.bind_some, ofJson?_toJson, Option.map_some]

end Texts

/-- An issue is read back from its JSON without data that was null, so it comes back as it was if and only if
no data is null. From its text it does if moreover no data is nested too deep and the numbers in data are what
their texts are read as. -/
theorem read_back_iff (issue : Issue) :
    ofJson? issue.toJson = some issue.withoutNulls ∧
      (ofJson? issue.toJson = some issue ↔ ∀ value ∈ issue.attached, value ≠ .null) ∧
      ((∀ value ∈ issue.attached, value.Everywhere Json.DistinctMembers) →
        (ofText? issue.toJson.compress = some issue ↔
          ∀ value ∈ issue.attached, value ≠ .null ∧ value.height < Json.maxDepth ∧
            ∀ number, .number number ∈ value.parts → number.reread? = some number)) := by
  refine ⟨ofJson?_toJson issue, ?_, fun distinct => ?_⟩
  · rw [ofJson?_toJson, Option.some_inj, withoutNulls_eq_self_iff]
  · rw [ofText?_compress_toJson distinct, Json.within_eq_some_iff, withoutNulls_of_reread?, height_toJson_le_iff]
    simp only [Json.reread?_eq_self_iff, and_iff_right (show 0 < Json.maxDepth by decide)]
    constructor
    · rintro ⟨flat, kept⟩ value listed
      obtain ⟨notNull, numbers⟩ := kept value listed
      exact ⟨notNull, flat value listed, numbers⟩
    · intro kept
      refine ⟨fun value listed => (kept value listed).2.1, fun value listed => ?_⟩
      obtain ⟨notNull, _, numbers⟩ := kept value listed
      exact ⟨notNull, numbers⟩

/-- A hint with a list and a number as data. -/
def checkHint : Issue :=
  { ofKind .info "valid-with-warning" with
    data := some (.object [("row", .ofNat 2)])
    fixDescription := some "Check"
    fixData := some (.ofStrings ["a"]) }

theorem checkHint_read_back :
    (∀ value ∈ checkHint.attached, value.Everywhere Json.DistinctMembers) ∧
      ofText? checkHint.toJson.compress = some checkHint := by
  have attached : checkHint.attached =
      [.object [("row", .number (.integer 2))], .array [.string "a"]] := rfl
  have distinct : ∀ value ∈ checkHint.attached, value.Everywhere Json.DistinctMembers := by decide
  have two : Number.reread? (.integer 2) = some (.integer 2) := Number.reread?_integer (by decide) (by decide)
  refine ⟨distinct, ((read_back_iff checkHint).2.2 distinct).mpr ?_⟩
  rw [attached, List.forall_mem_cons, List.forall_mem_singleton]
  refine ⟨⟨nofun, by decide, ?_⟩, nofun, by decide, ?_⟩
  · simp [Json.parts, Json.partsOfMembers, two]
  · simp [Json.parts, Json.partsOfItems]

/-- Null as data is written, and gone when it is read back. -/
theorem null_data_lost :
    let issue : Issue := { ofKind .error "k" with data := some .null }
    ofText? issue.toJson.compress = some (ofKind .error "k") ∧ ofText? issue.toJson.compress ≠ some issue := by
  intro issue
  have distinct : ∀ value ∈ issue.attached, value.Everywhere Json.DistinctMembers := by decide
  have read : ofText? issue.toJson.compress = some (ofKind .error "k") := by
    rw [ofText?_compress_toJson distinct, Json.within_eq_some_iff]
    exact ⟨by decide, rfl⟩
  refine ⟨read, fun same => ?_⟩
  rw [read, Option.some_inj] at same
  exact absurd (congrArg data same) nofun

end ThreatModel.Issue

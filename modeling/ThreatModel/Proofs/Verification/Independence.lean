import Mathlib.Data.List.Nodup
import ThreatModel.Proofs.Verification.Run

/-!
Rules do not disturb each other. What a rule finds does not depend on the rules that run before it, so
setups that list the same rules in another order, or enable others of them, find the same by each rule.
-/

namespace ThreatModel

theorem nodup_putNamed {entries : List (String × α)} (name : String) (value : α)
    (distinct : (entries.map (·.1)).Nodup) : ((putNamed entries name value).map (·.1)).Nodup := by
  rw [putNamed]
  split
  · have names : (entries.map fun entry => if entry.1 == name then (name, value) else entry).map
        (·.1) = entries.map (·.1) := by
      rw [List.map_map]
      apply List.map_congr_left
      intro entry _
      by_cases same : entry.1 = name <;> simp [same]
    rw [names]
    exact distinct
  · next absent =>
      rw [List.map_append, List.nodup_append]
      refine ⟨distinct, List.nodup_singleton name, ?_⟩
      intro other member last isLast same
      obtain rfl := List.mem_singleton.mp isLast
      obtain ⟨entry, listed, rfl⟩ := List.mem_map.mp member
      exact absent (List.any_eq_true.mpr ⟨entry, listed, by simpa using same⟩)

theorem nodup_of_readNamed? {read : Source → Option α} {source : Source}
    {entries : List (String × α)} (result : readNamed? read source = some entries) :
    (entries.map (·.1)).Nodup := by
  have kept : ∀ (members done : List (String × α)), (done.map (·.1)).Nodup →
      ((members.foldl (fun done entry => putNamed done entry.1 entry.2) done).map (·.1)).Nodup := by
    intro members
    induction members with
    | nil => exact fun _ distinct => distinct
    | cons entry rest ih => exact fun done distinct => ih _ (nodup_putNamed _ _ distinct)
  rw [readNamed?] at result
  obtain ⟨members, _, result⟩ := Option.bind_eq_some_iff.mp result
  obtain ⟨values, _, result⟩ := Option.bind_eq_some_iff.mp result
  obtain rfl := Option.some.inj result
  exact kept values [] List.nodup_nil

namespace Setup

variable {setup left right : Setup} {model template : Document}

/-- A setup that is read lists every rule once. -/
theorem nodup_of_ofSource? {source : Source} (result : ofSource? source = some setup) :
    (setup.rules.map (·.1)).Nodup := by
  rw [ofSource?] at result
  obtain ⟨record, _, result⟩ := Option.bind_eq_some_iff.mp result
  obtain ⟨conventions, _, result⟩ := Option.bind_eq_some_iff.mp result
  obtain ⟨tags, _, result⟩ := Option.bind_eq_some_iff.mp result
  obtain ⟨bindings, _, result⟩ := Option.bind_eq_some_iff.mp result
  obtain ⟨rules, read, result⟩ := Option.bind_eq_some_iff.mp result
  obtain ⟨wording, _, result⟩ := Option.bind_eq_some_iff.mp result
  obtain rfl := Option.some.inj result
  rw [Source.withDefault?] at read
  split at read
  · exact nodup_of_readNamed? read
  · obtain rfl := Option.some.inj read
    exact List.nodup_nil

def enabledNames (setup : Setup) : List String := setup.enabledRules.map (·.1)

theorem mem_enabledRules_iff {name : String} {rule : Rule} {config : Json} :
    (name, rule, config) ∈ setup.enabledRules ↔
      (name, ⟨true, config⟩) ∈ setup.rules ∧ Rule.ofName? name = some rule := by
  rw [enabledRules, List.mem_filterMap]
  constructor
  · rintro ⟨⟨listed, enabled, setting⟩, member, selected⟩
    cases enabled with
    | false => simp at selected
    | true =>
        simp only [if_true, Option.map_eq_some_iff, Prod.mk.injEq] at selected
        obtain ⟨found, known, rfl, rfl, rfl⟩ := selected
        exact ⟨member, known⟩
  · rintro ⟨member, known⟩
    exact ⟨_, member, by simp [known]⟩

theorem enabledNames_eq (setup : Setup) :
    setup.enabledNames = (setup.rules.filter fun entry =>
      entry.2.enabled && (Rule.ofName? entry.1).isSome).map (·.1) := by
  rw [enabledNames, enabledRules]
  induction setup.rules with
  | nil => rfl
  | cons entry rest ih =>
      cases enabled : entry.2.enabled <;> cases known : Rule.ofName? entry.1 <;>
        simp [enabled, known, ih]

theorem nodup_enabledNames (distinct : (setup.rules.map (·.1)).Nodup) :
    setup.enabledNames.Nodup := by
  rw [enabledNames_eq]
  exact (List.filter_sublist.map _).nodup distinct

/-- The setups agree but for the order of their rules and for which of them are enabled. -/
structure Rearranges (left right : Setup) : Prop where
  conventions : left.conventions = right.conventions
  tags : left.tags = right.tags
  bindings : left.bindings = right.bindings
  wording : left.wording = right.wording
  rules : (left.rules.map fun entry => (entry.1, entry.2.config)).Perm
    (right.rules.map fun entry => (entry.1, entry.2.config))

namespace Rearranges

theorem startingScene_eq (rearranged : left.Rearranges right) (model template : Document) :
    left.startingScene model template = right.startingScene model template := by
  obtain ⟨conventions, tags, bindings, wording, _⟩ := rearranged
  simp only [startingScene, sceneOf, prepareTemplate, wordingInUse, conventions, tags, bindings,
    wording]

theorem nodup_right (rearranged : left.Rearranges right)
    (distinct : (left.rules.map (·.1)).Nodup) : (right.rules.map (·.1)).Nodup := by
  have names := rearranged.rules.map Prod.fst
  rw [List.map_map, List.map_map] at names
  exact names.nodup_iff.mp distinct

/-- A rule that is enabled in both setups has one setting in both. -/
theorem enabledRules_agree (rearranged : left.Rearranges right)
    (distinct : (left.rules.map (·.1)).Nodup) {first second : String × Rule × Json}
    (inLeft : first ∈ left.enabledRules) (inRight : second ∈ right.enabledRules)
    (sameName : first.1 = second.1) : first = second := by
  obtain ⟨name, rule, config⟩ := first
  obtain ⟨_, other, setting⟩ := second
  obtain rfl := sameName
  obtain ⟨listed, known⟩ := mem_enabledRules_iff.mp inLeft
  obtain ⟨otherListed, otherKnown⟩ := mem_enabledRules_iff.mp inRight
  obtain rfl := Option.some.inj (known.symm.trans otherKnown)
  have moved : (name, setting) ∈ left.rules.map fun entry => (entry.1, entry.2.config) :=
    rearranged.rules.mem_iff.mpr (List.mem_map.mpr ⟨_, otherListed, rfl⟩)
  obtain ⟨entry, entryListed, same⟩ := List.mem_map.mp moved
  have sameEntry := List.inj_on_of_nodup_map distinct entryListed listed (Prod.ext_iff.mp same).1
  subst sameEntry
  have sameConfig : config = setting := (Prod.ext_iff.mp same).2
  rw [sameConfig]

end Rearranges

end Setup

/-- The issues that carry the name of a rule. -/
def Verified.issuesOf (verified : Verified) (name : String) : List Issue :=
  verified.issues.filter (·.rule == name)

theorem Scene.filter_issuesFrom (scene : Scene) (listed : String × Rule × Json) (name : String) :
    (scene.issuesFrom listed).filter (·.rule == name) =
      if listed.1 = name then scene.issuesFrom listed else [] := by
  rw [issuesFrom, List.filter_map]
  split
  · next same => simp [Function.comp_def, same]
  · next different => simp [Function.comp_def, different]

/-- Among the issues of rules with distinct names, the name of a rule picks out its own. -/
theorem Scene.filter_flatMap_issuesFrom (scene : Scene) {rules : List (String × Rule × Json)}
    (distinct : (rules.map (·.1)).Nodup) {listed : String × Rule × Json} (member : listed ∈ rules) :
    (rules.flatMap scene.issuesFrom).filter (·.rule == listed.1) = scene.issuesFrom listed := by
  induction rules with
  | nil => cases member
  | cons head rest ih =>
      obtain ⟨absent, restDistinct⟩ := List.nodup_cons.mp distinct
      rw [List.flatMap_cons, List.filter_append, filter_issuesFrom]
      rcases List.mem_cons.mp member with rfl | inRest
      · have others : (rest.flatMap scene.issuesFrom).filter (·.rule == listed.1) = [] := by
          rw [List.filter_flatMap, List.flatMap_eq_nil_iff]
          intro other inRest
          rw [filter_issuesFrom, if_neg]
          intro same
          exact absent (List.mem_map.mpr ⟨other, inRest, same⟩)
        rw [if_pos rfl, others, List.append_nil]
      · have different : head.1 ≠ listed.1 := by
          intro same
          exact absent (List.mem_map.mpr ⟨listed, inRest, same.symm⟩)
        rw [if_neg different, List.nil_append, ih restDistinct inRest]

namespace Setup

variable {setup left right : Setup} {model template : Document}

/-- The issues of an enabled rule are those that it finds in the documents as the first rule sees
them. -/
theorem issuesOf_verify (distinct : (setup.rules.map (·.1)).Nodup)
    {listed : String × Rule × Json} (enabled : listed ∈ setup.enabledRules) :
    (setup.verify model template).issuesOf listed.1 =
      (setup.startingScene model template).issuesFrom listed := by
  rw [Verified.issuesOf, verify_eq]
  exact Scene.filter_flatMap_issuesFrom _ (nodup_enabledNames distinct) enabled

theorem issues_verify (distinct : (setup.rules.map (·.1)).Nodup) :
    (setup.verify model template).issues =
      setup.enabledNames.flatMap (setup.verify model template).issuesOf := by
  rw [enabledNames, List.flatMap_map]
  calc (setup.verify model template).issues
      = setup.enabledRules.flatMap (setup.startingScene model template).issuesFrom := by
        rw [verify_eq]
    _ = setup.enabledRules.flatMap fun listed =>
          (setup.verify model template).issuesOf listed.1 :=
        List.flatMap_congr fun listed enabled => (issuesOf_verify distinct enabled).symm

/-- Setups that list the same rules in any order, and enable any of them, find the same by every rule
that both enable. The issues of each are those of its rules, one after the other, and every rule finds
what it finds in the documents before any other rule has run. -/
theorem verify_rules_independent (rearranged : left.Rearranges right)
    (distinct : (left.rules.map (·.1)).Nodup) (model template : Document) :
    (∀ name ∈ left.enabledNames, name ∈ right.enabledNames →
      (left.verify model template).issuesOf name = (right.verify model template).issuesOf name) ∧
    ∀ setup ∈ [left, right],
      (setup.verify model template).issues =
        setup.enabledNames.flatMap (setup.verify model template).issuesOf ∧
      ∀ listed ∈ setup.enabledRules, (setup.verify model template).issuesOf listed.1 =
        (setup.startingScene model template).issuesFrom listed := by
  have rightDistinct := rearranged.nodup_right distinct
  constructor
  · intro name inLeft inRight
    obtain ⟨first, firstEnabled, rfl⟩ := List.mem_map.mp inLeft
    obtain ⟨second, secondEnabled, sameName⟩ := List.mem_map.mp inRight
    obtain rfl := rearranged.enabledRules_agree distinct firstEnabled secondEnabled sameName.symm
    rw [issuesOf_verify distinct firstEnabled, issuesOf_verify rightDistinct secondEnabled,
      rearranged.startingScene_eq]
  · intro setup either
    have distinct : (setup.rules.map (·.1)).Nodup := by
      rcases List.mem_pair.mp either with rfl | rfl
      · exact distinct
      · exact rightDistinct
    exact ⟨issues_verify distinct, fun listed enabled => issuesOf_verify distinct enabled⟩

def mandatoryFirst : Setup :=
  { standard with
    rules := [("mandatory", ⟨true, .null⟩), ("uniqueness", ⟨true, .null⟩),
      ("value-validity", ⟨false, .null⟩)] }

def uniquenessFirst : Setup :=
  { standard with
    rules := [("uniqueness", ⟨true, .null⟩), ("mandatory", ⟨true, .null⟩),
      ("value-validity", ⟨true, .null⟩)] }

/-- A document with a field that has no value. -/
def emptyField : Document := .ofNode (.map [(.ofName "name", .null)])

theorem verify_uniqueness_first :
    mandatoryFirst.Rearranges uniquenessFirst ∧ (mandatoryFirst.rules.map (·.1)).Nodup ∧
    (mandatoryFirst.verify emptyField emptyField).issuesOf "mandatory" ≠ [] ∧
    (mandatoryFirst.verify emptyField emptyField).issuesOf "mandatory" =
      (uniquenessFirst.verify emptyField emptyField).issuesOf "mandatory" ∧
    (uniquenessFirst.verify emptyField emptyField).issues =
      uniquenessFirst.enabledNames.flatMap
        (uniquenessFirst.verify emptyField emptyField).issuesOf := by
  have rearranged : mandatoryFirst.Rearranges uniquenessFirst :=
    ⟨rfl, rfl, rfl, rfl, .swap _ _ _⟩
  have distinct : (mandatoryFirst.rules.map (·.1)).Nodup := by decide
  have found : ((mandatoryFirst.verify emptyField emptyField).issuesOf "mandatory").length = 1 := by
    decide +kernel
  obtain ⟨agree, ordered⟩ := verify_rules_independent rearranged distinct emptyField emptyField
  refine ⟨rearranged, distinct, ?_, agree "mandatory" (by decide) (by decide),
    (ordered uniquenessFirst (by simp)).1⟩
  intro none
  rw [none] at found
  contradiction

end Setup

end ThreatModel

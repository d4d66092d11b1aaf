import Mathlib.Data.List.Induction
import ThreatModel.Pattern.Reuse
import ThreatModel.Proofs.FirstWhere

/-!
Reuse of patterns is not seen. What a store holds is what its sources compile to, so it makes no difference
which patterns were asked for before: queries and validators that own a store answer as those do that keep
nothing.
-/

namespace ThreatModel

/-- A pattern can be made of the source. -/
def Pattern.compiles (source : String) : Bool := (compile? source).isSome

namespace PatternStore

variable {store : PatternStore} {source : String}

/-- Each pattern is the one that its source compiles to. -/
def Sound (store : PatternStore) : Prop :=
  ∀ entry ∈ store.stored, Pattern.compile? entry.1 = some entry.2

/-- The sources of the patterns, in the order they came in. -/
def sources (store : PatternStore) : List String := store.stored.map (·.1)

theorem get_cases (store : PatternStore) (source : String) :
    (∃ pattern, (source, pattern) ∈ store.stored ∧ store.get source = (some pattern, store)) ∨
    (source ∉ store.sources ∧ ∃ pattern, Pattern.compile? source = some pattern ∧
      store.get source = (some pattern, ⟨store.stored ++ [(source, pattern)]⟩)) ∨
    (source ∉ store.sources ∧ Pattern.compile? source = none ∧ store.get source = (none, store)) := by
  unfold get
  cases found : store.stored.find? (·.1 == source) with
  | some entry =>
      obtain rfl : entry.1 = source := by simpa using List.find?_some found
      exact .inl ⟨entry.2, List.mem_of_find?_eq_some found, rfl⟩
  | none =>
      have absent : source ∉ store.sources := by
        intro present
        obtain ⟨entry, stored, rfl⟩ := List.mem_map.mp present
        simpa using List.find?_eq_none.mp found entry stored
      cases compiled : Pattern.compile? source with
      | some pattern => exact .inr (.inl ⟨absent, pattern, rfl, rfl⟩)
      | none => exact .inr (.inr ⟨absent, rfl, rfl⟩)

theorem sound_empty : empty.Sound := by
  intro entry stored
  cases stored

theorem get_of_sound (sound : store.Sound) (source : String) :
    (store.get source).1 = Pattern.compile? source ∧ (store.get source).2.Sound := by
  rcases store.get_cases source with
    ⟨pattern, stored, got⟩ | ⟨_, pattern, compiled, got⟩ | ⟨_, compiled, got⟩
  · rw [got]
    exact ⟨(sound _ stored).symm, sound⟩
  · rw [got]
    refine ⟨compiled.symm, List.forall_mem_append.mpr ⟨sound, ?_⟩⟩
    exact List.forall_mem_singleton.mpr compiled
  · rw [got]
    exact ⟨compiled.symm, sound⟩

/-- The source of a pattern that compiles is listed once, and others are not. -/
theorem sources_get (store : PatternStore) (source : String) :
    (store.get source).2.sources =
      if Pattern.compiles source ∧ source ∉ store.sources then store.sources ++ [source]
      else store.sources := by
  rw [Pattern.compiles]
  rcases store.get_cases source with
    ⟨pattern, stored, got⟩ | ⟨absent, pattern, compiled, got⟩ | ⟨absent, compiled, got⟩
  · have present : source ∈ store.sources := List.mem_map_of_mem stored
    rw [got, if_neg fun ⟨_, absent⟩ => absent present]
  · rw [got, if_pos ⟨by rw [compiled]; rfl, absent⟩]
    exact List.map_append
  · rw [got, if_neg fun ⟨compiles, _⟩ => by simp [compiled] at compiles]

end PatternStore

open PatternStore (compiled?)

namespace Reusing

variable {run : Reusing α} {value : α} {next : α → Reusing β} {result : β}

/-- From every sound store the computation comes to the value, and it leaves a sound store. -/
def Yields (run : Reusing α) (value : α) : Prop :=
  ∀ store : PatternStore, store.Sound → (run store).1 = value ∧ (run store).2.Sound

theorem Yields.pure (value : α) : Yields (pure value) value := fun _ sound => ⟨rfl, sound⟩

theorem Yields.bind (first : run.Yields value) (second : (next value).Yields result) :
    Yields (run >>= next) result := by
  intro store sound
  obtain ⟨same, left⟩ := first store sound
  have last := second (run store).2 left
  rw [← same] at last
  exact last

theorem Yields.mapM {serve : α → Reusing β} {answer : α → β}
    (each : ∀ request, (serve request).Yields (answer request)) (requests : List α) :
    Yields (requests.mapM serve) (requests.map answer) := by
  induction requests with
  | nil => exact .pure []
  | cons request rest ih =>
      rw [List.mapM_cons]
      exact (each request).bind (ih.bind (.pure _))

theorem yields_compiled? (source : String) : Yields (compiled? source) (Pattern.compile? source) :=
  fun _ sound => PatternStore.get_of_sound sound source

end Reusing

namespace PatternStore

theorem sources_mapM (requested : List String) :
    (requested.mapM compiled? empty).2.sources = (requested.filter Pattern.compiles).eraseDups := by
  -- From the end, as the last pattern is looked for among those that came in before.
  induction requested using List.reverseRecOn with
  | nil => rfl
  | append_singleton before last ih =>
      have lastStep : ((before ++ [last]).mapM compiled? empty).2 =
          ((before.mapM compiled? empty).2.get last).2 := by
        rw [List.mapM_append, List.mapM_cons, List.mapM_nil]
        rfl
      rw [lastStep, sources_get, ih, List.filter_append]
      by_cases compiles : Pattern.compiles last
      · rw [List.filter_cons_of_pos compiles, List.filter_nil, eraseDups_concat]
        simp only [compiles, true_and, List.mem_eraseDups, ite_not]
      · rw [List.filter_cons_of_neg compiles, List.filter_nil, List.append_nil,
          if_neg fun both => compiles both.1]

end PatternStore

namespace Query

open Reusing (Yields yields_compiled?)

variable (query : Query) (params : Params) (input : Node)

theorem yields_requireReusing :
    Yields (query.requireReusing params) (query.requirePattern params) := by
  unfold requireReusing requirePattern
  cases query.requireString params "pattern" with
  | error fault => exact .pure _
  | ok source =>
      refine (yields_compiled? source).bind ?_
      change Yields _ (if (Pattern.compile? source).isSome then Except.ok () else
        .error (ConfigError.badPattern query.context source))
      cases Pattern.compile? source with
      | some pattern => exact .pure _
      | none => exact .pure _

theorem yields_checkReusing : Yields (query.checkReusing params) (query.check params) := by
  cases query with
  | regexSplit => exact yields_requireReusing .regexSplit params
  | regexMatch => exact yields_requireReusing .regexMatch params
  | regexReplace =>
      refine (yields_requireReusing .regexReplace params).bind ?_
      rw [check]
      cases requirePattern .regexReplace params with
      | error fault => exact .pure _
      | ok _ =>
          cases requireString .regexReplace params "replacement" with
          | error fault => exact .pure _
          | ok _ => exact .pure _
  | table | list | text | «attribute» | urlDecode | splitLines => exact .pure _

theorem yields_withPattern (work : Pattern → Node) :
    Yields (withPattern params input work)
      (match params.pattern? with
        | some pattern => work pattern
        | none => input) := by
  unfold withPattern Params.pattern?
  cases params.string? "pattern" with
  | none => exact .pure _
  | some source =>
      refine (yields_compiled? source).bind ?_
      rw [Option.bind_some]
      cases Pattern.compile? source with
      | some pattern => exact .pure _
      | none => exact .pure _

theorem yields_applyReusing : Yields (query.applyReusing params input) (query.apply params input) := by
  cases query with
  | regexSplit | regexMatch | regexReplace => exact yields_withPattern params input _
  | table | list | text | «attribute» | urlDecode | splitLines => exact .pure _

theorem yields_answerReusing (request : Request) :
    Yields (query.answerReusing request) (query.answer request) := by
  cases request with
  | check params => exact (yields_checkReusing query params).bind (.pure _)
  | apply params input => exact (yields_applyReusing query params input).bind (.pure _)

end Query

namespace Validator

open Reusing (Yields yields_compiled?)

variable (validator : Validator) (config : Json)

theorem yields_testReusing : Yields (validator.testReusing config) (validator.test? config) := by
  cases validator with
  | regex =>
      rw [testReusing, test?, ← patternSource?]
      cases shaped .regex (patternSource? config) with
      | error fault => exact .pure _
      | ok source =>
          refine (yields_compiled? source).bind ?_
          change Yields _ (match Pattern.compile? source with
            | some compiled => Except.ok (ValueTest.pattern compiled)
            | none => .error (ConfigError.badPattern regex.name source))
          cases Pattern.compile? source with
          | some compiled => exact .pure _
          | none => exact .pure _
  | date | stringMethod | templateMatch | «exists» => exact .pure _

theorem yields_answerReusing (request : Request) :
    Yields (validator.answerReusing request) (validator.answer request) := by
  cases request with
  | check config => exact (yields_testReusing validator config).bind (.pure _)
  | validate config model template value =>
      refine (yields_testReusing validator config).bind ?_
      rw [answer, passes]
      cases validator.test? config with
      | ok test => exact .pure _
      | error fault => exact .pure _

end Validator

/-- A store gives for each source what it compiles to, whatever was asked for before, and holds the sources
that compile, each once. So no answer of a query or a validator that owns a store depends on what it was
asked before. -/
theorem reuse_unseen :
    (∀ requested : List String,
      (requested.mapM compiled? .empty).1 = requested.map Pattern.compile? ∧
      (requested.mapM compiled? .empty).2.sources = (requested.filter Pattern.compiles).eraseDups ∧
      (requested.mapM compiled? .empty).2.size = (requested.filter Pattern.compiles).eraseDups.length) ∧
    (∀ (query : Query) (requests : List Query.Request),
      (requests.mapM query.answerReusing .empty).1 = requests.map query.answer) ∧
    ∀ (validator : Validator) (requests : List Validator.Request),
      (requests.mapM validator.answerReusing .empty).1 = requests.map validator.answer := by
  refine ⟨fun requested => ?_, fun query requests => ?_, fun validator requests => ?_⟩
  · have compiled := Reusing.Yields.mapM Reusing.yields_compiled? requested
    have sources := PatternStore.sources_mapM requested
    refine ⟨(compiled _ PatternStore.sound_empty).1, sources, ?_⟩
    rw [← sources, PatternStore.sources, List.length_map, PatternStore.size]
  · exact (Reusing.Yields.mapM query.yields_answerReusing requests _ PatternStore.sound_empty).1
  · exact (Reusing.Yields.mapM validator.yields_answerReusing requests _ PatternStore.sound_empty).1

end ThreatModel

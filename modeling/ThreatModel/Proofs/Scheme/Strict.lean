import ThreatModel.Scheme.Engine

/-!
Strict interpretation. It stops where `interpret` has an answer ready for a fault of the scheme: at a
name that is not registered, and at parameters that a query or a post-processor cannot work with. On a
scheme that passes the check it stops nowhere, and a scheme fails the check only for such a fault.
-/

namespace ThreatModel

section Traversal

variable {α β ε : Type} {items : List α}

theorem forM_eq_ok_iff {check : α → Except ε Unit} :
    items.forM check = .ok () ↔ ∀ item ∈ items, check item = .ok () := by
  induction items with
  | nil => exact iff_of_true rfl (List.forall_mem_nil _)
  | cons item rest ih =>
      have step : (item :: rest).forM check = (check item >>= fun _ => rest.forM check) := rfl
      rw [step, List.forall_mem_cons, ← ih]
      cases check item with
      | error fault => simp [bind, Except.bind]
      | ok => simp [bind, Except.bind]

theorem exists_of_forM_eq_error {check : α → Except ε Unit} {fault : ε}
    (failed : items.forM check = .error fault) : ∃ item ∈ items, check item = .error fault := by
  induction items with
  | nil => cases failed
  | cons item rest ih =>
      have step : (item :: rest).forM check = (check item >>= fun _ => rest.forM check) := rfl
      rw [step] at failed
      cases first : check item with
      | error early =>
          rw [first] at failed
          cases failed
          exact ⟨item, List.mem_cons_self, first⟩
      | ok =>
          rw [first] at failed
          obtain ⟨found, member, rejected⟩ := ih failed
          exact ⟨found, List.mem_cons_of_mem _ member, rejected⟩

theorem foldlM_eq_ok {step : β → α → Except ε β} {total : β → α → β} (start : β)
    (agree : ∀ item ∈ items, ∀ value, step value item = .ok (total value item)) :
    items.foldlM step start = .ok (items.foldl total start) := by
  induction items generalizing start with
  | nil => rfl
  | cons item rest ih =>
      rw [List.foldlM_cons, agree item List.mem_cons_self]
      exact ih (total start item) fun other member => agree other (List.mem_cons_of_mem _ member)

theorem mapM_eq_ok {step : α → Except ε β} {total : α → β}
    (agree : ∀ item ∈ items, step item = .ok (total item)) : items.mapM step = .ok (items.map total) := by
  induction items with
  | nil => rfl
  | cons item rest ih =>
      rw [List.mapM_cons, agree item List.mem_cons_self,
        ih fun other member => agree other (List.mem_cons_of_mem _ member)]
      rfl

end Traversal

namespace Query

/-- The pattern, which has to be there and to compile. -/
def compiledPattern (query : Query) (params : Params) : Except ConfigError Pattern := do
  let source ← query.requireString params "pattern"
  match Pattern.compile? source with
  | some pattern => .ok pattern
  | none => .error (.badPattern query.context source)

/-- Apply a query, or fail if a parameter that it needs is absent or does not compile. -/
def applyStrict (query : Query) (params : Params) (input : Node) : Except ConfigError Node :=
  match query with
  | .attribute => do
      let name ← query.requireString params "name"
      match input with
      | .map entries => .ok ((Mapping.get? entries name).getD .null)
      | _ => .ok .null
  | .regexSplit => do
      let pattern ← query.compiledPattern params
      .ok (applySplit pattern input)
  | .regexMatch => do
      let pattern ← query.compiledPattern params
      .ok (perText (matchedGroup pattern ((params.nat? "group").getD 0)) input)
  | .regexReplace => do
      let pattern ← query.compiledPattern params
      let replacement ← query.requireString params "replacement"
      .ok (perText (fun leaf => .text (leaf.map (pattern.replaceAll · replacement))) input)
  | query => .ok (query.apply params input)

variable {query : Query} {params : Params}

theorem requireString_eq_ok {name value : String}
    (present : query.requireString params name = .ok value) : params.string? name = some value := by
  rw [requireString] at present
  split at present
  · next found => cases present; exact found
  · cases present

theorem compiledPattern_of_requirePattern (accepted : query.requirePattern params = .ok ()) :
    ∃ pattern, query.compiledPattern params = .ok pattern ∧ params.pattern? = some pattern := by
  cases required : query.requireString params "pattern" with
  | error fault =>
      rw [requirePattern, required] at accepted
      cases accepted
  | ok source =>
      have given := requireString_eq_ok required
      cases compiled : Pattern.compile? source with
      | none =>
          simp [requirePattern, required, compiled, bind, Except.bind] at accepted
      | some pattern =>
          refine ⟨pattern, ?_, ?_⟩
          · simp [compiledPattern, required, compiled, bind, Except.bind]
          · rw [Params.pattern?, given, Option.bind_some, compiled]

/-- What passes its check has all that it needs. -/
theorem applyStrict_of_check (accepted : query.check params = .ok ()) (input : Node) :
    query.applyStrict params input = .ok (query.apply params input) := by
  cases query with
  | table | list | text | urlDecode | splitLines => rfl
  | «attribute» =>
      cases required : Query.attribute.requireString params "name" with
      | error fault =>
          rw [check, required] at accepted
          cases accepted
      | ok name =>
          have given := requireString_eq_ok required
          cases input <;> simp [applyStrict, apply, required, given, bind, Except.bind]
  | regexSplit =>
      obtain ⟨pattern, compiled, given⟩ := compiledPattern_of_requirePattern accepted
      rw [applyStrict, compiled, apply, given]
      rfl
  | regexMatch =>
      obtain ⟨pattern, compiled, given⟩ := compiledPattern_of_requirePattern accepted
      rw [applyStrict, compiled, apply, given]
      rfl
  | regexReplace =>
      cases first : regexReplace.requirePattern params with
      | error fault =>
          rw [check, first] at accepted
          cases accepted
      | ok =>
          cases required : regexReplace.requireString params "replacement" with
          | error fault =>
              rw [check, first, required] at accepted
              cases accepted
          | ok replacement =>
              obtain ⟨pattern, compiled, given⟩ := compiledPattern_of_requirePattern first
              rw [applyStrict, compiled, required, apply, given, requireString_eq_ok required]
              rfl

end Query

namespace PostProcessor

/-- Apply a post-processor, or fail if it cannot work with its setting. -/
def applyStrict (processor : PostProcessor) (config : Json) (output : Node) :
    Except ConfigError Node :=
  match processor with
  | .inheritRowAbove =>
      match namesIn config with
      | [] => .error (.invalid processor.name "expects a key name or a list of key names")
      | names => .ok (onRows (fun rows => names.foldl (fun rows name => fillDown name none rows) rows)
          output)
  | .valueReplace =>
      match replacements? config with
      | some table => .ok (mapTexts (replaceValue table) output)
      | none => .error (.malformed processor.name)
  | processor => .ok (processor.apply config output)

theorem applyStrict_of_check {processor : PostProcessor} {config : Json}
    (accepted : processor.check config = .ok ()) (output : Node) :
    processor.applyStrict config output = .ok (processor.apply config output) := by
  cases processor with
  | removeEmptyRows | removeHeaderRow | stripWhitespace => rfl
  | inheritRowAbove =>
      rw [applyStrict, apply]
      cases names : namesIn config with
      | nil => simp [check, names] at accepted
      | cons name rest => rfl
  | valueReplace =>
      rw [applyStrict, apply]
      cases table : replacements? config with
      | none => simp [check, table] at accepted
      | some replacements => rfl

end PostProcessor

namespace ValueDef

mutual

/-- The definition and all definitions inside, in the order in which they are checked. -/
def definitions : ValueDef → List ValueDef
  | ⟨getData, mapData, output⟩ => ⟨getData, mapData, output⟩ :: definitionsOfMapData mapData

def definitionsOfMapData : Option (List (KeySpec × ValueDef)) → List ValueDef
  | none => []
  | some entries => definitionsOfEntries entries

def definitionsOfEntries : List (KeySpec × ValueDef) → List ValueDef
  | [] => []
  | (_, value) :: rest => definitions value ++ definitionsOfEntries rest

end

end ValueDef

namespace Registry

/-- A query or a post-processor of a definition is not registered, or its own check rejects its
parameters. -/
inductive Faulty (registry : Registry) (definition : ValueDef) : ConfigError → Prop
  | unknownQuery {spec : QuerySpec} (listed : spec ∈ definition.getData.queries)
      (unregistered : registry.query? spec.name = none) :
      registry.Faulty definition (.unknownQuery spec.name)
  | query {spec : QuerySpec} {query : Query} {fault : ConfigError}
      (listed : spec ∈ definition.getData.queries)
      (registered : registry.query? spec.name = some query)
      (rejected : query.check spec.params = .error fault) : registry.Faulty definition fault
  | unknownProcessor {spec : String × Json} (listed : spec ∈ processorsOf definition.output)
      (unregistered : registry.processor? spec.1 = none) :
      registry.Faulty definition (.unknownPostProcessor spec.1)
  | processor {spec : String × Json} {processor : PostProcessor} {fault : ConfigError}
      (listed : spec ∈ processorsOf definition.output)
      (registered : registry.processor? spec.1 = some processor)
      (rejected : processor.check spec.2 = .error fault) : registry.Faulty definition fault

def runQueryStrict (registry : Registry) (input : Node) (spec : QuerySpec) :
    Except ConfigError Node :=
  match registry.query? spec.name with
  | some query => query.applyStrict spec.params input
  | none => .error (.unknownQuery spec.name)

def runProcessorStrict (registry : Registry) (output : Node) (spec : String × Json) :
    Except ConfigError Node :=
  match registry.processor? spec.1 with
  | some processor => processor.applyStrict spec.2 output
  | none => .error (.unknownPostProcessor spec.1)

def finishStrict (registry : Registry) (output : Option OutputSpec) (data : Node) :
    Except ConfigError Node :=
  match output with
  | none => .ok data
  | some output => do
      let processed ← output.processors.foldlM registry.runProcessorStrict data
      .ok (inShape output.shape processed)

mutual

/-- Interpret a scheme, or fail at the first fault that is met on the way. -/
def interpretStrict (registry : Registry) : ValueDef → Node → Except ConfigError Node
  | ⟨getData, mapData, output⟩, input => do
      let data ← getData.queries.foldlM registry.runQueryStrict input
      interpretMapDataStrict registry output mapData data

def interpretMapDataStrict (registry : Registry) (output : Option OutputSpec) :
    Option (List (KeySpec × ValueDef)) → Node → Except ConfigError Node
  | none, data => registry.finishStrict output data
  | some entries, data =>
      match data with
      | .null => .ok .null
      | .list items => do
          let mappings ← items.mapM fun item => interpretEntriesStrict registry entries [] item
          registry.finishStrict output (.list (mappings.map .map))
      | data => do
          let mapping ← interpretEntriesStrict registry entries [] data
          registry.finishStrict output (.map mapping)

def interpretEntriesStrict (registry : Registry) :
    List (KeySpec × ValueDef) → Mapping → Node → Except ConfigError Mapping
  | [], done, _ => .ok done
  | (key, value) :: rest, done, input => do
      let built ← interpretStrict registry value input
      interpretEntriesStrict registry rest (insertValue done key built) input

end

/-- The check of one definition, without those inside. -/
def checkOwn (registry : Registry) (definition : ValueDef) : Except ConfigError Unit := do
  definition.getData.queries.forM registry.checkQuery
  (processorsOf definition.output).forM registry.checkProcessor

section Check

variable {registry : Registry} {definition : ValueDef} {fault : ConfigError}

theorem faulty_of_checkQuery {spec : QuerySpec} (listed : spec ∈ definition.getData.queries)
    (failed : registry.checkQuery spec = .error fault) : registry.Faulty definition fault := by
  rw [checkQuery] at failed
  split at failed
  · next registered => exact .query listed registered failed
  · next unregistered =>
      cases failed
      exact .unknownQuery listed unregistered

theorem faulty_of_checkProcessor {spec : String × Json}
    (listed : spec ∈ processorsOf definition.output)
    (failed : registry.checkProcessor spec = .error fault) : registry.Faulty definition fault := by
  rw [checkProcessor] at failed
  split at failed
  · next registered => exact .processor listed registered failed
  · next unregistered =>
      cases failed
      exact .unknownProcessor listed unregistered

theorem faulty_of_checkOwn (failed : registry.checkOwn definition = .error fault) :
    registry.Faulty definition fault := by
  rw [checkOwn] at failed
  cases queries : definition.getData.queries.forM registry.checkQuery with
  | error early =>
      rw [queries] at failed
      cases failed
      obtain ⟨spec, listed, rejected⟩ := exists_of_forM_eq_error queries
      exact faulty_of_checkQuery listed rejected
  | ok =>
      rw [queries] at failed
      obtain ⟨spec, listed, rejected⟩ := exists_of_forM_eq_error failed
      exact faulty_of_checkProcessor listed rejected

theorem checkOwn_eq_ok_iff : registry.checkOwn definition = .ok () ↔
    (∀ spec ∈ definition.getData.queries, registry.checkQuery spec = .ok ()) ∧
    ∀ spec ∈ processorsOf definition.output, registry.checkProcessor spec = .ok () := by
  rw [checkOwn, ← forM_eq_ok_iff, ← forM_eq_ok_iff]
  cases definition.getData.queries.forM registry.checkQuery <;> simp [bind, Except.bind]

theorem runQueryStrict_of_check {spec : QuerySpec} (accepted : registry.checkQuery spec = .ok ())
    (input : Node) : registry.runQueryStrict input spec = .ok (registry.runQuery input spec) := by
  rw [checkQuery] at accepted
  cases registered : registry.query? spec.name with
  | none => simp [registered] at accepted
  | some query =>
      rw [registered] at accepted
      rw [runQueryStrict, runQuery, registered]
      exact Query.applyStrict_of_check accepted input

theorem runProcessorStrict_of_check {spec : String × Json}
    (accepted : registry.checkProcessor spec = .ok ()) (output : Node) :
    registry.runProcessorStrict output spec = .ok (registry.runProcessor output spec) := by
  rw [checkProcessor] at accepted
  cases registered : registry.processor? spec.1 with
  | none => simp [registered] at accepted
  | some processor =>
      rw [registered] at accepted
      rw [runProcessorStrict, runProcessor, registered]
      exact PostProcessor.applyStrict_of_check accepted output

theorem finishStrict_of_check {output : Option OutputSpec}
    (accepted : ∀ spec ∈ processorsOf output, registry.checkProcessor spec = .ok ()) (data : Node) :
    registry.finishStrict output data = .ok (registry.finish output data) := by
  cases output with
  | none => rfl
  | some output =>
      have processed : output.processors.foldlM registry.runProcessorStrict data =
          .ok (output.processors.foldl registry.runProcessor data) :=
        foldlM_eq_ok data fun spec listed => runProcessorStrict_of_check (accepted spec listed)
      rw [finishStrict, processed]
      rfl

end Check

section Definitions

variable (registry : Registry)

mutual

/-- The check of a scheme goes through its definitions, one after the other. -/
theorem check_eq_forM : (scheme : ValueDef) →
    registry.check scheme = scheme.definitions.forM registry.checkOwn
  | ⟨getData, mapData, output⟩ => by
      have first : (ValueDef.definitions ⟨getData, mapData, output⟩).forM registry.checkOwn =
          (do
            registry.checkOwn ⟨getData, mapData, output⟩
            (ValueDef.definitionsOfMapData mapData).forM registry.checkOwn) := rfl
      rw [first, check, checkMapData_eq_forM mapData, checkOwn, bind_assoc]

theorem checkMapData_eq_forM : (mapData : Option (List (KeySpec × ValueDef))) →
    registry.checkMapData mapData =
      (ValueDef.definitionsOfMapData mapData).forM registry.checkOwn
  | none => rfl
  | some entries => by
      rw [checkMapData, checkEntries_eq_forM entries, ValueDef.definitionsOfMapData]

theorem checkEntries_eq_forM : (entries : List (KeySpec × ValueDef)) →
    registry.checkEntries entries =
      (ValueDef.definitionsOfEntries entries).forM registry.checkOwn
  | [] => rfl
  | (_, value) :: rest => by
      rw [checkEntries, check_eq_forM value, checkEntries_eq_forM rest]
      exact List.forM_append.symm

end

mutual

theorem interpretStrict_eq_ok : (scheme : ValueDef) →
    (∀ inner ∈ scheme.definitions, registry.checkOwn inner = .ok ()) → (input : Node) →
    registry.interpretStrict scheme input = .ok (registry.interpret scheme input)
  | ⟨getData, mapData, output⟩, accepted, input => by
      obtain ⟨own, inside⟩ := List.forall_mem_cons.mp accepted
      obtain ⟨queries, processors⟩ := checkOwn_eq_ok_iff.mp own
      have selected : getData.queries.foldlM registry.runQueryStrict input =
          .ok (registry.runQueries getData input) :=
        foldlM_eq_ok input fun spec listed => runQueryStrict_of_check (queries spec listed)
      rw [interpretStrict, selected, interpret]
      exact interpretMapDataStrict_eq_ok output processors mapData inside _

theorem interpretMapDataStrict_eq_ok (output : Option OutputSpec)
    (processors : ∀ spec ∈ processorsOf output, registry.checkProcessor spec = .ok ()) :
    (mapData : Option (List (KeySpec × ValueDef))) →
    (∀ inner ∈ ValueDef.definitionsOfMapData mapData, registry.checkOwn inner = .ok ()) →
    (data : Node) → registry.interpretMapDataStrict output mapData data =
      .ok (registry.interpretMapData output mapData data)
  | none, _, data => finishStrict_of_check processors data
  | some entries, accepted, data => by
      have built := interpretEntriesStrict_eq_ok entries accepted
      cases data with
      | null => rfl
      | list items =>
          let build (item : Node) := registry.interpretEntries entries [] item
          have each : items.mapM (registry.interpretEntriesStrict entries []) =
              .ok (items.map build) := by
            rw [funext (built [])]
            exact List.mapM_pure
          have mapped : (items.map build).map Node.map =
              items.map fun item => Node.map (build item) := List.map_map
          rw [interpretMapDataStrict, each, interpretMapData, ← mapped]
          exact finishStrict_of_check processors _
      | text | map =>
          simp only [interpretMapDataStrict, built, interpretMapData]
          exact finishStrict_of_check processors _

theorem interpretEntriesStrict_eq_ok : (entries : List (KeySpec × ValueDef)) →
    (∀ inner ∈ ValueDef.definitionsOfEntries entries, registry.checkOwn inner = .ok ()) →
    (done : Mapping) → (input : Node) → registry.interpretEntriesStrict entries done input =
      .ok (registry.interpretEntries entries done input)
  | [], _, _, _ => rfl
  | (key, value) :: rest, accepted, done, input => by
      obtain ⟨first, others⟩ := List.forall_mem_append.mp accepted
      rw [interpretEntriesStrict, interpretStrict_eq_ok value first input, interpretEntries]
      exact interpretEntriesStrict_eq_ok rest others _ input

end

/-- A scheme that passes the check is interpreted without a fault, whatever the content; a scheme fails
the check only for a fault in one of its definitions. -/
theorem check_exact (scheme : ValueDef) :
    (registry.check scheme = .ok () → ∀ input,
      registry.interpretStrict scheme input = .ok (registry.interpret scheme input)) ∧
    ∀ fault, registry.check scheme = .error fault →
      ∃ inner ∈ scheme.definitions, registry.Faulty inner fault := by
  rw [check_eq_forM]
  constructor
  · intro accepted
    exact registry.interpretStrict_eq_ok scheme (forM_eq_ok_iff.mp accepted)
  · intro fault failed
    obtain ⟨inner, member, rejected⟩ := exists_of_forM_eq_error failed
    exact ⟨inner, member, faulty_of_checkOwn rejected⟩

/-- Rows from the parts of a text, each under a name that a nested definition gives a value. -/
def rowScheme (value : List QuerySpec) : ValueDef :=
  ⟨.one ⟨"regex-split", [("pattern", .string ",")]⟩,
    some [(.plain "asset", ⟨.many value, none, none⟩)],
    some ⟨some .list, [("value-replace", .array [.object [("match", .string "db"),
      ("replacement", .string "database")]])]⟩⟩

def trimmedRows : ValueDef := rowScheme [⟨"text", []⟩]

/-- The nested definition has a pattern that does not compile. -/
def unreadableRows : ValueDef := rowScheme [⟨"regex-match", [("pattern", .string "(")]⟩]

theorem check_exact_on_rows :
    (builtin.check trimmedRows = .ok () ∧
      builtin.interpretStrict trimmedRows (.ofString "db, log") =
        .ok (builtin.interpret trimmedRows (.ofString "db, log")) ∧
      builtin.interpret trimmedRows (.ofString "db, log") =
        .list [.map [(.ofName "asset", .ofString "database")],
          .map [(.ofName "asset", .ofString "log")]]) ∧
    builtin.check unreadableRows = .error (.badPattern "query \"regex-match\"" "(") ∧
    ∃ inner ∈ unreadableRows.definitions,
      builtin.Faulty inner (.badPattern "query \"regex-match\"" "(") := by
  have passes : builtin.check trimmedRows = .ok () := rfl
  have fails : builtin.check unreadableRows =
      .error (.badPattern "query \"regex-match\"" "(") := rfl
  refine ⟨⟨passes, (check_exact builtin trimmedRows).1 passes _, rfl⟩, fails, ?_⟩
  exact (check_exact builtin unreadableRows).2 _ fails

end Definitions

end Registry

end ThreatModel

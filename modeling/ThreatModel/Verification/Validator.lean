import ThreatModel.Calendar.Reading
import ThreatModel.Chars.Quoted
import ThreatModel.Chars.Substitute
import ThreatModel.ConfigError
import ThreatModel.Pattern.Basic
import ThreatModel.Reference.Resolve
import ThreatModel.Settings.Source
import ThreatModel.Unicode.Category
import ThreatModel.Unicode.Properties

/-!
Validators: tests of single values. A tag is bound to a validator and its setting; reading the
setting yields a test (`Validator.test?`), and a setting that cannot be read passes no value.
-/

namespace ThreatModel

/-- What can be asked of the characters of a text. -/
inductive TextProperty
  | isNumeric
  | isAlphabetic
  | isAlphanumeric
  | isLowercase
  | isUppercase
  | isAscii
  | startsWith
  | endsWith
  | contains
deriving DecidableEq, Repr

namespace TextProperty

def words : List (String × TextProperty) :=
  [("is-numeric", .isNumeric), ("is-alphabetic", .isAlphabetic),
    ("is-alphanumeric", .isAlphanumeric), ("is-lowercase", .isLowercase),
    ("is-uppercase", .isUppercase), ("is-ascii", .isAscii), ("starts-with", .startsWith),
    ("ends-with", .endsWith), ("contains", .contains)]

def needsArgument : TextProperty → Bool
  | .startsWith => true
  | .endsWith => true
  | .contains => true
  | _ => false

def isNumericChar (c : Char) : Bool := Unicode.numbers.contains c.toNat

def isAlphabeticChar (c : Char) : Bool := Unicode.alphabetic.contains c.toNat

/-- Whether a text has the property. A text without letters is neither in lower case nor in upper
case, and an empty one is neither numeric nor alphabetic. -/
def holds (property : TextProperty) (argument value : String) : Bool :=
  let chars := value.toList
  match property with
  | .isNumeric => !chars.isEmpty && chars.all isNumericChar
  | .isAlphabetic => !chars.isEmpty && chars.all isAlphabeticChar
  | .isAlphanumeric =>
      !chars.isEmpty && chars.all fun c => isAlphabeticChar c || isNumericChar c
  | .isLowercase =>
      chars.any isAlphabeticChar && !chars.any (Unicode.uppercaseLetters.contains ·.toNat)
  | .isUppercase =>
      chars.any isAlphabeticChar && !chars.any (Unicode.lowercaseLetters.contains ·.toNat)
  | .isAscii => chars.all (·.toNat < 128)
  | .startsWith => ThreatModel.startsWith value argument
  | .endsWith => ThreatModel.endsWith value argument
  | .contains => Chars.containsText value argument

end TextProperty

/-- Which of the two documents is meant. -/
inductive Side
  | model
  | template
deriving DecidableEq, Repr

/-- A test of values. -/
inductive ValueTest
  /-- A date in one of the formats. -/
  | date (formats : List String)
  /-- Some part matches. -/
  | pattern (compiled : Pattern)
  /-- The text without white space around it has a property. -/
  | property (wanted : TextProperty) (argument : String)
  /-- Equal to a text of the template under a tag. -/
  | templateMatch (tag : String)
  /-- Equal to a text of a column of a section. -/
  | exists (dataTag fieldTag : String) (side : Side)

/-- Some text below the keys carrying `tag` in `region` equals the value. -/
def Document.holdsText (doc : Document) (region : Item) (tag value : String) : Bool :=
  (doc.findAllTagged region tag).any fun entry =>
    entry.2.texts.any fun text => normalise text == normalise value

/-- Whether a value passes, with the model and the template at hand. -/
def ValueTest.passes (test : ValueTest) (model template : Document) (value : String) : Bool :=
  match test with
  | .date formats =>
      let trimmed := Unicode.trim value
      formats.any fun format => (Calendar.Date.parse? format trimmed).isSome
  | .pattern compiled => compiled.isMatch value
  | .property wanted argument => wanted.holds argument (Unicode.trim value)
  | .templateMatch tag => template.holdsText template.root tag value
  | .exists dataTag fieldTag side =>
      let doc := match side with
        | .model => model
        | .template => template
      match doc.section? dataTag with
      | some (_, region) => doc.holdsText region fieldTag value
      | none => false

inductive Validator
  | date
  | regex
  | stringMethod
  | templateMatch
  | exists
deriving DecidableEq, Repr

namespace Validator

def all : List Validator := [.date, .regex, .stringMethod, .templateMatch, .exists]

def name : Validator → String
  | .date => "date"
  | .regex => "regex"
  | .stringMethod => "string-method"
  | .templateMatch => "template-match"
  | .exists => "exists"

def ofName? (name : String) : Option Validator :=
  all.find? (·.name == name)

/-- The module that outcomes name as the home of the validators. -/
def home : String := "tmv_verify::validators"

/-- The formats of dates where none are given. -/
def standardFormats : List String := ["%Y-%m-%d", "%d.%m.%Y", "%d/%m/%Y"]

/-- The fields of a setting; the absent one is an empty record. -/
def settingFields? (fields : List String) (config : Json) : Option (List (String × Source)) :=
  match config with
  | .null => some []
  | config => (Source.json config).record? fields true

/-- A value, or the fault that the setting does not have the shape it should. -/
def shaped (validator : Validator) : Option α → Except ConfigError α
  | some value => .ok value
  | none => .error (.malformed validator.name)

/-- The test that a setting asks for. -/
def test? (validator : Validator) (config : Json) : Except ConfigError ValueTest :=
  match validator with
  | .date => validator.shaped do
      let record ← settingFields? ["formats"] config
      let formats ← Source.withDefault? record "formats" Source.strings? standardFormats
      some (.date formats)
  | .regex => do
      let source ← validator.shaped do
        let record ← settingFields? ["pattern"] config
        Source.required? record "pattern" Source.string?
      match Pattern.compile? source with
      | some compiled => .ok (.pattern compiled)
      | none => .error (.badPattern validator.name source)
  | .stringMethod => do
      let (wanted, argument) ← validator.shaped do
        let record ← settingFields? ["method", "argument"] config
        let wanted ← Source.required? record "method" (Source.choice? TextProperty.words)
        let argument ← Source.withDefault? record "argument" (Source.optional? Source.string?) none
        some (wanted, argument)
      if wanted.needsArgument && argument.isNone then
        .error (.missingKey validator.name "argument")
      else .ok (.property wanted (argument.getD ""))
  | .templateMatch => validator.shaped do
      let record ← settingFields? ["tag"] config
      let tag ← Source.required? record "tag" Source.string?
      some (.templateMatch tag)
  | .exists => validator.shaped do
      let record ← settingFields? ["data-tag", "field-tag", "document"] config
      let dataTag ← Source.required? record "data-tag" Source.string?
      let fieldTag ← Source.required? record "field-tag" Source.string?
      let side ← Source.withDefault? record "document"
        (Source.choice? [("model", Side.model), ("template", .template)]) .model
      some (.exists dataTag fieldTag side)

/-- Whether a value passes under a setting. -/
def passes (validator : Validator) (config : Json) (model template : Document) (value : String) :
    Bool :=
  match validator.test? config with
  | .ok test => test.passes model template value
  | .error _ => false

end Validator

/-- What a tag is bound to. -/
structure Binding where
  validator : String
  config : Json
  /-- What is expected, in words. -/
  description : Option String
deriving Inhabited

/-- Bindings by tag, in order. -/
abbrev Bindings := List (String × Binding)

/-- What a validator said about a value. -/
structure Verdict where
  passed : Bool
  validator : String
  home : String
  /-- What was expected. -/
  expectation : String
  /-- Why no validator could be asked. -/
  error : Option String
deriving DecidableEq, Repr

namespace Verdict

/-- No validator could be asked. -/
def miss (validator error : String) : Verdict := ⟨false, validator, "", "", some error⟩

def toJson (verdict : Verdict) : Json :=
  .object ([("result", Json.bool verdict.passed), ("validator-name", .string verdict.validator),
    ("validator-module", .string verdict.home), ("description", .string verdict.expectation)] ++
    (verdict.error.map fun error => ("error", Json.string error)).toList)

end Verdict

namespace Bindings

def find? (bindings : Bindings) (tag : String) : Option Binding :=
  (List.find? (·.1 == tag) bindings).map (·.2)

/-- The first fault of the bindings. -/
def check (bindings : Bindings) : Except ConfigError Unit :=
  bindings.forM fun (tag, binding) =>
    match Validator.ofName? binding.validator with
    | some validator => (validator.test? binding.config).map fun _ => ()
    | none => .error (.unknownValidator tag binding.validator)

/-- Ask the validator that a tag is bound to. -/
def judge (bindings : Bindings) (tag : String) (model template : Document) (value : String) :
    Verdict :=
  match find? bindings tag with
  | none => .miss "" ("no validator configured for tag " ++ Chars.quoted tag)
  | some binding =>
      match Validator.ofName? binding.validator with
      | none =>
          .miss binding.validator
            ("validator " ++ Chars.quoted binding.validator ++ " is not registered")
      | some validator =>
          ⟨validator.passes binding.config model template value, validator.name, Validator.home,
            binding.description.getD validator.name, none⟩

end Bindings

end ThreatModel

import ThreatModel.Rule.Basic

/-!
Values that have to refer to something. A value resolves in the model at another key, in the
template, or at a key of the template whose values are approved as they are: one that refers into
the template without its values being found there through references of the document.
-/

namespace ThreatModel.Rule

/-- The key has reference tags of the family. -/
def refersBy (family : String) (key : Key) : Bool :=
  !(ReferenceTag.ofKey key family).isEmpty

/-- Nothing but the key itself is found for a value. -/
def findsNoOther (doc : Document) (family : String) (key : KeyId) (value : String) : Bool :=
  (doc.references family (doc.key key) value none).all fun found => found.key == key

/-- The values of a key of the template are approved as they are. A key without values approves
none. -/
def approves (template : Document) (conventions : Conventions) (key : KeyId) : Bool :=
  let values := filledTexts (template.textsOf key)
  refersBy conventions.templateFamily (template.key key) && !values.isEmpty &&
    values.all (findsNoOther template conventions.documentFamily key)

def approvedKeys (template : Document) (conventions : Conventions) : List KeyId :=
  template.keyIds.filter (approves template conventions)

/-- Mark the keys of the template whose values are approved as they are. -/
def markApproved (template : Document) (conventions : Conventions) : Document :=
  (approvedKeys template conventions).foldl
    (fun doc key => doc.setProperty key Property.preApproved (.bool true)) template

/-- The key is marked as approved. -/
def isMarked (key : Key) : Bool :=
  ((key.property? Property.preApproved).bind Json.asBool?) == some true

/-- A marked key of the template has the name and holds the value. -/
def isApproved (template : Document) (name value : String) : Bool :=
  template.keyIds.any fun key =>
    (template.key key).name == name && isMarked (template.key key) &&
      (template.textsOf key).any fun text => normalise text == normalise value

/-- A value of a key of the model resolves. -/
def resolves (scene : Scene) (key : KeyId) (value : String) : Bool :=
  !findsNoOther scene.model scene.conventions.documentFamily key value ||
    !(scene.template.references scene.conventions.templateFamily (scene.model.key key) value
      none).isEmpty ||
    isApproved scene.template (scene.model.key key).name value

def unresolvedIssue (scene : Scene) (key : KeyId) (value : String) : Issue :=
  let conventions := scene.conventions
  let referring := scene.model.key key
  let targets := fun (doc : Document) family =>
    Json.array ((doc.targets family referring).map ReferenceTarget.toJson)
  scene.issueAt key .error "unresolved-reference"
    [("field", scene.model.label key), ("value", value)]
    (.object [("key", .string referring.name), ("value", .string value)])
    (some (.object [("document", targets scene.model conventions.documentFamily),
      ("template", targets scene.template conventions.templateFamily)]))

/-- The key refers to something, in either document. -/
def refers (scene : Scene) (key : KeyId) : Bool :=
  refersBy scene.conventions.documentFamily (scene.model.key key) ||
    refersBy scene.conventions.templateFamily (scene.model.key key)

/-- The values that resolve nowhere, with their keys. -/
def unresolved (scene : Scene) : List (KeyId × String) :=
  (scene.model.keyIds.filter (refers scene)).flatMap fun key =>
    ((filledTexts (scene.model.textsOf key)).filter fun value => !resolves scene key value).map
      fun value => (key, value)

def findUnresolved (scene : Scene) : Findings :=
  .ofIssues ((unresolved scene).map fun found => unresolvedIssue scene found.1 found.2)

end ThreatModel.Rule

import ThreatModel.Proofs.Scheme.Invariant

/-!
Where provenance goes. No query and no post-processor makes provenance up or reads it, so it passes
through a scheme on the side: what a tree bears comes from a text of the content, and what shows of the
tree does not depend on it.
-/

namespace ThreatModel

/-- The text has a provenance, and it is `origin`. -/
def Text.Bears (leaf : Text) (origin : Properties String) : Prop :=
  leaf.hasProvenance ∧ leaf.provenance = origin

namespace Node

variable {origin : Properties String} {leaf : Text} {items : List Node} {entries : List (Key × Node)}

/-- A text of the tree bears the provenance. -/
def Bears (node : Node) (origin : Properties String) : Prop :=
  ∃ leaf ∈ node.leaves, leaf.Bears origin

@[simp] theorem not_bears_null : ¬ Node.null.Bears origin := by
  rintro ⟨leaf, member, _⟩
  cases member

@[simp] theorem not_bears_ofString (value : String) : ¬ (Text.ofString value).Bears origin := by
  rintro ⟨filled, _⟩
  cases filled

@[simp] theorem bears_text : (Node.text leaf).Bears origin ↔ leaf.Bears origin := by
  simp [Bears, leaves]

@[simp] theorem bears_list :
    (Node.list items).Bears origin ↔ ∃ item ∈ items, item.Bears origin := by
  simp only [Bears, leaves_list, List.mem_flatMap]
  constructor
  · rintro ⟨leaf, ⟨item, member, listed⟩, bears⟩
    exact ⟨item, member, leaf, listed, bears⟩
  · rintro ⟨item, member, leaf, listed, bears⟩
    exact ⟨leaf, ⟨item, member, listed⟩, bears⟩

@[simp] theorem bears_map :
    (Node.map entries).Bears origin ↔ ∃ entry ∈ entries, entry.2.Bears origin := by
  simp only [Bears, leaves_map, List.mem_flatMap]
  constructor
  · rintro ⟨leaf, ⟨entry, member, listed⟩, bears⟩
    exact ⟨entry, member, leaf, listed, bears⟩
  · rintro ⟨entry, member, leaf, listed, bears⟩
    exact ⟨leaf, ⟨entry, member, listed⟩, bears⟩

theorem not_bears_invariant (origin : Properties String) :
    Invariant (fun _ => True) fun node => ¬ node.Bears origin where
  null := not_bears_null
  fresh value := by
    rw [ofString, bears_text]
    exact not_bears_ofString value
  derived leaf f absent := by
    rw [bears_text] at absent ⊢
    exact absent
  list items := by simp only [bears_list, not_exists, not_and]
  map entries := by simp only [bears_map, not_exists, not_and, true_and]
  empty := trivial
  concat _ _ _ _ := trivial

end Node

namespace Registry

variable {registry : Registry} {origin : Properties String}

/-- What the result of a scheme bears, the content bears. -/
theorem bears_of_interpret (scheme : ValueDef) (input : Node)
    (bears : (registry.interpret scheme input).Bears origin) : input.Bears origin := by
  by_contra absent
  exact holds_interpret (Node.not_bears_invariant origin) scheme input absent bears

/-- Provenance passes through a scheme on the side. Contents that differ in it alone are mapped to trees
that agree in shape, names, tags and the values of texts, and so to the same JSON; and a provenance that
a text of the result has is one that a text of the content had. -/
theorem provenance_aside (registry : Registry) (scheme : ValueDef) :
    (∀ left right : Node, left.plain = right.plain →
      (registry.interpret scheme left).bare = (registry.interpret scheme right).bare ∧
        (registry.interpret scheme left).toJson = (registry.interpret scheme right).toJson) ∧
    ∀ input : Node, ∀ leaf ∈ (registry.interpret scheme input).leaves, leaf.hasProvenance →
      ∃ source ∈ input.leaves, source.provenance = leaf.provenance := by
  constructor
  · intro left right same
    have sameBare : left.bare = right.bare := by
      rw [← left.bare_plain, ← right.bare_plain, same]
    have shown : (registry.interpret scheme left).bare = (registry.interpret scheme right).bare := by
      rw [bare_interpret, sameBare, ← bare_interpret]
    refine ⟨shown, ?_⟩
    rw [← Node.toJson_bare, shown, Node.toJson_bare]
  · intro input leaf member filled
    have borne : (registry.interpret scheme input).Bears leaf.provenance :=
      ⟨leaf, member, filled, rfl⟩
    obtain ⟨source, listed, _, same⟩ := bears_of_interpret scheme input borne
    exact ⟨source, listed, same⟩

def assetScheme : ValueDef :=
  ⟨.many [],
    some [(.plain "asset", ⟨.one ⟨"attribute", [("name", .string "asset")]⟩, none, none⟩),
      (.plain "threats",
        ⟨.many [⟨"attribute", [("name", .string "threats")]⟩, ⟨"split-lines", []⟩], none,
          some ⟨none, [("strip-whitespace", .null)]⟩⟩)],
    none⟩

/-- An asset with two threats, each cell found on a line of its own. -/
def foundAsset (first second : String) : Node :=
  .map [(.ofName "asset", .text ⟨"Vault", .ofList [("line", first)]⟩),
    (.ofName "threats", .text ⟨"Theft\nFire", .ofList [("line", second)]⟩)]

/-- The provenance of the name goes to its key, so the results are not equal; that of the threats stays
with each of the parts. -/
theorem provenance_aside_of_asset :
    (foundAsset "1" "2").plain = (foundAsset "3" "4").plain ∧
      builtin.interpret assetScheme (foundAsset "1" "2") ≠
        builtin.interpret assetScheme (foundAsset "3" "4") ∧
      (builtin.interpret assetScheme (foundAsset "1" "2")).bare =
        (builtin.interpret assetScheme (foundAsset "3" "4")).bare ∧
      (builtin.interpret assetScheme (foundAsset "1" "2")).toJson =
        (builtin.interpret assetScheme (foundAsset "3" "4")).toJson ∧
      (builtin.interpret assetScheme (foundAsset "1" "2")).leaves =
        [.ofString "Vault", ⟨"Theft", .ofList [("line", "2")]⟩, ⟨"Fire", .ofList [("line", "2")]⟩] ∧
      ∃ source ∈ (foundAsset "1" "2").leaves, source.provenance = .ofList [("line", "2")] := by
  have same : (foundAsset "1" "2").plain = (foundAsset "3" "4").plain := rfl
  have leaves : (builtin.interpret assetScheme (foundAsset "1" "2")).leaves =
      [.ofString "Vault", ⟨"Theft", .ofList [("line", "2")]⟩,
        ⟨"Fire", .ofList [("line", "2")]⟩] := by decide +kernel
  obtain ⟨shown, written⟩ := (provenance_aside builtin assetScheme).1 _ _ same
  refine ⟨same, ?_, shown, written, leaves, ?_⟩
  · intro equal
    have sameLeaves := congrArg Node.leaves equal
    exact absurd sameLeaves (by decide +kernel)
  · exact (provenance_aside builtin assetScheme).2 _ ⟨"Fire", .ofList [("line", "2")]⟩
      (by rw [leaves]; simp) (by decide +kernel)

end Registry

end ThreatModel

import ThreatModel.Proofs.Document.Content
import ThreatModel.Proofs.Document.InsertionOrder
import ThreatModel.Proofs.Scheme.Invariant

/-!
Names stay distinct. Mappings are made by insertion alone, so in no mapping of a tree that is read, mapped by
a scheme or rebuilt from a document does a name stand twice.
-/

namespace ThreatModel

namespace Node

@[simp] theorem distinctNames_null : Node.null.DistinctNames :=
  List.forall_mem_singleton.mpr List.nodup_nil

@[simp] theorem distinctNames_text (leaf : Text) : (Node.text leaf).DistinctNames :=
  List.forall_mem_singleton.mpr List.nodup_nil

theorem distinctNames_invariant : Invariant List.Nodup DistinctNames where
  null := distinctNames_null
  fresh value := distinctNames_text (.ofString value)
  derived leaf f _ := distinctNames_text (leaf.map f)
  list _ := distinctNames_list
  map _ := distinctNames_map
  empty := List.nodup_nil
  concat names name absent distinct := by
    rw [← List.concat_eq_append]
    exact distinct.concat absent

/-- Whatever is read from JSON is made by insertion. -/
theorem distinctNames_ofJson (value : Json) : (ofJson value).DistinctNames := by
  induction value using Json.induction with
  | null => exact distinctNames_null
  | bool | number | string => exact distinctNames_text _
  | array items ih =>
      rw [ofJson, ofItems_eq_map, distinctNames_list, List.forall_mem_map]
      exact ih
  | object members ih =>
      have values : ∀ entry ∈ ofMembers members, entry.2.DistinctNames := by
        rw [ofMembers_eq_map, List.forall_mem_map]
        exact ih
      rw [ofJson]
      split
      · exact distinctNames_text _
      · refine distinctNames_invariant.holds_ofEntries fun entry member => values entry ?_
        rw [swapToEnd_eq_exchangeWithLast] at member
        exact (exchangeWithLast_perm _ _).mem_iff.mp member
      · exact distinctNames_invariant.holds_ofEntries values

end Node

/-- Whatever is rebuilt from a document is made by insertion. -/
theorem Document.distinctNames_toNode (doc : Document) (item : Item) : (doc.toNode item).DistinctNames := by
  induction item using Item.induction with
  | null id => exact Node.distinctNames_null
  | text id leaf => exact Node.distinctNames_text leaf
  | list id items ih =>
      rw [toNode, toItems_eq_map, Node.distinctNames_list, List.forall_mem_map]
      exact ih
  | map id entries ih =>
      rw [toNode, toEntries_eq_map]
      refine Node.distinctNames_invariant.holds_ofEntries ?_
      rw [List.forall_mem_map]
      exact ih

namespace Registry

/-- A mapping is what its insertions come to: names in the order in which they came first, each with the key
that came first and the value that came last, and each insertion gives the value that was found before it.
So no mapping of a tree that is read from JSON, of what a scheme makes of that tree, or of what is rebuilt
from a document has a name twice. -/
theorem first_key_last_value (registry : Registry) :
    (∀ added : List (Key × Node),
      (added.mapM Mapping.inserting []).2 = Mapping.ofEntries added ∧
        Mapping.Collects added (Mapping.ofEntries added)) ∧
    (∀ (before after : List (Key × Node)) (entry : Key × Node),
      ((before ++ entry :: after).mapM Mapping.inserting []).1[before.length]? =
        some (Mapping.get? (Mapping.ofEntries before) entry.1.name)) ∧
    (∀ value : Json, (Node.ofJson value).DistinctNames ∧
      ∀ scheme : ValueDef, (registry.interpret scheme (Node.ofJson value)).DistinctNames) ∧
    ∀ (doc : Document) (item : Item), (doc.toNode item).DistinctNames := by
  refine ⟨fun added => ?_, fun before after entry => ?_, fun value => ?_, Document.distinctNames_toNode⟩
  · exact ⟨Mapping.mapM_inserting_snd added [], Mapping.collects_ofEntries added⟩
  · exact Mapping.getElem?_mapM_inserting before after entry []
  · have read := Node.distinctNames_ofJson value
    exact ⟨read, fun scheme => holds_interpret Node.distinctNames_invariant scheme _ read⟩

end Registry

end ThreatModel

import ThreatModel.Proofs.Document.Lossless

/-!
Trees through JSON and back. A tree that is written as JSON and read again keeps its shape, its names and
the values of its texts (`ofJson_toValue`). A JSON value that is read and written again is itself, but
that in each object the member `#text` and the last one change places (`toJson_ofJson`).
-/

namespace ThreatModel

theorem map_eq_self_iff {f : α → α} {items : List α} :
    items.map f = items ↔ ∀ item ∈ items, f item = item := by
  conv_lhs => rhs; rw [← List.map_id items]
  exact List.map_inj_left

/-- The items with the one at `index` and the last one in each other's place. -/
def exchangeWithLast (index : Nat) (items : List α) : List α :=
  match items[index]?, items.getLast? with
  | some taken, some last => (items.set index last).set (items.length - 1) taken
  | _, _ => items

theorem map_exchangeWithLast (f : α → β) (index : Nat) (items : List α) :
    (exchangeWithLast index items).map f = exchangeWithLast index (items.map f) := by
  unfold exchangeWithLast
  rw [List.getElem?_map, List.getLast?_map]
  cases items[index]? with
  | none => rfl
  | some taken =>
      cases items.getLast? with
      | none => rfl
      | some last => simp [List.map_set]

theorem exchangeWithLast_of_length_le {index : Nat} {items : List α} (outside : items.length ≤ index) :
    exchangeWithLast index items = items := by
  simp [exchangeWithLast, List.getElem?_eq_none outside]

theorem exchangeWithLast_last (before : List α) (last : α) :
    exchangeWithLast before.length (before ++ [last]) = before ++ [last] := by
  simp [exchangeWithLast]

/-- The last item changes places with itself. -/
theorem exchangeWithLast_of_length_le_succ {index : Nat} {items : List α}
    (atEnd : items.length ≤ index + 1) : exchangeWithLast index items = items := by
  by_cases outside : items.length ≤ index
  · exact exchangeWithLast_of_length_le outside
  · rcases List.eq_nil_or_concat items with rfl | ⟨before, last, rfl⟩
    · rfl
    · rw [List.concat_eq_append, List.length_append, List.length_singleton] at atEnd outside
      obtain rfl : index = before.length := by omega
      rw [List.concat_eq_append, exchangeWithLast_last]

theorem exchangeWithLast_inner (before between : List α) (taken last : α) :
    exchangeWithLast before.length (before ++ taken :: (between ++ [last])) =
      before ++ last :: (between ++ [taken]) := by
  have lastFound : (before ++ taken :: (between ++ [last])).getLast? = some last := by
    rw [← List.cons_append, ← List.append_assoc, List.getLast?_concat]
  simp [exchangeWithLast, lastFound]

theorem exchangeWithLast_perm (index : Nat) (items : List α) :
    (exchangeWithLast index items).Perm items := by
  by_cases atEnd : items.length ≤ index + 1
  · rw [exchangeWithLast_of_length_le_succ atEnd]
  · obtain ⟨before, rest, rfl, rfl⟩ : ∃ before rest, items = before ++ rest ∧ before.length = index :=
      ⟨items.take index, items.drop index, (List.take_append_drop _ _).symm, by
        rw [List.length_take]; omega⟩
    rcases rest with _ | ⟨taken, after⟩
    · simp at atEnd
    · rcases List.eq_nil_or_concat after with rfl | ⟨between, last, rfl⟩
      · simp at atEnd
      · rw [List.concat_eq_append, exchangeWithLast_inner]
        refine .append_left before ?_
        have lastFirst := List.perm_append_singleton last between
        have takenFirst := List.perm_append_singleton taken between
        exact (takenFirst.cons last).trans ((List.Perm.swap taken last between).trans
          (lastFirst.symm.cons taken))

/-- Where `#text` stands among names; past their end if it is none of them. -/
def textPosition (names : List String) : Nat := names.findIdx (· == textMember)

theorem textPosition_of_absent {names : List String} (absent : textMember ∉ names) :
    textPosition names = names.length := by
  rw [textPosition, List.findIdx_eq_length]
  intro name member
  exact beq_eq_false_iff_ne.mpr fun same => absent (same ▸ member)

theorem textPosition_append {before : List String} (absent : textMember ∉ before)
    (after : List String) : textPosition (before ++ textMember :: after) = before.length := by
  have notFound : before.findIdx (· == textMember) = before.length := textPosition_of_absent absent
  rw [textPosition, List.findIdx_append, notFound, if_neg (Nat.lt_irrefl _), List.findIdx_cons]
  simp

theorem length_le_textPosition {names : List String} (distinct : names.Nodup)
    (last : textMember ∈ names → names.getLast? = some textMember) :
    names.length ≤ textPosition names + 1 := by
  by_cases present : textMember ∈ names
  · obtain ⟨before, rfl⟩ := List.getLast?_eq_some_iff.mp (last present)
    have absent : textMember ∉ before := fun member =>
      (List.nodup_append.mp distinct).2.2 _ member _ (List.mem_singleton_self _) rfl
    rw [textPosition_append absent]
    simp
  · rw [textPosition_of_absent present]
    exact Nat.le_succ _

theorem textMember_last_of_exchange {names : List String}
    (unchanged : exchangeWithLast (textPosition names) names = names)
    (present : textMember ∈ names) : names.getLast? = some textMember := by
  obtain ⟨before, after, rfl, absent⟩ := List.eq_append_cons_of_mem present
  rw [textPosition_append absent] at unchanged
  rcases List.eq_nil_or_concat after with rfl | ⟨between, last, rfl⟩
  · exact List.getLast?_concat
  · rw [List.concat_eq_append, exchangeWithLast_inner] at unchanged
    have sameRest := List.append_cancel_left unchanged
    obtain rfl : last = textMember := (List.cons.inj sameRest).1
    rw [List.concat_eq_append, ← List.cons_append, ← List.append_assoc, List.getLast?_concat]

theorem length_takeWhile_ne_text (entries : Mapping) :
    (entries.takeWhile (·.1.name != textMember)).length = textPosition (Mapping.names entries) := by
  have sameTest : (fun entry : Key × Node => !(entry.1.name != textMember)) =
      (· == textMember) ∘ fun entry => entry.1.name := by
    funext entry
    simp [bne]
  rw [List.takeWhile_eq_take_findIdx_not, List.length_take_of_le List.findIdx_le_length, sameTest,
    textPosition, Mapping.names, List.findIdx_map]

theorem swapToEnd_eq_exchangeWithLast (entries : Mapping) :
    swapToEnd textMember entries =
      exchangeWithLast (textPosition (Mapping.names entries)) entries := by
  have parts := List.takeWhile_append_dropWhile (p := (·.1.name != textMember)) (l := entries)
  rw [← length_takeWhile_ne_text, swapToEnd]
  generalize entries.takeWhile (·.1.name != textMember) = before at parts
  cases found : entries.dropWhile (·.1.name != textMember) with
  | nil =>
      rw [found, List.append_nil] at parts
      rw [← parts, exchangeWithLast_of_length_le (Nat.le_refl _)]
  | cons taken after =>
      rw [found] at parts
      rcases List.eq_nil_or_concat after with rfl | ⟨between, last, rfl⟩
      · rw [← parts, exchangeWithLast_last]
        rfl
      · rw [List.concat_eq_append] at parts ⊢
        rw [← parts, exchangeWithLast_inner]
        simp

namespace Json

/-- The members of an object; other values have none. -/
def members : Json → List (String × Json)
  | .object members => members
  | _ => []

def memberNames (value : Json) : List String := value.members.map (·.1)

theorem lookup?_eq_none_iff {members : List (String × Json)} {name : String} :
    lookup? members name = none ↔ name ∉ members.map (·.1) := by
  rw [lookup?, Option.map_eq_none_iff, List.find?_eq_none, List.mem_map]
  constructor
  · rintro missing ⟨member, listed, same⟩
    exact missing member listed (beq_iff_eq.mpr same)
  · intro absent member listed same
    exact absent ⟨member, listed, beq_iff_eq.mp same⟩

mutual

/-- The value and all values inside it. -/
def parts : Json → List Json
  | .null => [.null]
  | .bool value => [.bool value]
  | .number value => [.number value]
  | .string value => [.string value]
  | .array items => .array items :: partsOfItems items
  | .object members => .object members :: partsOfMembers members

def partsOfItems : List Json → List Json
  | [] => []
  | item :: rest => parts item ++ partsOfItems rest

def partsOfMembers : List (String × Json) → List Json
  | [] => []
  | (_, value) :: rest => parts value ++ partsOfMembers rest

end

/-- Induction over a value, where an array has the hypothesis of its items and an object the one of its
members' values. -/
@[elab_as_elim]
theorem induction {motive : Json → Prop} (null : motive .null) (bool : ∀ value, motive (.bool value))
    (number : ∀ value, motive (.number value)) (string : ∀ value, motive (.string value))
    (array : ∀ items, (∀ item ∈ items, motive item) → motive (.array items))
    (object : ∀ members, (∀ member ∈ members, motive member.2) → motive (.object members))
    (value : Json) : motive value := by
  apply @Json.rec motive (fun items => ∀ item ∈ items, motive item)
    (fun members => ∀ member ∈ members, motive member.2) (fun member => motive member.2)
  · exact null
  · exact bool
  · exact number
  · exact string
  · exact array
  · exact object
  · exact List.forall_mem_nil _
  · intro head rest headHolds restHolds
    exact List.forall_mem_cons.mpr ⟨headHolds, restHolds⟩
  · exact List.forall_mem_nil _
  · intro head rest headHolds restHolds
    exact List.forall_mem_cons.mpr ⟨headHolds, restHolds⟩
  · intro name value holds
    exact holds

theorem partsOfItems_eq_flatMap (items : List Json) : partsOfItems items = items.flatMap parts := by
  induction items with
  | nil => rfl
  | cons item rest ih => rw [partsOfItems, ih, List.flatMap_cons]

theorem partsOfMembers_eq_flatMap (members : List (String × Json)) :
    partsOfMembers members = members.flatMap fun member => member.2.parts := by
  induction members with
  | nil => rfl
  | cons member rest ih => rw [partsOfMembers, ih, List.flatMap_cons]

/-- Something holds of the value and of all values inside it. -/
def Everywhere (holds : Json → Prop) (value : Json) : Prop := ∀ part ∈ value.parts, holds part

instance (holds : Json → Prop) [DecidablePred holds] (value : Json) :
    Decidable (value.Everywhere holds) :=
  inferInstanceAs (Decidable (∀ part ∈ value.parts, holds part))

section Everywhere

variable {holds : Json → Prop} {items : List Json} {members : List (String × Json)}

@[simp] theorem everywhere_array :
    (array items).Everywhere holds ↔
      holds (.array items) ∧ ∀ item ∈ items, item.Everywhere holds := by
  simp only [Everywhere, parts, partsOfItems_eq_flatMap, List.forall_mem_cons,
    List.forall_mem_flatMap]

@[simp] theorem everywhere_object :
    (object members).Everywhere holds ↔
      holds (.object members) ∧ ∀ member ∈ members, member.2.Everywhere holds := by
  simp only [Everywhere, parts, partsOfMembers_eq_flatMap, List.forall_mem_cons,
    List.forall_mem_flatMap]

end Everywhere

/-- No name stands twice in an object, as in all that are built by putting members. -/
def DistinctMembers (value : Json) : Prop := value.memberNames.Nodup

/-- A scalar is a string or null. -/
def isTextual : Json → Bool
  | .bool _ => false
  | .number _ => false
  | _ => true

/-- An object is not one that stands for a text. -/
def NotText (value : Json) : Prop :=
  (lookup? value.members textMember).bind asString? = none

/-- In an object, `#text` is the last member or none. -/
def TextMemberLast (value : Json) : Prop :=
  textMember ∈ value.memberNames → value.memberNames.getLast? = some textMember

instance : DecidablePred DistinctMembers := fun value =>
  inferInstanceAs (Decidable value.memberNames.Nodup)

instance : DecidablePred NotText := fun value =>
  inferInstanceAs (Decidable ((lookup? value.members textMember).bind asString? = none))

instance : DecidablePred TextMemberLast := fun value =>
  inferInstanceAs (Decidable
    (textMember ∈ value.memberNames → value.memberNames.getLast? = some textMember))

mutual

/-- The value where in each object the member `#text` and the last one have changed places. -/
def exchanged : Json → Json
  | .null => .null
  | .bool value => .bool value
  | .number value => .number value
  | .string value => .string value
  | .array items => .array (exchangedItems items)
  | .object members =>
      .object (exchangeWithLast (textPosition (members.map (·.1))) (exchangedMembers members))

def exchangedItems : List Json → List Json
  | [] => []
  | item :: rest => exchanged item :: exchangedItems rest

def exchangedMembers : List (String × Json) → List (String × Json)
  | [] => []
  | (name, value) :: rest => (name, exchanged value) :: exchangedMembers rest

end

theorem exchangedItems_eq_map (items : List Json) : exchangedItems items = items.map exchanged := by
  induction items with
  | nil => rfl
  | cons item rest ih => rw [exchangedItems, ih, List.map_cons]

theorem exchangedMembers_eq_map (members : List (String × Json)) :
    exchangedMembers members = members.map (Prod.map id exchanged) := by
  induction members with
  | nil => rfl
  | cons member rest ih => rw [exchangedMembers, ih, List.map_cons, Prod.map, id]

@[simp] theorem exchanged_array (items : List Json) :
    (array items).exchanged = .array (items.map exchanged) := by
  rw [exchanged, exchangedItems_eq_map]

@[simp] theorem exchanged_object (members : List (String × Json)) :
    (object members).exchanged = .object (exchangeWithLast (textPosition (members.map (·.1)))
      (members.map (Prod.map id exchanged))) := by
  rw [exchanged, exchangedMembers_eq_map]

theorem exchanged_eq_self_iff {value : Json} (distinct : value.Everywhere DistinctMembers) :
    value.exchanged = value ↔ value.Everywhere TextMemberLast := by
  induction value using Json.induction with
  | null | bool | number | string =>
      simp [exchanged, Everywhere, parts, TextMemberLast, memberNames, members]
  | array items ih =>
      rw [everywhere_array] at distinct ⊢
      rw [exchanged_array, array.injEq, map_eq_self_iff]
      constructor
      · intro unchanged
        refine ⟨nofun, fun item member => ?_⟩
        exact (ih item member (distinct.2 item member)).mp (unchanged item member)
      · intro last item member
        exact (ih item member (distinct.2 item member)).mpr (last.2 item member)
  | object members ih =>
      rw [everywhere_object] at distinct ⊢
      have keepsNames : (members.map (Prod.map id exchanged)).map (·.1) = members.map (·.1) := by
        rw [List.map_map]
        rfl
      have atEnd (last : TextMemberLast (.object members)) :
          (members.map (Prod.map id exchanged)).length ≤ textPosition (members.map (·.1)) + 1 := by
        rw [← List.length_map (·.1), keepsNames]
        exact length_le_textPosition distinct.1 last
      have valuesUnchanged : members.map (Prod.map id exchanged) = members ↔
          ∀ member ∈ members, member.2.Everywhere TextMemberLast := by
        rw [map_eq_self_iff]
        refine forall₂_congr fun member listed => ?_
        rw [← ih member listed (distinct.2 member listed), Prod.ext_iff]
        exact and_iff_right rfl
      rw [exchanged_object, object.injEq]
      constructor
      · intro unchanged
        have namesUnchanged := congrArg (List.map (·.1)) unchanged
        rw [map_exchangeWithLast, keepsNames] at namesUnchanged
        have last : TextMemberLast (.object members) := textMember_last_of_exchange namesUnchanged
        refine ⟨last, valuesUnchanged.mp ?_⟩
        rwa [exchangeWithLast_of_length_le_succ (atEnd last)] at unchanged
      · rintro ⟨last, valuesLast⟩
        rw [exchangeWithLast_of_length_le_succ (atEnd last), valuesUnchanged.mpr valuesLast]

end Json

namespace Node

theorem ofItems_eq_map (items : List Json) : ofItems items = items.map ofJson := by
  induction items with
  | nil => rfl
  | cons item rest ih => rw [ofItems, ih, List.map_cons]

theorem ofMembers_eq_map (members : List (String × Json)) :
    ofMembers members = members.map (Prod.map Key.ofName ofJson) := by
  induction members with
  | nil => rfl
  | cons member rest ih => rw [ofMembers, ih, List.map_cons, Prod.map]

/-- An object that does not stand for a text is a mapping of its members, where `#text` and the last
member have changed places. -/
theorem ofJson_object {members : List (String × Json)}
    (distinct : (Json.object members).DistinctMembers) (notText : (Json.object members).NotText) :
    ofJson (.object members) = .map (exchangeWithLast (textPosition (members.map (·.1)))
      (members.map (Prod.map Key.ofName ofJson))) := by
  have sameNames : Mapping.names (members.map (Prod.map Key.ofName ofJson)) =
      members.map (·.1) := by
    rw [Mapping.names, List.map_map]
    rfl
  have distinctNames : (Mapping.names (members.map (Prod.map Key.ofName ofJson))).Nodup :=
    sameNames ▸ distinct
  rw [ofJson]
  split
  · next text found =>
      rw [Json.NotText, Json.members, found] at notText
      cases notText
  · rw [ofMembers_eq_map, swapToEnd_eq_exchangeWithLast, sameNames, Mapping.ofEntries_of_nodup]
    exact ((exchangeWithLast_perm _ _).map _).nodup_iff.mpr distinctNames
  · next missing =>
      have absent := Json.lookup?_eq_none_iff.mp missing
      have outside : (members.map (Prod.map Key.ofName ofJson)).length ≤
          textPosition (members.map (·.1)) := by
        refine Nat.le_of_eq ?_
        rw [List.length_map, textPosition_of_absent absent, List.length_map]
      rw [ofMembers_eq_map, Mapping.ofEntries_of_nodup distinctNames,
        exchangeWithLast_of_length_le outside]

theorem ofJson_object_of_absent {members : List (String × Json)}
    (distinct : (members.map (·.1)).Nodup) (absent : textMember ∉ members.map (·.1)) :
    ofJson (.object members) = .map (members.map (Prod.map Key.ofName ofJson)) := by
  have missing := Json.lookup?_eq_none_iff.mpr absent
  have notText : (Json.object members).NotText := by
    rw [Json.NotText, Json.members, missing]
    rfl
  rw [ofJson_object distinct notText, exchangeWithLast_of_length_le]
  refine Nat.le_of_eq ?_
  rw [List.length_map, textPosition_of_absent absent, List.length_map]

theorem toJson_ofJson_eq_exchanged {value : Json} (distinct : value.Everywhere Json.DistinctMembers)
    (textual : value.Everywhere fun part => part.isTextual) (notText : value.Everywhere Json.NotText) :
    (ofJson value).toJson = value.exchanged := by
  induction value using Json.induction with
  | null | string => rfl
  | bool | number => exact Bool.noConfusion (textual _ (List.mem_singleton_self _))
  | array items ih =>
      rw [Json.everywhere_array] at distinct textual notText
      rw [ofJson, ofItems_eq_map, toJson_list, Json.exchanged_array, List.map_map]
      refine congrArg Json.array (List.map_congr_left fun item member => ?_)
      exact ih item member (distinct.2 item member) (textual.2 item member) (notText.2 item member)
  | object members ih =>
      rw [Json.everywhere_object] at distinct textual notText
      rw [ofJson_object distinct.1 notText.1, toJson_map, map_exchangeWithLast, List.map_map,
        Json.exchanged_object]
      refine congrArg (fun members => Json.object (exchangeWithLast _ members))
        (List.map_congr_left fun member listed => Prod.ext rfl ?_)
      exact ih member listed (distinct.2 member listed) (textual.2 member listed)
        (notText.2 member listed)

/-- A value whose scalars are strings and null, and in which no object stands for a text, comes back from
the tree that is read from it, but for the order of members: in each object `#text` and the last member
have changed places. So it comes back as it was exactly where `#text` is the last member or none. -/
theorem toJson_ofJson (value : Json) (distinct : value.Everywhere Json.DistinctMembers)
    (textual : value.Everywhere fun part => part.isTextual) (notText : value.Everywhere Json.NotText) :
    (ofJson value).toJson = value.exchanged ∧
      ((ofJson value).toJson = value ↔ value.Everywhere Json.TextMemberLast) := by
  have written := toJson_ofJson_eq_exchanged distinct textual notText
  refine ⟨written, ?_⟩
  rw [written]
  exact Json.exchanged_eq_self_iff distinct

/-- Rows with a member `#text` that holds no text, first among the members and last. -/
def unreadRows : Json := .object [("rows", .array [
  .object [(textMember, .null), ("name", .string "DB"), ("kind", .string "store")],
  .object [("name", .string "Keys"), (textMember, .array [])]])]

theorem toJson_ofJson_unreadRows :
    unreadRows.Everywhere Json.DistinctMembers ∧
    (unreadRows.Everywhere fun part => part.isTextual) ∧ unreadRows.Everywhere Json.NotText ∧
    (ofJson unreadRows).toJson = .object [("rows", .array [
      .object [("kind", .string "store"), ("name", .string "DB"), (textMember, .null)],
      .object [("name", .string "Keys"), (textMember, .array [])]])] ∧
    ((ofJson unreadRows).toJson = unreadRows ↔ unreadRows.Everywhere Json.TextMemberLast) := by
  have distinct : unreadRows.Everywhere Json.DistinctMembers := by decide
  have textual : unreadRows.Everywhere fun part => part.isTextual := by decide
  have notText : unreadRows.Everywhere Json.NotText := by decide
  obtain ⟨written, unchanged⟩ := toJson_ofJson unreadRows distinct textual notText
  exact ⟨distinct, textual, notText, written, unchanged⟩

/-- A member `#text` without a text does not keep its place. -/
theorem toJson_ofJson_reorders :
    ¬ ∀ value : Json, value.Everywhere Json.DistinctMembers →
      (value.Everywhere fun part => part.isTextual) → value.Everywhere Json.NotText →
      (ofJson value).toJson = value := by
  intro keeps
  have kept := keeps unreadRows (by decide) (by decide) (by decide)
  have moved : ¬ unreadRows.Everywhere Json.TextMemberLast := by decide
  rw [toJson_ofJson_eq_exchanged (by decide) (by decide) (by decide),
    Json.exchanged_eq_self_iff (by decide)] at kept
  exact moved kept

/-- Shape, names and the values of texts: what JSON shows of the tree. -/
def content (node : Node) : Node := node.mapParts Text.plain fun key => Key.ofName key.name

/-- In no mapping of the tree does a key have the name `#text`. -/
def NoTextMember (tree : Node) : Prop :=
  ∀ node ∈ tree.subtrees, textMember ∉ Mapping.names node.entries

instance (tree : Node) : Decidable tree.NoTextMember :=
  inferInstanceAs (Decidable (∀ node ∈ tree.subtrees, textMember ∉ Mapping.names node.entries))

@[simp] theorem noTextMember_list {items : List Node} :
    (Node.list items).NoTextMember ↔ ∀ item ∈ items, item.NoTextMember := by
  simp only [NoTextMember, subtrees_list, List.forall_mem_cons, List.forall_mem_flatMap]
  exact and_iff_right List.not_mem_nil

@[simp] theorem noTextMember_map {entries : Mapping} :
    (Node.map entries).NoTextMember ↔
      textMember ∉ Mapping.names entries ∧ ∀ entry ∈ entries, entry.2.NoTextMember := by
  simp only [NoTextMember, subtrees_map, List.forall_mem_cons, List.forall_mem_flatMap]
  rfl

theorem ofJson_toJson {tree : Node} (distinct : tree.DistinctNames) (noText : tree.NoTextMember) :
    ofJson tree.toJson = tree.content := by
  induction tree using Node.induction with
  | null | text => rfl
  | list items ih =>
      rw [distinctNames_list] at distinct
      rw [noTextMember_list] at noText
      rw [toJson_list, ofJson, ofItems_eq_map, List.map_map, content, mapParts_list]
      refine congrArg Node.list (List.map_congr_left fun item member => ?_)
      exact ih item member (distinct item member) (noText item member)
  | map entries ih =>
      rw [distinctNames_map] at distinct
      rw [noTextMember_map] at noText
      have sameNames : (entries.map fun entry => (entry.1.name, entry.2.toJson)).map (·.1) =
          Mapping.names entries := by
        rw [List.map_map]
        rfl
      rw [toJson_map, ofJson_object_of_absent, List.map_map, content, mapParts_map]
      · refine congrArg Node.map (List.map_congr_left fun entry member => Prod.ext rfl ?_)
        exact ih entry member (distinct.2 entry member) (noText.2 entry member)
      · exact sameNames ▸ distinct.1
      · exact sameNames ▸ noText.1

/-- A tree that is written as JSON and read again keeps shape, names and the values of its texts. -/
theorem ofJson_toValue (tree : Node) (distinct : tree.DistinctNames) (noText : tree.NoTextMember) :
    ofJson tree.toValue = tree.content := by
  rw [toValue_eq_toJson distinct]
  exact ofJson_toJson distinct noText

theorem ofJson_toValue_located :
    Document.locatedAssets.DistinctNames ∧ Document.locatedAssets.NoTextMember ∧
    ofJson Document.locatedAssets.toValue = .map [(.ofName "assets", .list [
      .map [(.ofName "name", .ofString "DB"), (.ofName "stores", .list [.ofString "Keys", .null])],
      .ofString "none"])] := by
  have distinct : Document.locatedAssets.DistinctNames := by decide +kernel
  have noText : Document.locatedAssets.NoTextMember := by decide +kernel
  exact ⟨distinct, noText, ofJson_toValue Document.locatedAssets distinct noText⟩

end Node
end ThreatModel

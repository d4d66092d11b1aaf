import ThreatModel.Proofs.Document.Content
import ThreatModel.Proofs.Json.Numerals

/-!
Text that was written on one line is read back. Strings come back as they are, members keep their order if
their names are distinct, and a value is read if it is not nested too deep. Numbers are what their texts are
read as.
-/

namespace ThreatModel.Json

variable {c : Char} {rest : List Char} {fuel depth : Nat}

section Strings

theorem readHex4_control : ∀ code < 0x20, ∀ rest,
    readHex4 ('0' :: '0' :: hexDigit (code / 16) :: hexDigit (code % 16) :: rest) = some (code, rest) := by
  intro code control rest
  have digits : ∀ code < 0x20, ((['0', '0', hexDigit (code / 16), hexDigit (code % 16)].all fun digit =>
      digit.isDigit || ('a' ≤ digit && digit ≤ 'f') || ('A' ≤ digit && digit ≤ 'F')) = true) ∧
      Unicode.hexNumber ['0', '0', hexDigit (code / 16), hexDigit (code % 16)] = code := by decide
  obtain ⟨each, number⟩ := digits code control
  rw [readHex4, if_pos each, number]

/-- A character stands for itself or behind a backslash. -/
theorem escapeChar_cases (c : Char) :
    (escapeChar c = [c] ∧ c ≠ '"' ∧ c ≠ '\\' ∧ ¬ c.toNat < 0x20) ∨
      ∃ code, escapeChar c = '\\' :: code ∧ ∀ rest, readEscape (code ++ rest) = some (c, rest) := by
  by_cases short : c ∈ ['"', '\\', '\n', '\r', '\t', '\x08', '\x0c']
  · simp only [List.mem_cons, List.not_mem_nil, or_false] at short
    rcases short with rfl | rfl | rfl | rfl | rfl | rfl | rfl <;> exact .inr ⟨_, rfl, fun _ => rfl⟩
  simp only [List.mem_cons, List.not_mem_nil, or_false, not_or] at short
  obtain ⟨quote, backslash, line, carriage, tab, back, feed⟩ := short
  rw [escapeChar, if_neg quote, if_neg backslash, if_neg line, if_neg carriage, if_neg tab, if_neg back,
    if_neg feed]
  by_cases control : c.toNat < 0x20
  · rw [if_pos control]
    refine .inr ⟨_, rfl, fun rest => ?_⟩
    have noHigh : ¬ (0xd800 ≤ c.toNat ∧ c.toNat < 0xdc00) := by omega
    have noLow : ¬ (0xdc00 ≤ c.toNat ∧ c.toNat < 0xe000) := by omega
    have unit := readHex4_control c.toNat control rest
    simp only [List.cons_append, List.nil_append, readEscape, unit, Option.bind_eq_bind, Option.bind_some,
      if_neg noHigh, if_neg noLow, Char.ofNat_toNat]
  · rw [if_neg control]
    exact .inl ⟨rfl, quote, backslash, control⟩

theorem readString_escapeChar (done : List Char) :
    readString (fuel + 1) done (escapeChar c ++ rest) = readString fuel (c :: done) rest := by
  rcases escapeChar_cases c with ⟨same, noQuote, noBackslash, noControl⟩ | ⟨code, same, read⟩
  · rw [same, List.singleton_append, readString, if_neg noQuote, if_neg noBackslash, if_neg noControl]
  · rw [same, List.cons_append, readString, if_neg (by decide), if_pos rfl, read rest]
    rfl

theorem readString_quoted {value : List Char} (enough : value.length < fuel) (done : List Char) :
    readString fuel done (value.flatMap escapeChar ++ '"' :: rest) =
      some (.ofList (done.reverse ++ value), rest) := by
  obtain ⟨fuel, rfl⟩ := Nat.exists_eq_add_one_of_ne_zero (Nat.ne_zero_of_lt enough)
  induction value generalizing fuel done with
  | nil =>
      rw [List.append_nil]
      rfl
  | cons c value ih =>
      have more : value.length < fuel := Nat.lt_of_succ_lt_succ enough
      obtain ⟨fuel, rfl⟩ := Nat.exists_eq_add_one_of_ne_zero (Nat.ne_zero_of_lt more)
      rw [List.flatMap_cons, List.append_assoc, readString_escapeChar, ih (c :: done) fuel more,
        List.reverse_cons, List.append_assoc, List.singleton_append]

theorem length_le_length_flatMap_escapeChar (value : List Char) :
    value.length ≤ (value.flatMap escapeChar).length := by
  induction value with
  | nil => exact Nat.le_refl _
  | cons c value ih =>
      have some : 0 < (escapeChar c).length := by
        rcases escapeChar_cases c with ⟨same, _⟩ | ⟨code, same, _⟩ <;> rw [same] <;> exact Nat.succ_pos _
      rw [List.flatMap_cons, List.length_append, List.length_cons]
      omega

/-- A string is read back with the fuel that a text of its length is given. -/
theorem readString_quote (value : String) :
    ∃ inside, (quote value).toList = '"' :: inside ∧ ∀ rest,
      readString ((inside ++ rest).length + 1) [] (inside ++ rest) = some (value, rest) := by
  refine ⟨value.toList.flatMap escapeChar ++ ['"'], String.toList_ofList, fun rest => ?_⟩
  have shorter := length_le_length_flatMap_escapeChar value.toList
  rw [List.append_assoc, List.singleton_append, readString_quoted, List.reverse_nil, List.nil_append,
    String.ofList_toList]
  rw [List.length_append, List.length_cons]
  omega

end Strings

mutual

/-- The value with each number as what its text is read as. -/
def reread? : Json → Option Json
  | .null => some .null
  | .bool value => some (.bool value)
  | .number value => value.reread?.map .number
  | .string value => some (.string value)
  | .array items => (rereadItems? items).map .array
  | .object members => (rereadMembers? members).map .object

def rereadItems? : List Json → Option (List Json)
  | [] => some []
  | item :: rest => (reread? item).bind fun item => (rereadItems? rest).map (item :: ·)

def rereadMembers? : List (String × Json) → Option (List (String × Json))
  | [] => some []
  | (name, value) :: rest =>
      (reread? value).bind fun value => (rereadMembers? rest).map ((name, value) :: ·)

end

/-- What is read at a depth, if it is not nested deeper. -/
def within (depth height : Nat) (read : Option α) : Option α :=
  if height ≤ depth then read else none

section Depth

variable {height more : Nat} {read : Option α}

@[simp] theorem within_none : within depth height (none : Option α) = none := by
  rw [within, ite_self]

theorem within_eq_some_iff {value : α} :
    within depth height read = some value ↔ height ≤ depth ∧ read = some value := by
  rw [within, Option.ite_none_right_eq_some]

theorem within_bind (next : α → Option β) :
    (within depth height read).bind next = within depth height (read.bind next) := by
  rw [within, within]
  split_ifs <;> rfl

theorem within_map (next : α → β) :
    (within depth height read).map next = within depth height (read.map next) := by
  rw [within, within]
  split_ifs <;> rfl

theorem within_max : within depth (max height more) read = within depth height (within depth more read) := by
  rw [within, within, within]
  split_ifs <;> first | rfl | omega

theorem within_succ : within (depth + 1) (height + 1) read = within depth height read := by
  rw [within, within]
  split_ifs <;> first | rfl | omega

theorem within_zero_succ : within 0 (height + 1) read = none := if_neg (Nat.not_succ_le_zero height)

@[simp] theorem within_zero : within depth 0 read = read := if_pos (Nat.zero_le depth)

end Depth

section Values

/-! What stands behind a value in an array or an object is a comma or the closing mark. Neither can belong to a
number, so each value is read as if it stood alone. -/

variable {value item : Json} {items : List Json} {members done : List (String × Json)} {name : String}

/-- With this much fuel, a value is read if its text is not longer. -/
def ReadsValues (fuel : Nat) : Prop :=
  ∀ value depth rest, value.Everywhere DistinctMembers → (compress value).toList.length ≤ fuel → Ends rest →
    readValue fuel depth ((compress value).toList ++ rest) =
      within depth value.height (value.reread?.map (·, rest))

def ReadsItems (fuel : Nat) : Prop :=
  ∀ items depth rest, items ≠ [] → (∀ item ∈ items, item.Everywhere DistinctMembers) →
    (compressItems true items).toList.length < fuel →
    readItems fuel depth ((compressItems true items).toList ++ ']' :: rest) =
      within depth (heightOfItems items) ((rereadItems? items).map (·, rest))

def ReadsMembers (fuel : Nat) : Prop :=
  ∀ members done depth rest, members ≠ [] → ((done ++ members).map (·.1)).Nodup →
    (∀ member ∈ members, member.2.Everywhere DistinctMembers) →
    (compressMembers true members).toList.length < fuel →
    readMembers fuel depth done ((compressMembers true members).toList ++ '\x7d' :: rest) =
      within depth (heightOfMembers members) ((rereadMembers? members).map fun read => (done ++ read, rest))

theorem toList_compressItems_true : (compressItems true (item :: items)).toList =
    (compress item).toList ++ (compressItems false items).toList := by
  rw [compressItems, String.toList_append, String.toList_append]
  rfl

theorem toList_compressItems_false : (compressItems false (item :: items)).toList =
    ',' :: (compressItems true (item :: items)).toList := by
  rw [compressItems, compressItems, String.toList_append, String.toList_append, String.toList_append,
    String.toList_append]
  rfl

theorem toList_compressMembers_true : (compressMembers true ((name, value) :: members)).toList =
    (quote name).toList ++ ':' :: ((compress value).toList ++ (compressMembers false members).toList) := by
  simp [compressMembers]

theorem toList_compressMembers_false : (compressMembers false ((name, value) :: members)).toList =
    ',' :: (compressMembers true ((name, value) :: members)).toList := by
  rw [toList_compressMembers_true, compressMembers]
  simp

theorem toList_compress_array (items : List Json) :
    (compress (.array items)).toList = '[' :: ((compressItems true items).toList ++ [']']) := by
  rw [compress, String.toList_append, String.toList_append]
  rfl

theorem toList_compress_object (members : List (String × Json)) :
    (compress (.object members)).toList = '\x7b' :: ((compressMembers true members).toList ++ ['\x7d']) := by
  rw [compress, String.toList_append, String.toList_append]
  rfl

/-- A value begins with a character that is neither a blank nor closes an array. -/
theorem exists_compress (value : Json) : ∃ c more, (compress value).toList = c :: more ∧
    c ∉ [' ', '\n', '\r', '\t', ']'] := by
  match value with
  | .null => exact ⟨_, _, rfl, by decide⟩
  | .bool true => exact ⟨_, _, rfl, by decide⟩
  | .bool false => exact ⟨_, _, rfl, by decide⟩
  | .number value =>
      obtain ⟨word, numeral, written | written⟩ := numeral_write value
      · obtain ⟨c, more, rfl, isDigit⟩ := numeral.exists_cons
        have noDigits : [' ', '\n', '\r', '\t', ']'].all (fun mark => !mark.isDigit) = true := rfl
        refine ⟨c, more, written, fun member => ?_⟩
        have noDigit := List.all_eq_true.mp noDigits c member
        rw [isDigit] at noDigit
        cases noDigit
      · exact ⟨_, _, written, by decide⟩
  | .string value => exact ⟨_, _, String.toList_ofList, by decide⟩
  | .array items => exact ⟨_, _, toList_compress_array items, by decide⟩
  | .object members => exact ⟨_, _, toList_compress_object members, by decide⟩

theorem readValue_array {chars : List Char} (noBlank : skipBlanks chars = chars)
    (some : ∀ more, chars ≠ ']' :: more) :
    readValue (fuel + 1) (depth + 1) ('[' :: chars) =
      (readItems fuel depth chars).map fun read => (.array read.1, read.2) := by
  have bracket : skipBlanks ('[' :: chars) = '[' :: chars := rfl
  rw [readValue, bracket]
  simp only [noBlank]

theorem readValue_object {chars : List Char} (noBlank : skipBlanks chars = chars)
    (some : ∀ more, chars ≠ '\x7d' :: more) :
    readValue (fuel + 1) (depth + 1) ('\x7b' :: chars) =
      (readMembers fuel depth [] chars).map fun read => (.object read.1, read.2) := by
  have brace : skipBlanks ('\x7b' :: chars) = '\x7b' :: chars := rfl
  rw [readValue, brace]
  simp only [noBlank]

theorem noBlank_compressItems (item : Json) (items : List Json) (rest : List Char) :
    skipBlanks ((compressItems true (item :: items)).toList ++ rest) =
        (compressItems true (item :: items)).toList ++ rest ∧
      ∀ more, (compressItems true (item :: items)).toList ++ rest ≠ ']' :: more := by
  obtain ⟨c, more, written, visible⟩ := exists_compress item
  rw [toList_compressItems_true, written]
  constructor
  · have noBlank : c ∉ [' ', '\n', '\r', '\t'] := fun blank => visible (List.mem_append_left [']'] blank)
    exact skipBlanks_cons noBlank
  · rintro behind ⟨⟩
    exact visible (by decide)

theorem readsItems_succ (reads : ReadsValues fuel) (readsItems : ReadsItems fuel) :
    ReadsItems (fuel + 1) := by
  intro items depth rest some each enough
  obtain ⟨item, items, rfl⟩ := List.exists_cons_of_ne_nil some
  obtain ⟨first, others⟩ := List.forall_mem_cons.mp each
  rw [toList_compressItems_true, List.length_append] at enough
  have ends : Ends ((compressItems false items).toList ++ ']' :: rest) := by
    cases items with
    | nil => exact .cons rfl (by decide)
    | cons next items =>
        rw [toList_compressItems_false]
        exact .cons rfl (by decide)
  rw [toList_compressItems_true, List.append_assoc, readItems, reads item depth _ first (by omega) ends,
    heightOfItems, rereadItems?, within_max, Option.bind_eq_bind, within_bind]
  refine congrArg (within depth item.height) ?_
  cases item.reread? with
  | none => exact within_none.symm
  | some found =>
      cases items with
      | nil => rfl
      | cons next items =>
          rw [toList_compressItems_false, List.length_cons] at enough
          have behind := readsItems (next :: items) depth rest (List.cons_ne_nil _ _) others (by omega)
          have comma (more : List Char) : skipBlanks (',' :: more) = ',' :: more := rfl
          rw [toList_compressItems_false, List.cons_append]
          simp only [comma, Option.map_some, Option.bind_some, behind, Option.bind_eq_bind, within_bind]
          cases rereadItems? (next :: items) <;> rfl

theorem noBlank_compressMembers (member : String × Json) (members : List (String × Json)) (rest : List Char) :
    skipBlanks ((compressMembers true (member :: members)).toList ++ rest) =
        (compressMembers true (member :: members)).toList ++ rest ∧
      ∀ more, (compressMembers true (member :: members)).toList ++ rest ≠ '\x7d' :: more := by
  obtain ⟨inside, quoted, _⟩ := readString_quote member.1
  rw [toList_compressMembers_true, quoted]
  exact ⟨rfl, fun _ same => by cases same⟩

theorem readsMembers_succ (reads : ReadsValues fuel) (readsMembers : ReadsMembers fuel) :
    ReadsMembers (fuel + 1) := by
  intro members done depth rest some distinct each enough
  obtain ⟨⟨name, value⟩, members, rfl⟩ := List.exists_cons_of_ne_nil some
  obtain ⟨first, others⟩ := List.forall_mem_cons.mp each
  obtain ⟨inside, quoted, readsName⟩ := readString_quote name
  rw [toList_compressMembers_true, quoted, List.cons_append, List.length_cons, List.length_append,
    List.length_cons, List.length_append] at enough
  have ends : Ends ((compressMembers false members).toList ++ '\x7d' :: rest) := by
    cases members with
    | nil => exact .cons rfl (by decide)
    | cons next members =>
        rw [toList_compressMembers_false]
        exact .cons rfl (by decide)
  have mark (more : List Char) : skipBlanks ('"' :: more) = '"' :: more := rfl
  have colon (more : List Char) : skipBlanks (':' :: more) = ':' :: more := rfl
  rw [toList_compressMembers_true, quoted, List.cons_append, List.cons_append, List.append_assoc,
    List.cons_append, List.append_assoc, readMembers, mark]
  simp only [readsName, Option.bind_eq_bind, Option.bind_some, colon, reads value depth _ first (by omega) ends]
  rw [heightOfMembers, rereadMembers?, within_max, within_bind]
  refine congrArg (within depth value.height) ?_
  cases value.reread? with
  | none => exact within_none.symm
  | some found =>
      have absent : name ∉ done.map (·.1) := not_mem_map_of_nodup_append distinct
      cases members with
      | nil =>
          simp only [Option.map_some, Option.bind_some, putMember_of_absent absent]
          rfl
      | cons next members =>
          obtain ⟨nextName, nextValue⟩ := next
          rw [toList_compressMembers_false, List.length_cons] at enough
          rw [List.append_cons, List.map_append] at distinct
          have behind := readsMembers ((nextName, nextValue) :: members) (done ++ [(name, found)]) depth rest
            (List.cons_ne_nil _ _) (by simpa using distinct) others (by omega)
          have comma (more : List Char) : skipBlanks (',' :: more) = ',' :: more := rfl
          rw [toList_compressMembers_false, List.cons_append]
          simp only [comma, Option.map_some, Option.bind_some, putMember_of_absent absent, behind, Option.map_map]
          cases rereadMembers? ((nextName, nextValue) :: members) <;> simp

theorem readsValues_succ (readsItems : ReadsItems fuel) (readsMembers : ReadsMembers fuel) :
    ReadsValues (fuel + 1) := by
  intro value depth rest distinct enough ends
  cases value with
  | null => exact within_zero.symm
  | bool value => cases value <;> exact within_zero.symm
  | number value =>
      rw [height, within_zero, compress, Number.readValue_write value ends, reread?, Option.map_map]
      rfl
  | string value =>
      obtain ⟨inside, quoted, readsBack⟩ := readString_quote value
      have mark (more : List Char) : skipBlanks ('"' :: more) = '"' :: more := rfl
      rw [height, within_zero, compress, quoted, List.cons_append, readValue, mark]
      simp only [readsBack, reread?, Option.map_some]
  | array items =>
      obtain ⟨_, each⟩ := everywhere_array.mp distinct
      rw [toList_compress_array, List.length_cons, List.length_append, List.length_singleton] at enough
      rw [toList_compress_array, List.cons_append, List.append_assoc, List.singleton_append, height, reread?,
        Option.map_map]
      cases depth with
      | zero => exact within_zero_succ.symm
      | succ depth =>
          rw [within_succ]
          cases items with
          | nil => exact within_zero.symm
          | cons item items =>
              obtain ⟨noBlank, opened⟩ := noBlank_compressItems item items (']' :: rest)
              have reads := readsItems _ depth rest (List.cons_ne_nil _ _) each (by omega)
              rw [readValue_array noBlank opened, reads, within_map, Option.map_map]
              rfl
  | object members =>
      obtain ⟨names, each⟩ := everywhere_object.mp distinct
      rw [toList_compress_object, List.length_cons, List.length_append, List.length_singleton] at enough
      rw [toList_compress_object, List.cons_append, List.append_assoc, List.singleton_append, height, reread?,
        Option.map_map]
      cases depth with
      | zero => exact within_zero_succ.symm
      | succ depth =>
          rw [within_succ]
          cases members with
          | nil => exact within_zero.symm
          | cons member members =>
              obtain ⟨noBlank, opened⟩ := noBlank_compressMembers member members ('\x7d' :: rest)
              have reads := readsMembers _ [] depth rest (List.cons_ne_nil _ _) names each (by omega)
              rw [readValue_object noBlank opened, reads, within_map, Option.map_map]
              rfl

theorem reads_all (fuel : Nat) : ReadsValues fuel ∧ ReadsItems fuel ∧ ReadsMembers fuel := by
  -- Over the fuel and not over the value: the three readers call each other with one less.
  induction fuel with
  | zero =>
      refine ⟨fun value depth rest _ enough _ => ?_, fun _ _ _ _ _ enough => absurd enough (Nat.not_lt_zero _),
        fun _ _ _ _ _ _ _ enough => absurd enough (Nat.not_lt_zero _)⟩
      obtain ⟨c, more, written, _⟩ := exists_compress value
      rw [written] at enough
      exact absurd enough (Nat.not_succ_le_zero _)
  | succ fuel ih =>
      obtain ⟨values, items, members⟩ := ih
      exact ⟨readsValues_succ items members, readsItems_succ values items, readsMembers_succ values members⟩

/-- A text that was written on one line is read back, if the value is not nested too deep, with each number as
what its text is read as. -/
theorem parse?_compress (distinct : value.Everywhere DistinctMembers) :
    parse? value.compress = within maxDepth value.height value.reread? := by
  have reads := (reads_all (value.compress.toList.length + 1)).1 value maxDepth [] distinct (Nat.le_succ _) .nil
  rw [List.append_nil] at reads
  rw [parse?, reads, within, within]
  split_ifs
  · cases value.reread? <;> rfl
  · rfl

end Values

section Numbers

mutual

/-- A value is read as it is if all numbers in it are. -/
theorem reread?_eq_self_iff : (value : Json) →
    (value.reread? = some value ↔ ∀ number, .number number ∈ value.parts → number.reread? = some number)
  | .null => by simp [reread?, parts]
  | .bool _ => by simp [reread?, parts]
  | .number value => by simp [reread?, parts]
  | .string _ => by simp [reread?, parts]
  | .array items => by simp [reread?, parts, rereadItems?_eq_self_iff items]
  | .object members => by simp [reread?, parts, rereadMembers?_eq_self_iff members]

theorem rereadItems?_eq_self_iff : (items : List Json) →
    (rereadItems? items = some items ↔
      ∀ number, .number number ∈ partsOfItems items → number.reread? = some number)
  | [] => by simp [rereadItems?, partsOfItems]
  | item :: rest => by
      simp only [rereadItems?, partsOfItems, List.mem_append, or_imp, forall_and, ← reread?_eq_self_iff item,
        ← rereadItems?_eq_self_iff rest]
      cases item.reread? <;> cases rereadItems? rest <;> simp

theorem rereadMembers?_eq_self_iff : (members : List (String × Json)) →
    (rereadMembers? members = some members ↔
      ∀ number, .number number ∈ partsOfMembers members → number.reread? = some number)
  | [] => by simp [rereadMembers?, partsOfMembers]
  | (name, value) :: rest => by
      simp only [rereadMembers?, partsOfMembers, List.mem_append, or_imp, forall_and,
        ← reread?_eq_self_iff value, ← rereadMembers?_eq_self_iff rest]
      cases value.reread? <;> cases rereadMembers? rest <;> simp

end

end Numbers

end ThreatModel.Json

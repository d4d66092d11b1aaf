import ThreatModel.Proofs.Document.Lossless
import ThreatModel.Scheme.PostProcessor

/-!
Carrying texts down. Blank cells take the nearest text above that is not blank, name by name, in rows that
the earlier names have changed already. But filling cells leaves the nearest text above every row as it is,
so what becomes of a row can be told from the original rows alone, whatever the order of the names.
-/

namespace ThreatModel

namespace Mapping

/-- Change the values that look-ups find: of entries of one name, the first. -/
def changeFound (change : String → Node → Node) : Mapping → Mapping
  | [] => []
  | (key, value) :: rest =>
      (key, change key.name value) ::
        changeFound (fun name kept => if name = key.name then kept else change name kept) rest

/-- The change of the values of one name. -/
def changeOf (name : String) (change : Node → Node) (other : String) (value : Node) : Node :=
  if other = name then change value else value

variable {entries : Mapping} {name : String} {kept : Node}

theorem changeFound_id (entries : Mapping) : changeFound (fun _ kept => kept) entries = entries := by
  induction entries with
  | nil => rfl
  | cons first rest ih => simpa [changeFound] using ih

theorem length_changeFound (change : String → Node → Node) (entries : Mapping) :
    (changeFound change entries).length = entries.length := by
  induction entries generalizing change with
  | nil => rfl
  | cons first rest ih => rw [changeFound, List.length_cons, ih, List.length_cons]

theorem changeFound_changeFound (first second : String → Node → Node) (entries : Mapping) :
    changeFound second (changeFound first entries) =
      changeFound (fun name kept => second name (first name kept)) entries := by
  induction entries generalizing first second with
  | nil => rfl
  | cons entry rest ih =>
      have met : ∀ (name : String) (kept : Node),
          (if name = entry.1.name then (if name = entry.1.name then kept else first name kept)
            else second name (if name = entry.1.name then kept else first name kept)) =
          if name = entry.1.name then kept else second name (first name kept) := by
        intro name kept
        by_cases same : name = entry.1.name <;> simp [same]
      simp only [changeFound, ih, met]

theorem getElem?_changeFound (change : String → Node → Node) (entries : Mapping) (column : Nat) :
    (changeFound change entries)[column]? = entries[column]?.map fun entry =>
      (entry.1, if entry.1.name ∈ names (entries.take column) then entry.2
        else change entry.1.name entry.2) := by
  induction entries generalizing change column with
  | nil => rfl
  | cons first rest ih =>
      cases column with
      | zero => simp [changeFound, names]
      | succ column =>
          rw [changeFound, List.getElem?_cons_succ, ih, List.getElem?_cons_succ]
          congr 1
          funext entry
          by_cases same : entry.1.name = first.1.name <;> simp [names, same]

theorem get?_changeFound (change : String → Node → Node) (entries : Mapping) (name : String) :
    get? (changeFound change entries) name = (get? entries name).map (change name) := by
  induction entries generalizing change with
  | nil => rfl
  | cons first rest ih =>
      by_cases here : first.1.name = name
      · simp [changeFound, get?, find?, here]
      · have other : name ≠ first.1.name := fun same => here same.symm
        have inRest := ih fun name kept => if name = first.1.name then kept else change name kept
        simpa [changeFound, get?, find?, here, other] using inRest

theorem changeFound_changeOf_of_met {change : Node → Node} (entries : Mapping) :
    changeFound (fun other kept => if other = name then kept else changeOf name change other kept) entries =
      entries := by
  have unchanged : (fun (other : String) (kept : Node) =>
      if other = name then kept else changeOf name change other kept) = fun _ kept => kept := by
    funext other kept
    by_cases same : other = name <;> simp [changeOf, same]
  rw [unchanged, changeFound_id]

theorem changeOf_of_ne {key : Key} (different : key.name ≠ name) (change : Node → Node) :
    (fun other kept => if other = key.name then kept else changeOf name change other kept) =
      changeOf name change := by
  funext other kept
  by_cases same : other = key.name
  · have apart : other ≠ name := fun equal => different (same.symm.trans equal)
    simp [changeOf, same, different]
  · simp [same]

theorem changeFound_changeOf_of_absent (absent : get? entries name = none) (change : Node → Node) :
    changeFound (changeOf name change) entries = entries := by
  induction entries with
  | nil => rfl
  | cons first rest ih =>
      by_cases here : first.1.name = name
      · simp [get?, find?, here] at absent
      · have inRest : get? rest name = none := by simpa [get?, find?, here] using absent
        rw [changeFound, changeOf_of_ne here, ih inRest, changeOf, if_neg here]

theorem changeFound_changeOf (found : get? entries name = some kept) (change : Node → Node) :
    changeFound (changeOf name change) entries = replace entries name (change kept) := by
  induction entries with
  | nil => cases found
  | cons first rest ih =>
      by_cases here : first.1.name = name
      · obtain rfl : first.2 = kept := by simpa [get?, find?, here] using found
        obtain ⟨key, value⟩ := first
        subst here
        rw [changeFound, changeFound_changeOf_of_met, replace, if_pos rfl, changeOf, if_pos rfl]
      · have inRest : get? rest name = some kept := by simpa [get?, find?, here] using found
        rw [changeFound, changeOf_of_ne here, ih inRest, replace, if_neg here, changeOf, if_neg here]

theorem replace_found (found : get? entries name = some kept) : replace entries name kept = entries := by
  have unchanged : changeOf name id = fun _ kept => kept := by
    funext other kept
    by_cases same : other = name <;> simp [changeOf, same]
  have changed := changeFound_changeOf found id
  rw [unchanged, changeFound_id] at changed
  exact changed.symm

end Mapping

namespace PostProcessor

open Mapping (changeFound changeOf get?)

variable {name other : String} {above : Option Text} {rows : List Node} {row : Node} {text : Text}

/-- Change the cells of a row that look-ups find. -/
def changeCells (change : String → Node → Node) : Node → Node
  | .map entries => .map (changeFound change entries)
  | row => row

/-- Put the text above, if there is one, in the place of a blank text. -/
def fillCell (above : Option Text) : Node → Node
  | .text leaf => .text (if leaf.isBlank then above.getD leaf else leaf)
  | value => value

/-- The text under a name, unless it is blank. -/
def filledText? (name : String) (row : Node) : Option Text :=
  (cellText? name row).filter fun cell => !cell.isBlank

/-- The text that is carried on below a row. -/
def carry (name : String) (above : Option Text) (row : Node) : Option Text :=
  (filledText? name row).or above

/-- The last text under a name that is not blank. -/
def lastText? (name : String) (rows : List Node) : Option Text :=
  rows.foldl (carry name) none

theorem fillCell_fillCell (above : Option Text) (value : Node) :
    fillCell above (fillCell above value) = fillCell above value := by
  cases value with
  | null | list | map => rfl
  | text leaf =>
      cases above with
      | none => simp [fillCell]
      | some text => by_cases blank : leaf.isBlank <;> simp [fillCell, blank]

theorem changeCells_comp {first second both : String → Node → Node}
    (agree : ∀ name value, second name (first name value) = both name value) :
    changeCells second ∘ changeCells first = changeCells both := by
  obtain rfl : (fun name value => second name (first name value)) = both :=
    funext fun name => funext fun value => agree name value
  funext row
  cases row with
  | null | text | list => rfl
  | map entries => exact congrArg Node.map (Mapping.changeFound_changeFound first second entries)

theorem exists_found_of_cellText? (held : cellText? name row = some text) :
    ∃ entries, row = .map entries ∧ get? entries name = some (.text text) := by
  cases row with
  | null | text | list => cases held
  | map entries =>
      obtain ⟨kept, found, isText⟩ := Option.bind_eq_some_iff.mp held
      cases kept with
      | null | list | map => cases isText
      | text leaf =>
          cases isText
          exact ⟨entries, rfl, found⟩

theorem replaceCell_held (held : cellText? name row = some text) : replaceCell name text row = row := by
  obtain ⟨entries, rfl, found⟩ := exists_found_of_cellText? held
  rw [replaceCell, Mapping.replace_found found]

theorem changeCells_of_held (held : cellText? name row = some text) (above : Option Text) :
    changeCells (changeOf name (fillCell above)) row =
      replaceCell name (if text.isBlank then above.getD text else text) row := by
  obtain ⟨entries, rfl, found⟩ := exists_found_of_cellText? held
  rw [changeCells, Mapping.changeFound_changeOf found, replaceCell, fillCell]

theorem changeCells_of_none (absent : cellText? name row = none) (above : Option Text) :
    changeCells (changeOf name (fillCell above)) row = row := by
  cases row with
  | null | text | list => rfl
  | map entries =>
      rw [changeCells]
      cases found : get? entries name with
      | none => rw [Mapping.changeFound_changeOf_of_absent found]
      | some kept =>
          rw [cellText?, found] at absent
          cases kept with
          | text leaf => cases absent
          | null | list | map =>
              rw [Mapping.changeFound_changeOf found]
              exact congrArg Node.map (Mapping.replace_found found)

theorem filledText?_of_held (held : cellText? name row = some text) :
    filledText? name row = if text.isBlank then none else some text := by
  rw [filledText?, held]
  by_cases blank : text.isBlank <;> simp [Option.filter, blank]

theorem fillDown_cons (name : String) (above : Option Text) (row : Node) (rest : List Node) :
    fillDown name above (row :: rest) =
      changeCells (changeOf name (fillCell above)) row :: fillDown name (carry name above row) rest := by
  rw [carry]
  cases held : cellText? name row with
  | none =>
      have none_here : filledText? name row = none := by rw [filledText?, held]; rfl
      simp [fillDown, held, none_here, changeCells_of_none held]
  | some cell =>
      rw [changeCells_of_held held, filledText?_of_held held]
      by_cases blank : cell.isBlank
      · cases above with
        | none => simp [fillDown, held, blank, replaceCell_held held]
        | some text => simp [fillDown, held, blank]
      · simp [fillDown, held, blank, replaceCell_held held]

theorem getElem?_fillDown (name : String) (above : Option Text) (rows : List Node) (position : Nat) :
    (fillDown name above rows)[position]? = rows[position]?.map
      (changeCells (changeOf name (fillCell ((rows.take position).foldl (carry name) above)))) := by
  induction rows generalizing above position with
  | nil => rfl
  | cons row rest ih =>
      rw [fillDown_cons]
      cases position with
      | zero => rfl
      | succ position =>
          rw [List.getElem?_cons_succ, ih, List.getElem?_cons_succ, List.take_succ_cons, List.foldl_cons]

theorem length_fillDown (name : String) (above : Option Text) (rows : List Node) :
    (fillDown name above rows).length = rows.length := by
  induction rows generalizing above with
  | nil => rfl
  | cons row rest ih => rw [fillDown_cons, List.length_cons, ih, List.length_cons]

theorem take_fillDown (name : String) (above : Option Text) (rows : List Node) (position : Nat) :
    (fillDown name above rows).take position = fillDown name above (rows.take position) := by
  induction rows generalizing above position with
  | nil => simp [fillDown]
  | cons row rest ih =>
      cases position with
      | zero => rfl
      | succ position =>
          rw [fillDown_cons, List.take_succ_cons, ih, List.take_succ_cons, fillDown_cons]

/-! Filling a row does not change what is carried on below it. -/

theorem cellText?_changeCells (change : String → Node → Node) (entries : Mapping) :
    cellText? name (changeCells change (.map entries)) =
      ((get? entries name).map (change name)).bind Node.asText? := by
  rw [changeCells, cellText?, Mapping.get?_changeFound]

theorem carry_changeCells_of_ne (different : name ≠ other) (change : Node → Node) (above : Option Text)
    (row : Node) : carry name above (changeCells (changeOf other change) row) = carry name above row := by
  cases row with
  | null | text | list => rfl
  | map entries =>
      have unchanged : (get? entries name).map (changeOf other change name) = get? entries name := by
        cases get? entries name <;> simp [changeOf, different]
      rw [carry, filledText?, cellText?_changeCells, unchanged]
      rfl

theorem cellText?_fillCell (name : String) (above : Option Text) (row : Node) :
    cellText? name (changeCells (changeOf name (fillCell above)) row) =
      (cellText? name row).map fun cell => if cell.isBlank then above.getD cell else cell := by
  cases held : cellText? name row with
  | none => rw [changeCells_of_none held, held, Option.map_none]
  | some cell =>
      obtain ⟨entries, rfl, found⟩ := exists_found_of_cellText? held
      rw [cellText?_changeCells, found, Option.map_some, changeOf, if_pos rfl, fillCell]
      rfl

/-- A cell that takes the text above carries on what was carried before. -/
theorem carry_fillCell (name : String) (above : Option Text) (row : Node) :
    carry name above (changeCells (changeOf name (fillCell above)) row) = carry name above row := by
  rw [carry, carry, filledText?, filledText?, cellText?_fillCell]
  cases cellText? name row with
  | none => rfl
  | some cell =>
      by_cases blank : cell.isBlank
      · cases above with
        | none => simp [Option.filter, blank]
        | some text => by_cases textBlank : text.isBlank <;> simp [Option.filter, blank, textBlank]
      · simp [Option.filter, blank]

theorem foldl_carry_fillDown (name : String) (above : Option Text) (rows : List Node) :
    (fillDown name above rows).foldl (carry name) above = rows.foldl (carry name) above := by
  induction rows generalizing above with
  | nil => rfl
  | cons row rest ih => rw [fillDown_cons, List.foldl_cons, List.foldl_cons, carry_fillCell, ih]

theorem foldl_carry_fillDown_of_ne (different : name ≠ other) (start above : Option Text)
    (rows : List Node) :
    (fillDown other above rows).foldl (carry name) start = rows.foldl (carry name) start := by
  induction rows generalizing start above with
  | nil => rfl
  | cons row rest ih =>
      rw [fillDown_cons, List.foldl_cons, List.foldl_cons, carry_changeCells_of_ne different, ih]

theorem lastText?_fillDown (name other : String) (rows : List Node) :
    lastText? name (fillDown other none rows) = lastText? name rows := by
  by_cases same : name = other
  · subst same
    exact foldl_carry_fillDown name none rows
  · exact foldl_carry_fillDown_of_ne same none none rows

/-- Fill the cells of several names, one name after the other. -/
def fillNames (names : List String) (rows : List Node) : List Node :=
  names.foldl (fun rows name => fillDown name none rows) rows

/-- The change of a row whose cells are filled: each named cell takes the text above of its name. -/
def fillNamed (names : List String) (above : String → Option Text) (name : String) (value : Node) : Node :=
  if name ∈ names then fillCell (above name) value else value

theorem length_fillNames (names : List String) (rows : List Node) :
    (fillNames names rows).length = rows.length := by
  induction names generalizing rows with
  | nil => rfl
  | cons name rest ih => rw [fillNames, List.foldl_cons, ← fillNames, ih, length_fillDown]

theorem take_fillNames (names : List String) (rows : List Node) (position : Nat) :
    (fillNames names rows).take position = fillNames names (rows.take position) := by
  induction names generalizing rows with
  | nil => rfl
  | cons name rest ih => rw [fillNames, List.foldl_cons, ← fillNames, ih, take_fillDown]; rfl

theorem lastText?_fillNames (name : String) (names : List String) (rows : List Node) :
    lastText? name (fillNames names rows) = lastText? name rows := by
  induction names generalizing rows with
  | nil => rfl
  | cons other rest ih => rw [fillNames, List.foldl_cons, ← fillNames, ih, lastText?_fillDown]

theorem fillNamed_cons (first : String) (rest : List String) (above : String → Option Text)
    (name : String) (value : Node) :
    fillNamed rest above name (changeOf first (fillCell (above first)) name value) =
      fillNamed (first :: rest) above name value := by
  by_cases same : name = first
  · subst same
    by_cases again : name ∈ rest <;> simp [fillNamed, changeOf, again, fillCell_fillCell]
  · simp [fillNamed, changeOf, same]

theorem fillNamed_fillNamed (names : List String) (above : String → Option Text) (name : String)
    (value : Node) :
    fillNamed names above name (fillNamed names above name value) = fillNamed names above name value := by
  by_cases named : name ∈ names <;> simp [fillNamed, named, fillCell_fillCell]

/-- Every row is filled from the original rows above it. -/
theorem getElem?_fillNames (names : List String) (rows : List Node) (position : Nat) :
    (fillNames names rows)[position]? = rows[position]?.map
      (changeCells (fillNamed names fun name => lastText? name (rows.take position))) := by
  induction names generalizing rows with
  | nil =>
      have unchanged : changeCells (fillNamed [] fun name => lastText? name (rows.take position)) = id := by
        funext row
        cases row with
        | null | text | list => rfl
        | map entries => exact congrArg Node.map (Mapping.changeFound_id entries)
      rw [unchanged, Option.map_id]
      rfl
  | cons first rest ih =>
      have lasts : (fun name => lastText? name ((fillDown first none rows).take position)) =
          fun name => lastText? name (rows.take position) := by
        funext name
        rw [take_fillDown, lastText?_fillDown]
      have together := fillNamed_cons first rest fun name => lastText? name (rows.take position)
      rw [fillNames, List.foldl_cons, ← fillNames, ih, lasts, getElem?_fillDown, Option.map_map]
      exact congrArg (rows[position]?.map ·) (changeCells_comp together)

theorem fillNames_congr {names others : List String} (same : ∀ name, name ∈ names ↔ name ∈ others)
    (rows : List Node) : fillNames names rows = fillNames others rows := by
  have sameChange : fillNamed names = fillNamed others := by
    funext above name value
    simp only [fillNamed, same]
  apply List.ext_getElem?
  intro position
  rw [getElem?_fillNames, getElem?_fillNames, sameChange]

theorem fillNames_fillNames (names : List String) (rows : List Node) :
    fillNames names (fillNames names rows) = fillNames names rows := by
  apply List.ext_getElem?
  intro position
  have lasts : (fun name => lastText? name ((fillNames names rows).take position)) =
      fun name => lastText? name (rows.take position) := by
    funext name
    rw [take_fillNames, lastText?_fillNames]
  have again := fillNamed_fillNamed names fun name => lastText? name (rows.take position)
  rw [getElem?_fillNames, lasts, getElem?_fillNames, Option.map_map, changeCells_comp again]

theorem apply_inheritRowAbove (config : Json) (rows : List Node) :
    inheritRowAbove.apply config (.list rows) = .list (fillNames (namesIn config) rows) := rfl

/-- The text stands under the name in one of the rows, is not blank, and is the last such text. -/
def IsLastText (name : String) (rows : List Node) (text : Text) : Prop :=
  ∃ before row after, rows = before ++ row :: after ∧ filledText? name row = some text ∧
    ∀ later ∈ after, filledText? name later = none

theorem foldl_carry (name : String) (above : Option Text) (rows : List Node) :
    rows.foldl (carry name) above = (lastText? name rows).or above := by
  induction rows generalizing above with
  | nil => rfl
  | cons row rest ih =>
      rw [lastText?, List.foldl_cons, ih, List.foldl_cons, ih (carry name none row), carry, carry,
        Option.or_none, Option.or_assoc]

theorem lastText?_cons (name : String) (row : Node) (rest : List Node) :
    lastText? name (row :: rest) = (lastText? name rest).or (filledText? name row) := by
  rw [lastText?, List.foldl_cons, foldl_carry, carry, Option.or_none]

theorem lastText?_eq_none_iff : lastText? name rows = none ↔ ∀ row ∈ rows, filledText? name row = none := by
  induction rows with
  | nil => simp [lastText?]
  | cons row rest ih => rw [lastText?_cons, Option.or_eq_none_iff, ih, List.forall_mem_cons, and_comm]

theorem lastText?_eq_some_iff : lastText? name rows = some text ↔ IsLastText name rows text := by
  induction rows with
  | nil => simp [lastText?, IsLastText]
  | cons row rest ih =>
      rw [lastText?_cons, Option.or_eq_some_iff, ih, lastText?_eq_none_iff]
      constructor
      · intro found
        rcases found with inRest | atRow
        · obtain ⟨before, last, after, rfl, filled, blank⟩ := inRest
          exact ⟨row :: before, last, after, rfl, filled, blank⟩
        · exact ⟨[], row, rest, rfl, atRow.2, atRow.1⟩
      · intro isLast
        obtain ⟨before, last, after, order, filled, blank⟩ := isLast
        cases before with
        | nil =>
            cases order
            exact .inr ⟨blank, filled⟩
        | cons first before =>
            cases order
            exact .inl ⟨before, last, after, rfl, filled, blank⟩

/-- A cell, behind the entries `before` it in its row, takes a text from the rows above: it is named and
blank, and the text is the last under its name that is not blank. Of entries of one name, the first is the
cell. -/
structure TakesText (names : List String) (above : List Node) (before : Mapping) (key : Key) (value : Node)
    (text : Text) : Prop where
  named : key.name ∈ names
  first : key.name ∉ Mapping.names before
  blank : ∃ leaf, value = .text leaf ∧ leaf.isBlank
  nearest : IsLastText key.name above text

/-- The rows with the texts that their cells take from the original rows above them; all else is as it
was. -/
structure CarriedDown (names : List String) (rows filled : List Node) : Prop where
  length : filled.length = rows.length
  others : ∀ (position : Nat) (row : Node), rows[position]? = some row → (∀ entries, row ≠ .map entries) →
    filled[position]? = some row
  cells : ∀ (position : Nat) (entries : Mapping), rows[position]? = some (.map entries) →
    ∃ done : Mapping, filled[position]? = some (.map done) ∧ done.length = entries.length ∧
      ∀ (column : Nat) (key : Key) (value : Node), entries[column]? = some (key, value) →
        ∃ now, done[column]? = some (key, now) ∧
          (∀ text, TakesText names (rows.take position) (entries.take column) key value text →
            now = .text text) ∧
          ((∀ text, ¬ TakesText names (rows.take position) (entries.take column) key value text) →
            now = value)

theorem TakesText.fillNamed_eq {names : List String} {above : List Node} {before : Mapping} {key : Key}
    {value : Node} (takes : TakesText names above before key value text) :
    fillNamed names (fun name => lastText? name above) key.name value = .text text := by
  obtain ⟨leaf, rfl, blank⟩ := takes.blank
  rw [fillNamed, if_pos takes.named, lastText?_eq_some_iff.mpr takes.nearest, fillCell, if_pos blank,
    Option.getD_some]

theorem fillNamed_eq_of_not_takesText {names : List String} {above : List Node} {before : Mapping}
    {key : Key} {value : Node} (first : key.name ∉ Mapping.names before)
    (takesNone : ∀ text, ¬ TakesText names above before key value text) :
    fillNamed names (fun name => lastText? name above) key.name value = value := by
  rw [fillNamed]
  by_cases named : key.name ∈ names
  · rw [if_pos named]
    cases value with
    | null | list | map => rfl
    | text leaf =>
        by_cases blank : leaf.isBlank
        · cases last : lastText? key.name above with
          | none => simp [fillCell]
          | some text =>
              have takes : TakesText names above before key (.text leaf) text :=
                ⟨named, first, ⟨leaf, rfl, blank⟩, lastText?_eq_some_iff.mp last⟩
              exact absurd takes (takesNone text)
        · simp [fillCell, blank]
  · rw [if_neg named]

theorem carriedDown_fillNames (names : List String) (rows : List Node) :
    CarriedDown names rows (fillNames names rows) where
  length := length_fillNames names rows
  others position row found notMapping := by
    rw [getElem?_fillNames, found, Option.map_some]
    cases row with
    | null | text | list => rfl
    | map entries => exact absurd rfl (notMapping entries)
  cells position entries found := by
    have filled : (fillNames names rows)[position]? = some (.map (changeFound
        (fillNamed names fun name => lastText? name (rows.take position)) entries)) := by
      rw [getElem?_fillNames, found]
      rfl
    refine ⟨_, filled, Mapping.length_changeFound _ entries, fun column key value listed => ?_⟩
    rw [Mapping.getElem?_changeFound, listed]
    refine ⟨_, rfl, fun text takes => ?_, fun takesNone => ?_⟩
    · rw [if_neg takes.first]
      exact takes.fillNamed_eq
    · split
      · rfl
      · next first => exact fillNamed_eq_of_not_takesText first takesNone

/-- Carrying texts down lets every named blank cell take the nearest text above it in the original rows,
and changes nothing else. Neither the order of the names nor their repetition matters, and to do it again
changes nothing. -/
theorem carries_down (config : Json) (rows : List Node) :
    ∃ filled, inheritRowAbove.apply config (.list rows) = .list filled ∧
      CarriedDown (namesIn config) rows filled ∧
      (∀ other : Json, (∀ name, name ∈ namesIn other ↔ name ∈ namesIn config) →
        inheritRowAbove.apply other (.list rows) = .list filled) ∧
      inheritRowAbove.apply config (.list filled) = .list filled := by
  refine ⟨fillNames (namesIn config) rows, rfl, carriedDown_fillNames _ rows, fun other same => ?_, ?_⟩
  · rw [apply_inheritRowAbove, fillNames_congr same]
  · rw [apply_inheritRowAbove, fillNames_fillNames]

/-- Rows without order: one is a remark, one has no component, one a list of owners. -/
def remarkedRows (component owner : Text) : List Node :=
  [.map [(.ofName "owner", .ofString ""), (.ofName "component", .text ⟨" API ", .ofList [("page", "3")]⟩)],
    .ofString "remark",
    .map [(.ofName "owner", .text ⟨"Ops", .ofList [("page", "4")]⟩)],
    .map [(.ofName "component", .text component), (.ofName "owner", .list [.ofString "Sec", .null])],
    .map [(.ofName "owner", .text owner), (.ofName "component", .ofString "DB")]]

theorem carries_down_remarked :
    let given := remarkedRows (.ofString "\t") (.ofString " ")
    let filled := remarkedRows ⟨" API ", .ofList [("page", "3")]⟩ ⟨"Ops", .ofList [("page", "4")]⟩
    inheritRowAbove.apply (.ofStrings ["owner", "component"]) (.list given) = .list filled ∧
      CarriedDown ["owner", "component"] given filled ∧
      inheritRowAbove.apply (.ofStrings ["component", "owner", "component"]) (.list given) = .list filled ∧
      inheritRowAbove.apply (.ofStrings ["owner", "component"]) (.list filled) = .list filled := by
  intro given filled
  have ran : inheritRowAbove.apply (.ofStrings ["owner", "component"]) (.list given) = .list filled := rfl
  have sameNames : ∀ name, name ∈ namesIn (.ofStrings ["component", "owner", "component"]) ↔
      name ∈ namesIn (.ofStrings ["owner", "component"]) := by
    intro name
    change name ∈ ["component", "owner", "component"] ↔ name ∈ ["owner", "component"]
    simp only [List.mem_cons, List.not_mem_nil, or_false]
    constructor
    · rintro (component | owner | component)
      · exact .inr component
      · exact .inl owner
      · exact .inr component
    · rintro (owner | component)
      · exact .inr (.inl owner)
      · exact .inl component
  obtain ⟨rows, applied, carried, anyOrder, again⟩ :=
    carries_down (.ofStrings ["owner", "component"]) given
  obtain rfl : filled = rows := Node.list.inj (ran.symm.trans applied)
  exact ⟨ran, carried, anyOrder _ sameNames, again⟩

end PostProcessor

end ThreatModel

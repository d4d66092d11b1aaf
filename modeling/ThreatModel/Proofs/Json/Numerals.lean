import Mathlib.Data.List.TakeWhile
import Mathlib.Data.Nat.Digits.Defs
import ThreatModel.Json.Printer
import ThreatModel.Json.Reader

/-!
Numbers in a text. What a number is written as is read in one way, whatever stands behind it that cannot
belong to a number. An integer of 64 bits is read as it is; a double is read as the double that its text
alone is read as, which need not be the same one.
-/

namespace ThreatModel.Json

/-- No digit stands at the front. -/
def NoDigit (rest : List Char) : Prop := ∀ c ∈ rest.head?, c.isDigit = false

/-- What stands at the front does not belong to a number. -/
structure Ends (rest : List Char) : Prop where
  noDigit : NoDigit rest
  noMark : ∀ c ∈ rest.head?, c ≠ '.' ∧ c ≠ 'e' ∧ c ≠ 'E'

structure Digits (word : List Char) : Prop where
  some : word ≠ []
  each : ∀ c ∈ word, c.isDigit

/-- A point with digits, or nothing. -/
inductive Fraction : List Char → Prop
  | absent : Fraction []
  | point {word : List Char} (digits : Digits word) : Fraction ('.' :: word)

/-- A power of ten with its sign, or nothing. -/
inductive Exponent : List Char → Prop
  | absent : Exponent []
  | power {sign : Char} {word : List Char} (isSign : sign = '+' ∨ sign = '-') (digits : Digits word) :
      Exponent ('e' :: sign :: word)

/-- A number without sign, as it is written. -/
inductive Numeral : List Char → Prop
  | parts {whole fraction exponent : List Char} (digits : Digits whole) (isFraction : Fraction fraction)
      (isExponent : Exponent exponent) : Numeral (whole ++ (fraction ++ exponent))

variable {word rest whole fraction exponent : List Char} {c : Char}

theorem noDigit_nil : NoDigit [] := fun _ isHead => by cases isHead

theorem noDigit_cons (other : c.isDigit = false) : NoDigit (c :: rest) := by
  rintro _ ⟨⟩
  exact other

theorem Ends.nil : Ends [] := ⟨noDigit_nil, fun _ isHead => by cases isHead⟩

theorem Ends.cons (noDigit : c.isDigit = false) (noMark : c ≠ '.' ∧ c ≠ 'e' ∧ c ≠ 'E') :
    Ends (c :: rest) := by
  refine ⟨noDigit_cons noDigit, ?_⟩
  rintro _ ⟨⟩
  exact noMark

theorem Exponent.noDigit_append (isExponent : Exponent word) (ends : Ends rest) :
    NoDigit (word ++ rest) := by
  cases isExponent with
  | absent => exact ends.noDigit
  | power => exact noDigit_cons rfl

theorem Fraction.noDigit_append (isFraction : Fraction fraction) (behind : NoDigit rest) :
    NoDigit (fraction ++ rest) := by
  cases isFraction with
  | absent => exact behind
  | point => exact noDigit_cons rfl

section Runs

/-! Runs of digits. -/

theorem dropWhile_of_noDigit (behind : NoDigit rest) : rest.dropWhile (·.isDigit) = rest := by
  cases rest with
  | nil => rfl
  | cons c rest => rw [List.dropWhile_cons_of_neg (by simp [behind c rfl])]

theorem takeWhile_of_noDigit (behind : NoDigit rest) : rest.takeWhile (·.isDigit) = [] := by
  cases rest with
  | nil => rfl
  | cons c rest => rw [List.takeWhile_cons_of_neg (by simp [behind c rfl])]

theorem dropWhile_digits (each : ∀ c ∈ word, c.isDigit) (behind : NoDigit rest) :
    (word ++ rest).dropWhile (·.isDigit) = rest := by
  rw [List.dropWhile_append_of_pos each, dropWhile_of_noDigit behind]

theorem takeWhile_digits (each : ∀ c ∈ word, c.isDigit) (behind : NoDigit rest) :
    (word ++ rest).takeWhile (·.isDigit) = word := by
  rw [List.takeWhile_append_of_pos each, takeWhile_of_noDigit behind, List.append_nil]

/-- How many digits are taken does not depend on what follows them. -/
theorem exists_takeDigits (each : ∀ c ∈ word, c.isDigit) (value taken : Nat) :
    ∃ value' taken' left, (∀ c ∈ left, c.isDigit) ∧
      ∀ rest, NoDigit rest → takeDigits value taken (word ++ rest) = (value', taken', left ++ rest) := by
  induction word generalizing value taken with
  | nil =>
      refine ⟨value, taken, [], List.forall_mem_nil _, fun rest behind => ?_⟩
      cases rest with
      | nil => rfl
      | cons c rest => simp [takeDigits, behind c rfl]
  | cons c word ih =>
      obtain ⟨isDigit, others⟩ := List.forall_mem_cons.mp each
      by_cases fits : value * 10 + (c.toNat - '0'.toNat) ≤ maxInteger
      · obtain ⟨value', taken', left, all, taking⟩ := ih others (value * 10 + (c.toNat - '0'.toNat)) (taken + 1)
        refine ⟨value', taken', left, all, fun rest behind => ?_⟩
        rw [List.cons_append, takeDigits, if_pos isDigit, if_pos fits, taking rest behind]
      · refine ⟨value, taken, c :: word, each, fun rest _ => ?_⟩
        rw [List.cons_append, takeDigits, if_pos isDigit, if_neg fits]

theorem le_ofDigitChars (value : Nat) : value ≤ Nat.ofDigitChars 10 word value := by
  induction word generalizing value with
  | nil => exact Nat.le_refl value
  | cons c word ih =>
      rw [Nat.ofDigitChars_cons]
      exact Nat.le_trans (by omega) (ih _)

/-- All digits of a number of 64 bits are taken. -/
theorem takeDigits_append (each : ∀ c ∈ word, c.isDigit) (behind : NoDigit rest) {value : Nat}
    (fits : Nat.ofDigitChars 10 word value ≤ maxInteger) (taken : Nat) :
    takeDigits value taken (word ++ rest) = (Nat.ofDigitChars 10 word value, taken + word.length, rest) := by
  induction word generalizing value taken with
  | nil =>
      cases rest with
      | nil => rfl
      | cons c rest => simp [takeDigits, behind c rfl]
  | cons c word ih =>
      obtain ⟨isDigit, others⟩ := List.forall_mem_cons.mp each
      rw [Nat.ofDigitChars_cons, Nat.mul_comm 10 value] at fits ⊢
      have next := Nat.le_trans (le_ofDigitChars _) fits
      rw [List.cons_append, takeDigits, if_pos isDigit, if_pos next, ih others fits, List.length_cons]
      congr 2
      omega

end Runs

section Reading

/-! What is read of the parts of a number, from the last to the whole, is the same for all that can follow. -/

variable {negative : Bool} {significand dropped : Nat} {power : Int}

theorem readExponent_append (isExponent : Exponent word) (ends : Ends rest) :
    readExponent negative significand power (word ++ rest) =
      (readExponent negative significand power word).map fun read => (read.1, rest) := by
  cases isExponent with
  | absent =>
      cases rest with
      | nil => simp [readExponent, Function.comp_def]
      | cons c rest => simp [readExponent, ends.noMark c rfl, Function.comp_def]
  | @power sign word isSign digits =>
      have alone : word.takeWhile (·.isDigit) = word := List.takeWhile_eq_self_iff.mpr digits.each
      have nothing : word.dropWhile (·.isDigit) = [] := List.dropWhile_eq_nil_iff.mpr digits.each
      rcases isSign with rfl | rfl
      all_goals
        simp only [List.cons_append, readExponent, takeWhile_digits digits.each ends.noDigit, alone, nothing,
          dropWhile_digits digits.each ends.noDigit, true_or, if_true]
        split_ifs <;> simp [Function.comp_def]

theorem readFraction_append (isFraction : Fraction fraction) (isExponent : Exponent exponent)
    (ends : Ends rest) :
    readFraction negative significand dropped (fraction ++ (exponent ++ rest)) =
      (readFraction negative significand dropped (fraction ++ exponent)).map fun read => (read.1, rest) := by
  cases isFraction with
  | absent =>
      have noPoint {rest : List Char} (ends : Ends rest) (more : List Char) : exponent ++ rest ≠ '.' :: more := by
        intro same
        cases isExponent with
        | absent =>
            subst same
            exact (ends.noMark '.' rfl).1 rfl
        | power => cases same
      have passes {rest : List Char} (ends : Ends rest) :
          readFraction negative significand dropped (exponent ++ rest) =
            readExponent negative significand dropped (exponent ++ rest) := by
        rw [readFraction]
        exact noPoint ends
      have alone := passes .nil
      rw [List.append_nil] at alone
      rw [List.nil_append, List.nil_append, passes ends, alone, readExponent_append isExponent ends]
  | @point word digits =>
      have behind := isExponent.noDigit_append ends
      have alone := isExponent.noDigit_append .nil
      rw [List.append_nil] at alone
      obtain ⟨value, taken, left, all, taking⟩ := exists_takeDigits digits.each significand 0
      simp only [List.cons_append, readFraction, taking _ behind, taking _ alone, takeWhile_digits digits.each behind,
        takeWhile_digits digits.each alone, dropWhile_digits digits.each behind, dropWhile_digits digits.each alone,
        dropWhile_digits all behind, dropWhile_digits all alone, readExponent_append isExponent ends]
      split_ifs <;> simp

/-- A zero stands before other digits. -/
def leadingZero : List Char → Bool
  | '0' :: c :: _ => c.isDigit
  | _ => false

/-- Neither a fraction nor an exponent stands at the front. -/
def endsWhole : List Char → Bool
  | c :: _ => !(c == '.' || c == 'e' || c == 'E')
  | [] => true

/-- The number of digits without a fraction. -/
def wholeNumber (negative : Bool) (significand : Nat) : Option Number :=
  if ¬ negative then some (.integer significand)
  else if significand ≠ 0 ∧ significand ≤ Nat.pow 2 63 then some (.integer (-(significand : Int)))
  else realNumber true significand 0

theorem leadingZero_of_ne (other : c ≠ '0') : leadingZero (c :: rest) = false := by
  rw [leadingZero]
  rintro next behind ⟨⟩
  exact other rfl

theorem leadingZero_append (some : word ≠ []) (behind : NoDigit rest) :
    leadingZero (word ++ rest) = leadingZero word := by
  obtain ⟨first, word, rfl⟩ := List.exists_cons_of_ne_nil some
  by_cases zero : first = '0'
  · subst zero
    cases word with
    | cons => rfl
    | nil =>
        cases rest with
        | nil => rfl
        | cons c rest => exact behind c rfl
  · rw [List.cons_append, leadingZero_of_ne zero, leadingZero_of_ne zero]

theorem endsWhole_append (isFraction : Fraction fraction) (isExponent : Exponent exponent)
    (ends : Ends rest) : endsWhole (fraction ++ (exponent ++ rest)) = (fraction ++ exponent).isEmpty := by
  cases isFraction with
  | point => rfl
  | absent =>
      cases isExponent with
      | power => rfl
      | absent =>
          cases rest with
          | nil => rfl
          | cons c rest => simp [endsWhole, ends.noMark c rfl]

theorem readMagnitude_of_digits (digits : Digits whole) (behind : NoDigit rest)
    (taking : takeDigits 0 0 (whole ++ rest) = (significand, taken, left ++ rest)) (all : ∀ c ∈ left, c.isDigit) :
    readMagnitude negative (whole ++ rest) =
      if leadingZero whole then none
      else if endsWhole rest && left.length == 0 then (wholeNumber negative significand).map (·, rest)
      else readFraction negative significand left.length rest := by
  have parts : readMagnitude negative (whole ++ rest) =
      if leadingZero (whole ++ rest) || ((whole ++ rest).takeWhile (·.isDigit)).isEmpty then none
      else
        let significand := (takeDigits 0 0 (whole ++ rest)).1
        let after := (takeDigits 0 0 (whole ++ rest)).2.2
        let dropped := (after.takeWhile (·.isDigit)).length
        let rest := after.dropWhile (·.isDigit)
        if endsWhole rest && dropped == 0 then
          if ¬ negative then some (.integer significand, rest)
          else if significand ≠ 0 ∧ significand ≤ Nat.pow 2 63 then
            some (.integer (-(significand : Int)), rest)
          else (realNumber true significand 0).map (·, rest)
        else readFraction negative significand dropped rest := rfl
  have some : whole.isEmpty = false := by simpa using digits.some
  simp only [parts, taking, takeWhile_digits digits.each behind, some, Bool.or_false,
    takeWhile_digits all behind, dropWhile_digits all behind, leadingZero_append digits.some behind, wholeNumber]
  split_ifs <;> rfl

theorem readMagnitude_append (isNumeral : Numeral word) (ends : Ends rest) :
    readMagnitude negative (word ++ rest) =
      (readMagnitude negative word).map fun read => (read.1, rest) := by
  obtain @⟨whole, fraction, exponent, digits, isFraction, isExponent⟩ := isNumeral
  obtain ⟨significand, taken, left, all, taking⟩ := exists_takeDigits digits.each 0 0
  have behind := isFraction.noDigit_append (isExponent.noDigit_append ends)
  have alone := isFraction.noDigit_append (isExponent.noDigit_append .nil)
  rw [List.append_nil] at alone
  have whether := endsWhole_append isFraction isExponent ends
  have whetherAlone := endsWhole_append isFraction isExponent .nil
  rw [List.append_nil] at whetherAlone
  rw [List.append_assoc, List.append_assoc, readMagnitude_of_digits digits behind (taking _ behind) all,
    readMagnitude_of_digits digits alone (taking _ alone) all, whether, whetherAlone,
    readFraction_append isFraction isExponent ends]
  split_ifs with zero stops
  · rfl
  · have nothing : fraction ++ exponent = [] := by
      rw [Bool.and_eq_true] at stops
      exact List.isEmpty_iff.mp stops.1
    rw [← List.append_assoc, nothing, Option.map_map]
    rfl
  · rfl

end Reading

section Writing

theorem digits_digitsOf (value : Nat) : Digits (digitsOf value) where
  some := Nat.toDigits_ne_nil
  each _ member := Nat.isDigit_of_mem_toDigits (by decide) (by decide) member

theorem Digits.append (digits : Digits word) (each : ∀ c ∈ rest, c.isDigit) : Digits (word ++ rest) where
  some := List.append_ne_nil_of_left_ne_nil digits.some rest
  each := List.forall_mem_append.mpr ⟨digits.each, each⟩

theorem Digits.behind (digits : Digits rest) (each : ∀ c ∈ word, c.isDigit) : Digits (word ++ rest) where
  some := List.append_ne_nil_of_right_ne_nil word digits.some
  each := List.forall_mem_append.mpr ⟨each, digits.each⟩

theorem isDigit_of_mem_zeros {count : Nat} : ∀ c ∈ List.replicate count '0', c.isDigit := by
  intro c member
  rw [List.eq_of_mem_replicate member]
  rfl

theorem digits_zero : Digits ['0'] := ⟨List.cons_ne_nil _ _, List.forall_mem_singleton.mpr rfl⟩

theorem Numeral.ofWhole (digits : Digits word) : Numeral word := by
  have parts := Numeral.parts digits .absent .absent
  rwa [List.append_nil, List.append_nil] at parts

theorem Numeral.ofFraction (digits : Digits word) (behind : Digits rest) : Numeral (word ++ '.' :: rest) := by
  have parts := Numeral.parts digits (.point behind) .absent
  rwa [List.append_nil] at parts

theorem Digits.take (digits : Digits word) (count : Nat) : Digits (word.take (count + 1)) where
  some := by simpa using digits.some
  each c member := digits.each c (List.mem_of_mem_take member)

theorem Digits.drop (digits : Digits word) {count : Nat} (more : count < word.length) :
    Digits (word.drop count) where
  some := by simpa using more
  each c member := digits.each c (List.mem_of_mem_drop member)

theorem Numeral.ofPower {sign : Char} (isSign : sign = '+' ∨ sign = '-') (behind : Digits rest) :
    Digits word → Numeral ((match word with
      | [] => []
      | [digit] => [digit]
      | digit :: rest => digit :: '.' :: rest) ++ 'e' :: sign :: rest) := by
  intro digits
  have isExponent := Exponent.power isSign behind
  match word with
  | [] => exact absurd rfl digits.some
  | [digit] => exact .parts digits .absent isExponent
  | digit :: next :: more =>
      have first : Digits [digit] := digits.take 0
      have others : Digits (next :: more) := digits.drop (Nat.succ_lt_succ (Nat.succ_pos _))
      exact .parts first (.point others) isExponent

theorem numeral_scientific (number : Decimal.Scientific) : Numeral number.write := by
  have digits := digits_digitsOf number.digits
  rw [Decimal.Scientific.write]
  extract_lets fraction sign
  split_ifs with inRange whole point
  · exact .ofFraction (digits.append isDigit_of_mem_zeros) digits_zero
  · exact .ofFraction (digits.take _) (digits.drop (by omega))
  · exact .ofFraction digits_zero (digits.behind isDigit_of_mem_zeros)
  · have isSign : sign = '+' ∨ sign = '-' := by
      dsimp only [sign]
      split_ifs
      · exact .inr rfl
      · exact .inl rfl
    exact .ofPower isSign (digits_digitsOf _) digits

theorem numeral_double (value : Decimal.Binary64) :
    ∃ word, Numeral word ∧ (value.write = word ∨ value.write = '-' :: word) := by
  have magnitude : Numeral (if value.significand = 0 then ['0', '.', '0']
      else (Decimal.shortest value.significand value.exponent).write) := by
    split_ifs
    · exact .ofFraction digits_zero digits_zero
    · exact numeral_scientific _
  refine ⟨_, magnitude, ?_⟩
  rw [Decimal.Binary64.write]
  split
  · exact .inr rfl
  · exact .inl rfl

theorem numeral_write (value : Number) :
    ∃ word, Numeral word ∧ (value.write.toList = word ∨ value.write.toList = '-' :: word) := by
  match value with
  | .integer (.ofNat value) =>
      exact ⟨_, .ofWhole (digits_digitsOf value), .inl String.toList_ofList⟩
  | .integer (.negSucc value) =>
      exact ⟨_, .ofWhole (digits_digitsOf (value + 1)), .inr String.toList_ofList⟩
  | .real value =>
      rw [Number.write, String.toList_ofList]
      exact numeral_double value

theorem exists_digitsOf {value : Nat} (positive : 0 < value) :
    ∃ first rest, digitsOf value = first :: rest ∧ first ≠ '0' := by
  have single : ∀ digit < 10, 0 < digit → Nat.digitChar digit ≠ '0' := by decide
  induction value using Nat.strongRecOn with
  | ind value ih =>
      rw [digitsOf]
      by_cases small : value < 10
      · exact ⟨_, [], Nat.toDigits_of_lt_base small, single value small positive⟩
      · obtain ⟨first, rest, written, other⟩ := ih (value / 10) (by omega) (by omega)
        rw [digitsOf] at written
        rw [Nat.toDigits_of_base_le (by decide) (by omega), written]
        exact ⟨first, _, rfl, other⟩

theorem leadingZero_digitsOf (value : Nat) : leadingZero (digitsOf value) = false := by
  rcases Nat.eq_zero_or_pos value with rfl | positive
  · rfl
  · obtain ⟨first, rest, written, other⟩ := exists_digitsOf positive
    rw [written, leadingZero_of_ne other]

/-- The digits of an integer of 64 bits are all taken. -/
theorem readMagnitude_digitsOf {value : Nat} (fits : value ≤ maxInteger) (ends : Ends rest) :
    readMagnitude negative (digitsOf value ++ rest) = (wholeNumber negative value).map (·, rest) := by
  have digits := digits_digitsOf value
  have isValue : Nat.ofDigitChars 10 (digitsOf value) 0 = value := Nat.ofDigitChars_ten_toDigits
  have taking := takeDigits_append digits.each ends.noDigit (isValue.trans_le fits) 0
  have whole := endsWhole_append .absent .absent ends
  rw [isValue] at taking
  rw [readMagnitude_of_digits digits ends.noDigit taking (List.forall_mem_nil _), leadingZero_digitsOf]
  simp_all

end Writing

theorem Numeral.exists_cons (numeral : Numeral word) : ∃ c rest, word = c :: rest ∧ c.isDigit := by
  obtain @⟨whole, fraction, exponent, digits, _, _⟩ := numeral
  obtain ⟨c, rest, rfl⟩ := List.exists_cons_of_ne_nil digits.some
  exact ⟨c, _, rfl, digits.each c List.mem_cons_self⟩

section Values

/-! Numbers as values of a text. -/

variable {fuel depth : Nat}

theorem skipBlanks_cons (visible : c ∉ [' ', '\n', '\r', '\t']) : skipBlanks (c :: rest) = c :: rest :=
  List.dropWhile_cons_of_neg (by simpa using visible)

theorem readValue_of_isDigit (isDigit : c.isDigit) :
    readValue (fuel + 1) depth (c :: rest) =
      (readMagnitude false (c :: rest)).map fun read => (.number read.1, read.2) := by
  have differs (mark : Char) (noDigit : mark.isDigit = false) : c ≠ mark := by
    rintro rfl
    rw [noDigit] at isDigit
    cases isDigit
  have noBlank : skipBlanks (c :: rest) = c :: rest := skipBlanks_cons (by simp [differs])
  rw [readValue, noBlank]
  split
  · next same => cases same
  · next same => exact absurd (List.cons.inj same).1 (differs _ rfl)
  · next same => exact absurd (List.cons.inj same).1 (differs _ rfl)
  · next same => exact absurd (List.cons.inj same).1 (differs _ rfl)
  · next same => exact absurd (List.cons.inj same).1 (differs _ rfl)
  · next same =>
      cases same
      rw [if_pos isDigit]

theorem readValue_minus :
    readValue (fuel + 1) depth ('-' :: rest) =
      (readMagnitude true rest).map fun read => (.number read.1, read.2) := by
  rfl

theorem exists_readValue_number (value : Number) : ∃ number? : Option Number, ∀ fuel depth rest, Ends rest →
    readValue (fuel + 1) depth (value.write.toList ++ rest) =
      number?.map fun number => (.number number, rest) := by
  obtain ⟨word, numeral, written | written⟩ := numeral_write value
  · refine ⟨(readMagnitude false word).map (·.1), fun fuel depth rest ends => ?_⟩
    have read := @readMagnitude_append word rest false numeral ends
    obtain ⟨c, more, same, isDigit⟩ := numeral.exists_cons
    rw [same, List.cons_append] at read
    rw [written, same, List.cons_append, readValue_of_isDigit isDigit, read, Option.map_map, Option.map_map]
    rfl
  · refine ⟨(readMagnitude true word).map (·.1), fun fuel depth rest ends => ?_⟩
    rw [written, List.cons_append, readValue_minus, readMagnitude_append numeral ends, Option.map_map,
      Option.map_map]
    rfl

theorem readValue_digitsOf {value : Nat} (fits : value ≤ maxInteger) :
    readValue (fuel + 1) depth (digitsOf value) = some (.number (.integer value), []) := by
  obtain ⟨c, rest, written, isDigit⟩ := (Numeral.ofWhole (digits_digitsOf value)).exists_cons
  have magnitude := @readMagnitude_digitsOf [] false value fits .nil
  rw [List.append_nil] at magnitude
  rw [written, readValue_of_isDigit isDigit, ← written, magnitude]
  rfl

theorem readValue_minus_digitsOf {value : Nat} (some : value ≠ 0) (fits : value ≤ Nat.pow 2 63) :
    readValue (fuel + 1) depth ('-' :: digitsOf value) = Option.some (.number (.integer (-value)), []) := by
  have magnitude := @readMagnitude_digitsOf [] true value (Nat.le_trans fits (by decide)) .nil
  rw [List.append_nil] at magnitude
  rw [readValue_minus, magnitude, wholeNumber, if_neg (by decide), if_pos ⟨some, fits⟩]
  rfl

end Values

end ThreatModel.Json

namespace ThreatModel.Number

/-- The number that the text of a number is read as. -/
def reread? (value : Number) : Option Number :=
  match Json.parse? value.write with
  | some (.number read) => some read
  | _ => none

theorem readValue_write (value : Number) {rest : List Char} (ends : Json.Ends rest) (fuel depth : Nat) :
    Json.readValue (fuel + 1) depth (value.write.toList ++ rest) =
      value.reread?.map fun number => (.number number, rest) := by
  obtain ⟨number?, reading⟩ := Json.exists_readValue_number value
  have alone := reading value.write.toList.length Json.maxDepth [] .nil
  rw [List.append_nil] at alone
  have same : value.reread? = number? := by
    rw [reread?, Json.parse?]
    cases number? <;> simp [alone, Json.skipBlanks]
  rw [reading fuel depth rest ends, same]

/-- Integers of 64 bits are read as they are. -/
theorem reread?_integer {value : Int} (least : -2 ^ 63 ≤ value) (most : value < 2 ^ 64) :
    (Number.integer value).reread? = some (.integer value) := by
  have read := readValue_write (.integer value) .nil 0 0
  rw [List.append_nil] at read
  cases value with
  | ofNat value =>
      have fits : value ≤ Json.maxInteger := by
        have bound : Json.maxInteger = 2 ^ 64 - 1 := rfl
        rw [Int.ofNat_eq_natCast] at most
        omega
      rw [Number.write, String.toList_ofList, Json.readValue_digitsOf fits] at read
      obtain ⟨_, reread, same⟩ := Option.map_eq_some_iff.mp read.symm
      cases same
      exact reread
  | negSucc value =>
      have fits : value + 1 ≤ Nat.pow 2 63 := by
        have bound : Nat.pow 2 63 = 2 ^ 63 := rfl
        omega
      rw [Number.write, String.toList_ofList, Json.readValue_minus_digitsOf (Nat.succ_ne_zero value) fits] at read
      obtain ⟨_, reread, same⟩ := Option.map_eq_some_iff.mp read.symm
      cases same
      exact reread

end ThreatModel.Number

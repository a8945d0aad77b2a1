import Mathlib.Data.Nat.Digits.Defs
import RunAtlas.Json.Reader
import RunAtlas.Json.Writer

/-!
# Written values are read back

Whatever is written for a value is read as this value, up to where its text ends
(`Json.reads_of_render?`).  Numbers go on as long as digits, points and exponents do, so that none
of these may follow.
-/

namespace RunAtlas

namespace Decimal

/-! ## Digits -/

theorem digitValue?_of_isDigit {c : Char} (isDigit : c.isDigit = true) :
    digitValue? 10 c = some (c.toNat - '0'.toNat) := by
  have between : '0' ≤ c ∧ c ≤ '9' := by
    rw [Char.isDigit, Bool.and_eq_true, decide_eq_true_eq, decide_eq_true_eq] at isDigit
    exact isDigit
  have atMost : c.toNat ≤ '9'.toNat := between.2
  have small : c.toNat - '0'.toNat < 10 := by
    have nine : '9'.toNat = 57 := rfl
    have zero : '0'.toNat = 48 := rfl
    omega
  simp only [digitValue?, if_pos between, if_pos small]

theorem digitsFrom?_of_isDigit {digits : List Char} (areDigits : ∀ c ∈ digits, c.isDigit = true)
    (soFar : Nat) : digitsFrom? 10 soFar digits = some (Nat.ofDigitChars 10 digits soFar) := by
  induction digits generalizing soFar with
  | nil => rfl
  | cons c digits ih =>
      obtain ⟨isDigit, areDigits⟩ := List.forall_mem_cons.mp areDigits
      rw [digitsFrom?, digitValue?_of_isDigit isDigit]
      simp only [ih areDigits, Nat.ofDigitChars_cons, Nat.mul_comm]

theorem isDigit_of_mem_toDigits {number : Nat} : ∀ c ∈ Nat.toDigits 10 number, c.isDigit = true :=
  fun _ member => Nat.isDigit_of_mem_toDigits (by decide) (by decide) member

/-- The digits of a number are read as the number. -/
theorem wholeNumber?_toDigits (number : Nat) :
    wholeNumber? 10 (Nat.toDigits 10 number) = some number := by
  rw [wholeNumber?, if_neg (by simp), digitsFrom?_of_isDigit isDigit_of_mem_toDigits,
    Nat.ofDigitChars_toDigits (by decide) (by decide)]

/-- Only the digits of zero begin with a zero. -/
theorem eq_zero_of_head?_toDigits {number : Nat}
    (leads : (Nat.toDigits 10 number).head? = some '0') : number = 0 := by
  induction number using Nat.strongRecOn with
  | ind number ih =>
      by_cases short : number < 10
      · rw [Nat.toDigits_of_lt_base short, List.head?_cons, Option.some.injEq] at leads
        have digits : ∀ digit < 10, Nat.digitChar digit = '0' → digit = 0 := by decide
        exact digits number short leads
      · obtain ⟨first, others, shape⟩ :=
          List.exists_cons_of_ne_nil (Nat.toDigits_ne_nil (n := number / 10) (b := 10))
        rw [Nat.toDigits_of_base_le (by decide) (Nat.not_lt.mp short), shape] at leads
        have leadsQuotient : (Nat.toDigits 10 (number / 10)).head? = some '0' := by
          rw [shape]
          exact leads
        have quotient := ih (number / 10) (by omega) leadsQuotient
        omega

end Decimal

namespace Json

open Decimal

/-! ## Numbers -/

/-- A text does not go on with a number that stands before it. -/
def EndsNumber (rest : List Char) : Prop :=
  ∀ c ∈ rest.head?, c.isDigit = false ∧ c ≠ '.' ∧ c ≠ 'e' ∧ c ≠ 'E'

section EndsNumber

variable {rest : List Char} (ends : EndsNumber rest)
include ends

theorem takeWhile_isDigit_append {digits : List Char} (areDigits : ∀ c ∈ digits, c.isDigit = true) :
    (digits ++ rest).takeWhile Char.isDigit = digits := by
  rw [List.takeWhile_append_of_pos areDigits]
  cases rest with
  | nil => exact List.append_nil digits
  | cons c rest => rw [List.takeWhile_cons_of_neg (by simp [(ends c rfl).1]), List.append_nil]

theorem dropWhile_isDigit_append {digits : List Char} (areDigits : ∀ c ∈ digits, c.isDigit = true) :
    (digits ++ rest).dropWhile Char.isDigit = rest := by
  rw [List.dropWhile_append_of_pos areDigits]
  cases rest with
  | nil => rfl
  | cons c rest => exact List.dropWhile_cons_of_neg (by simp [(ends c rfl).1])

theorem readFraction_of_endsNumber : readFraction rest = some (none, rest) := by
  unfold readFraction
  split
  · rename_i after
    exact absurd rfl (ends '.' rfl).2.1
  · rfl

theorem readExponent_of_endsNumber : readExponent rest = some (none, rest) := by
  cases rest with
  | nil => rfl
  | cons mark after =>
      obtain ⟨-, -, notSmall, notCapital⟩ := ends mark rfl
      unfold readExponent
      exact if_neg (not_or.mpr ⟨notSmall, notCapital⟩)

/-- The digits of a number are read up to their end. -/
theorem readNumber_toDigits (negative : Bool) (size : Nat) :
    readNumber negative (Nat.toDigits 10 size ++ rest) =
      (ofWhole negative (Nat.toDigits 10 size), some rest) := by
  have notEmpty : (Nat.toDigits 10 size).isEmpty = false := by simp
  have standsAlone :
      ((Nat.toDigits 10 size).head? == some '0' && decide ((Nat.toDigits 10 size).length > 1)) =
        false := by
    by_cases leads : (Nat.toDigits 10 size).head? = some '0'
    · rw [eq_zero_of_head?_toDigits leads]
      rfl
    · simp [leads]
  unfold readNumber
  simp only [takeWhile_isDigit_append ends isDigit_of_mem_toDigits,
    dropWhile_isDigit_append ends isDigit_of_mem_toDigits, notEmpty, standsAlone, Bool.or_self,
    Bool.false_eq_true, if_false, readFraction_of_endsNumber ends, readExponent_of_endsNumber ends]

end EndsNumber

theorem endsNumber_cons {c : Char} {rest : List Char}
    (separates : c.isDigit = false ∧ c ≠ '.' ∧ c ≠ 'e' ∧ c ≠ 'E') : EndsNumber (c :: rest) := by
  rintro _ ⟨⟩
  exact separates

/-! ## Strings -/

/-- The piece that a written character is read as. -/
def piece (c : Char) : StringPiece :=
  if shortMark? c = none ∧ c < ' ' then .unit c.toNat else .character c

theorem shortEscape?_of_shortMark? {c mark : Char} (isMarked : shortMark? c = some mark) :
    mark ≠ 'u' ∧ shortEscape? mark = some c := by
  unfold shortMark? at isMarked
  split at isMarked <;> cases isMarked <;> decide

/-- The four digits of a control character are read as its number. -/
theorem wholeNumber?_of_control : ∀ code < 32,
    wholeNumber? 16 ['0', '0', Nat.digitChar (code / 16), Nat.digitChar (code % 16)] =
      some code := by
  decide

theorem readPieces_escape (done : List StringPiece) (c : Char) (rest : List Char) :
    readPieces done (escape c ++ rest) = readPieces (piece c :: done) rest := by
  cases isMarked : shortMark? c with
  | some mark =>
      have written : escape c = ['\x5c', mark] := by simp only [escape, isMarked]
      have read : piece c = .character c := by simp [piece, isMarked]
      obtain ⟨notUnit, escapes⟩ := shortEscape?_of_shortMark? isMarked
      rw [written, read, List.cons_append, List.singleton_append, readPieces]
      · rw [escapes]
      · exact fun _ _ _ _ _ unit _ => notUnit unit
  | none =>
      by_cases isControl : c < ' '
      · have written : escape c = ['\x5c', 'u', '0', '0', Nat.digitChar (c.toNat / 16),
            Nat.digitChar (c.toNat % 16)] := by
          simp only [escape, isMarked, if_pos isControl]
        have read : piece c = .unit c.toNat := by simp [piece, isMarked, isControl]
        have small : c.toNat < 32 := isControl
        rw [written, read]
        simp only [List.cons_append, List.nil_append, readPieces, wholeNumber?_of_control _ small]
      · have written : escape c = [c] := by simp only [escape, isMarked, if_neg isControl]
        have read : piece c = .character c := by simp [piece, isControl]
        have notQuote : c ≠ '\x22' := by
          rintro rfl
          exact nomatch isMarked
        have notBackslash : c ≠ '\x5c' := by
          rintro rfl
          exact nomatch isMarked
        rw [written, read, List.singleton_append, readPieces, if_neg isControl]
        · exact notQuote
        · exact fun _ _ _ _ _ backslash _ => notBackslash backslash
        · exact fun _ _ backslash _ => notBackslash backslash

theorem readPieces_flatMap_escape (done : List StringPiece) (text rest : List Char) :
    readPieces done (text.flatMap escape ++ '\x22' :: rest) =
      some (done.reverse ++ text.map piece, rest) := by
  induction text generalizing done with
  | nil =>
      rw [List.flatMap_nil, List.nil_append, readPieces, List.map_nil, List.append_nil]
  | cons c text ih =>
      rw [List.flatMap_cons, List.append_assoc, readPieces_escape, ih, List.reverse_cons,
        List.append_assoc, List.map_cons, List.singleton_append]

/-- A code unit before the surrogates is a character by itself. -/
theorem joinPieces_unit {code : Nat} (isBefore : code < 0xD800) (rest : List StringPiece) :
    joinPieces (.unit code :: rest) = (joinPieces rest).map (Char.ofNat code :: ·) := by
  have notHigh : ¬ (0xD800 ≤ code ∧ code ≤ 0xDBFF) := by omega
  have notLow : ¬ (0xDC00 ≤ code ∧ code ≤ 0xDFFF) := by omega
  have notHalf : ¬ (0xD800 ≤ code ∧ code ≤ 0xDFFF) := by omega
  rcases rest with - | ⟨⟨c⟩ | ⟨low⟩, rest⟩
  · conv => lhs; rw [joinPieces.eq_def]
    exact if_neg notHalf
  · conv => lhs; rw [joinPieces.eq_def]
    exact if_neg notHalf
  · rw [joinPieces, if_neg notHigh, if_neg notLow]

theorem joinPieces_map_piece (text : List Char) : joinPieces (text.map piece) = some text := by
  induction text with
  | nil => rw [List.map_nil, joinPieces]
  | cons c text ih =>
      rw [List.map_cons, piece]
      split
      · rename_i isControl
        have small : c.toNat < 32 := isControl.2
        rw [joinPieces_unit (by omega), ih, Char.ofNat_toNat]
        rfl
      · rw [joinPieces, ih]
        rfl

/-- A written string is read back. -/
theorem readString_quote (text : String) (rest : List Char) :
    readString (text.toList.flatMap escape ++ '\x22' :: rest) = (.string text, some rest) := by
  simp only [readString, readPieces_flatMap_escape, List.reverse_nil, List.nil_append,
    joinPieces_map_piece, String.ofList_toList]

/-! ## Values -/

/-- A text is read as a value, whatever follows that does not go on with a number. -/
def Reads (value : Json) (text : List Char) : Prop :=
  ∀ bound rest, 2 * text.length ≤ bound → EndsNumber rest →
    readValue bound (text ++ rest) = (value, some rest)

theorem skipBlanks_cons {c : Char} (notBlank : isBlank c = false) (rest : List Char) :
    skipBlanks (c :: rest) = c :: rest :=
  List.dropWhile_cons_of_neg (by simp [notBlank])

theorem isBlank_of_isDigit {c : Char} (isDigit : c.isDigit = true) : isBlank c = false := by
  rw [Bool.eq_false_iff]
  intro blank
  simp only [isBlank, Bool.or_eq_true, decide_eq_true_eq] at blank
  rcases blank with ((rfl | rfl) | rfl) | rfl <;> exact absurd isDigit (by decide)

theorem readValue_of_isDigit {c : Char} (isDigit : c.isDigit = true) (bound : Nat)
    (rest : List Char) : readValue (bound + 1) (c :: rest) = readNumber false (c :: rest) := by
  rw [readValue, skipBlanks_cons (isBlank_of_isDigit isDigit)]
  -- No other kind of value begins with a digit.
  split <;> rename_i same <;> cases same
  all_goals first
    | exact absurd isDigit (by decide)
    | exact if_pos isDigit

/-- Items that can be read do not begin with the end of their array. -/
theorem readValue_of_readItems {bound : Nat} {text rest : List Char} {items : List Json}
    (whole : readItems bound text [] = (items, some rest)) :
    readValue (bound + 1) ('[' :: text) = (.array items, some rest) := by
  rw [readValue]
  simp only [skipBlanks_cons (show isBlank '[' = false by decide)]
  split
  · rename_i after closes
    rcases bound with - | - | bound
    · exact nomatch whole
    · exact nomatch whole
    · rw [readItems, readValue, closes] at whole
      exact nomatch whole
  · rw [whole]

/-- Members that can be read do not begin with the end of their object. -/
theorem readValue_of_readMembers {bound : Nat} {text rest : List Char}
    {members : List (String × Json)} (whole : readMembers bound text [] = (members, some rest)) :
    readValue (bound + 1) ('\x7b' :: text) = (.object members, some rest) := by
  rw [readValue]
  simp only [skipBlanks_cons (show isBlank '\x7b' = false by decide)]
  split
  · rename_i after closes
    cases bound with
    | zero => exact nomatch whole
    | succ bound =>
        rw [readMembers, closes] at whole
        exact nomatch whole
  · rw [whole]

/-- Every text has a first character, and with it room for one step. -/
theorem Reads.of_cons {value : Json} {c : Char} {text : List Char}
    (reads : ∀ bound rest, 2 * text.length < bound → EndsNumber rest →
      readValue (bound + 1) (c :: (text ++ rest)) = (value, some rest)) :
    Reads value (c :: text) := by
  intro bound rest isEnough ends
  rw [List.length_cons] at isEnough
  obtain ⟨bound, rfl⟩ : ∃ less, bound = less + 1 := ⟨bound - 1, by omega⟩
  exact reads bound rest (by omega) ends

theorem reads_null : Reads .null ['n', 'u', 'l', 'l'] :=
  Reads.of_cons fun _ _ _ _ => rfl

theorem reads_boolean_true : Reads (.boolean true) ['t', 'r', 'u', 'e'] :=
  Reads.of_cons fun _ _ _ _ => rfl

theorem reads_boolean_false : Reads (.boolean false) ['f', 'a', 'l', 's', 'e'] :=
  Reads.of_cons fun _ _ _ _ => rfl

theorem reads_integer {value : Int} {text : List Char} (isText : renderInteger? value = some text) :
    Reads (.integer value) text := by
  cases value with
  | ofNat size =>
      obtain ⟨small, rfl⟩ : size ≤ greatestWord ∧ Nat.toDigits 10 size = text := by
        simpa [renderInteger?] using isText
      have isInteger : ofWhole false (Nat.toDigits 10 size) = .integer size := by
        simp only [ofWhole, wholeNumber?_toDigits, Bool.false_eq_true, if_false, if_pos small]
      obtain ⟨first, others, shape⟩ :=
        List.exists_cons_of_ne_nil (Nat.toDigits_ne_nil (n := size) (b := 10))
      have isDigit : first.isDigit = true :=
        isDigit_of_mem_toDigits first (shape ▸ List.mem_cons_self)
      rw [shape]
      refine Reads.of_cons fun bound rest _ ends => ?_
      rw [readValue_of_isDigit isDigit, ← List.cons_append, ← shape, readNumber_toDigits ends,
        isInteger]
      rfl
  | negSucc size =>
      obtain ⟨small, rfl⟩ : size + 1 ≤ Nat.pow 2 63 ∧ '-' :: Nat.toDigits 10 (size + 1) = text := by
        simpa [renderInteger?] using isText
      have isInteger : ofWhole true (Nat.toDigits 10 (size + 1)) = .integer (.negSucc size) := by
        simp only [ofWhole, wholeNumber?_toDigits, if_true, Nat.succ_ne_zero, if_false,
          if_pos small]
        rfl
      rw [← isInteger]
      exact Reads.of_cons fun _ _ _ ends => readNumber_toDigits ends true (size + 1)

theorem reads_string (text : String) : Reads (.string text) (quote text) := by
  refine Reads.of_cons fun bound rest _ _ => ?_
  rw [List.append_assoc, List.singleton_append]
  exact readString_quote text rest

theorem reads_array_nil : Reads (.array []) ['[', ']'] :=
  Reads.of_cons fun _ _ _ _ => rfl

theorem reads_object_nil : Reads (.object []) ['\x7b', '\x7d'] :=
  Reads.of_cons fun _ _ _ _ => rfl

/-- Behind any item the text of the others is read up to the end of the array. -/
def ReadsItems (items : List Json) (others : List Char) : Prop :=
  ∀ {item : Json} {first : List Char}, Reads item first →
    ∀ bound done after, 2 * (first.length + others.length) < bound →
      readItems bound (first ++ (others ++ ']' :: after)) done =
        (done.reverse ++ item :: items, some after)

theorem readsItems_nil : ReadsItems [] [] := by
  intro item first reads bound done after isEnough
  rw [List.length_nil] at isEnough
  obtain ⟨bound, rfl⟩ : ∃ less, bound = less + 1 := ⟨bound - 1, by omega⟩
  rw [List.nil_append, readItems, reads bound _ (by omega) (endsNumber_cons (by decide))]
  simp only [skipBlanks_cons (show isBlank ']' = false by decide), List.reverse_cons]

theorem readsItems_cons {next : Json} {items : List Json} {text others : List Char}
    (readsNext : Reads next text) (readsOthers : ReadsItems items others) :
    ReadsItems (next :: items) (',' :: (text ++ others)) := by
  intro item first reads bound done after isEnough
  rw [List.length_cons, List.length_append] at isEnough
  obtain ⟨bound, rfl⟩ : ∃ less, bound = less + 1 := ⟨bound - 1, by omega⟩
  rw [List.cons_append, readItems, reads bound _ (by omega) (endsNumber_cons (by decide))]
  simp only [skipBlanks_cons (show isBlank ',' = false by decide)]
  rw [List.append_assoc, readsOthers readsNext bound _ after (by omega), List.reverse_cons,
    List.append_assoc, List.singleton_append]

theorem reads_array_cons {item : Json} {items : List Json} {first others : List Char}
    (reads : Reads item first) (readsOthers : ReadsItems items others) :
    Reads (.array (item :: items)) ('[' :: (first ++ (others ++ [']']))) := by
  refine Reads.of_cons fun bound rest isEnough _ => ?_
  rw [List.length_append, List.length_append, List.length_singleton] at isEnough
  rw [List.append_assoc, List.append_assoc, List.singleton_append]
  exact readValue_of_readItems (readsOthers reads bound [] rest (by omega))

/-- Behind the value of any member the text of the others is read up to the end of the object. -/
def ReadsMembers (members : List (String × Json)) (others : List Char) : Prop :=
  ∀ (name : String) {value : Json} {first : List Char}, Reads value first →
    ∀ bound done after, 2 * ((quote name).length + first.length + others.length) < bound →
      readMembers bound (quote name ++ ':' :: (first ++ (others ++ '\x7d' :: after))) done =
        (done.reverse ++ (name, value) :: members, some after)

section Member

variable (name : String) {value : Json} {first : List Char} (reads : Reads value first)
  {bound : Nat} (isEnough : 2 * first.length ≤ bound) (done : List (String × Json))
  (after : List Char)
include reads isEnough

/-- The last member is read up to the end of the object. -/
theorem readMembers_last :
    readMembers (bound + 1) (quote name ++ ':' :: (first ++ '\x7d' :: after)) done =
      (done.reverse ++ [(name, value)], some after) := by
  have readsValue := reads bound ('\x7d' :: after) isEnough (endsNumber_cons (by decide))
  rw [quote, List.cons_append, List.append_assoc, List.singleton_append, readMembers,
    skipBlanks_cons (by decide)]
  simp only [readString_quote, skipBlanks_cons (show isBlank ':' = false by decide), readsValue,
    skipBlanks_cons (show isBlank '\x7d' = false by decide), List.reverse_cons]

/-- Behind any other member the reading goes on. -/
theorem readMembers_next :
    readMembers (bound + 1) (quote name ++ ':' :: (first ++ ',' :: after)) done =
      readMembers bound after ((name, value) :: done) := by
  have readsValue := reads bound (',' :: after) isEnough (endsNumber_cons (by decide))
  rw [quote, List.cons_append, List.append_assoc, List.singleton_append, readMembers,
    skipBlanks_cons (by decide)]
  simp only [readString_quote, skipBlanks_cons (show isBlank ':' = false by decide), readsValue,
    skipBlanks_cons (show isBlank ',' = false by decide)]

end Member

theorem readsMembers_nil : ReadsMembers [] [] := by
  intro name value first reads bound done after isEnough
  obtain ⟨bound, rfl⟩ : ∃ less, bound = less + 1 := ⟨bound - 1, by omega⟩
  exact readMembers_last name reads (by omega) done after

theorem readsMembers_cons (next : String) {value : Json} {members : List (String × Json)}
    {text others : List Char} (readsNext : Reads value text)
    (readsOthers : ReadsMembers members others) :
    ReadsMembers ((next, value) :: members) (',' :: (quote next ++ ':' :: (text ++ others))) := by
  intro name given first reads bound done after isEnough
  rw [List.length_cons, List.length_append, List.length_cons, List.length_append] at isEnough
  obtain ⟨bound, rfl⟩ : ∃ less, bound = less + 1 := ⟨bound - 1, by omega⟩
  rw [List.cons_append, readMembers_next name reads (by omega), List.append_assoc,
    List.cons_append, List.append_assoc, readsOthers next readsNext bound _ after (by omega),
    List.reverse_cons, List.append_assoc, List.singleton_append]

theorem reads_object_cons (name : String) {value : Json} {members : List (String × Json)}
    {first others : List Char} (reads : Reads value first)
    (readsOthers : ReadsMembers members others) :
    Reads (.object ((name, value) :: members))
      ('\x7b' :: (quote name ++ ':' :: (first ++ (others ++ ['\x7d'])))) := by
  refine Reads.of_cons fun bound rest isEnough _ => ?_
  rw [List.length_append, List.length_cons, List.length_append, List.length_append] at isEnough
  rw [List.append_assoc, List.cons_append, List.append_assoc, List.append_assoc,
    List.singleton_append]
  exact readValue_of_readMembers (readsOthers name reads bound [] rest (by omega))

-- By recursion on values, items and members at once: each of them is read as its parts are.
mutual

/-- What is written for a value is read as this value. -/
theorem reads_of_render? : ∀ (value : Json) {text : List Char}, render? value = some text →
    Reads value text
  | .null, _, rfl => reads_null
  | .boolean true, _, rfl => reads_boolean_true
  | .boolean false, _, rfl => reads_boolean_false
  | .integer _, _, isText => reads_integer isText
  | .string text, _, rfl => reads_string text
  | .array [], _, rfl => reads_array_nil
  | .array (item :: items), _, isText => by
      obtain ⟨first, isFirst, isText⟩ := Option.bind_eq_some_iff.mp isText
      obtain ⟨others, areOthers, ⟨⟩⟩ := Option.bind_eq_some_iff.mp isText
      exact reads_array_cons (reads_of_render? item isFirst)
        (readsItems_of_renderItems? items areOthers)
  | .object [], _, rfl => reads_object_nil
  | .object ((name, value) :: members), _, isText => by
      obtain ⟨first, isFirst, isText⟩ := Option.bind_eq_some_iff.mp isText
      obtain ⟨others, areOthers, ⟨⟩⟩ := Option.bind_eq_some_iff.mp isText
      exact reads_object_cons name (reads_of_render? value isFirst)
        (readsMembers_of_renderMembers? members areOthers)
  | .float _, _, isText => nomatch isText
  | .unreadable, _, isText => nomatch isText
  | .broken, _, isText => nomatch isText

theorem readsItems_of_renderItems? : ∀ (items : List Json) {others : List Char},
    renderItems? items = some others → ReadsItems items others
  | [], _, rfl => readsItems_nil
  | item :: items, _, isText => by
      obtain ⟨first, isFirst, isText⟩ := Option.bind_eq_some_iff.mp isText
      obtain ⟨others, areOthers, ⟨⟩⟩ := Option.bind_eq_some_iff.mp isText
      exact readsItems_cons (reads_of_render? item isFirst)
        (readsItems_of_renderItems? items areOthers)

theorem readsMembers_of_renderMembers? : ∀ (members : List (String × Json)) {others : List Char},
    renderMembers? members = some others → ReadsMembers members others
  | [], _, rfl => readsMembers_nil
  | (name, value) :: members, _, isText => by
      obtain ⟨first, isFirst, isText⟩ := Option.bind_eq_some_iff.mp isText
      obtain ⟨others, areOthers, ⟨⟩⟩ := Option.bind_eq_some_iff.mp isText
      exact readsMembers_cons name (reads_of_render? value isFirst)
        (readsMembers_of_renderMembers? members areOthers)

end

/-- The text of a value holds this value and nothing else. -/
theorem ofText_render? {value : Json} {text : List Char} (isText : render? value = some text) :
    ofText (String.ofList text) = ⟨value, false⟩ := by
  have endsNumber : EndsNumber [] := fun _ member => nomatch member
  have reads := reads_of_render? value isText (2 * text.length + 2) [] (by omega) endsNumber
  rw [List.append_nil] at reads
  simp only [ofText, String.toList_ofList, reads]
  rfl

example :
    render? (.array [.integer (-12), .string "a\"\u0001\t", .object [("b", .boolean true)]]) =
      some "[-12,\"a\\\"\\u0001\\t\",\x7b\"b\":true\x7d]".toList := by
  decide

/-! ## Values that have a text -/

/-- A value can be written. -/
def Renders (value : Json) : Prop :=
  ∃ text, render? value = some text

theorem renders_null : Renders .null :=
  ⟨_, rfl⟩

theorem renders_string (text : String) : Renders (.string text) :=
  ⟨_, rfl⟩

theorem renders_natCast {number : Nat} (small : number ≤ greatestWord) :
    Renders (.integer number) :=
  ⟨Nat.toDigits 10 number, if_pos small⟩

theorem exists_renderItems? {items : List Json} (renders : ∀ item ∈ items, Renders item) :
    ∃ text, renderItems? items = some text := by
  induction items with
  | nil => exact ⟨[], rfl⟩
  | cons item rest ih =>
      obtain ⟨⟨first, isFirst⟩, rendersRest⟩ := List.forall_mem_cons.mp renders
      obtain ⟨others, areOthers⟩ := ih rendersRest
      refine ⟨',' :: (first ++ others), Option.bind_eq_some_iff.mpr ⟨first, isFirst, ?_⟩⟩
      exact Option.bind_eq_some_iff.mpr ⟨others, areOthers, rfl⟩

theorem exists_renderMembers? {members : List (String × Json)}
    (renders : ∀ member ∈ members, Renders member.2) :
    ∃ text, renderMembers? members = some text := by
  induction members with
  | nil => exact ⟨[], rfl⟩
  | cons member rest ih =>
      obtain ⟨⟨first, isFirst⟩, rendersRest⟩ := List.forall_mem_cons.mp renders
      obtain ⟨others, areOthers⟩ := ih rendersRest
      refine ⟨',' :: (quote member.1 ++ (':' :: first ++ others)),
        Option.bind_eq_some_iff.mpr ⟨first, isFirst, ?_⟩⟩
      exact Option.bind_eq_some_iff.mpr ⟨others, areOthers, rfl⟩

/-- An array can be written if all its items can. -/
theorem renders_array {items : List Json} (renders : ∀ item ∈ items, Renders item) :
    Renders (.array items) := by
  cases items with
  | nil => exact ⟨_, rfl⟩
  | cons item rest =>
      obtain ⟨⟨first, isFirst⟩, rendersRest⟩ := List.forall_mem_cons.mp renders
      obtain ⟨others, areOthers⟩ := exists_renderItems? rendersRest
      refine ⟨'[' :: (first ++ (others ++ [']'])),
        Option.bind_eq_some_iff.mpr ⟨first, isFirst, ?_⟩⟩
      exact Option.bind_eq_some_iff.mpr ⟨others, areOthers, rfl⟩

/-- An object can be written if the values of all its members can. -/
theorem renders_object {members : List (String × Json)}
    (renders : ∀ member ∈ members, Renders member.2) : Renders (.object members) := by
  cases members with
  | nil => exact ⟨_, rfl⟩
  | cons member rest =>
      obtain ⟨⟨first, isFirst⟩, rendersRest⟩ := List.forall_mem_cons.mp renders
      obtain ⟨others, areOthers⟩ := exists_renderMembers? rendersRest
      refine ⟨'\x7b' :: (quote member.1 ++ (':' :: first ++ (others ++ ['\x7d']))),
        Option.bind_eq_some_iff.mpr ⟨first, isFirst, ?_⟩⟩
      exact Option.bind_eq_some_iff.mpr ⟨others, areOthers, rfl⟩

end Json

end RunAtlas

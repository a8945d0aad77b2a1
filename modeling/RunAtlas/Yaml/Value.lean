import RunAtlas.Decimal.Layout

/-!
# YAML values

A value is what a document means: aliases are expanded, scalars have been resolved, and a mapping
keeps the order of its entries.  Values are compared as keys of mappings are: the order of entries
does not matter, and neither does the sign of a zero.
-/

namespace RunAtlas.Yaml

open Decimal

/-- A number: a whole number or a double. -/
inductive Number where
  | integer (value : Int)
  | float (value : Double)
deriving Repr, DecidableEq

namespace Number

/-- How doubles are written. -/
def layout : Layout where
  leastPositional := -5
  greatestPositional := 15
  positiveSign := []
  exponentDigits := 1
  infinity := ['.', 'i', 'n', 'f']
  negativeInfinity := ['-', '.', 'i', 'n', 'f']
  notANumber := ['.', 'n', 'a', 'n']

/-- The text of a number. -/
def text : Number → String
  | .integer value => value.repr
  | .float value => String.ofList (layout.render value)

/-- Equality of numbers as keys. -/
def same : Number → Number → Bool
  | .integer first, .integer second => first = second
  | .float first, .float second => first.sameNumber second
  | _, _ => false

end Number

/-- What a document means. -/
inductive Value where
  | null
  | boolean (value : Bool)
  | number (value : Number)
  | string (value : String)
  | sequence (items : List Value)
  | mapping (entries : List (Value × Value))
  | tagged (tag : String) (value : Value)
deriving Repr, Inhabited

namespace Value

mutual

/-- Equality of values as keys. -/
def same : Value → Value → Bool
  | .null, .null => true
  | .boolean first, .boolean second => first = second
  | .number first, .number second => first.same second
  | .string first, .string second => first = second
  | .sequence first, .sequence second => sameItems first second
  | .mapping first, .mapping second =>
      first.length = second.length && allEntriesIn first second
  | .tagged firstTag first, .tagged secondTag second => firstTag = secondTag && same first second
  | _, _ => false

/-- Equality of lists of values, item by item. -/
def sameItems : List Value → List Value → Bool
  | [], [] => true
  | first :: firsts, second :: seconds => same first second && sameItems firsts seconds
  | _, _ => false

/-- Whether every entry of the first list is an entry of the second. -/
def allEntriesIn : List (Value × Value) → List (Value × Value) → Bool
  | [], _ => true
  | (key, value) :: rest, entries =>
      (entries.any fun entry => same key entry.1 && same value entry.2) &&
        allEntriesIn rest entries

end

/-- The value without its tags. -/
def untag : Value → Value
  | .tagged _ value => value.untag
  | value => value

/-- The text of a value that is a string, tagged or not. -/
def string? (value : Value) : Option String :=
  match value.untag with
  | .string text => some text
  | _ => none

/-- Whether a key is a plain string. -/
def isKey (name : String) : Value → Bool
  | .string text => text = name
  | _ => false

/-- The value under a plain string among entries. -/
def valueOf? (entries : List (Value × Value)) (name : String) : Option Value :=
  (entries.find? fun entry => entry.1.isKey name).map (·.2)

/-- The entries of a mapping, tagged or not. -/
def entries? (value : Value) : Option (List (Value × Value)) :=
  match value.untag with
  | .mapping entries => some entries
  | _ => none

/-- The value under a plain string in a mapping, tagged or not. -/
def get? (value : Value) (name : String) : Option Value :=
  value.entries?.bind (valueOf? · name)

/-- The text of a scalar that is not null, tagged or not. -/
def scalarText? : Value → Option String
  | .string text => some text
  | .number value => some value.text
  | .boolean true => some "true"
  | .boolean false => some "false"
  | .tagged _ value => value.scalarText?
  | .null | .sequence _ | .mapping _ => none

/-- The texts of the scalars in a sequence, or of one scalar. -/
def scalarTexts : Value → List String
  | .sequence items => items.filterMap scalarText?
  | value => value.scalarText?.toList

/-- Untagging twice is untagging once. -/
@[simp]
theorem untag_untag (value : Value) : value.untag.untag = value.untag := by
  induction value using untag.induct with
  | case1 tag value ih => simpa [untag] using ih
  | case2 value untagged => cases value <;> simp_all [untag]

theorem string?_eq_some_iff {value : Value} {text : String} :
    value.string? = some text ↔ value.untag = .string text := by
  unfold string?
  split <;> simp_all

theorem isKey_iff {name : String} {key : Value} : key.isKey name = true ↔ key = .string name := by
  cases key <;> simp [isKey]

/-- A value that is found among entries stands there. -/
theorem mem_of_valueOf? {entries : List (Value × Value)} {name : String} {value : Value}
    (found : valueOf? entries name = some value) : (.string name, value) ∈ entries := by
  rw [valueOf?, Option.map_eq_some_iff] at found
  rcases found with ⟨⟨key, _⟩, first, rfl⟩
  have named := List.find?_some first
  rw [← isKey_iff.mp named]
  exact List.mem_of_find?_eq_some first

/-- A value is found exactly if one stands among the entries. -/
theorem isSome_valueOf?_iff {entries : List (Value × Value)} {name : String} :
    (valueOf? entries name).isSome = true ↔ ∃ value, (.string name, value) ∈ entries := by
  constructor
  · intro found
    rcases Option.isSome_iff_exists.mp found with ⟨value, found⟩
    exact ⟨value, mem_of_valueOf? found⟩
  · rintro ⟨value, member⟩
    rw [valueOf?, Option.isSome_map, List.find?_isSome]
    exact ⟨_, member, isKey_iff.mpr rfl⟩

end Value

end RunAtlas.Yaml

import RunAtlas.Yaml.Value

/-!
# Identical values

`Value.same` compares values as keys are compared and forgets the order of entries and the sign of a
zero.  Here values are compared as they are, so that equality of values can be decided.
-/

namespace RunAtlas.Yaml.Value

mutual

/-- Whether two values are identical. -/
def identical : Value → Value → Bool
  | .null, .null => true
  | .boolean first, .boolean second => first = second
  | .number first, .number second => first = second
  | .string first, .string second => first = second
  | .sequence first, .sequence second => identicalItems first second
  | .mapping first, .mapping second => identicalEntries first second
  | .tagged firstTag first, .tagged secondTag second =>
      firstTag = secondTag && identical first second
  | _, _ => false

/-- Whether two lists of values are identical, item by item. -/
def identicalItems : List Value → List Value → Bool
  | [], [] => true
  | first :: firsts, second :: seconds => identical first second && identicalItems firsts seconds
  | _, _ => false

/-- Whether two lists of entries are identical, entry by entry. -/
def identicalEntries : List (Value × Value) → List (Value × Value) → Bool
  | [], [] => true
  | (firstKey, first) :: firsts, (secondKey, second) :: seconds =>
      identical firstKey secondKey && identical first second && identicalEntries firsts seconds
  | _, _ => false

end

mutual

theorem identical_iff (first second : Value) : identical first second = true ↔ first = second := by
  cases first with
  | sequence items =>
      cases second with
      | sequence others => rw [identical, identicalItems_iff, sequence.injEq]
      | _ => simp [identical]
  | mapping entries =>
      cases second with
      | mapping others => rw [identical, identicalEntries_iff, mapping.injEq]
      | _ => simp [identical]
  | tagged tag value =>
      cases second with
      | tagged otherTag other => simp [identical, identical_iff value other]
      | _ => simp [identical]
  | _ => cases second <;> simp [identical]

theorem identicalItems_iff (firsts seconds : List Value) :
    identicalItems firsts seconds = true ↔ firsts = seconds := by
  cases firsts with
  | nil => cases seconds <;> simp [identicalItems]
  | cons first firsts =>
      cases seconds with
      | nil => simp [identicalItems]
      | cons second seconds =>
          simp [identicalItems, identical_iff first second, identicalItems_iff firsts seconds]

theorem identicalEntries_iff (firsts seconds : List (Value × Value)) :
    identicalEntries firsts seconds = true ↔ firsts = seconds := by
  match firsts, seconds with
  | [], [] => simp [identicalEntries]
  | [], _ :: _ => simp [identicalEntries]
  | _ :: _, [] => simp [identicalEntries]
  | (firstKey, first) :: firsts, (secondKey, second) :: seconds =>
      simp [identicalEntries, identical_iff firstKey secondKey, identical_iff first second,
        identicalEntries_iff firsts seconds]

end

instance : DecidableEq Value :=
  fun first second => decidable_of_iff _ (identical_iff first second)

end RunAtlas.Yaml.Value

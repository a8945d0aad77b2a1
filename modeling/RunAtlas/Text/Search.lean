/-!
# Searching and cutting texts

Texts are lists of characters.  The operations here look for a given piece at the start or
anywhere in a text, remove repeated pieces from an end, and cut a text at a separator.
-/

namespace RunAtlas.Text

/-- What follows `lead` in a text that begins with it. -/
def afterLead? : (lead text : List Char) → Option (List Char)
  | [], text => some text
  | _ :: _, [] => none
  | expected :: lead, found :: text =>
      if expected = found then afterLead? lead text else none

/-- Whether a text begins with `lead`. -/
def startsWith (lead text : List Char) : Bool :=
  (afterLead? lead text).isSome

/-- Whether `piece` occurs somewhere in a text. -/
def occursIn (piece : List Char) : List Char → Bool
  | [] => startsWith piece []
  | first :: rest => startsWith piece (first :: rest) || occursIn piece rest

/-- Remove `lead` from the start of a text as often as it stands there, `bound` times at most. -/
def dropLeadsUpTo (lead : List Char) : (bound : Nat) → List Char → List Char
  | 0, text => text
  | bound + 1, text =>
      match afterLead? lead text with
      | some rest => dropLeadsUpTo lead bound rest
      | none => text

/-- Remove `lead` from the start of a text as often as it stands there.  A lead that is not empty
cannot stand there more often than the text has characters. -/
def dropLeads (lead text : List Char) : List Char :=
  dropLeadsUpTo lead text.length text

/-- Remove every `c` from the end of a text. -/
def dropTrailing (c : Char) (text : List Char) : List Char :=
  (text.reverse.dropWhile (· = c)).reverse

/-- The text before the first separator; the whole text if there is none. -/
def beforeFirst (separator : Char) (text : List Char) : List Char :=
  text.takeWhile (· ≠ separator)

/-- The texts on both sides of the last separator. -/
def splitLast? (separator : Char) : List Char → Option (List Char × List Char)
  | [] => none
  | first :: rest =>
      match splitLast? separator rest with
      | some (before, after) => some (first :: before, after)
      | none => if first = separator then some ([], rest) else none

/-- The lead is removed exactly from the texts that begin with it. -/
theorem afterLead?_eq_some_iff {lead text rest : List Char} :
    afterLead? lead text = some rest ↔ text = lead ++ rest := by
  induction lead generalizing text with
  | nil => simp [afterLead?]
  | cons expected lead ih =>
      cases text with
      | nil => simp [afterLead?]
      | cons found text =>
          by_cases same : expected = found
          · simp [afterLead?, same, ih]
          · simp [afterLead?, same, Ne.symm same]

/-- Beginning with a lead is being an extension of it. -/
theorem startsWith_iff {lead text : List Char} :
    startsWith lead text = true ↔ ∃ rest, text = lead ++ rest := by
  simp [startsWith, Option.isSome_iff_exists, afterLead?_eq_some_iff]

/-- A piece occurs in a text exactly when the text has it between two others. -/
theorem occursIn_iff {piece text : List Char} :
    occursIn piece text = true ↔ ∃ before after, text = before ++ piece ++ after := by
  induction text with
  | nil => simp [occursIn, startsWith_iff]
  | cons first rest ih =>
      simp only [occursIn, Bool.or_eq_true, startsWith_iff, ih]
      constructor
      · rintro (⟨after, found⟩ | ⟨before, after, rfl⟩)
        · exact ⟨[], after, by simpa using found⟩
        · exact ⟨first :: before, after, by simp⟩
      · rintro ⟨before, after, found⟩
        cases before with
        | nil => exact Or.inl ⟨after, by simpa using found⟩
        | cons head before =>
            simp only [List.cons_append, List.cons.injEq] at found
            exact Or.inr ⟨before, after, found.2⟩

/-- A text has a last separator exactly when it has one at all. -/
theorem splitLast?_eq_none_iff {separator : Char} {text : List Char} :
    splitLast? separator text = none ↔ separator ∉ text := by
  induction text with
  | nil => simp [splitLast?]
  | cons first rest ih =>
      rw [splitLast?]
      cases cut : splitLast? separator rest with
      | some parts =>
          have : separator ∈ rest := by
            apply Classical.byContradiction
            intro absent
            rw [ih.mpr absent] at cut
            cases cut
          simp [this]
      | none =>
          by_cases same : first = separator
          · simp [same]
          · simp [same, ih.mp cut, Ne.symm same]

/-- A text is cut at a separator that no other one follows. -/
theorem splitLast?_append_cons {separator : Char} {after : List Char} (before : List Char)
    (last : separator ∉ after) :
    splitLast? separator (before ++ separator :: after) = some (before, after) := by
  induction before with
  | nil => simp [splitLast?, splitLast?_eq_none_iff.mpr last]
  | cons first before ih => simp [splitLast?, ih]

/-- The parts of a text cut at its last separator: the second part has none. -/
theorem splitLast?_eq_some_iff {separator : Char} {text before after : List Char} :
    splitLast? separator text = some (before, after) ↔
      text = before ++ separator :: after ∧ separator ∉ after := by
  constructor
  · intro cut
    induction text generalizing before with
    | nil => simp [splitLast?] at cut
    | cons first rest ih =>
        rw [splitLast?] at cut
        cases inner : splitLast? separator rest with
        | some parts =>
            rw [inner] at cut
            simp only [Option.some.injEq, Prod.mk.injEq] at cut
            obtain ⟨rfl, rfl⟩ := cut
            obtain ⟨shape, absent⟩ := ih inner
            exact ⟨by simpa using shape, absent⟩
        | none =>
            rw [inner] at cut
            by_cases same : first = separator
            · simp only [same, if_true, Option.some.injEq, Prod.mk.injEq] at cut
              obtain ⟨rfl, rfl⟩ := cut
              exact ⟨by simp [same], splitLast?_eq_none_iff.mp inner⟩
            · simp [same] at cut
  · rintro ⟨rfl, last⟩
    exact splitLast?_append_cons before last

end RunAtlas.Text

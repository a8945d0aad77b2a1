/-!
# Expression placeholders

A placeholder opens with a dollar sign and two braces and closes with the next two braces, line
breaks included.  Removing placeholders is a single pass from the left: text that becomes a
placeholder only by the removal stays, and so does everything from an opening that is never closed.
-/

namespace RunAtlas.Text

/-- Remove placeholders.  While one is open, `pending` holds its text so far in reverse, which is
given back if the placeholder is never closed. -/
def removePlaceholdersFrom : (pending : Option (List Char)) → List Char → List Char
  | none, '$' :: '{' :: '{' :: rest => removePlaceholdersFrom (some ['{', '{', '$']) rest
  | none, c :: rest => c :: removePlaceholdersFrom none rest
  | some _, '}' :: '}' :: rest => removePlaceholdersFrom none rest
  | some pending, c :: rest => removePlaceholdersFrom (some (c :: pending)) rest
  | none, [] => []
  | some pending, [] => pending.reverse

/-- The text without its placeholders. -/
def removePlaceholders (text : List Char) : List Char :=
  removePlaceholdersFrom none text

example :
    removePlaceholders "a $\x7b\x7b b $\x7b\x7b c \x7d\x7d\x7d d $\x7b\x7b e".toList =
      "a \x7d d $\x7b\x7b e".toList := by decide

end RunAtlas.Text

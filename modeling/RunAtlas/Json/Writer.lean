import RunAtlas.Json.Number

/-!
# Writing JSON texts

`Json.render?` writes a value without blanks.  Of the characters in a string only quotes,
backslashes and control characters are escaped.  A whole number is written if it has a place among
the 64-bit integers.  No record holds a floating-point number, so that none is written, and there is
no text for what cannot be read.
-/

namespace RunAtlas.Json

/-- The mark of the short escape of a character. -/
def shortMark? : Char → Option Char
  | '\x22' => some '\x22'
  | '\x5c' => some '\x5c'
  | '\x08' => some 'b'
  | '\x0c' => some 'f'
  | '\n' => some 'n'
  | '\r' => some 'r'
  | '\t' => some 't'
  | _ => none

/-- A character as it stands in a string. -/
def escape (c : Char) : List Char :=
  match shortMark? c with
  | some mark => ['\x5c', mark]
  | none =>
      if c < ' ' then
        ['\x5c', 'u', '0', '0', Nat.digitChar (c.toNat / 16), Nat.digitChar (c.toNat % 16)]
      else [c]

/-- A string between quotes. -/
def quote (text : String) : List Char :=
  '\x22' :: (text.toList.flatMap escape ++ ['\x22'])

/-- Write a whole number. -/
def renderInteger? : Int → Option (List Char)
  | .ofNat size => if size ≤ greatestWord then some (Nat.toDigits 10 size) else none
  | .negSucc size =>
      if size + 1 ≤ Nat.pow 2 63 then some ('-' :: Nat.toDigits 10 (size + 1)) else none

mutual

/-- Write a value. -/
def render? : Json → Option (List Char)
  | .null => some ['n', 'u', 'l', 'l']
  | .boolean true => some ['t', 'r', 'u', 'e']
  | .boolean false => some ['f', 'a', 'l', 's', 'e']
  | .integer value => renderInteger? value
  | .string text => some (quote text)
  | .array [] => some ['[', ']']
  | .array (item :: rest) => do
      let first ← render? item
      let others ← renderItems? rest
      some ('[' :: (first ++ (others ++ [']'])))
  | .object [] => some ['\x7b', '\x7d']
  | .object ((name, value) :: rest) => do
      let first ← render? value
      let others ← renderMembers? rest
      some ('\x7b' :: (quote name ++ (':' :: first ++ (others ++ ['\x7d']))))
  | .float _ | .unreadable | .broken => none

/-- Write items, each behind a comma. -/
def renderItems? : List Json → Option (List Char)
  | [] => some []
  | item :: rest => do
      let first ← render? item
      let others ← renderItems? rest
      some (',' :: (first ++ others))

/-- Write members, each behind a comma. -/
def renderMembers? : List (String × Json) → Option (List Char)
  | [] => some []
  | (name, value) :: rest => do
      let first ← render? value
      let others ← renderMembers? rest
      some (',' :: (quote name ++ (':' :: first ++ others)))

end

end RunAtlas.Json

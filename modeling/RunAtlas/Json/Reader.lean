import RunAtlas.Json.Number

/-!
# Reading JSON texts

`Json.ofText` reads a text into a value that ends where the text goes wrong.  Reading a part of a
text gives a value and what follows it; nothing follows a part that is broken.
-/

namespace RunAtlas.Json

open Decimal

/-- The blanks of JSON. -/
def isBlank (c : Char) : Bool :=
  c = ' ' || c = '\n' || c = '\t' || c = '\r'

/-- The text without leading blanks. -/
def skipBlanks (text : List Char) : List Char :=
  text.dropWhile isBlank

/-- A piece of a string: a character, or a code unit that was written in hexadecimal. -/
inductive StringPiece where
  | character (c : Char)
  | unit (code : Nat)
deriving Repr, DecidableEq

/-- The character of a short escape. -/
def shortEscape? : Char → Option Char
  | '\x22' => some '\x22'
  | '\x5c' => some '\x5c'
  | '/' => some '/'
  | 'b' => some '\x08'
  | 'f' => some '\x0c'
  | 'n' => some '\n'
  | 'r' => some '\r'
  | 't' => some '\t'
  | _ => none

/-- The pieces of a string whose opening quote has been read, after those in `done`, which is in
reverse, and what follows its closing quote. -/
def readPieces (done : List StringPiece) : List Char → Option (List StringPiece × List Char)
  | [] => none
  | '\x22' :: rest => some (done.reverse, rest)
  | '\x5c' :: 'u' :: a :: b :: c :: d :: rest =>
      match wholeNumber? 16 [a, b, c, d] with
      | some code => readPieces (.unit code :: done) rest
      | none => none
  | '\x5c' :: mark :: rest =>
      match shortEscape? mark with
      | some c => readPieces (.character c :: done) rest
      | none => none
  | c :: rest => if c < ' ' then none else readPieces (.character c :: done) rest

/-- The characters that pieces stand for.  Two code units of a surrogate pair are one character, and
one of them alone is none. -/
def joinPieces : List StringPiece → Option (List Char)
  | [] => some []
  | .character c :: rest => (joinPieces rest).map (c :: ·)
  | .unit high :: .unit low :: rest =>
      if 0xD800 ≤ high ∧ high ≤ 0xDBFF then
        if 0xDC00 ≤ low ∧ low ≤ 0xDFFF then
          (joinPieces rest).map
            (Char.ofNat (0x10000 + (high - 0xD800) * 0x400 + (low - 0xDC00)) :: ·)
        else none
      else if 0xDC00 ≤ high ∧ high ≤ 0xDFFF then none
      else (joinPieces (.unit low :: rest)).map (Char.ofNat high :: ·)
  | .unit code :: rest =>
      if 0xD800 ≤ code ∧ code ≤ 0xDFFF then none
      else (joinPieces rest).map (Char.ofNat code :: ·)

/-- A string leaf after its opening quote, and what follows it. -/
def readString (text : List Char) : Json × Option (List Char) :=
  match readPieces [] text with
  | none => (.broken, none)
  | some (pieces, rest) =>
      match joinPieces pieces with
      | some characters => (.string (String.ofList characters), some rest)
      | none => (.unreadable, some rest)

/-- A word that stands for a value, after its first letter. -/
def readWord (letters : List Char) (value : Json) (text : List Char) : Json × Option (List Char) :=
  if letters.isPrefixOf text then (value, some (text.drop letters.length)) else (.broken, none)

mutual

/-- Read one value and what follows it.  Of two nested calls at least one reads a character, so a
bound of twice the length of the text is never met. -/
def readValue : (bound : Nat) → List Char → Json × Option (List Char)
  | 0, _ => (.broken, none)
  | bound + 1, text =>
      match skipBlanks text with
      | [] => (.broken, none)
      | 'n' :: rest => readWord ['u', 'l', 'l'] .null rest
      | 't' :: rest => readWord ['r', 'u', 'e'] (.boolean true) rest
      | 'f' :: rest => readWord ['a', 'l', 's', 'e'] (.boolean false) rest
      | '\x22' :: rest => readString rest
      | '-' :: rest => readNumber true rest
      | '[' :: rest =>
          match skipBlanks rest with
          | ']' :: after => (.array [], some after)
          | _ =>
              let (items, after) := readItems bound rest []
              (.array items, after)
      | '{' :: rest =>
          match skipBlanks rest with
          | '}' :: after => (.object [], some after)
          | _ =>
              let (members, after) := readMembers bound rest []
              (.object members, after)
      | c :: rest => if c.isDigit then readNumber false (c :: rest) else (.broken, none)

/-- Read the items of an array up to its end, after those in `done`, which is in reverse. -/
def readItems : (bound : Nat) → List Char → List Json → List Json × Option (List Char)
  | 0, _, done => ((Json.broken :: done).reverse, none)
  | bound + 1, text, done =>
      match readValue bound text with
      | (item, none) => ((item :: done).reverse, none)
      | (item, some rest) =>
          match skipBlanks rest with
          | ']' :: after => ((item :: done).reverse, some after)
          | ',' :: after => readItems bound after (item :: done)
          | _ => ((Json.broken :: item :: done).reverse, none)

/-- Read the members of an object up to its end, after those in `done`, which is in reverse.  A
member whose name cannot be read is broken and has an empty name. -/
def readMembers : (bound : Nat) → List Char → List (String × Json) →
    List (String × Json) × Option (List Char)
  | 0, _, done => ((("", Json.broken) :: done).reverse, none)
  | bound + 1, text, done =>
      match skipBlanks text with
      | '\x22' :: afterQuote =>
          match readString afterQuote with
          | (.string name, some afterName) =>
              match skipBlanks afterName with
              | ':' :: afterColon =>
                  match readValue bound afterColon with
                  | (value, none) => (((name, value) :: done).reverse, none)
                  | (value, some rest) =>
                      match skipBlanks rest with
                      | '}' :: after => (((name, value) :: done).reverse, some after)
                      | ',' :: after => readMembers bound after ((name, value) :: done)
                      | _ => ((("", Json.broken) :: (name, value) :: done).reverse, none)
              | _ => (((name, Json.broken) :: done).reverse, none)
          | _ => ((("", Json.broken) :: done).reverse, none)
      | _ => ((("", Json.broken) :: done).reverse, none)

end

/-- The value of a JSON text. -/
def ofText (text : String) : JsonText :=
  let characters := text.toList
  match readValue (2 * characters.length + 2) characters with
  | (value, some rest) => ⟨value, !(skipBlanks rest).isEmpty⟩
  | (value, none) => ⟨value, false⟩

end RunAtlas.Json

import RunAtlas.Text.Glyphless

/-!
# Quoted texts

A text quoted inside a message stands between double quotes.  Tab, line feed, carriage return, NUL,
the double quote and the backslash have short escapes, and a character without a glyph of its own
is written as its code in hexadecimal.
-/

namespace RunAtlas.Text

/-- One character inside a quoted text. -/
def quoteChar (c : Char) : List Char :=
  if c = '\t' then ['\x5c', 't']
  else if c = '\n' then ['\x5c', 'n']
  else if c = '\r' then ['\x5c', 'r']
  else if c = '\x00' then ['\x5c', '0']
  else if c = '\x22' then ['\x5c', '\x22']
  else if c = '\x5c' then ['\x5c', '\x5c']
  else if ' ' ≤ c ∧ c ≤ '~' then [c]
  else if isGlyphless c then
    ['\x5c', 'u', '{'] ++ Nat.toDigits 16 c.toNat ++ ['}']
  else [c]

/-- A text between double quotes. -/
def quoted (text : String) : String :=
  String.ofList ('\x22' :: text.toList.flatMap quoteChar ++ ['\x22'])

example : quoted "a\tb" = "\x22a\\tb\x22" := by decide

end RunAtlas.Text

import RunAtlas.Yaml.Cursor

/-!
# YAML tokens

A token is a piece of a YAML text with its place.  Whether a piece of text is a key is only known
when the colon after it is met; a key that is still possible remembers its position among the
tokens, where the tokens that announce it are inserted afterwards.
-/

namespace RunAtlas.Yaml

/-- The kinds of tokens. -/
inductive TokenKind where
  | streamEnd
  | versionDirective (major minor : Nat)
  | tagDirective (handle lead : List Char)
  | documentStart
  | documentEnd
  | blockSequenceStart
  | blockMappingStart
  | blockEnd
  | flowSequenceStart
  | flowSequenceEnd
  | flowMappingStart
  | flowMappingEnd
  | blockEntry
  | flowEntry
  | key
  | value
  | alias (name : List Char)
  | anchor (name : List Char)
  | tag (handle suffix : List Char)
  | scalar (plain : Bool) (text : List Char)
deriving Repr, DecidableEq

/-- A token with its place. -/
structure Token where
  kind : TokenKind
  mark : Mark
deriving Repr, DecidableEq

/-- A tape of tokens, the newest first, with their number. -/
structure Tape where
  newest : List Token
  count : Nat
deriving Repr

namespace Tape

/-- The tape without tokens. -/
def empty : Tape :=
  ⟨[], 0⟩

/-- Append a token. -/
def push (tape : Tape) (kind : TokenKind) (mark : Mark) : Tape :=
  ⟨⟨kind, mark⟩ :: tape.newest, tape.count + 1⟩

/-- Insert a token so that `position` tokens stand before it. -/
def insert (tape : Tape) (position : Nat) (kind : TokenKind) (mark : Mark) : Tape :=
  ⟨tape.newest.insertIdx (tape.count - position) ⟨kind, mark⟩, tape.count + 1⟩

/-- The tokens in order. -/
def toList (tape : Tape) : List Token :=
  tape.newest.reverse

end Tape

/-- A place where a key may have started. -/
structure PossibleKey where
  /-- Whether the text is wrong if this is no key. -/
  required : Bool
  /-- How many tokens stand before the key. -/
  position : Nat
  mark : Mark
deriving Repr

namespace PossibleKey

/-- A key ends on the line on which it starts, within 1024 characters. -/
def isStale (key : PossibleKey) (now : Mark) : Bool :=
  key.mark.line < now.line || key.mark.index + 1024 < now.index

end PossibleKey

end RunAtlas.Yaml

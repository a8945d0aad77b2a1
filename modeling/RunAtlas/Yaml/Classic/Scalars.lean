import RunAtlas.Yaml.BlockHeader
import RunAtlas.Yaml.PlainScalar
import RunAtlas.Yaml.QuotedScalar
import RunAtlas.Yaml.TagName

/-!
# Scalars and tags of YAML 1.1

In YAML 1.1 a line ends at CR, LF, CR LF, NEL, or a line or paragraph separator.  Indentation binds
plain and block scalars, and quoted scalars not at all.
-/

namespace RunAtlas.Yaml.Classic

/-- The characters that end a line. -/
def isBreak (c : Char) : Bool :=
  c = '\n' || c = '\r' || c = '\u0085' || c = '\u2028' || c = '\u2029'

/-- The characters that separate tokens. -/
def separates (c : Char) : Bool :=
  isBlank c || isBreak c

/-- A tab is skipped like a space. -/
def skipTab (cursor : Cursor) : Option Cursor :=
  some (cursor.advance 1)

/-- A plain scalar ends at a colon before a blank, and inside flow collections at their indicators,
where a colon before one of these, or before a question mark, is wrong. -/
def judgePlain (inFlow : Bool) (cursor : Cursor) : Verdict :=
  let afterColon := cursor.isAt ':'
  if inFlow && afterColon && (cursor.peekAt 1).any (fun c => isFlowIndicator c || c = '?') then
    .wrong
  else if afterColon && cursor.atEndOrAt 1 separates then .ends
  else if inFlow && cursor.peek.any isFlowIndicator then .ends
  else .goesOn

/-- The rules for plain scalars inside a collection indented by `indent`, which is negative outside
every block collection. -/
def plainRules (inFlow : Bool) (indent : Int) : PlainRules where
  isBreak := isBreak
  pieceStart cursor :=
    if cursor.atDocumentMarker separates || cursor.isAt '#' then .ends else .goesOn
  character := judgePlain inFlow
  leadingTab cursor :=
    if (cursor.column : Int) < indent + 1 then none else some (cursor.advance 1)
  leavesAt column := !inFlow && (column : Int) < indent + 1

/-- The rules for quoted scalars. -/
def quotedRules : QuotedRules where
  isBreak := isBreak
  leastColumn := -1
  leadingTab := skipTab

/-- The characters of a tag written with a handle. -/
def isTagChar (c : Char) : Bool :=
  isWordChar c ||
    [';', '/', '?', ':', '@', '&', '=', '+', '$', '.', '%', '!', '~', '*', '\x27', '(', ')'].elem c

/-- The character with this code, if there is one and it is not below `least`. -/
def characterFrom? (least code : Nat) : Option Char :=
  if least ≤ code ∧ code.isValidChar then some (Char.ofNat code) else none

/-- The character whose encoding as UTF-8 these octets are. -/
def characterOfOctets? : List Nat → Option Char
  | [a] => characterFrom? 0 a
  | [a, b] => characterFrom? 0x80 (a % 0x20 * 0x40 + b % 0x40)
  | [a, b, c] => characterFrom? 0x800 ((a % 0x10 * 0x40 + b % 0x40) * 0x40 + c % 0x40)
  | [a, b, c, d] =>
      characterFrom? 0x10000 (((a % 8 * 0x40 + b % 0x40) * 0x40 + c % 0x40) * 0x40 + d % 0x40)
  | _ => none

/-- The character that is read for octets which encode none. -/
def unreadable : Char := '\x00'

/-- The text that the pieces of a tag spell.  A null octet ends it. -/
def spell : List TagPiece → List Char
  | [] => []
  | .plain c :: rest => c :: spell rest
  | .escaped octets :: rest =>
      if octets = [0] then [] else (characterOfOctets? octets).getD unreadable :: spell rest

/-- The rules for tags. -/
def tagRules : TagRules where
  isSuffixChar := isTagChar
  isVerbatimChar c := isTagChar c || [',', '[', ']'].elem c
  spell? pieces := some (spell pieces)
  allowsEmptyVerbatim := false

/-- The lines before the content of a block scalar: the column that the longest of their blanks
reach, and their line breaks in reverse. -/
structure BlankLines where
  widest : Nat
  breaks : List Char
  after : Cursor

/-- Skip blank lines, and the indentation of the line after them.  While the indentation is not
known every space belongs to it.  A tab inside the indentation is wrong. -/
def skipBlankLines (indentation : Option Nat) :
    (bound : Nat) → BlankLines → Option BlankLines
  | 0, lines => some lines
  | bound + 1, lines =>
      let within (column : Nat) : Bool := indentation.all (column < ·)
      let room := (indentation.map (· - lines.after.column)).getD lines.after.size
      let spaces := ((lines.after.rest.take room).takeWhile (· = ' ')).length
      let cursor := lines.after.advance spaces
      let widest := max lines.widest cursor.column
      if within cursor.column && cursor.isAt '\t' then none
      else if cursor.peek.any isBreak then
        skipBlankLines indentation bound
          ⟨widest, cursor.breakText.reverse ++ lines.breaks, cursor.crossBreak⟩
      else some ⟨widest, lines.breaks, cursor⟩

/-- The state between two lines of a block scalar: the text before in reverse, the break that ended
the last line, the breaks of the blank lines after it in reverse, and whether the last line started
with a blank. -/
structure BlockText where
  text : List Char
  lineBreak : List Char
  blankLines : List Char
  leadingBlank : Bool

/-- The text once a line is known to follow.  A folded scalar joins two lines that do not start with
a blank. -/
def BlockText.join (state : BlockText) (literal : Bool) (trailingBlank : Bool) : List Char :=
  if !literal && state.lineBreak = ['\n'] && !state.leadingBlank && !trailingBlank then
    if state.blankLines.isEmpty then ' ' :: state.text else state.blankLines ++ state.text
  else state.blankLines ++ state.lineBreak ++ state.text

/-- Read the lines of a block scalar. -/
def readBlockLines (literal : Bool) (indentation : Nat) :
    (bound : Nat) → BlockText → Cursor → Option (BlockText × Cursor)
  | 0, state, cursor => some (state, cursor)
  | bound + 1, state, cursor =>
      if cursor.column = indentation && !cursor.rest.isEmpty then
        let startsBlank := cursor.peek.any isBlank
        let joined := state.join literal startsBlank
        let (line, afterLine) := cursor.takeWhile (!isBreak ·)
        let lineBreak := if afterLine.rest.isEmpty then [] else afterLine.breakText
        let nextStart := if afterLine.rest.isEmpty then afterLine else afterLine.crossBreak
        match skipBlankLines (some indentation) (nextStart.size + 1) ⟨0, [], nextStart⟩ with
        | none => none
        | some lines =>
            readBlockLines literal indentation bound
              ⟨line.reverse ++ joined, lineBreak, lines.breaks, startsBlank⟩ lines.after
      else some (state, cursor)

/-- Read the block scalar at the cursor inside a collection indented by `indent`. -/
def readBlockScalar (literal : Bool) (indent : Int) (cursor : Cursor) :
    Option (List Char × Cursor) := do
  let (header, cursor) ← BlockHeader.read (cursor.advance 1)
  let cursor := cursor.skipWhile isBlank
  let cursor := if cursor.isAt '#' then cursor.skipWhile (!isBreak ·) else cursor
  if cursor.peek.all isBreak then
    let cursor := if cursor.rest.isEmpty then cursor else cursor.crossBreak
    let given := header.indentation.map fun count => (max indent 0).toNat + count
    let lines ← skipBlankLines given (cursor.size + 1) ⟨0, [], cursor⟩
    let indentation := given.getD (max lines.widest (max (indent + 1) 1).toNat)
    let (state, cursor) ←
      readBlockLines literal indentation (lines.after.size + 1)
        ⟨[], [], lines.breaks, false⟩ lines.after
    let clipped :=
      if header.chomping = .strip then state.text else state.lineBreak.reverse ++ state.text
    let kept := if header.chomping = .keep then state.blankLines ++ clipped else clipped
    some (kept.reverse, cursor)
  else none

end RunAtlas.Yaml.Classic

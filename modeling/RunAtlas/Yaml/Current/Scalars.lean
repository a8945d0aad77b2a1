import RunAtlas.Yaml.BlockHeader
import RunAtlas.Yaml.PlainScalar
import RunAtlas.Yaml.QuotedScalar
import RunAtlas.Yaml.TagName

/-!
# Scalars and tags of YAML 1.2

In YAML 1.2 a line ends at CR, LF or CR LF only.  Indentation binds all scalars, and a tab may not
stand in it unless the line is empty.
-/

namespace RunAtlas.Yaml.Current

/-- The characters that end a line. -/
def isBreak (c : Char) : Bool :=
  c = '\n' || c = '\r'

/-- The characters that separate tokens. -/
def separates (c : Char) : Bool :=
  isBlank c || isBreak c

/-- The blanks after a token on its line. -/
structure LineTail where
  after : Cursor
  hasTab : Bool
  hasSpace : Bool

/-- Skip blanks, and a comment if a blank stands before it, to the end of the line.  Tabs are only
skipped if they are allowed.  A comment right after the token is wrong. -/
def skipLineTail (tabsAllowed : Bool) (cursor : Cursor) : Option LineTail :=
  let (blanks, after) := cursor.takeWhile fun c => c = ' ' || (tabsAllowed && c = '\t')
  if after.isAt '#' then
    if blanks.isEmpty then none
    else some ⟨after.skipWhile (!isBreak ·), blanks.elem '\t', blanks.elem ' '⟩
  else some ⟨after, blanks.elem '\t', blanks.elem ' '⟩

/-- Skip what may stand after a token on its line, without its details. -/
def skipTail (cursor : Cursor) : Option Cursor :=
  (skipLineTail true cursor).map (·.after)

/-- Skip a tab inside the indentation, which only an otherwise empty line may have. -/
def skipEmptyLine (cursor : Cursor) : Option Cursor :=
  match skipTail cursor with
  | some after => if after.atEndOr isBreak then some after else none
  | none => none

/-- Skip a tab inside the indentation of a line of a plain scalar.  A line with nothing but a
comment after its tab is passed over with its line break. -/
def skipPlainTab (cursor : Cursor) : Option Cursor :=
  (skipEmptyLine cursor).map fun after =>
    if (cursor.skipWhile isBlank).isAt '#' && !after.rest.isEmpty then after.crossBreak else after

/-- A piece of a plain scalar does not start at a comment or at the start or end of a document, and
inside a flow collection not with a hyphen before one of its indicators. -/
def judgePieceStart (inFlow : Bool) (cursor : Cursor) : Verdict :=
  if cursor.atDocumentMarker separates || cursor.isAt '#' then .ends
  else if inFlow && cursor.isAt '-' && (cursor.peekAt 1).any isFlowIndicator then .wrong
  else .goesOn

/-- A plain scalar ends at a colon before a blank, and inside flow collections at their indicators
and at a colon before one of these. -/
def judgePlain (inFlow : Bool) (cursor : Cursor) : Verdict :=
  let next := cursor.peekAt 1
  if cursor.isAt ':' && (next.all separates || (inFlow && next.any isFlowIndicator)) then .ends
  else if inFlow && cursor.peek.any isFlowIndicator then .ends
  else .goesOn

/-- The rules for plain scalars inside a collection indented by `indent`, which is negative outside
every block collection. -/
def plainRules (inFlow : Bool) (indent : Int) : PlainRules where
  isBreak := isBreak
  pieceStart := judgePieceStart inFlow
  character := judgePlain inFlow
  leadingTab cursor :=
    if (cursor.column : Int) < indent + 1 then skipPlainTab cursor else some (cursor.advance 1)
  leavesAt column := !inFlow && (column : Int) < indent + 1

/-- The rules for quoted scalars inside a collection indented by `indent`. -/
def quotedRules (indent : Int) : QuotedRules where
  isBreak := isBreak
  leastColumn := indent
  leadingTab cursor :=
    if (cursor.column : Int) < indent then none else some (cursor.advance 1)

/-- The characters of a verbatim tag. -/
def isTagUriChar (c : Char) : Bool :=
  c.isAlphanum ||
    ['-', '#', ';', '/', '?', ':', '@', '&', '=', '+', '$', ',', '_', '.', '!', '~', '*', '\x27',
      '(', ')', '[', ']', '%'].elem c

/-- The characters of a tag written with a handle. -/
def isTagChar (c : Char) : Bool :=
  isTagUriChar c && !isFlowIndicator c && c != '!'

/-- The character that escaped octets stand for: their value as one number. -/
def characterOfOctets? (octets : List Nat) : Option Char :=
  let code := octets.foldl (fun code octet => code * 0x100 + octet) 0
  if code.isValidChar then some (Char.ofNat code) else none

/-- The text that the pieces of a tag spell, if all octets stand for characters. -/
def spell? : List TagPiece → Option (List Char)
  | [] => some []
  | .plain c :: rest => (spell? rest).map (c :: ·)
  | .escaped octets :: rest => do
      let c ← characterOfOctets? octets
      (spell? rest).map (c :: ·)

/-- The rules for tags. -/
def tagRules : TagRules where
  isSuffixChar := isTagChar
  isVerbatimChar := isTagUriChar
  spell? := spell?
  allowsEmptyVerbatim := true

/-- The characters of the name of an anchor. -/
def isAnchorChar (c : Char) : Bool :=
  !isBlank c && !isBreak c && !isFlowIndicator c && c != '\uFEFF'

/-- The lines before the content of a block scalar: the column that the longest of their spaces
reach, and the number of their line breaks. -/
structure BlankLines where
  widest : Nat
  breaks : Nat
  after : Cursor

/-- Skip blank lines, and the indentation of the line after them.  While the indentation is not
known every space belongs to it. -/
def skipBlankLines (indentation : Option Nat) : (bound : Nat) → BlankLines → BlankLines
  | 0, lines => lines
  | bound + 1, lines =>
      let room := (indentation.map (· - lines.after.column)).getD lines.after.size
      let spaces := ((lines.after.rest.take room).takeWhile (· = ' ')).length
      let cursor := lines.after.advance spaces
      let widest := max lines.widest cursor.column
      if cursor.peek.any isBreak then
        skipBlankLines indentation bound ⟨widest, lines.breaks + 1, cursor.crossBreak⟩
      else ⟨widest, lines.breaks, cursor⟩

/-- A number of line feeds. -/
def lineFeeds (count : Nat) : List Char :=
  List.replicate count '\n'

/-- The state between two lines of a block scalar: the text before in reverse, whether a line break
ended the last line, the number of blank lines after it, and whether the last line started with a
blank. -/
structure BlockText where
  text : List Char
  lineBreak : Bool
  blankLines : Nat
  leadingBlank : Bool

namespace BlockText

/-- The text once a line is known to follow.  A folded scalar joins two lines that do not start with
a blank. -/
def join (state : BlockText) (literal : Bool) (trailingBlank : Bool) : List Char :=
  if !literal && state.lineBreak && !state.leadingBlank && !trailingBlank then
    if state.blankLines = 0 then ' ' :: state.text
    else lineFeeds state.blankLines ++ state.text
  else lineFeeds (state.blankLines + if state.lineBreak then 1 else 0) ++ state.text

end BlockText

/-- Read the lines of a block scalar.  A scalar that is not indented ends where the document
does. -/
def readBlockLines (literal : Bool) (indentation : Nat) :
    (bound : Nat) → BlockText → Cursor → BlockText × Cursor
  | 0, state, cursor => (state, cursor)
  | bound + 1, state, cursor =>
      if cursor.column = indentation && !cursor.rest.isEmpty &&
          !(indentation = 0 && cursor.atMarker '.' separates) then
        let startsBlank := cursor.peek.any isBlank
        let joined := state.join literal startsBlank
        let (line, afterLine) := cursor.takeWhile (!isBreak ·)
        let text := line.reverse ++ joined
        if afterLine.rest.isEmpty then (⟨text, false, 0, startsBlank⟩, afterLine)
        else
          let nextStart := afterLine.crossBreak
          let lines :=
            skipBlankLines (some indentation) (nextStart.size + 1) ⟨0, 0, nextStart⟩
          readBlockLines literal indentation bound ⟨text, true, lines.breaks, startsBlank⟩
            lines.after
      else (state, cursor)

/-- A block scalar with the place of its content and the place after it. -/
structure BlockScalar where
  text : List Char
  mark : Mark
  after : Cursor

/-- The text of a block scalar without content at the end of the text. -/
def emptyBlockText (chomping : Chomping) (sameLine : Bool) (blankLines : Nat) : List Char :=
  match chomping with
  | .strip => []
  | .clip => if sameLine then [] else ['\n']
  | .keep => if sameLine then [] else lineFeeds (max blankLines 1)

/-- Read the block scalar at the cursor inside a collection indented by `indent`. -/
def readBlockScalar (literal : Bool) (indent : Int) (start : Cursor) : Option BlockScalar := do
  let (header, cursor) ← BlockHeader.read (start.advance 1)
  let cursor ← skipTail cursor
  if cursor.atEndOr isBreak then
    let cursor := if cursor.rest.isEmpty then cursor else cursor.crossBreak
    if cursor.isAt '\t' then none
    else
      let given := header.indentation.map fun count => (max indent 0).toNat + count
      let lines := skipBlankLines given (cursor.size + 1) ⟨0, 0, cursor⟩
      let least := max lines.widest (indent + 1).toNat
      let indentation := given.getD (if indent > 0 then max least 1 else least)
      let content := lines.after
      if content.rest.isEmpty then
        let sameLine := content.mark.line = start.mark.line
        some ⟨emptyBlockText header.chomping sameLine lines.breaks, start.mark, content⟩
      else if content.column < indentation && indent < (content.column : Int) then none
      else
        let (state, after) :=
          readBlockLines literal indentation (content.size + 1)
            ⟨[], false, lines.breaks, false⟩ content
        let ending :=
          if header.chomping = .strip then state.text
          else
            let broken := if state.lineBreak then '\n' :: state.text else state.text
            if after.rest.isEmpty && after.column ≥ max indentation 1 then '\n' :: broken
            else broken
        let kept :=
          if header.chomping = .keep then lineFeeds state.blankLines ++ ending else ending
        some ⟨kept.reverse, content.mark, after⟩
  else none

end RunAtlas.Yaml.Current

import RunAtlas.Yaml.Classic.Scalars
import RunAtlas.Yaml.Token

/-!
# Tokens of YAML 1.1

`Classic.tokens?` splits a text into the tokens of YAML 1.1, or fails if some part of it is no
token.  Block collections are announced by tokens of their own, which follow from the columns at
which keys and entries start; `State.indent` is the column of the innermost block collection, and
negative outside of every one.
-/

namespace RunAtlas.Yaml.Classic

/-- What is known in the middle of a text. -/
structure State where
  cursor : Cursor
  tape : Tape
  /-- The key that may have started in the innermost flow collection, or in block context. -/
  key : Option PossibleKey
  /-- The keys that may have started around the flow collections that are open. -/
  outerKeys : List (Option PossibleKey)
  indent : Int
  outerIndents : List Int
  /-- Whether a key may start at the cursor. -/
  keyAllowed : Bool
  finished : Bool

namespace State

/-- The state at the start of a text. -/
def initial (text : List Char) : State :=
  ⟨.ofText text, .empty, none, [], -1, [], true, false⟩

/-- Whether a flow collection is open. -/
def inFlow (state : State) : Bool :=
  !state.outerKeys.isEmpty

/-- Append a token. -/
def push (state : State) (kind : TokenKind) (mark : Mark) : State :=
  { state with tape := state.tape.push kind mark }

/-- Append the token of the next `width` characters. -/
def pushNext (state : State) (kind : TokenKind) (width : Nat) : State :=
  { state.push kind state.cursor.mark with cursor := state.cursor.advance width }

/-- Forget the key that may have started.  A required key has to be one. -/
def dropKey (state : State) : Option State :=
  if state.key.any (·.required) then none else some { state with key := none }

/-- Note that a key may start at the cursor.  It is required at the column of a block
collection. -/
def noteKey (state : State) : Option State :=
  if state.keyAllowed then do
    let required := !state.inFlow && state.indent = (state.cursor.column : Int)
    let cleared ← state.dropKey
    some { cleared with key := some ⟨required, state.tape.count, state.cursor.mark⟩ }
  else some state

/-- Set whether a key may start at the cursor. -/
def allowKey (state : State) (allowed : Bool) : State :=
  { state with keyAllowed := allowed }

/-- Forget a key that can be one no more. -/
def ageKey (now : Mark) : Option PossibleKey → Option (Option PossibleKey)
  | none => some none
  | some key =>
      if !key.isStale now then some (some key)
      else if key.required then none
      else some none

/-- Forget all keys that can be ones no more. -/
def ageKeys (now : Mark) : List (Option PossibleKey) → Option (List (Option PossibleKey))
  | [] => some []
  | key :: rest => do
      let first ← ageKey now key
      let others ← ageKeys now rest
      some (first :: others)

/-- Forget the keys that can be ones no more at the cursor. -/
def dropStaleKeys (state : State) : Option State := do
  let outerKeys ← ageKeys state.cursor.mark state.outerKeys
  let key ← ageKey state.cursor.mark state.key
  some { state with key := key, outerKeys := outerKeys }

/-- Close the block collections that are indented further than `column`. -/
def closeBlocksFrom (mark : Mark) (column : Int) : Tape → Int → List Int → Tape × Int × List Int
  | tape, indent, [] => (tape, indent, [])
  | tape, indent, outer :: rest =>
      if column < indent then closeBlocksFrom mark column (tape.push .blockEnd mark) outer rest
      else (tape, indent, outer :: rest)

/-- Close the block collections that are indented further than `column`.  Inside a flow collection
indentation means nothing. -/
def closeBlocks (state : State) (column : Int) : State :=
  if state.inFlow then state
  else
    let (tape, indent, outerIndents) :=
      closeBlocksFrom state.cursor.mark column state.tape state.indent state.outerIndents
    { state with tape := tape, indent := indent, outerIndents := outerIndents }

/-- Open a block collection at a column if none is open there, with its token at a position of the
tape. -/
def openBlock (state : State) (column position : Nat) (kind : TokenKind) (mark : Mark) : State :=
  if !state.inFlow && state.indent < (column : Int) then
    { state with
      tape := state.tape.insert position kind mark
      indent := column
      outerIndents := state.indent :: state.outerIndents }
  else state

/-- Open a block collection at the cursor. -/
def openBlockHere (state : State) (kind : TokenKind) : State :=
  state.openBlock state.cursor.column state.tape.count kind state.cursor.mark

/-- Skip blanks, comments and line breaks, and a byte-order mark at the very start.  A tab may not
stand where a key may start in block context.  After a line break a key may start. -/
def skipSeparation : (bound : Nat) → State → State
  | 0, state => state
  | bound + 1, state =>
      let cursor := state.cursor
      match cursor.peek with
      | none => state
      | some c =>
          if c = '\uFEFF' && cursor.mark.index = 0 then
            skipSeparation bound { state with cursor := cursor.advance 1 }
          else if c = ' ' || (c = '\t' && (state.inFlow || !state.keyAllowed)) then
            skipSeparation bound { state with cursor := cursor.advance 1 }
          else if c = '#' then
            skipSeparation bound { state with cursor := cursor.skipWhile (!isBreak ·) }
          else if isBreak c then
            skipSeparation bound
              { state with
                cursor := cursor.crossBreak
                keyAllowed := state.keyAllowed || !state.inFlow }
          else state

/-- The end of the text, at the start of a line of its own. -/
def readEnd (state : State) : Option State := do
  let cursor := if state.cursor.column = 0 then state.cursor else state.cursor.nextLine 0
  let closed := { state with cursor := cursor }.closeBlocks (-1)
  let cleared ← closed.dropKey
  some { cleared.push .streamEnd cursor.mark with keyAllowed := false, finished := true }

/-- A number of at most nine digits. -/
def readVersionNumber (cursor : Cursor) : Option (Nat × Cursor) :=
  let (digits, after) := cursor.takeWhile Char.isDigit
  if digits.length ≤ 9 then (Decimal.wholeNumber? 10 digits).map (·, after) else none

/-- What a directive says, after its name. -/
def readDirectiveBody (name : List Char) (cursor : Cursor) : Option (TokenKind × Cursor) :=
  if name = ['Y', 'A', 'M', 'L'] then do
    let (major, cursor) ← readVersionNumber (cursor.skipWhile isBlank)
    if cursor.isAt '.' then
      let (minor, cursor) ← readVersionNumber (cursor.advance 1)
      some (.versionDirective major minor, cursor)
    else none
  else if name = ['T', 'A', 'G'] then do
    let (handle, cursor) ← TagName.readHandle? (cursor.skipWhile isBlank)
    if (TagName.isClosed handle || handle = ['!']) && cursor.peek.any isBlank then
      let (lead, cursor) ←
        TagName.readText tagRules tagRules.isVerbatimChar false (cursor.skipWhile isBlank)
      if cursor.atEndOr separates then some (.tagDirective handle lead, cursor) else none
    else none
  else none

/-- A directive, which fills its line but for a comment. -/
def readDirective (state : State) : Option State := do
  let cleared ← (state.closeBlocks (-1)).dropKey
  let (name, cursor) := (state.cursor.advance 1).takeWhile isWordChar
  if !name.isEmpty && cursor.atEndOr separates then
    let (kind, cursor) ← readDirectiveBody name cursor
    let cursor := cursor.skipWhile isBlank
    let cursor := if cursor.isAt '#' then cursor.skipWhile (!isBreak ·) else cursor
    if cursor.atEndOr isBreak then
      let cursor := if cursor.rest.isEmpty then cursor else cursor.crossBreak
      some
        { cleared.push kind state.cursor.mark with
          cursor := cursor
          keyAllowed := false }
    else none
  else none

/-- The start or end of a document. -/
def readDocumentMarker (state : State) (kind : TokenKind) : Option State := do
  let cleared ← (state.closeBlocks (-1)).dropKey
  some ((cleared.allowKey false).pushNext kind 3)

/-- The start of a flow collection, which may be a key. -/
def readFlowStart (state : State) (kind : TokenKind) : Option State := do
  let noted ← state.noteKey
  let opened := { noted with key := none, outerKeys := noted.key :: noted.outerKeys }
  some ((opened.allowKey true).pushNext kind 1)

/-- The end of a flow collection. -/
def readFlowEnd (state : State) (kind : TokenKind) : Option State := do
  let cleared ← state.dropKey
  let closed :=
    match cleared.outerKeys with
    | [] => cleared
    | key :: rest => { cleared with key := key, outerKeys := rest }
  some ((closed.allowKey false).pushNext kind 1)

/-- A comma in a flow collection. -/
def readFlowEntry (state : State) : Option State := do
  let cleared ← state.dropKey
  some ((cleared.allowKey true).pushNext .flowEntry 1)

/-- A hyphen before an entry of a block sequence. -/
def readBlockEntry (state : State) : Option State := do
  if !state.inFlow && !state.keyAllowed then none
  else
    let cleared ← (state.openBlockHere .blockSequenceStart).dropKey
    some ((cleared.allowKey true).pushNext .blockEntry 1)

/-- A question mark before a key. -/
def readKey (state : State) : Option State := do
  if !state.inFlow && !state.keyAllowed then none
  else
    let cleared ← (state.openBlockHere .blockMappingStart).dropKey
    some ((cleared.allowKey (!state.inFlow)).pushNext .key 1)

/-- A colon before a value.  The key before it, if one may have started, is one; otherwise the key
is the one after a question mark, or missing. -/
def readValue (state : State) : Option State :=
  match state.key with
  | some key =>
      let announced :=
        { state with
          tape := state.tape.insert key.position .key key.mark
          key := none }
      let opened :=
        announced.openBlock key.mark.column key.position .blockMappingStart key.mark
      some ((opened.allowKey false).pushNext .value 1)
  | none =>
      if !state.inFlow && !state.keyAllowed then none
      else
        let opened := state.openBlockHere .blockMappingStart
        some ((opened.allowKey (!state.inFlow)).pushNext .value 1)

/-- An anchor or an alias. -/
def readName (state : State) (kind : List Char → TokenKind) : Option State := do
  let noted ← state.noteKey
  let (name, cursor) := (state.cursor.advance 1).takeWhile isWordChar
  let ends (c : Char) : Bool :=
    separates c || ['?', ':', ',', ']', '}', '%', '@', '\x60'].elem c
  if !name.isEmpty && cursor.atEndOr ends then
    some { noted.push (kind name) state.cursor.mark with cursor := cursor, keyAllowed := false }
  else none

/-- A tag. -/
def readTag (state : State) : Option State := do
  let noted ← state.noteKey
  let ((handle, suffix), cursor) ← TagName.read tagRules state.cursor
  if cursor.atEndOr separates || (state.inFlow && cursor.isAt ',') then
    some
      { noted.push (.tag handle suffix) state.cursor.mark with
        cursor := cursor
        keyAllowed := false }
  else none

/-- A block scalar. -/
def readBlock (state : State) (literal : Bool) : Option State := do
  let cleared ← state.dropKey
  let (text, cursor) ← readBlockScalar literal state.indent state.cursor
  some
    { cleared.push (.scalar false text) state.cursor.mark with
      cursor := cursor
      keyAllowed := true }

/-- A quoted scalar. -/
def readQuoted (state : State) (single : Bool) : Option State := do
  let noted ← state.noteKey
  let (text, cursor) ← QuotedScalar.read quotedRules single state.cursor
  some
    { noted.push (.scalar false text) state.cursor.mark with
      cursor := cursor
      keyAllowed := false }

/-- A plain scalar.  After a line break a key may start. -/
def readPlain (state : State) : Option State := do
  let noted ← state.noteKey
  let scalar ← PlainScalar.read (plainRules state.inFlow state.indent) state.cursor
  some
    { noted.push (.scalar true scalar.text) state.cursor.mark with
      cursor := scalar.after
      keyAllowed := scalar.crossedBreak }

/-- Whether a plain scalar may start with a character before the rest of the text. -/
def startsPlain (state : State) (c : Char) : Bool :=
  let beforeBlank := state.cursor.atEndOrAt 1 isBlank
  let beforeSeparation := state.cursor.atEndOrAt 1 separates
  !(separates c || isFlowIndicator c ||
      ['-', '?', ':', '#', '&', '*', '!', '|', '>', '\x27', '\x22', '%', '@', '\x60'].elem c) ||
    (c = '-' && !beforeBlank) ||
    (!state.inFlow && (c = '?' || c = ':') && !beforeSeparation)

/-- Read the next token after what separates it from the last one, with the tokens that announce
it. -/
def readToken (state : State) : Option State := do
  let skipped := state.skipSeparation state.cursor.size
  let current ← skipped.dropStaleKeys
  let state := current.closeBlocks current.cursor.column
  let cursor := state.cursor
  match cursor.peek with
  | none => state.readEnd
  | some c =>
      let apart := cursor.atEndOrAt 1 separates
      let flow := state.inFlow
      if cursor.column = 0 && c = '%' then state.readDirective
      else if cursor.atMarker '-' separates then state.readDocumentMarker .documentStart
      else if cursor.atMarker '.' separates then state.readDocumentMarker .documentEnd
      else if c = '[' then state.readFlowStart .flowSequenceStart
      else if c = '{' then state.readFlowStart .flowMappingStart
      else if c = ']' then state.readFlowEnd .flowSequenceEnd
      else if c = '}' then state.readFlowEnd .flowMappingEnd
      else if c = ',' then state.readFlowEntry
      else if c = '-' && apart then state.readBlockEntry
      else if c = '?' && (flow || apart) then state.readKey
      else if c = ':' && (flow || apart) then state.readValue
      else if c = '*' then state.readName .alias
      else if c = '&' then state.readName .anchor
      else if c = '!' then state.readTag
      else if c = '|' && !flow then state.readBlock true
      else if c = '>' && !flow then state.readBlock false
      else if c = '\x27' then state.readQuoted true
      else if c = '\x22' then state.readQuoted false
      else if state.startsPlain c then state.readPlain
      else none

/-- Read tokens to the end of the text. -/
def readTokens : (bound : Nat) → State → Option (List Token)
  | 0, _ => none
  | bound + 1, state =>
      match state.readToken with
      | none => none
      | some next => if next.finished then some next.tape.toList else readTokens bound next

end State

/-- The characters that a YAML text may hold. -/
def isPrintable (c : Char) : Bool :=
  let code := c.toNat
  code = 9 || code = 10 || code = 13 || (0x20 ≤ code && code ≤ 0x7E) || code = 0x85 ||
    (0xA0 ≤ code && code ≤ 0xFFFD) || 0x10000 ≤ code

/-- The tokens of a text.  Every token but the last takes at least one character. -/
def tokens? (text : List Char) : Option (List Token) :=
  if text.all isPrintable then (State.initial text).readTokens (text.length + 2) else none

end RunAtlas.Yaml.Classic

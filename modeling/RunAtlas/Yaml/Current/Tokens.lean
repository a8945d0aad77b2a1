import RunAtlas.Yaml.Current.Scalars
import RunAtlas.Yaml.Token

/-!
# Tokens of YAML 1.2

`Current.tokens` splits a text into the tokens of YAML 1.2.  A text that goes wrong somewhere still
has the tokens before that place: a reader that needs no more of them does not meet the fault.  A
token is only given out once it is certain that no key starts at it, for a key would be announced by
a token before it.

Block collections are announced by tokens of their own, and so are the mappings of one entry that
may stand in a flow sequence without braces.
-/

namespace RunAtlas.Yaml.Current

/-- A level of indentation around the current one. -/
structure OuterIndent where
  indent : Int
  /-- Whether the level inside is a block collection, whose end is announced. -/
  announced : Bool

/-- What is known in the middle of a text. -/
structure State where
  cursor : Cursor
  tape : Tape
  /-- The key that may have started in the innermost flow collection, or in block context. -/
  key : Option PossibleKey
  /-- The keys that may have started around the flow collections that are open. -/
  outerKeys : List (Option PossibleKey)
  indent : Int
  outerIndents : List OuterIndent
  /-- Whether a key may start at the cursor. -/
  keyAllowed : Bool
  /-- Whether only blanks stand before the cursor on its line. -/
  lineBlank : Bool
  /-- Whether a mapping has been announced in a flow collection. -/
  mappingStarted : Bool
  /-- For each flow sequence that is open, whether an entry without braces has been announced. -/
  impliedPairs : List Bool
  /-- The index at which a value may follow its key at once. -/
  adjacentAt : Nat
  finished : Bool

namespace State

/-- The state at the start of a text. -/
def initial (text : List Char) : State where
  cursor := .ofText text
  tape := .empty
  key := none
  outerKeys := []
  indent := -1
  outerIndents := []
  keyAllowed := true
  lineBlank := true
  mappingStarted := false
  impliedPairs := []
  adjacentAt := 0
  finished := false

/-- Whether a flow collection is open. -/
def inFlow (state : State) : Bool :=
  !state.outerKeys.isEmpty

/-- Whether the current level of indentation is a block collection. -/
def inBlockCollection (state : State) : Bool :=
  state.outerIndents.head?.any (·.announced)

/-- Append a token. -/
def push (state : State) (kind : TokenKind) (mark : Mark) : State :=
  { state with tape := state.tape.push kind mark }

/-- Move behind something that is not blank. -/
def moveTo (state : State) (cursor : Cursor) : State :=
  { state with cursor := cursor, lineBlank := false }

/-- Set whether a key may start at the cursor. -/
def allowKey (state : State) (allowed : Bool) : State :=
  { state with keyAllowed := allowed }

/-- Forget the key that may have started.  A required key has to be one. -/
def dropKey (state : State) : Option State :=
  if state.key.any (·.required) then none else some { state with key := none }

/-- Note that a key may start at the cursor.  It is required at the column of a block
collection. -/
def noteKey (state : State) : State :=
  if state.keyAllowed then
    let required :=
      !state.inFlow && state.indent = (state.cursor.column : Int) && state.inBlockCollection
    { state with key := some ⟨required, state.tape.count, state.cursor.mark⟩ }
  else state

/-- Forget the key that can be one no more at the cursor.  Inside a flow collection keys do not
age. -/
def dropStaleKey (state : State) : Option State :=
  match state.key with
  | none => some state
  | some key =>
      if !state.inFlow && key.isStale state.cursor.mark then state.dropKey else some state

/-- Close the levels that are indented further than `column`. -/
def closeLevelsFrom (mark : Mark) (column : Int) :
    Tape → Int → List OuterIndent → Tape × Int × List OuterIndent
  | tape, indent, [] => (tape, indent, [])
  | tape, indent, outer :: rest =>
      if column < indent then
        let closed := if outer.announced then tape.push .blockEnd mark else tape
        closeLevelsFrom mark column closed outer.indent rest
      else (tape, indent, outer :: rest)

/-- Close the levels that are indented further than `column`.  Inside a flow collection none are
closed. -/
def closeLevels (state : State) (column : Int) : State :=
  if state.inFlow then state
  else
    let (tape, indent, outerIndents) :=
      closeLevelsFrom state.cursor.mark column state.tape state.indent state.outerIndents
    { state with tape := tape, indent := indent, outerIndents := outerIndents }

/-- The innermost block collection and the indentation there. -/
def blockLevel : Int → List OuterIndent → Int × List OuterIndent
  | indent, [] => (indent, [])
  | indent, outer :: rest =>
      if outer.announced then (indent, outer :: rest) else blockLevel outer.indent rest

/-- Leave the levels that are no block collections. -/
def leaveOpenLevels (state : State) : State :=
  let (indent, outerIndents) := blockLevel state.indent state.outerIndents
  { state with indent := indent, outerIndents := outerIndents }

/-- Open a block collection at a column if none is open there, with its token at a position of the
tape.  A level that was only prepared gives way to it. -/
def openBlock (state : State) (column position : Nat) (kind : TokenKind) (mark : Mark) : State :=
  if state.inFlow then state
  else
    let settled :=
      match state.outerIndents with
      | outer :: rest =>
          if state.indent ≤ (column : Int) && !outer.announced then
            { state with indent := outer.indent, outerIndents := rest }
          else state
      | [] => state
    if settled.indent < (column : Int) then
      { settled with
        tape := settled.tape.insert position kind mark
        indent := column
        outerIndents := ⟨settled.indent, true⟩ :: settled.outerIndents }
    else settled

/-- Prepare a level one column further for what stands in the innermost block collection. -/
def prepareLevel (state : State) : State :=
  if !state.inFlow && state.inBlockCollection then
    { state with
      indent := state.indent + 1
      outerIndents := ⟨state.indent, false⟩ :: state.outerIndents }
  else state

/-- Skip blanks, comments and line breaks.  After a line break a key may start in block context. -/
def skipSeparation : (bound : Nat) → State → Option State
  | 0, state => some state
  | bound + 1, state =>
      let cursor := state.cursor
      match cursor.peek with
      | none => some state
      | some c =>
          if c = '\t' && !state.outerIndents.isEmpty && state.lineBlank &&
              (cursor.column : Int) < state.indent then
            match skipEmptyLine cursor with
            | some after => skipSeparation bound { state with cursor := after }
            | none => none
          else if isBlank c then skipSeparation bound { state with cursor := cursor.advance 1 }
          else if isBreak c then
            skipSeparation bound
              { state with
                cursor := cursor.crossBreak
                keyAllowed := state.keyAllowed || !state.inFlow
                lineBlank := true }
          else if c = '#' then
            skipSeparation bound { state with cursor := cursor.skipWhile (!isBreak ·) }
          else some state

/-- The end of the text, at the start of a line of its own. -/
def readEnd (state : State) : Option State := do
  let cursor := if state.cursor.column = 0 then state.cursor else state.cursor.nextLine 0
  if (state.key :: state.outerKeys).any (·.any (·.required)) then none
  else
    let closed := { state with cursor := cursor, key := none }.closeLevels (-1)
    some { closed.push .streamEnd cursor.mark with keyAllowed := false, finished := true }

/-- A number of at most nine digits. -/
def readVersionNumber (cursor : Cursor) : Option (Nat × Cursor) :=
  let (digits, after) := cursor.takeWhile Char.isDigit
  if digits.length ≤ 9 then (Decimal.wholeNumber? 10 digits).map (·, after) else none

/-- The text that tags with a declared handle start with. -/
def readTagLead (cursor : Cursor) : Option (List Char × Cursor) :=
  match cursor.peek with
  | some '!' =>
      (TagName.readText tagRules isTagUriChar true (cursor.advance 1)).map fun (text, after) =>
        ('!' :: text, after)
  | some c => if isTagChar c then TagName.readText tagRules isTagUriChar false cursor else none
  | none => none

/-- What a directive says, after its name.  Unknown directives say nothing. -/
def readDirectiveBody (name : List Char) (cursor : Cursor) : Option (TokenKind × Cursor) :=
  if name = ['Y', 'A', 'M', 'L'] then do
    let (major, cursor) ← readVersionNumber (cursor.skipWhile isBlank)
    if cursor.isAt '.' then
      let (minor, cursor) ← readVersionNumber (cursor.advance 1)
      some (.versionDirective major minor, cursor)
    else none
  else if name = ['T', 'A', 'G'] then do
    let (handle, cursor) ← TagName.readHandle? (cursor.skipWhile isBlank)
    if TagName.isClosed handle || handle = ['!'] then
      let (lead, cursor) ← readTagLead (cursor.skipWhile isBlank)
      if cursor.atEndOr separates then some (.tagDirective handle lead, cursor) else none
    else none
  else some (.tagDirective [] [], cursor.skipWhile (!isBreak ·))

/-- A directive, which fills its line but for a comment. -/
def readDirective (state : State) : Option State := do
  let cleared ← (state.closeLevels (-1)).dropKey
  let (name, cursor) := (state.cursor.advance 1).takeWhile isWordChar
  if !name.isEmpty && cursor.atEndOr separates then
    let (kind, cursor) ← readDirectiveBody name cursor
    let cursor ← skipTail cursor
    if cursor.atEndOr isBreak then
      let cursor := if cursor.rest.isEmpty then cursor else cursor.crossBreak
      some
        { cleared.push kind state.cursor.mark with
          cursor := cursor
          lineBlank := true
          keyAllowed := false }
    else none
  else none

/-- The start or end of a document.  Nothing but a comment may follow an end on its line. -/
def readDocumentMarker (state : State) (kind : TokenKind) : Option State := do
  let cleared ← (state.closeLevels (-1)).dropKey
  let marked :=
    ((cleared.allowKey false).push kind state.cursor.mark).moveTo (state.cursor.advance 3)
  if kind = .documentEnd then
    let after ← skipTail marked.cursor
    if after.atEndOr isBreak then some (marked.moveTo after) else none
  else some marked

/-- The deepest nesting of flow collections. -/
def deepestFlow : Nat := 255

/-- The start of a flow collection, which may be a key. -/
def readFlowStart (state : State) (kind : TokenKind) : Option State := do
  let prepared := state.noteKey.prepareLevel
  if prepared.outerKeys.length ≥ deepestFlow then none
  else
    let after ← skipTail (state.cursor.advance 1)
    let opened :=
      if kind = .flowMappingStart then { prepared with mappingStarted := true }
      else { prepared with impliedPairs := false :: prepared.impliedPairs }
    let entered :=
      { opened with key := none, outerKeys := opened.key :: opened.outerKeys, keyAllowed := true }
    some ((entered.push kind state.cursor.mark).moveTo after)

/-- Announce the end of a mapping of one entry without braces. -/
def endImpliedPair (state : State) : State :=
  match state.impliedPairs with
  | true :: rest =>
      { state.push .flowMappingEnd state.cursor.mark with
        mappingStarted := false
        impliedPairs := false :: rest }
  | _ => state

/-- The end of a flow collection.  Inside another one it may be a key, whose value may follow at
once. -/
def readFlowEnd (state : State) (kind : TokenKind) : Option State := do
  let cleared ← state.dropKey
  let left :=
    match cleared.outerKeys with
    | [] => cleared
    | key :: rest => { cleared with key := key, outerKeys := rest }
  let closed :=
    if kind = .flowSequenceEnd then
      let ended := (left.allowKey false).endImpliedPair
      { ended with impliedPairs := ended.impliedPairs.tail }
    else left.allowKey false
  let after ← skipTail (state.cursor.advance 1)
  let adjacentAt := if closed.inFlow then after.mark.index else closed.adjacentAt
  some (({ closed with adjacentAt := adjacentAt }.push kind state.cursor.mark).moveTo after)

/-- A comma in a flow collection. -/
def readFlowEntry (state : State) : Option State := do
  let cleared ← state.dropKey
  let after ← skipTail (state.cursor.advance 1)
  some (((cleared.allowKey true).endImpliedPair.push .flowEntry state.cursor.mark).moveTo after)

/-- Whether the last token is an anchor or a tag at the start of a line. -/
def followsProperty (state : State) : Bool :=
  match state.tape.newest with
  | ⟨.anchor _, mark⟩ :: _ | ⟨.tag _ _, mark⟩ :: _ => mark.column = 0
  | _ => false

/-- A hyphen before an entry of a block sequence. -/
def readBlockEntry (state : State) : Option State := do
  let cursor := state.cursor
  if state.inFlow || !state.keyAllowed then none
  else if cursor.column = 0 && state.followsProperty && state.indent > -1 then none
  else
    let opened := state.openBlock cursor.column state.tape.count .blockSequenceStart cursor.mark
    let tail ← skipLineTail true (cursor.advance 1)
    if tail.hasTab && tail.after.isAt '-' && tail.after.atEndOrAt 1 separates then none
    else
      let after ← (skipLineTail false tail.after).map (·.after)
      let prepared :=
        if after.peek.any (fun c => isBreak c || isFlowIndicator c) then opened.prepareLevel
        else opened
      let cleared ← prepared.dropKey
      some (((cleared.allowKey true).push .blockEntry after.mark).moveTo after)

/-- Skip spaces, comments and line breaks after the question mark of a key; at least one of them
that is no comment has to stand there. -/
def skipKeySeparation : (bound : Nat) → (separated : Bool) → State → Option State
  | 0, separated, state => if separated then some state else none
  | bound + 1, separated, state =>
      let cursor := state.cursor
      if cursor.isAt ' ' then
        skipKeySeparation bound true { state with cursor := cursor.advance 1 }
      else if cursor.peek.any isBreak then
        skipKeySeparation bound true
          { state with
            cursor := cursor.crossBreak
            keyAllowed := state.keyAllowed || !state.inFlow
            lineBlank := true }
      else if cursor.isAt '#' then
        skipKeySeparation bound separated { state with cursor := cursor.skipWhile (!isBreak ·) }
      else if separated then some state
      else none

/-- A question mark before a key. -/
def readKey (state : State) : Option State := do
  let cursor := state.cursor
  if !state.inFlow && !state.keyAllowed then none
  else
    let opened :=
      if state.inFlow then { state with mappingStarted := true }
      else state.openBlock cursor.column state.tape.count .blockMappingStart cursor.mark
    let cleared ← opened.dropKey
    let moved := (cleared.allowKey (!state.inFlow)).moveTo (cursor.advance 1)
    let separated ← skipKeySeparation (cursor.size + 1) false moved
    if separated.cursor.isAt '\t' then none else some (separated.push .key cursor.mark)

/-- Skip a tab after the colon before a value.  A tab alone does not separate an entry or a word. -/
def skipValueTab (cursor : Cursor) : Option Cursor :=
  if cursor.isAt '\t' then
    match skipLineTail true cursor with
    | none => none
    | some tail =>
        if !tail.hasSpace && tail.after.peek.any isWordChar then none else some tail.after
  else some cursor

/-- A colon before a value.  The key before it, if one may have started, is one; otherwise the key
is the one after a question mark, or missing.  In a flow sequence the pair may have no braces; its
key then stands on one line. -/
def readValue (state : State) : Option State := do
  let start := state.cursor
  let implied := !state.impliedPairs.isEmpty && !state.mappingStarted
  let after ← skipValueTab (start.advance 1)
  let marked :=
    if implied then { state with impliedPairs := true :: state.impliedPairs.tail } else state
  let moved := marked.moveTo after
  match state.key with
  | some key =>
      if implied && key.mark.line < start.mark.line then none
      else
        let keyed := moved.tape.insert key.position .key key.mark
        let announced :=
          if implied then keyed.insert key.position .flowMappingStart after.mark else keyed
        let opened :=
          { moved with tape := announced, key := none }.openBlock key.mark.column key.position
            .blockMappingStart start.mark
        some ((opened.prepareLevel.allowKey false).push .value start.mark)
  | none =>
      let announced := if implied then moved.push .flowMappingStart after.mark else moved
      if state.inFlow then some ((announced.allowKey false).push .value start.mark)
      else if !state.keyAllowed then none
      else
        let opened :=
          announced.openBlock start.column announced.tape.count .blockMappingStart start.mark
        some ((opened.prepareLevel.allowKey true).push .value start.mark)

/-- An anchor or an alias. -/
def readName (state : State) (kind : List Char → TokenKind) : Option State :=
  let (name, cursor) := (state.cursor.advance 1).takeWhile isAnchorChar
  if name.isEmpty then none
  else some (((state.noteKey.allowKey false).push (kind name) state.cursor.mark).moveTo cursor)

/-- A tag. -/
def readTag (state : State) : Option State := do
  let ((handle, suffix), cursor) ← TagName.read tagRules state.cursor
  if cursor.atEndOr separates || (state.inFlow && cursor.peek.any isFlowIndicator) then
    some
      (((state.noteKey.allowKey false).push (.tag handle suffix) state.cursor.mark).moveTo cursor)
  else none

/-- A block scalar. -/
def readBlock (state : State) (literal : Bool) : Option State := do
  let left := (state.noteKey.allowKey true).leaveOpenLevels
  let scalar ← readBlockScalar literal left.indent state.cursor
  some
    { left.push (.scalar false scalar.text) scalar.mark with
      cursor := scalar.after
      lineBlank := true }

/-- What may follow a quoted scalar on its line. -/
def mayFollowQuoted (state : State) (start after : Cursor) : Bool :=
  match after.peek with
  | none => true
  | some c =>
      isBreak c || (state.inFlow && (c = ',' || c = '}' || c = ']')) ||
        (c = ':' && (state.inFlow || start.mark.line = after.mark.line))

/-- A quoted scalar.  Its value may follow it at once. -/
def readQuoted (state : State) (single : Bool) : Option State := do
  let (text, closed) ← QuotedScalar.read (quotedRules state.indent) single state.cursor
  let after ← skipTail closed
  if state.mayFollowQuoted state.cursor after then
    let moved := (state.noteKey.allowKey false).moveTo after
    let separated ← moved.skipSeparation (after.size + 1)
    some
      { separated.push (.scalar false text) state.cursor.mark with
        adjacentAt := separated.cursor.mark.index }
  else none

/-- A plain scalar.  After a line break a key may start. -/
def readPlain (state : State) : Option State := do
  let left := (state.noteKey.allowKey false).leaveOpenLevels
  if state.inFlow && (state.cursor.column : Int) < left.indent + 1 then none
  else
    let scalar ← PlainScalar.read (plainRules state.inFlow left.indent) state.cursor
    some
      { left.push (.scalar true scalar.text) state.cursor.mark with
        cursor := scalar.after
        keyAllowed := scalar.crossedBreak
        lineBlank := scalar.crossedBreak }

/-- Read the next token after what separates it from the last one, with the tokens that announce
it. -/
def readToken (state : State) : Option State := do
  let skipped ← state.skipSeparation (state.cursor.size + 1)
  let current ← skipped.dropStaleKey
  let state := current.closeLevels current.cursor.column
  let cursor := state.cursor
  match cursor.peek with
  | none => state.readEnd
  | some c =>
      let flow := state.inFlow
      let apart := cursor.atEndOrAt 1 separates
      let valueFollows :=
        apart ||
          (flow && ((cursor.peekAt 1).any isFlowIndicator || cursor.mark.index = state.adjacentAt))
      if cursor.column = 0 && c = '%' then state.readDirective
      else if cursor.atMarker '-' separates then state.readDocumentMarker .documentStart
      else if cursor.atMarker '.' separates then state.readDocumentMarker .documentEnd
      else if (cursor.column : Int) < state.indent then none
      else if c = '[' then state.readFlowStart .flowSequenceStart
      else if c = '{' then state.readFlowStart .flowMappingStart
      else if c = ']' then state.readFlowEnd .flowSequenceEnd
      else if c = '}' then state.readFlowEnd .flowMappingEnd
      else if c = ',' then state.readFlowEntry
      else if c = '-' && apart then state.readBlockEntry
      else if c = '?' && apart then state.readKey
      else if c = ':' && valueFollows then state.readValue
      else if c = '*' then state.readName .alias
      else if c = '&' then state.readName .anchor
      else if c = '!' then state.readTag
      else if c = '|' && !flow then state.readBlock true
      else if c = '>' && !flow then state.readBlock false
      else if c = '\x27' then state.readQuoted true
      else if c = '\x22' then state.readQuoted false
      else if c = '%' || c = '@' || c = '\x60' then none
      else state.readPlain

/-- How many tokens can be given out: those before the first place where a key may have started. -/
def certain (state : State) : Nat :=
  (state.key :: state.outerKeys).foldl
    (fun count key =>
      match key with
      | some key => min count key.position
      | none => count)
    state.tape.count

/-- The tokens that can be given out. -/
def certainTokens (state : State) : List Token :=
  state.tape.toList.take state.certain

/-- Read tokens as far as possible. -/
def readTokens : (bound : Nat) → State → List Token
  | 0, state => state.certainTokens
  | bound + 1, state =>
      match state.readToken with
      | none => state.certainTokens
      | some next =>
          if next.finished then next.tape.toList
          else
            match next.dropStaleKey with
            | none => state.certainTokens
            | some checked => readTokens bound checked

end State

/-- The tokens of a text, as far as it has some.  A text ends before its first NUL. -/
def tokens (text : List Char) : List Token :=
  let visible := text.takeWhile (· ≠ '\x00')
  (State.initial visible).readTokens (visible.length + 2)

end RunAtlas.Yaml.Current

import RunAtlas.Yaml.Token

/-!
# YAML events

The events of a document are its nodes in the order in which they are written, each collection
between its start and its end.  They are read from tokens by a pushdown of goals: a goal says what
has to come next, and meeting it gives one event and the goals that follow from it.

The two versions of YAML differ only in whether a value may stand without its key, and in how tags
are resolved; a `Dialect` holds both.
-/

namespace RunAtlas.Yaml

/-- The name under which a node can be referred to, and its tag. -/
structure Properties where
  anchor : Option (List Char)
  tag : Option (List Char)
deriving Repr, DecidableEq

namespace Properties

/-- A node without name and tag. -/
def none : Properties :=
  ⟨Option.none, Option.none⟩

/-- Whether a node has a name or a tag. -/
def isPresent (properties : Properties) : Bool :=
  properties.anchor.isSome || properties.tag.isSome

end Properties

/-- What happens while a stream is read. -/
inductive Event where
  | streamStart
  | streamEnd
  | documentStart
  | documentEnd
  | alias (name : List Char)
  | scalar (properties : Properties) (plain : Bool) (text : List Char)
  | sequenceStart (properties : Properties)
  | sequenceEnd
  | mappingStart (properties : Properties)
  | mappingEnd
deriving Repr, DecidableEq

/-- An event with its place. -/
structure MarkedEvent where
  event : Event
  mark : Mark
deriving Repr, DecidableEq

/-- Handles of tags with the texts that they stand for. -/
abbrev TagHandles := List (List Char × List Char)

/-- What the versions of YAML decide differently about the structure of a document. -/
structure Dialect where
  /-- Whether a value may stand without its key. -/
  valueWithoutKey : Bool
  /-- The tag that a handle and a suffix stand for, if the handle is known. -/
  resolveTag : TagHandles → (handle suffix : List Char) → Option (List Char)

/-- What has to come next. -/
inductive Goal where
  /-- A node, which may be a block collection, and even a sequence at the indentation of its
  key. -/
  | node (block indentless : Bool)
  /-- A node, or the end of the document. -/
  | content
  | blockEntries
  | indentlessEntries
  | blockKeys
  | blockValue
  | flowEntries (first : Bool)
  | flowKeys (first : Bool)
  | flowValue
  /-- The value of a flow mapping that is certain to be missing. -/
  | missingValue
  /-- The key of a pair without braces. -/
  | pairKey
  | pairValue
  | pairEnd (mark : Mark)
deriving Repr

/-- How a goal is met: the event, the goals that follow from it, and the tokens after it. -/
structure Step where
  event : MarkedEvent
  goals : List Goal
  rest : List Token

namespace Step

/-- Meet a goal by the scalar that stands for a missing node. -/
def missing (mark : Mark) (goals : List Goal) (rest : List Token) : Step :=
  ⟨⟨.scalar .none true [], mark⟩, goals, rest⟩

/-- Further goals after those of a step. -/
def followedBy (goal : Goal) (step : Step) : Step :=
  { step with goals := step.goals ++ [goal] }

end Step

/-- Read the anchor and the tag of a node, in either order. -/
def readProperties (dialect : Dialect) (handles : TagHandles) :
    List Token → Option (Properties × List Token)
  | ⟨.anchor name, _⟩ :: ⟨.tag handle suffix, _⟩ :: rest
  | ⟨.tag handle suffix, _⟩ :: ⟨.anchor name, _⟩ :: rest =>
      (dialect.resolveTag handles handle suffix).map fun tag => (⟨some name, some tag⟩, rest)
  | ⟨.anchor name, _⟩ :: rest => some (⟨some name, none⟩, rest)
  | ⟨.tag handle suffix, _⟩ :: rest =>
      (dialect.resolveTag handles handle suffix).map fun tag => (⟨none, some tag⟩, rest)
  | tokens => some (.none, tokens)

/-- Read the start of a node after its properties. -/
def readContent (block indentless : Bool) (properties : Properties) :
    List Token → Option Step
  | [] => none
  | ⟨kind, mark⟩ :: rest =>
      let missingNode : Option Step :=
        if properties.isPresent then
          some ⟨⟨.scalar properties true [], mark⟩, [], ⟨kind, mark⟩ :: rest⟩
        else none
      match kind with
      | .scalar plain text => some ⟨⟨.scalar properties plain text, mark⟩, [], rest⟩
      | .flowSequenceStart => some ⟨⟨.sequenceStart properties, mark⟩, [.flowEntries true], rest⟩
      | .flowMappingStart => some ⟨⟨.mappingStart properties, mark⟩, [.flowKeys true], rest⟩
      | .blockSequenceStart =>
          if block then some ⟨⟨.sequenceStart properties, mark⟩, [.blockEntries], rest⟩
          else missingNode
      | .blockMappingStart =>
          if block then some ⟨⟨.mappingStart properties, mark⟩, [.blockKeys], rest⟩
          else missingNode
      | .blockEntry =>
          if indentless then
            some ⟨⟨.sequenceStart properties, mark⟩, [.indentlessEntries], ⟨kind, mark⟩ :: rest⟩
          else missingNode
      | _ => missingNode

/-- Read the start of a node. -/
def readNode (dialect : Dialect) (handles : TagHandles) (block indentless : Bool)
    (tokens : List Token) : Option Step :=
  match tokens with
  | ⟨.alias name, mark⟩ :: rest => some ⟨⟨.alias name, mark⟩, [], rest⟩
  | _ =>
      match readProperties dialect handles tokens with
      | some (properties, rest) => readContent block indentless properties rest
      | none => none

/-- Read a node before the goal that follows it, or the missing node if the next token satisfies a
condition. -/
def readNodeUnless (dialect : Dialect) (handles : TagHandles) (block indentless : Bool)
    (isMissing : TokenKind → Bool) (next : Goal) (tokens : List Token) : Option Step :=
  match tokens with
  | [] => none
  | token :: _ =>
      if isMissing token.kind then some (.missing token.mark [next] tokens)
      else (readNode dialect handles block indentless tokens).map (·.followedBy next)

/-- The tokens before which an entry of a block mapping has no node. -/
def endsBlockPart (kind : TokenKind) : Bool :=
  kind = .key || kind = .value || kind = .blockEnd

/-- The next key of a block mapping, or its end. -/
def readBlockKey (dialect : Dialect) (handles : TagHandles) : List Token → Option Step
  | ⟨.key, _⟩ :: rest =>
      readNodeUnless dialect handles true true endsBlockPart .blockValue rest
  | ⟨.value, mark⟩ :: rest =>
      if dialect.valueWithoutKey then some (.missing mark [.blockValue] (⟨.value, mark⟩ :: rest))
      else none
  | ⟨.blockEnd, mark⟩ :: rest => some ⟨⟨.mappingEnd, mark⟩, [], rest⟩
  | _ => none

/-- The value of a block mapping. -/
def readBlockValue (dialect : Dialect) (handles : TagHandles) : List Token → Option Step
  | [] => none
  | ⟨.value, _⟩ :: rest =>
      readNodeUnless dialect handles true true endsBlockPart .blockKeys rest
  | token :: rest => some (.missing token.mark [.blockKeys] (token :: rest))

/-- The next entry of a block sequence, or its end. -/
def readBlockEntry (dialect : Dialect) (handles : TagHandles) : List Token → Option Step
  | ⟨.blockEnd, mark⟩ :: rest => some ⟨⟨.sequenceEnd, mark⟩, [], rest⟩
  | ⟨.blockEntry, _⟩ :: rest =>
      readNodeUnless dialect handles true false (fun kind => kind = .blockEntry || kind = .blockEnd)
        .blockEntries rest
  | _ => none

/-- The next entry of a sequence at the indentation of its key, or its end. -/
def readIndentlessEntry (dialect : Dialect) (handles : TagHandles) : List Token → Option Step
  | [] => none
  | ⟨.blockEntry, _⟩ :: rest =>
      readNodeUnless dialect handles true false
        (fun kind => kind = .blockEntry || endsBlockPart kind) .indentlessEntries rest
  | token :: rest => some ⟨⟨.sequenceEnd, token.mark⟩, [], token :: rest⟩

/-- Skip the comma before every entry of a flow collection but the first. -/
def skipFlowEntry (first : Bool) : List Token → Option (List Token)
  | ⟨.flowEntry, mark⟩ :: rest => if first then some (⟨.flowEntry, mark⟩ :: rest) else some rest
  | tokens => if first then some tokens else none

/-- The next entry of a flow sequence, or its end.  A key stands for a pair without braces. -/
def readFlowEntry (dialect : Dialect) (handles : TagHandles) (first : Bool) :
    List Token → Option Step
  | ⟨.flowSequenceEnd, mark⟩ :: rest => some ⟨⟨.sequenceEnd, mark⟩, [], rest⟩
  | tokens =>
      match skipFlowEntry first tokens with
      | some (⟨.flowSequenceEnd, mark⟩ :: rest) => some ⟨⟨.sequenceEnd, mark⟩, [], rest⟩
      | some (⟨.key, mark⟩ :: rest) =>
          some ⟨⟨.mappingStart .none, mark⟩, [.pairKey, .flowEntries false], rest⟩
      | some rest =>
          (readNode dialect handles false false rest).map (·.followedBy (.flowEntries false))
      | none => none

/-- The tokens before which a part of a flow mapping has no node. -/
def endsFlowPart (kind : TokenKind) : Bool :=
  kind = .flowEntry || kind = .flowMappingEnd

/-- The next key of a flow mapping, or its end. -/
def readFlowKey (dialect : Dialect) (handles : TagHandles) (first : Bool) :
    List Token → Option Step
  | ⟨.flowMappingEnd, mark⟩ :: rest => some ⟨⟨.mappingEnd, mark⟩, [], rest⟩
  | tokens =>
      match skipFlowEntry first tokens with
      | some (⟨.flowMappingEnd, mark⟩ :: rest) => some ⟨⟨.mappingEnd, mark⟩, [], rest⟩
      | some (⟨.key, _⟩ :: rest) =>
          readNodeUnless dialect handles false false
            (fun kind => kind = .value || endsFlowPart kind) .flowValue rest
      | some (⟨.value, mark⟩ :: rest) =>
          if dialect.valueWithoutKey then
            some (.missing mark [.flowValue] (⟨.value, mark⟩ :: rest))
          else none
      | some rest => (readNode dialect handles false false rest).map (·.followedBy .missingValue)
      | none => none

/-- The value of a flow mapping.  A missing value after a colon stands at that colon. -/
def readFlowValue (dialect : Dialect) (handles : TagHandles) : List Token → Option Step
  | [] => none
  | ⟨.value, mark⟩ :: rest =>
      match rest with
      | [] => none
      | next :: _ =>
          if endsFlowPart next.kind then some (.missing mark [.flowKeys false] rest)
          else (readNode dialect handles false false rest).map (·.followedBy (.flowKeys false))
  | token :: rest => some (.missing token.mark [.flowKeys false] (token :: rest))

/-- The tokens before which a part of a pair without braces has no node. -/
def endsPairPart (kind : TokenKind) : Bool :=
  kind = .flowEntry || kind = .flowSequenceEnd

/-- The key of a pair without braces.  The token before which it is missing is passed over. -/
def readPairKey (dialect : Dialect) (handles : TagHandles) : List Token → Option Step
  | [] => none
  | token :: rest =>
      if token.kind = .value || endsPairPart token.kind then
        some (.missing token.mark [.pairValue] rest)
      else
        (readNode dialect handles false false (token :: rest)).map (·.followedBy .pairValue)

/-- The value of a pair without braces. -/
def readPairValue (dialect : Dialect) (handles : TagHandles) : List Token → Option Step
  | [] => none
  | ⟨.value, mark⟩ :: rest =>
      readNodeUnless dialect handles false false endsPairPart (.pairEnd mark) rest
  | token :: rest => some (.missing token.mark [.pairEnd token.mark] (token :: rest))

/-- Whether a document ends before a token. -/
def endsDocument : TokenKind → Bool
  | .versionDirective _ _ | .tagDirective _ _ | .documentStart | .documentEnd | .streamEnd => true
  | _ => false

/-- Meet one goal. -/
def Goal.meet (dialect : Dialect) (handles : TagHandles) (tokens : List Token) :
    Goal → Option Step
  | .node block indentless => readNode dialect handles block indentless tokens
  | .content =>
      match tokens with
      | [] => none
      | token :: _ =>
          if endsDocument token.kind then some (.missing token.mark [] tokens)
          else readNode dialect handles true false tokens
  | .blockEntries => readBlockEntry dialect handles tokens
  | .indentlessEntries => readIndentlessEntry dialect handles tokens
  | .blockKeys => readBlockKey dialect handles tokens
  | .blockValue => readBlockValue dialect handles tokens
  | .flowEntries first => readFlowEntry dialect handles first tokens
  | .flowKeys first => readFlowKey dialect handles first tokens
  | .flowValue => readFlowValue dialect handles tokens
  | .missingValue =>
      match tokens with
      | [] => none
      | token :: _ => some (.missing token.mark [.flowKeys false] tokens)
  | .pairKey => readPairKey dialect handles tokens
  | .pairValue => readPairValue dialect handles tokens
  | .pairEnd mark => some ⟨⟨.mappingEnd, mark⟩, [], tokens⟩

/-- Meet goals until none is left; the events are collected in reverse. -/
def meetAll (dialect : Dialect) (handles : TagHandles) :
    (bound : Nat) → List Goal → List Token → List MarkedEvent →
      Option (List MarkedEvent × List Token)
  | _, [], tokens, events => some (events.reverse, tokens)
  | 0, _ :: _, _, _ => none
  | bound + 1, goal :: goals, tokens, events =>
      match goal.meet dialect handles tokens with
      | some step =>
          meetAll dialect handles bound (step.goals ++ goals) step.rest (step.event :: events)
      | none => none

/-- The events of the node that a goal stands for, and the tokens after it.  Of four steps at least
one reads a token, so the bound is never met. -/
def readTree (dialect : Dialect) (handles : TagHandles) (goal : Goal) (tokens : List Token) :
    Option (List MarkedEvent × List Token) :=
  meetAll dialect handles (4 * tokens.length + 4) [goal] tokens []

end RunAtlas.Yaml

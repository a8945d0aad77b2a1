import RunAtlas.Yaml.Current.Tokens
import RunAtlas.Yaml.Event

/-!
# Events of YAML 1.2

`Current.events?` reads the first document of a text and does not look at what follows it.  An alias
has to refer to a name given before it.
-/

namespace RunAtlas.Yaml.Current

/-- Whether a handle is a name between exclamation marks. -/
def isNamedHandle (handle : List Char) : Bool :=
  2 ≤ handle.length && handle.head? == some '!' && handle.getLast? == some '!'

/-- The structure of YAML 1.2.  A handle that is a name between exclamation marks has to be
declared, but for the one without a name. -/
def dialect : Dialect where
  valueWithoutKey := true
  resolveTag handles handle suffix :=
    match handles.find? (·.1 = handle) with
    | some (_, lead) => some (lead ++ suffix)
    | none =>
        if handle = ['!', '!'] then some ("tag:yaml.org,2002:".toList ++ suffix)
        else if isNamedHandle handle then none
        else some (handle ++ suffix)

/-- Read the directives before a document.  Only the last one declares a handle. -/
def readDirectives (versioned : Bool) (handles : TagHandles) :
    List Token → Option (TagHandles × List Token)
  | ⟨.versionDirective _ _, _⟩ :: rest => if versioned then none else readDirectives true [] rest
  | ⟨.tagDirective handle lead, _⟩ :: rest => readDirectives versioned [(handle, lead)] rest
  | tokens => some (handles, tokens)

/-- Whether a token is a directive. -/
def isDirective : TokenKind → Bool
  | .versionDirective _ _ | .tagDirective _ _ => true
  | _ => false

/-- Whether every alias refers to a name given before it. -/
def aliasesKnown (names : List (List Char)) : List MarkedEvent → Bool
  | [] => true
  | ⟨event, _⟩ :: rest =>
      match event with
      | .alias name => names.elem name && aliasesKnown names rest
      | .scalar properties _ _ | .sequenceStart properties | .mappingStart properties =>
          aliasesKnown (properties.anchor.toList ++ names) rest
      | _ => aliasesKnown names rest

/-- The place of the end of a document, which may be marked.  A directive may not follow an end that
is not. -/
def readDocumentEnd : List Token → Option Mark
  | [] => none
  | ⟨kind, mark⟩ :: _ => if isDirective kind then none else some mark

/-- The events of a document whose start stands at `mark`. -/
def readBody (handles : TagHandles) (goal : Goal) (mark : Mark) (body : List Token) :
    Option (List MarkedEvent) :=
  match readTree dialect handles goal body with
  | none => none
  | some (events, rest) =>
      if aliasesKnown [] events then
        (readDocumentEnd rest).map fun ending =>
          ⟨.documentStart, mark⟩ :: events ++ [⟨.documentEnd, ending⟩]
      else none

/-- The events of the first document, or of the end of the stream if there is none. -/
def readDocument : List Token → Option (List MarkedEvent)
  | [] => none
  | ⟨.documentEnd, _⟩ :: rest => readDocument rest
  | ⟨.streamEnd, mark⟩ :: _ => some [⟨.streamEnd, mark⟩]
  | first :: rest =>
      if isDirective first.kind || first.kind = .documentStart then
        match readDirectives false [] (first :: rest) with
        | some (handles, ⟨.documentStart, mark⟩ :: body) => readBody handles .content mark body
        | _ => none
      else readBody [] (.node true false) first.mark (first :: rest)

/-- The events of the first document of a text. -/
def events? (text : List Char) : Option (List MarkedEvent) :=
  (readDocument (tokens text)).map (⟨.streamStart, .origin⟩ :: ·)

end RunAtlas.Yaml.Current

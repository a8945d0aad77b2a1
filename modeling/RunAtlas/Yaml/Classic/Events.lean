import RunAtlas.Yaml.Classic.Tokens
import RunAtlas.Yaml.Event

/-!
# Events of YAML 1.1

`Classic.events?` reads the one document that a text may hold.  A document may be preceded by
directives: one version, 1.1 or 1.2, and handles for tags, none of them twice.
-/

namespace RunAtlas.Yaml.Classic

/-- The text that a handle stands for. -/
def leadOf? (handles : TagHandles) (handle : List Char) : Option (List Char) :=
  (handles.find? (·.1 = handle)).map (·.2)

/-- The handles that need no declaration. -/
def standardHandles : TagHandles :=
  [(['!'], ['!']), (['!', '!'], "tag:yaml.org,2002:".toList)]

/-- The structure of YAML 1.1.  Every handle has to be declared; a tag without a handle stands for
itself. -/
def dialect : Dialect where
  valueWithoutKey := false
  resolveTag handles handle suffix :=
    if handle.isEmpty then some suffix else (leadOf? handles handle).map (· ++ suffix)

/-- Read the directives before a document. -/
def readDirectives (versioned : Bool) (handles : TagHandles) :
    List Token → Option (TagHandles × List Token)
  | ⟨.versionDirective major minor, _⟩ :: rest =>
      if versioned || major != 1 || (minor != 1 && minor != 2) then none
      else readDirectives true handles rest
  | ⟨.tagDirective handle lead, _⟩ :: rest =>
      if (leadOf? handles handle).isSome then none
      else readDirectives versioned (handles ++ [(handle, lead)]) rest
  | tokens => some (handles ++ standardHandles, tokens)

/-- Whether a document starts with directives or a marker. -/
def startsExplicitly : TokenKind → Bool
  | .versionDirective _ _ | .tagDirective _ _ | .documentStart => true
  | _ => false

/-- Read the first document. -/
def readDocument : List Token → Option (List MarkedEvent × List Token)
  | [] => none
  | ⟨.streamEnd, mark⟩ :: _ => some ([], [⟨.streamEnd, mark⟩])
  | first :: rest =>
      if startsExplicitly first.kind then
        match readDirectives false [] (first :: rest) with
        | some (handles, ⟨.documentStart, _⟩ :: body) => readTree dialect handles .content body
        | _ => none
      else readTree dialect standardHandles (.node true false) (first :: rest)

/-- Whether nothing but ends of documents stands before the end of the stream. -/
def onlyEnds : List Token → Bool
  | [] => false
  | ⟨.documentEnd, _⟩ :: rest => onlyEnds rest
  | token :: _ => token.kind = .streamEnd

/-- The events of the nodes of a text.  A text with more than one document has none. -/
def events? (text : List Char) : Option (List MarkedEvent) :=
  match tokens? text with
  | none => none
  | some tokens =>
      match readDocument tokens with
      | some (events, rest) => if onlyEnds rest then some events else none
      | none => none

end RunAtlas.Yaml.Classic

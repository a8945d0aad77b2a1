/-!
# Source files

A source file is a text together with where it came from.  Models look at a file only through its
text without a leading byte-order mark, its path and its web address.
-/

namespace RunAtlas

/-- Where a file came from: its path in the repository and its web address, if it has one. -/
structure Origin where
  htmlUrl : Option String
  path : String
deriving Repr, DecidableEq, Inhabited

namespace Origin

/-- The web address of a line. -/
def lineUrl (origin : Origin) (line : Nat) : Option String :=
  origin.htmlUrl.map fun url => url ++ "#L" ++ line.repr

end Origin

/-- A file at a fixed revision. -/
structure SourceFile where
  content : String
  origin : Origin
deriving Repr, DecidableEq, Inhabited

/-- A text without a leading byte-order mark. -/
def withoutByteOrderMark : List Char → List Char
  | '\uFEFF' :: rest => rest
  | text => text

namespace SourceFile

/-- The content without a leading byte-order mark.  Both views of a file read this text, so that
their positions agree. -/
def text (file : SourceFile) : String :=
  String.ofList (withoutByteOrderMark file.content.toList)

end SourceFile

end RunAtlas

/-!
# Path names

A path name is the list of its parts between slashes. Empty parts mean nothing, but a slash at the
front makes the path start at the root, and a slash at the end asks for a directory. A point as a
part means to stay where one is. How long a path is written counts too: the system refuses paths
that are too long, however little they say.
-/

namespace RangeServer

/-- A path name in parts. -/
structure PathName where
  parts : List String
  deriving DecidableEq, Repr

namespace PathName

/-- The parts of a text between its slashes. -/
def split : List Char → List (List Char)
  | [] => [[]]
  | c :: rest =>
    if c = '/' then [] :: split rest
    else
      match split rest with
      | [] => [[c]]
      | part :: parts => (c :: part) :: parts

/-- The path that a text names. -/
def ofText (text : String) : PathName := ⟨(split text.toList).map String.ofList⟩

/-- Whether a path starts at the root. -/
def fromRoot (path : PathName) : Bool :=
  match path.parts with
  | first :: _ :: _ => first.isEmpty
  | _ => false

/-- Whether a path asks for a directory. -/
def endsInSlash (path : PathName) : Bool :=
  match path.parts.reverse with
  | last :: _ :: _ => last.isEmpty
  | _ => false

/-- The parts that are not empty. -/
def names (path : PathName) : List String := path.parts.filter (!·.isEmpty)

/-- Whether a part stays where one is. -/
def isIdle (part : String) : Bool := part.isEmpty || part = "."

/-- The names without those that stay where they are. -/
def moves (path : PathName) : List String := path.parts.filter (!isIdle ·)

/-- The path written out. -/
def text (path : PathName) : String := "/".intercalate path.parts

/-- The number of bytes that a path is written with. -/
def length (path : PathName) : Nat := path.text.utf8ByteSize

/-- The path up to its last move. -/
def upToLastMove (path : PathName) : PathName :=
  ⟨(path.parts.reverse.dropWhile isIdle).reverse⟩

/-- The path before its last move. -/
def above (path : PathName) : PathName := upToLastMove ⟨path.upToLastMove.parts.dropLast⟩

/-- What follows the last point in a name; nothing, if the point is the first character. -/
def ending (name : String) : String :=
  match name.toList.reverse.span (· != '.') with
  | (_, []) => ""
  | (_, [_]) => ""
  | (tail, _) => String.ofList tail.reverse

end PathName

end RangeServer

import RangeServer.Checked
import RangeServer.Storage.IoFault
import RangeServer.Storage.PathName

/-!
# File trees

Files and directories below a root, and the directory that paths start from. A path is walked name
by name; each name that is walked through has to be a directory. Names and whole paths have a
largest length. Opening a file for writing at its end makes the directories above it first, and
what was made stays even if the opening fails.
-/

namespace RangeServer

/-- What a path leads to. -/
inductive FileEntry where
  | file (content : Bytes)
  | directory
  deriving DecidableEq, Repr

/-- Files and directories by the names that lead to them from the root. -/
structure FileTree where
  entries : List (List String × FileEntry)
  home : List String
  deriving Repr

namespace FileTree

/-- What stands in a place. The root is always a directory. -/
def entry? (tree : FileTree) (place : List String) : Option FileEntry :=
  if place.isEmpty then some .directory else tree.entries.lookup place

/-- Entries with that of a place replaced, or added at the end. -/
def putEntry (place : List String) (entry : FileEntry) :
    List (List String × FileEntry) → List (List String × FileEntry)
  | [] => [(place, entry)]
  | (other, old) :: rest =>
    if other = place then (place, entry) :: rest else (other, old) :: putEntry place entry rest

/-- The tree with an entry in a place. -/
def put (tree : FileTree) (place : List String) (entry : FileEntry) : FileTree :=
  { tree with entries := putEntry place entry tree.entries }

/-- Whether a place is a directory. -/
def isDirectory (tree : FileTree) (place : List String) : Bool :=
  tree.entry? place == some .directory

/-- The tree with directories in a place and in all places on the way to it. -/
def withDirectories (tree : FileTree) : List String → List String → FileTree
  | _, [] => tree
  | before, name :: rest =>
    let place := before ++ [name]
    let tree := if tree.isDirectory place then tree else tree.put place .directory
    tree.withDirectories place rest

/-- A tree of nothing but its home. -/
def bare (home : List String) : FileTree := FileTree.withDirectories ⟨[], home⟩ [] home

/-- The longest name that a file may have, in bytes. -/
def maxNameLength : Nat := 255

/-- The longest path that the system takes, in bytes. -/
def maxPathLength : Nat := 4095

/-- Goes from a place to what a name in it stands for. -/
def step (tree : FileTree) (place : List String) (name : String) : Except IoFault (List String) :=
  if !tree.isDirectory place then .error .notADirectory
  else if name = "." then .ok place
  else if name = ".." then .ok place.dropLast
  else if maxNameLength < name.utf8ByteSize then .error .nameTooLong
  else if (tree.entry? (place ++ [name])).isSome then .ok (place ++ [name])
  else .error .notFound

/-- Goes from a place along names. -/
def walk (tree : FileTree) : List String → List String → Except IoFault (List String)
  | place, [] => .ok place
  | place, name :: rest => do
    let next ← tree.step place name
    tree.walk next rest

/-- Where a path starts. -/
def start (tree : FileTree) (path : PathName) : List String :=
  if path.fromRoot then [] else tree.home

/-- The path from the root that a path stands for. -/
def fullPath (tree : FileTree) (path : PathName) : PathName :=
  if path.fromRoot then path else ⟨"" :: (tree.home ++ path.parts)⟩

/-- The content of the file that a path leads to. The path is looked up from the root. -/
def content? (tree : FileTree) (path : PathName) : Option Bytes :=
  if maxPathLength < (tree.fullPath path).length then none
  else
    match tree.walk (tree.start path) path.names with
    | .ok place =>
      match tree.entry? place with
      | some (.file content) => if path.endsInSlash then none else some content
      | _ => none
    | .error _ => none

/-- Goes along names to a directory. -/
def walkToDirectory (tree : FileTree) (place names : List String) :
    Except IoFault (List String) := do
  let found ← tree.walk place names
  if tree.isDirectory found then return found else throw .notADirectory

/-- The place of a name that may still be free in a directory, and what stands there. -/
def slot (tree : FileTree) (place : List String) (name : String) :
    Except IoFault (List String × Option FileEntry) :=
  if maxNameLength < name.utf8ByteSize then .error .nameTooLong
  else .ok (place ++ [name], tree.entry? (place ++ [name]))

/-- Makes the directory that names lead to, all but the last being there. -/
def makeDirectory (tree : FileTree) (place names : List String) (last : String) :
    Except IoFault FileTree := do
  let parent ← tree.walkToDirectory place names
  if last = "." ∨ last = ".." then throw .alreadyExists
  match ← tree.slot parent last with
  | (free, none) => return tree.put free .directory
  | (_, some _) => throw .alreadyExists

/-- Whether names lead to a directory. -/
def leadsToDirectory (tree : FileTree) (place names : List String) : Bool :=
  match tree.walk place names with
  | .ok found => tree.isDirectory found
  | .error _ => false

/-- The outcome of making a directory: one that is there already is as good as a new one. -/
def orThere (tree : FileTree) (place names : List String) :
    Except IoFault FileTree → FileTree × Option IoFault
  | .ok tree => (tree, none)
  | .error fault =>
    if tree.leadsToDirectory place names then (tree, none) else (tree, some fault)

/-- Makes the directories that names lead through, the names being given from the last to the
first. -/
def makeDirectories (tree : FileTree) (place : List String) :
    List String → FileTree × Option IoFault
  | [] => (tree, none)
  | last :: before =>
    match tree.makeDirectory place before.reverse last with
    | .error .notFound =>
      match tree.makeDirectories place before with
      | (tree, some fault) => (tree, some fault)
      | (tree, none) =>
        tree.orThere place (last :: before).reverse
          (tree.makeDirectory place before.reverse last)
    | outcome => tree.orThere place (last :: before).reverse outcome

/-- Whether a name holds the character that ends names. -/
def isBroken (name : String) : Bool := name.contains '\x00'

/-- Opens a file for writing at its end, making it if its directory is there. -/
def openFile (tree : FileTree) (path : PathName) : Except IoFault (FileTree × List String) := do
  let place := tree.start path
  if path.names.any isBroken then throw .brokenName
  if maxPathLength < path.length then throw .nameTooLong
  match path.names.reverse with
  | [] => throw (if path.fromRoot then .isADirectory else .notFound)
  | last :: before =>
    let parent ← tree.walkToDirectory place before.reverse
    if last = "." ∨ last = ".." ∨ path.endsInSlash then throw .isADirectory
    match ← tree.slot parent last with
    | (_, some .directory) => throw .isADirectory
    | (found, some (.file _)) => return (tree, found)
    | (free, none) => return (tree.put free (.file []), free)

/-- Opens a file for writing at its end, making it and the directories above it. -/
def openForAppend (tree : FileTree) (path : PathName) :
    FileTree × Except IoFault (List String) :=
  let above := path.moves.dropLast
  if above.any isBroken then (tree, .error .brokenName)
  else if maxPathLength < path.above.length then (tree, .error .nameTooLong)
  else
    match tree.makeDirectories (tree.start path) above.reverse with
    | (tree, some fault) => (tree, .error fault)
    | (tree, none) =>
      match tree.openFile path with
      | .ok (tree, place) => (tree, .ok place)
      | .error fault => (tree, .error fault)

/-- The tree with bytes added at the end of a file. -/
def append (tree : FileTree) (place : List String) (bytes : Bytes) : FileTree :=
  match tree.entry? place with
  | some (.file content) => tree.put place (.file (content ++ bytes))
  | _ => tree

/-- The files below the home directory, by the names that lead to them from there. -/
def filesAtHome (tree : FileTree) : List (List String × Bytes) :=
  tree.entries.filterMap fun (place, entry) =>
    match entry with
    | .file content =>
      if tree.home.isPrefixOf place then some (place.drop tree.home.length, content) else none
    | .directory => none

end FileTree

end RangeServer

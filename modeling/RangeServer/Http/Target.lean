import RangeServer.Text.Utf8

/-!
# Request targets

The target of a request in its three forms: a path with or without a query, an absolute address, or
an authority alone. `lookupText` is the text that names a resource; `path` and `query` are its parts
as the log shows them. Of an absolute address without a path, the path counts as the root.
-/

namespace RangeServer

/-- A path and, behind a question mark, a query. -/
structure PathQuery where
  path : String
  query : Option String
  deriving DecidableEq, Repr

/-- A path with its query as they are written. -/
def PathQuery.text (target : PathQuery) : String :=
  match target.query with
  | some query => target.path ++ "?" ++ query
  | none => target.path

/-- What a request asks for. -/
inductive RequestTarget where
  /-- A path, or the asterisk. -/
  | origin (target : PathQuery)
  /-- A scheme, an authority and a path that may be empty. -/
  | absolute (scheme authority : String) (target : PathQuery)
  /-- A host, with or without a port. -/
  | authority (authority : String)
  deriving DecidableEq, Repr

namespace RequestTarget

/-- The path; of an authority alone there is none. -/
def path : RequestTarget → String
  | .origin target => target.path
  | .absolute _ _ target => if target.path.isEmpty then "/" else target.path
  | .authority _ => ""

/-- The query behind the path. -/
def query : RequestTarget → Option String
  | .origin target => target.query
  | .absolute _ _ target => target.query
  | .authority _ => none

/-- The text that names the resource asked for: path and query as they are written, and the root
where nothing is. -/
def lookupText : RequestTarget → String
  | .origin target => target.text
  | .absolute _ _ target => if target.text.isEmpty then "/" else target.text
  | .authority _ => ""

end RequestTarget

/-- Why a target is refused. -/
inductive TargetFault where
  | empty
  | tooLong
  | invalidCharacter
  | invalidAuthority
  | invalidForm
  | schemeTooLong
  deriving DecidableEq, Repr

/-- The wording of a refused target. -/
def TargetFault.message : TargetFault → String
  | .empty => "empty string"
  | .tooLong => "uri too long"
  | .invalidCharacter => "invalid uri character"
  | .invalidAuthority => "invalid authority"
  | .invalidForm => "invalid format"
  | .schemeTooLong => "scheme too long"

end RangeServer

import RangeServer.Http.Target

/-!
# Reading request targets

A target is read from its bytes. A slash at the front starts a path; else a scheme followed by a
colon and two slashes starts an absolute address; else all of it is an authority. A fragment is
dropped. Paths and queries may hold UTF-8 beyond ASCII; authorities may not.
-/

namespace RangeServer.TargetReader

/-- A byte as the ASCII character that it stands for. -/
def toChar (byte : UInt8) : Char := Char.ofNat byte.toNat

/-- The text of bytes that are ASCII throughout. -/
def asciiText (bytes : Bytes) : String := String.ofList (bytes.map toChar)

/-- Whether a byte may stand in a path. -/
def isPathByte (byte : UInt8) : Bool :=
  let c := toChar byte
  0x80 ≤ byte || c.isAlphanum || "!$%&\x27()*+,-./:;=@[\\]_|~\"\x7b\x7d".toList.contains c

/-- Whether a byte may stand in a query. -/
def isQueryByte (byte : UInt8) : Bool :=
  byte != 0x7F && 0x21 ≤ byte && byte != 0x22 && byte != 0x23 && byte != 0x3C && byte != 0x3E

/-- Whether a byte may stand in an authority. The percent sign has rules of its own. -/
def isAuthorityByte (byte : UInt8) : Bool :=
  let c := toChar byte
  byte < 0x80 && (c.isAlphanum || "!$&\x27()*+,-.:;=@[]_~".toList.contains c)

/-- Whether a byte may stand in a scheme. -/
def isSchemeByte (byte : UInt8) : Bool :=
  let c := toChar byte
  byte < 0x80 && (c.isAlphanum || c == '+' || c == '-' || c == '.')

/-- Bytes as text, refused if they are not UTF-8. -/
def textOf (bytes : Bytes) : Except TargetFault String :=
  match Utf8.decode? bytes with
  | some text => .ok text
  | none => .error .invalidCharacter

/-- A byte of a character as a byte. -/
def byteOf (c : Char) : UInt8 := c.toNat.toUInt8

/-- The bytes up to a class of bytes, and the rest. -/
def splitAt (isEnd : UInt8 → Bool) (bytes : Bytes) : Bytes × Bytes :=
  (bytes.takeWhile fun byte => !isEnd byte, bytes.dropWhile fun byte => !isEnd byte)

/-- The path and the query of bytes without a fragment. -/
def pathQuery (bytes : Bytes) : Except TargetFault PathQuery := do
  let (written, _) := splitAt (· == byteOf '#') bytes
  let (path, rest) := splitAt (· == byteOf '?') written
  if !path.all isPathByte then
    throw .invalidCharacter
  match rest with
  | [] => return ⟨← textOf path, none⟩
  | _ :: query =>
    if !query.all isQueryByte then
      throw .invalidCharacter
    return ⟨← textOf path, some (← textOf query)⟩

/-- What is known of an authority while its bytes are read. -/
structure AuthorityScan where
  colons : Nat
  opened : Bool
  closed : Bool
  percent : Bool
  /-- Whether the byte before was an at sign. -/
  afterAt : Bool

namespace AuthorityScan

/-- What is known before the first byte. -/
def start : AuthorityScan := ⟨0, false, false, false, false⟩

/-- What is known after one more byte. An at sign ends user data, in which colons and percent signs
are free; a closing bracket ends a literal address, in which colons are. -/
def step (scan : AuthorityScan) (byte : UInt8) : Except TargetFault AuthorityScan :=
  let c := toChar byte
  let scan := { scan with afterAt := false }
  if c == ':' then
    if 8 ≤ scan.colons then .error .invalidAuthority
    else .ok { scan with colons := scan.colons + 1 }
  else if c == '[' then
    if scan.percent || scan.opened then .error .invalidAuthority
    else .ok { scan with opened := true }
  else if c == ']' then
    if !scan.opened || scan.closed then .error .invalidAuthority
    else .ok { scan with closed := true, colons := 0, percent := false }
  else if c == '@' then .ok { scan with colons := 0, percent := false, afterAt := true }
  else if c == '%' then .ok { scan with percent := true }
  else if isAuthorityByte byte then .ok scan
  else .error .invalidCharacter

/-- Whether the bytes read form an authority. -/
def isComplete (scan : AuthorityScan) : Bool :=
  scan.opened == scan.closed && scan.colons ≤ 1 && !scan.afterAt && !scan.percent

end AuthorityScan

/-- The authority at the front of the bytes, up to a slash, a question mark or a number sign. -/
def authority (bytes : Bytes) : Except TargetFault (String × Bytes) := do
  if bytes.isEmpty then
    throw .empty
  let isEnd := fun byte => byte == byteOf '/' || byte == byteOf '?' || byte == byteOf '#'
  let (written, rest) := splitAt isEnd bytes
  let scan ← written.foldlM AuthorityScan.step .start
  if scan.isComplete then return (asciiText written, rest) else throw .invalidAuthority

/-- The scheme at the front of the bytes and what follows the colon and the two slashes behind it;
nothing if the bytes do not start with a scheme. -/
def scheme? (bytes : Bytes) : Except TargetFault (Option (String × Bytes)) :=
  let (written, rest) := splitAt (fun byte => !isSchemeByte byte) bytes
  if 3 < bytes.length ∧ rest.take 3 = [byteOf ':', byteOf '/', byteOf '/'] then
    if 64 < written.length then .error .schemeTooLong
    else .ok (some (asciiText written, rest.drop 3))
  else .ok none

/-- The longest target in bytes. -/
def maxLength : Nat := 65534

/-- A target that starts with neither a slash nor a scheme: an authority and nothing else. -/
def authorityAlone (bytes : Bytes) : Except TargetFault RequestTarget := do
  let (authority, rest) ← authority bytes
  if rest.isEmpty then return .authority authority
  else if bytes.length = 1 then throw .invalidCharacter
  else throw .invalidForm

/-- A target that starts with a scheme. -/
def absoluteTarget (scheme : String) (bytes : Bytes) : Except TargetFault RequestTarget := do
  let (authority, rest) ← authority bytes
  if authority.isEmpty then
    throw .invalidForm
  return .absolute scheme authority (← pathQuery rest)

end RangeServer.TargetReader

namespace RangeServer

open TargetReader in
/-- The target that bytes spell. -/
def RequestTarget.read (bytes : Bytes) : Except TargetFault RequestTarget := do
  if maxLength < bytes.length then
    throw .tooLong
  match bytes with
  | [] => throw .empty
  | first :: rest =>
    if first == byteOf '/' then return .origin (← pathQuery bytes)
    else if first == byteOf '*' && rest.isEmpty then return .origin ⟨"*", none⟩
    else
      match ← scheme? bytes with
      | some (scheme, rest) => absoluteTarget scheme rest
      | none => authorityAlone bytes

end RangeServer

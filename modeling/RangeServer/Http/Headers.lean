import RangeServer.Text.Ascii
import RangeServer.Checked

/-!
# Header maps

Headers grouped by name. Names are held in small letters, in the order of their first appearance;
the values of a name stay together, in their own order. A name that is no token, or a value with a
control character other than the tab, keeps a list of headers from becoming a map.
-/

namespace RangeServer

/-- Why a header is refused. -/
inductive HeaderFault where
  | invalidName
  | invalidValue
  deriving DecidableEq, Repr

/-- The wording of a refused header. -/
def HeaderFault.message : HeaderFault → String
  | .invalidName => "invalid HTTP header name"
  | .invalidValue => "failed to parse header value"

/-- Names with their values. -/
structure Headers (Value : Type) where
  groups : List (String × List Value)
  deriving DecidableEq, Repr

namespace Headers

variable {Value : Type}

/-- The map without headers. -/
def empty : Headers Value := ⟨[]⟩

/-- Adds a value to the group of a name, which opens at the end if it is new. -/
def insertGroup (name : String) (value : Value) :
    List (String × List Value) → List (String × List Value)
  | [] => [(name, [value])]
  | (other, values) :: rest =>
    if other == name then (other, values ++ [value]) :: rest
    else (other, values) :: insertGroup name value rest

/-- The map with one more header. -/
def append (headers : Headers Value) (name : String) (value : Value) : Headers Value :=
  ⟨insertGroup (Ascii.lower name) value headers.groups⟩

/-- All values of a name, whatever its case. -/
def values (headers : Headers Value) (name : String) : List Value :=
  ((headers.groups.find? (·.1 == Ascii.lower name)).map (·.2)).getD []

/-- The first value of a name, whatever its case. -/
def first? (headers : Headers Value) (name : String) : Option Value :=
  (headers.values name).head?

/-- The names in the order of their first appearance. -/
def names (headers : Headers Value) : List String := headers.groups.map (·.1)

/-- The headers one by one, group after group. -/
def toList (headers : Headers Value) : List (String × Value) :=
  headers.groups.flatMap fun group => group.2.map fun value => (group.1, value)

/-- What is wrong with one header, if anything; its name is looked at first. -/
def fault? (isValue : Value → Bool) (header : String × Value) : Option HeaderFault :=
  if !Ascii.isToken header.1 then some .invalidName
  else if !isValue header.2 then some .invalidValue
  else none

/-- Adds headers one after the other, up to the first that is refused. -/
def appendAll (isValue : Value → Bool) :
    Headers Value → List (String × Value) → Except HeaderFault (Headers Value)
  | headers, [] => .ok headers
  | headers, header :: rest =>
    match fault? isValue header with
    | some fault => .error fault
    | none => appendAll isValue (headers.append header.1 header.2) rest

/-- The map of a list of headers, or the fault of the first header that is refused. -/
def ofList (isValue : Value → Bool) (headers : List (String × Value)) :
    Except HeaderFault (Headers Value) :=
  appendAll isValue empty headers

end Headers

/-- Whether a text may be a header value. -/
def isHeaderText (text : String) : Bool := text.toList.all (!Ascii.isForbiddenControl ·)

/-- Whether bytes may be a header value. -/
def isHeaderBytes (bytes : Bytes) : Bool := bytes.all Ascii.isFieldByte

end RangeServer

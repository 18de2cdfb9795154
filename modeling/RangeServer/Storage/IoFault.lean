import RangeServer.Text.Quoted

/-!
# Input and output faults

Why the system refuses a file or an address, with the number and the words that the system has for
it. Two faults are the program's own and have no number.
-/

namespace RangeServer

/-- Why a file or an address is refused. -/
inductive IoFault where
  | notFound
  | alreadyExists
  | notADirectory
  | isADirectory
  | nameTooLong
  | addressInUse
  | addressUnavailable
  /-- A file name holds the character that ends names. -/
  | brokenName
  /-- The log has been set up before. -/
  | logExists
  deriving DecidableEq, Repr

namespace IoFault

/-- The name of the kind of a fault. -/
def kind : IoFault → String
  | .notFound => "NotFound"
  | .alreadyExists => "AlreadyExists"
  | .notADirectory => "NotADirectory"
  | .isADirectory => "IsADirectory"
  | .nameTooLong => "InvalidFilename"
  | .addressInUse => "AddrInUse"
  | .addressUnavailable => "AddrNotAvailable"
  | .brokenName => "InvalidInput"
  | .logExists => "AlreadyExists"

/-- The number of a fault, if it is the system's. -/
def code? : IoFault → Option Nat
  | .notFound => some 2
  | .alreadyExists => some 17
  | .notADirectory => some 20
  | .isADirectory => some 21
  | .nameTooLong => some 36
  | .addressInUse => some 98
  | .addressUnavailable => some 99
  | .brokenName => none
  | .logExists => none

/-- The words for a fault. -/
def words : IoFault → String
  | .notFound => "No such file or directory"
  | .alreadyExists => "File exists"
  | .notADirectory => "Not a directory"
  | .isADirectory => "Is a directory"
  | .nameTooLong => "File name too long"
  | .addressInUse => "Address already in use"
  | .addressUnavailable => "Cannot assign requested address"
  | .brokenName => "file name contained an unexpected NUL byte"
  | .logExists => "Log writer already initialized"

/-- How a fault is told to a user. -/
def message (fault : IoFault) : String :=
  match fault.code? with
  | some code => fault.words ++ " (os error " ++ toString code ++ ")"
  | none => fault.words

/-- Text between braces. -/
def braced (text : String) : String := "\x7b " ++ text ++ " \x7d"

/-- A fault with all that is known about it. -/
def details (fault : IoFault) : String :=
  let kind := "kind: " ++ fault.kind
  let words := Quoted.quote fault.words
  match fault with
  | .brokenName => "Error " ++ braced (kind ++ ", message: " ++ words)
  | .logExists => "Custom " ++ braced (kind ++ ", error: " ++ words)
  | _ =>
    let code := "code: " ++ toString (fault.code?.getD 0)
    "Os " ++ braced (code ++ ", " ++ kind ++ ", message: " ++ words)

end IoFault

end RangeServer

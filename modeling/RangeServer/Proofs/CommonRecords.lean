import Mathlib
import RangeServer.Proofs.TextLines

/-!
# What common lines tell

Whatever a client sends, the common line about its request has ten pieces between blanks, and the
last five of them tell what was asked for and what was answered: the method behind a quote, the path
with its query, the version in front of a quote, the status and the size of the body. Since the
pieces are always in the same places, a reader needs no more than the blanks to get these five
values back, and no method or URI can be chosen that moves another text to the place of the status
or the size.
-/

namespace RangeServer

/-- What a common line tells about a request and the reply to it. -/
structure CommonRecord where
  method : String
  uri : String
  version : String
  status : Nat
  bodySize : Nat
  deriving DecidableEq, Repr

namespace CommonRecord

/-- The pieces of a line that spell a record. -/
def pieces (record : CommonRecord) : List (List Char) :=
  ['"' :: record.method.toList, record.uri.toList,
    "HTTP/".toList ++ (record.version.toList ++ ['"']), Decimal.digits record.status,
    Decimal.digits record.bodySize]

/-- The version in a piece that names the protocol in front of it and ends in a quote. -/
def version? (piece : List Char) : Option String :=
  if "HTTP/".toList <+: piece ∧ piece.getLast? = some '"' then
    some (String.ofList (piece.drop "HTTP/".length).dropLast)
  else none

/-- Reads a line by its blanks alone: of ten pieces the last five spell the record. -/
def read? (line : String) : Option CommonRecord :=
  match line.toList.splitOn ' ' with
  | [_, _, _, _, _, '"' :: method, uri, version, status, bodySize] => do
    return {
      method := String.ofList method
      uri := String.ofList uri
      version := ← version? version
      status := ← Decimal.read? status
      bodySize := ← Decimal.read? bodySize }
  | _ => none

end CommonRecord

namespace Service

variable {service : Service}

end Service

end RangeServer

/-!
# Lines

A text cut at its line ends. A carriage return right before a line end belongs to it, and a text
that ends in a line end has no line behind it.
-/

namespace RangeServer.Lines

/-- The characters of a line, given from the last to the first, without the carriage return of its
end. -/
def withoutReturn : List Char → List Char
  | '\r' :: before => before
  | characters => characters

/-- The lines of a text, of whose first line some characters are given already, from the last to the
first. -/
def after : List Char → List Char → List (List Char)
  | before, [] => if before.isEmpty then [] else [before.reverse]
  | before, c :: rest =>
    if c = '\n' then (withoutReturn before).reverse :: after [] rest else after (c :: before) rest

/-- The lines of a text. -/
def ofText (text : String) : List String := (after [] text.toList).map String.ofList

end RangeServer.Lines

import RangeServer.Text.Utf8

/-!
# Catalogue

The resources that the server offers, in the order of their registration. A path that was
registered twice names its first resource.
-/

namespace RangeServer

/-- Content with its media type. -/
structure Resource where
  content : Bytes
  mediaType : String
  deriving DecidableEq, Repr

namespace Resource

/-- The number of bytes of the content. -/
def size (resource : Resource) : Nat := resource.content.length

/-- Whether the content has no bytes. -/
def isEmpty (resource : Resource) : Bool := resource.content.isEmpty

/-- A resource whose content is the UTF-8 of a text. -/
def ofText (mediaType content : String) : Resource := ⟨Utf8.encode content, mediaType⟩

end Resource

/-- Paths with their resources, in the order of registration. -/
structure Catalogue where
  entries : List (String × Resource)
  deriving DecidableEq, Repr

namespace Catalogue

/-- The catalogue without resources. -/
def empty : Catalogue := ⟨[]⟩

/-- The catalogue with one more resource, after all others. -/
def register (catalogue : Catalogue) (path : String) (resource : Resource) : Catalogue :=
  ⟨catalogue.entries ++ [(path, resource)]⟩

/-- The resource that was registered first under a path, compared character for character. -/
def lookup (catalogue : Catalogue) (path : String) : Option Resource :=
  (catalogue.entries.find? (·.1 == path)).map (·.2)

/-- The registered paths, repeated ones included. -/
def paths (catalogue : Catalogue) : List String := catalogue.entries.map (·.1)

/-- The number of registrations. -/
def size (catalogue : Catalogue) : Nat := catalogue.entries.length

/-- Whether nothing is registered. -/
def isEmpty (catalogue : Catalogue) : Bool := catalogue.entries.isEmpty

/-- The path of the sample table. -/
def samplePath : String := "/data.csv"

/-- The sample table. -/
def sampleContent : String :=
  "id,name,city,age\n1,Alice,New York,30\n2,Bob,Los Angeles,25\n3,Charlie,Chicago,35\n" ++
  "4,Diana,Boston,28\n5,Eve,Seattle,32\n"

/-- The resources of a server that is given no others. -/
def standard : Catalogue :=
  empty
    |>.register "/" (.ofText "text/plain" "Hello from service")
    |>.register samplePath (.ofText "text/csv" sampleContent)
    |>.register "/status" (.ofText "text/plain" "OK")

end Catalogue

end RangeServer

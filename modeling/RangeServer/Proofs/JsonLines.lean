import Mathlib
import RangeServer.Proofs.JsonReading
import RangeServer.Proofs.LineEnds

/-!
# What JSON lines tell

A JSON line is an object with one field for each field of the entry, and it is the print of a value,
so the reader of JSON reads the value back. What stands in the fields decides the entry: a text is
the text whatever characters it has, a number is the number however large, and a field is null
exactly if the entry has nothing for it, an empty text being something else. The time alone is told
by its written form.
-/

namespace RangeServer

namespace Json

/-- The text that a value is. -/
def text? : Json → Option String
  | .string text => some text
  | _ => none

/-- The text that a value is, or no text for null. -/
def textOrNull? : Json → Option (Option String)
  | .null => some none
  | .string text => some (some text)
  | _ => none

/-- The natural number that a value is: digits without a sign, a fraction or an exponent. -/
def natural? : Json → Option Nat
  | .number ⟨false, whole, none, none⟩ => Decimal.read? whole
  | _ => none

theorem textOrNull?_ofOption (text : Option String) : (ofOption text).textOrNull? = some text := by
  cases text <;> rfl

theorem natural?_ofNat (number : Nat) : (ofNat number).natural? = some number :=
  Decimal.read?_digits number

theorem ofOption_eq_null_iff (text : Option String) : ofOption text = .null ↔ text = none := by
  cases text <;> simp [ofOption]

end Json

/-- What a JSON line tells: an entry with the time as it is written. -/
structure JsonRecord where
  remoteAddress : String
  time : String
  method : String
  path : String
  query : Option String
  version : String
  status : Nat
  bodySize : Nat
  range : Option String
  referer : Option String
  userAgent : Option String
  microseconds : Nat
  deriving DecidableEq, Repr

namespace JsonRecord

/-- The names of the fields, in alphabetical order. -/
def names : List String :=
  ["body_bytes", "http_version", "method", "path", "query", "range", "referer", "remote_addr",
    "request_time_us", "status", "time", "user_agent"]

/-- The record that the fields of an object tell, each of them looked up by its name. -/
def ofFields? (fields : List (String × Json)) : Option JsonRecord := do
  return {
    remoteAddress := ← (fields.lookup "remote_addr").bind Json.text?
    time := ← (fields.lookup "time").bind Json.text?
    method := ← (fields.lookup "method").bind Json.text?
    path := ← (fields.lookup "path").bind Json.text?
    query := ← (fields.lookup "query").bind Json.textOrNull?
    version := ← (fields.lookup "http_version").bind Json.text?
    status := ← (fields.lookup "status").bind Json.natural?
    bodySize := ← (fields.lookup "body_bytes").bind Json.natural?
    range := ← (fields.lookup "range").bind Json.textOrNull?
    referer := ← (fields.lookup "referer").bind Json.textOrNull?
    userAgent := ← (fields.lookup "user_agent").bind Json.textOrNull?
    microseconds := ← (fields.lookup "request_time_us").bind Json.natural? }

/-- The record that a line tells, if it is the object of one. -/
def read? (line : String) : Option JsonRecord :=
  match Json.parse? line with
  | some (.object fields) => ofFields? fields
  | _ => none

end JsonRecord

namespace AccessEntry

/-- The record that the JSON line of an entry tells. -/
def jsonRecord (entry : AccessEntry) : JsonRecord where
  remoteAddress := entry.remoteAddress
  time := entry.time.internetText
  method := entry.method
  path := entry.path
  query := entry.query
  version := entry.version
  status := entry.status
  bodySize := entry.bodySize
  range := entry.range
  referer := entry.referer
  userAgent := entry.userAgent
  microseconds := entry.microseconds

/-- The texts that an entry may have or not, under the names of their fields. -/
def optionalTexts (entry : AccessEntry) : List (String × Option String) :=
  [("query", entry.query), ("range", entry.range), ("referer", entry.referer),
    ("user_agent", entry.userAgent)]

/-- The fields of the object that an entry is written as. -/
def jsonFields (entry : AccessEntry) : List (String × Json) :=
  match entry.toJson with
  | .object fields => fields
  | _ => []

theorem fits_toJson (entry : AccessEntry) : Json.Fits Json.maxDepth entry.toJson := by
  change ∀ field ∈ entry.jsonFields, Json.Fits _ field.2
  simp [jsonFields, toJson, Json.Fits, Json.fits_ofNat, Json.fits_ofOption]

theorem names_jsonFields (entry : AccessEntry) :
    entry.jsonFields.map (·.1) = JsonRecord.names := rfl

theorem ofFields?_jsonFields (entry : AccessEntry) :
    JsonRecord.ofFields? entry.jsonFields = some entry.jsonRecord := by
  simp [JsonRecord.ofFields?, jsonFields, toJson, List.lookup, Json.text?,
    Json.textOrNull?_ofOption, Json.natural?_ofNat, jsonRecord]

theorem lookup_optionalTexts {entry : AccessEntry} {name : String} {text : Option String}
    (mem : (name, text) ∈ entry.optionalTexts) :
    entry.jsonFields.lookup name = some (.ofOption text) := by
  simp only [optionalTexts, List.mem_cons, Prod.mk.injEq, List.not_mem_nil, or_false] at mem
  rcases mem with ⟨rfl, rfl⟩ | ⟨rfl, rfl⟩ | ⟨rfl, rfl⟩ | ⟨rfl, rfl⟩ <;> rfl

theorem parse?_jsonLine (entry : AccessEntry) :
    Json.parse? (entry.line .json) = some (.object entry.jsonFields) :=
  Json.parse?_toText entry.fits_toJson

theorem read?_jsonLine (entry : AccessEntry) :
    JsonRecord.read? (entry.line .json) = some entry.jsonRecord := by
  rw [JsonRecord.read?, parse?_jsonLine]
  exact entry.ofFields?_jsonFields

theorem toJson_congr {entry other : AccessEntry} (same : entry.jsonRecord = other.jsonRecord) :
    entry.toJson = other.toJson := by
  simp only [jsonRecord, JsonRecord.mk.injEq] at same
  rcases same with ⟨address, time, method, path, query, version, status, size, range, referer,
    agent, microseconds⟩
  rw [toJson, toJson, address, time, method, path, query, version, status, size, range, referer,
    agent, microseconds]

/-- The JSON line of an entry is one line that shows no control characters. It is read as an object
with the names of a record, each of them once, and the record that it tells is that of the entry;
null stands for what the entry does not have and for nothing else. Lines agree exactly if the
entries do, their times as they are written. -/
theorem jsonLine_decodes (entry : AccessEntry) :
    IsShown (entry.line .json).toList ∧
      (∃ fields, Json.parse? (entry.line .json) = some (.object fields) ∧
        fields.map (·.1) = JsonRecord.names ∧ (fields.map (·.1)).Nodup ∧
        JsonRecord.ofFields? fields = some entry.jsonRecord ∧
        ∀ name text, (name, text) ∈ entry.optionalTexts →
          (fields.lookup name = some .null ↔ text = none)) ∧
      ∀ other : AccessEntry,
        entry.line .json = other.line .json ↔ entry.jsonRecord = other.jsonRecord := by
  have distinct : (entry.jsonFields.map (·.1)).Nodup := by
    rw [names_jsonFields]
    decide
  refine ⟨entry.isShown_json, ⟨_, entry.parse?_jsonLine, entry.names_jsonFields, distinct,
    entry.ofFields?_jsonFields, ?_⟩, ?_⟩
  · intro name text mem
    rw [lookup_optionalTexts mem, Option.some.injEq, Json.ofOption_eq_null_iff]
  · intro other
    constructor
    · intro same
      have told := entry.read?_jsonLine
      rw [same, other.read?_jsonLine] at told
      exact (Option.some.inj told).symm
    · intro same
      rw [line, line, toJson_congr same]

/-- A quote and a control character in the path, and a query that is there but empty. -/
example :
    let entry : AccessEntry :=
      { remoteAddress := "::1", time := ⟨0, 0, 0⟩, method := "GET", path := "/\"\x01"
        query := some "", version := "1.1", status := 200, bodySize := 18446744073709551615
        range := none, referer := none, userAgent := none, microseconds := 7 }
    entry.line .json = "\x7b\"body_bytes\":18446744073709551615,\"http_version\":\"1.1\"," ++
      "\"method\":\"GET\",\"path\":\"/\\\"\\u0001\",\"query\":\"\",\"range\":null," ++
      "\"referer\":null,\"remote_addr\":\"::1\",\"request_time_us\":7,\"status\":200," ++
      "\"time\":\"1970-01-01T00:00:00+00:00\",\"user_agent\":null\x7d" := by
  cbv

end AccessEntry

end RangeServer

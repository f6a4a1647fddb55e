import WorkQueue.Json.Printer
import WorkQueue.Location.Files
import WorkQueue.Wire.Snapshot

/-!
# Files as text

What a file holds, as the text in it: nothing, a store on the wire, or any other text.
-/

namespace WorkQueue.Location.FileContent

/-- A store in a file, on the wire. -/
def toJson (logged : Bool) (held : Store) : Json :=
  .record [("logged", .bool logged), ("store", held.toJson)]

/-- Read a store in a file. -/
def ofJson? (json : Json) : Option FileContent := do
  let record ← json.record? ["logged", "store"]
  let logged ← record.required "logged" Json.bool?
  let held ← record.required "store" Store.ofJson?
  some (.store logged held)

/-- The text in a file. -/
def text : FileContent → String
  | .blank => ""
  | .store logged held => (toJson logged held).compact
  | .other written => written

/-- What a file with a text in it holds. -/
def ofText (text : String) : FileContent :=
  if text = "" then .blank else (Json.decode? ofJson? text).getD (.other text)

end WorkQueue.Location.FileContent

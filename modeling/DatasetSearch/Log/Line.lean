import DatasetSearch.Json.Writer
import DatasetSearch.Log.Event
import DatasetSearch.Log.Moment
import DatasetSearch.Text.Quoted

/-!
# Lines of a log

An event is shown as a line of text or as a JSON object.  In a log the time stands before it.
-/

namespace DatasetSearch.Log

def FieldValue.text : FieldValue → String
  | .plain text => text
  | .quoted text => Text.quoted text
  | .number value => toString value
  | .flag true => "true"
  | .flag false => "false"

/-- The value of a field as JSON; the two kinds of text do not differ. -/
def FieldValue.toJson : FieldValue → Json
  | .plain text | .quoted text => .string text
  | .number value => .number (.int value)
  | .flag value => .bool value

def Event.line (e : Event) : String :=
  let fields := e.fields.map (fun (name, value) => " " ++ name ++ "=" ++ value.text)
  e.level.name ++ " " ++ e.target ++ ": " ++ e.message ++ String.join fields

/-- The fields of an event as a JSON object; the message is the first of its own fields. -/
def Event.jsonFields (e : Event) : Fields :=
  [("level", .string e.level.name),
    ("fields",
      .object (("message", .string e.message) ::
        e.fields.map (fun (name, value) => (name, value.toJson)))),
    ("target", .string e.target)]

def Event.toJson (e : Event) : Json := .object e.jsonFields

/-- The line of a log for an event at a moment; the names of levels end below one another. -/
def Event.logLine (json : Bool) (m : Moment) (e : Event) : String :=
  if json then (Json.object (("timestamp", .string m.text) :: e.jsonFields)).text
  else
    let gap := String.ofList (List.replicate (6 - e.level.name.length) ' ')
    m.text ++ gap ++ e.line

end DatasetSearch.Log

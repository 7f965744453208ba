/-!
# Log events

What an operation reports: a level, the part of the program that speaks, a message and named
fields.  Operations return their events as data; where they go is decided elsewhere.
-/

namespace DatasetSearch.Log

/-- The levels from the most to the least severe. -/
inductive Level where
  | error
  | warn
  | info
  | debug
  | trace
deriving DecidableEq, Repr

def Level.name : Level → String
  | .error => "ERROR"
  | .warn => "WARN"
  | .info => "INFO"
  | .debug => "DEBUG"
  | .trace => "TRACE"

/-- How talkative a level is: an error counts 1, a trace 5. -/
def Level.rank : Level → Nat
  | .error => 1
  | .warn => 2
  | .info => 3
  | .debug => 4
  | .trace => 5

/-- The value of a field.  A quoted text is shown between quotation marks in a text line, a plain
text as it is. -/
inductive FieldValue where
  | plain (text : String)
  | quoted (text : String)
  | number (value : Int)
  | flag (value : Bool)
deriving DecidableEq, Repr

structure Event where
  level : Level
  target : String
  message : String
  fields : List (String × FieldValue)
deriving DecidableEq, Repr

end DatasetSearch.Log

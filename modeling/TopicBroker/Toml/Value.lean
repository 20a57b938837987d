/-!
# Values of a settings document

A value of a TOML document, and of the settings that are put together from
several sources.  The entries of a table have different keys.
-/

namespace TopicBroker.Toml

/-- A value of a settings document. -/
inductive Value where
  /-- Nothing.  No document holds it; it fills up a list that is written behind its end. -/
  | missing
  | boolean (value : Bool)
  | integer (value : Int)
  | float (value : Float)
  | text (value : String)
  /-- A date, a time of day or both, by its canonical text. -/
  | moment (text : String)
  | list (items : List Value)
  | table (entries : List (String × Value))

namespace Value

/-- The entries of a table; other values have none. -/
def entries : Value → List (String × Value)
  | table entries => entries
  | _ => []

/-- The value of a key in a table. -/
def field? (value : Value) (key : String) : Option Value :=
  value.entries.lookup key

end Value

/-- Replace the value of a key, or add the key at the end, given what is there so far. -/
def alterEntry {α : Type} (key : String) (change : Option α → α) :
    List (String × α) → List (String × α)
  | [] => [(key, change none)]
  | (other, value) :: rest =>
    if other = key then (key, change (some value)) :: rest
    else (other, value) :: alterEntry key change rest

end TopicBroker.Toml

import TopicBroker.Toml.Key
import TopicBroker.Toml.Scalar
import TopicBroker.Toml.Table

/-!
# Reading a document

A document is a sequence of lines, each of which is empty, opens a table by its
header, or writes a value at keys of the table that was opened last.  Values are
single values, lists in brackets, which may extend over several lines, and tables in
braces, which may do so only in the later version of the format.
-/

namespace TopicBroker.Toml

/-- The rest of a list in brackets, in at most as many steps as the bound has characters. -/
def readList (item : Reader Value) (bound text : List Char) : Option (List Value × List Char) :=
  match bound with
  | [] => none
  | _ :: bound => do
    match ← skipLayout? false text with
    | ']' :: rest => some ([], rest)
    | text =>
      let (value, rest) ← item text
      match ← skipLayout? false rest with
      | ']' :: rest => some ([value], rest)
      | ',' :: rest => (readList item bound rest).map fun (values, rest) => (value :: values, rest)
      | _ => none

/-- Keys, an equals sign and a value, given what may stand around the equals sign. -/
def readAssignment (dialect : Dialect) (skip? : List Char → Option (List Char))
    (item : Reader Value) (text : List Char) : Option ((List String × Value) × List Char) := do
  let (keys, rest) ← readKeys dialect text
  match ← skip? rest with
  | '=' :: rest =>
    let (value, rest) ← item (← skip? rest)
    some ((keys, value), rest)
  | _ => none

/-- The rest of a table in braces in front of a key, in at most as many steps as the bound has
characters. -/
def readInline (dialect : Dialect) (item : Reader Value) (bound : List Char) (items : Items)
    (text : List Char) : Option (Value × List Char) :=
  match bound with
  | [] => none
  | _ :: bound => do
    let ((keys, value), rest) ← readAssignment dialect (skipInBraces? dialect) item text
    let items ← items.write? dialect keys value
    match ← skipInBraces? dialect rest with
    | '\x7d' :: rest => some (.table (finishItems items), rest)
    | ',' :: rest =>
      match dialect.bracesSpanLines, ← skipInBraces? dialect rest with
      | true, '\x7d' :: rest => some (.table (finishItems items), rest)
      | _, rest => readInline dialect item bound items rest
    | _ => none

/-- A value whose lists and tables are nested at most so deep.  Each step takes up some of the text,
so the text bounds the steps. -/
def readValue (dialect : Dialect) : (depth : Nat) → List Char → Option (Value × List Char)
  | 0, text => readScalar dialect text
  | depth + 1, text =>
    match text with
    | '[' :: rest =>
      (readList (readValue dialect depth) text rest).map fun (values, rest) => (.list values, rest)
    | '\x7b' :: rest => do
      match ← skipInBraces? dialect rest with
      | '\x7d' :: rest => some (.table [], rest)
      | rest => readInline dialect (readValue dialect depth) text [] rest
    | text => readScalar dialect text

/-- A header in brackets, given the text behind the opening ones and the closing ones. -/
def readHeader (dialect : Dialect) (closing : List Char) (text : List Char) :
    Option (List String × List Char) := do
  let (keys, rest) ← readKeys dialect text
  if closing.isPrefixOf rest then some (keys, rest.drop closing.length) else none

/-- A document that has been read up to some line. -/
structure Progress where
  items : Items
  /-- The keys of the table that was opened last. -/
  opened : List String

/-- Read one line that is not empty. -/
def readLine (dialect : Dialect) (progress : Progress) (text : List Char) :
    Option (Progress × List Char) :=
  match text with
  | '[' :: '[' :: rest => do
    let (keys, rest) ← readHeader dialect [']', ']'] rest
    let items ← progress.items.openListTable? keys
    return (⟨items, keys⟩, rest)
  | '[' :: rest => do
    let (keys, rest) ← readHeader dialect [']'] rest
    let items ← progress.items.openTable? keys
    return (⟨items, keys⟩, rest)
  | text => do
    let item := readValue dialect dialect.nestingLimit
    let ((keys, value), rest) ← readAssignment dialect (some ∘ skipBlanks) item text
    let items ← progress.items.writeBelow? dialect progress.opened keys value
    return (⟨items, progress.opened⟩, rest)

/-- Read all lines, in at most so many steps. -/
def readLines (dialect : Dialect) (steps : Nat) (progress : Progress) (text : List Char) :
    Option Items :=
  match steps with
  | 0 => none
  | steps + 1 =>
    match skipBlanks text with
    | [] => some progress.items
    | text =>
      match skipLineEnd? text with
      | some rest => readLines dialect steps progress rest
      | none =>
        if text.head? = some '#' then do
          readLines dialect steps progress (← nextLine? text)
        else do
          let (progress, rest) ← readLine dialect progress text
          readLines dialect steps progress (← nextLine? rest)

/-- The text without the byte order mark that it may start with. -/
def skipMark : List Char → List Char
  | first :: rest => if first = '\uFEFF' then rest else first :: rest
  | [] => []

/-- The table that a document writes, unless the text is no document. -/
def parse? (dialect : Dialect) (document : String) : Option Value :=
  let text := skipMark document.toList
  (readLines dialect (text.length + 1) ⟨[], []⟩ text).map fun items => .table (finishItems items)

end TopicBroker.Toml

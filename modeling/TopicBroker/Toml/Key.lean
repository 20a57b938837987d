import TopicBroker.Toml.Quoted

/-!
# Keys of a document

A key is a bare word of ASCII letters, digits, underscores and hyphens, or a
quoted text on one line.  Keys with dots between them lead from table to table; there
may be blanks around each of them.
-/

namespace TopicBroker.Toml

/-- Whether a character may stand in a bare key. -/
def inBareKey (character : Char) : Bool :=
  character.isAlphanum || character = '_' || character = '-'

/-- A single key. -/
def readKey (dialect : Dialect) (text : List Char) : Option (String × List Char) :=
  match text with
  | '\x22' :: _ | '\x27' :: _ => readLineText dialect text
  | text =>
    let key := text.takeWhile inBareKey
    if key.isEmpty then none else some (String.ofList key, text.dropWhile inBareKey)

/-- Keys with dots between them, in at most so many steps. -/
def readKeysWithin (dialect : Dialect) (steps : Nat) (text : List Char) :
    Option (List String × List Char) :=
  match steps with
  | 0 => none
  | steps + 1 => do
    let (key, rest) ← readKey dialect (skipBlanks text)
    match skipBlanks rest with
    | '.' :: rest =>
      (readKeysWithin dialect steps rest).map fun (keys, rest) => (key :: keys, rest)
    | rest => some ([key], rest)

/-- Keys with dots between them. -/
def readKeys (dialect : Dialect) (text : List Char) : Option (List String × List Char) :=
  readKeysWithin dialect dialect.nestingLimit text

end TopicBroker.Toml

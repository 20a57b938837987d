import TopicBroker.Toml.Dialect
import TopicBroker.Toml.Value

/-!
# Tables under construction

While a document is read, its tables remember how they came to be, because that
decides what may be added to them.  A table is opened by its header at most
once.  A table that was only passed on the way to the header of another one may
still be opened; a table that was made by dotted keys may be added to by dotted
keys only.  Depending on the dialect, dotted keys may also take over a table that was
only passed.
-/

namespace TopicBroker.Toml

/-- How a table came to be. -/
inductive Origin where
  /-- By its own header, or as the document itself. -/
  | header
  /-- On the way to the header of another table. -/
  | passed
  /-- On the way along dotted keys. -/
  | dotted
  deriving DecidableEq, Repr

/-- How one gets to a table. -/
inductive Route where
  /-- Along the keys of a header. -/
  | header
  /-- Along dotted keys. -/
  | dotted (dialect : Dialect)

namespace Route

/-- How a table that is created on the way comes to be. -/
def creates : Route → Origin
  | header => .passed
  | dotted _ => .dotted

/-- How a table counts as come to be once the way has led into it.  Dotted keys do not lead into
tables that have a header. -/
def enters? : Route → Origin → Option Origin
  | header, origin => some origin
  | dotted _, .header => none
  | dotted dialect, .passed => some (if dialect.claimsPassed then .dotted else .passed)
  | dotted _, .dotted => some .dotted

end Route

/-- What stands at a key of a table under construction. -/
inductive Item where
  | value (value : Value)
  | table (origin : Origin) (items : List (String × Item))
  /-- The tables of a list that is written table by table: the last one, which can be added to, and
  the earlier ones, of which the latest comes first. -/
  | tables (last : List (String × Item)) (earlier : List (List (String × Item)))

/-- A table under construction. -/
abbrev Items := List (String × Item)

namespace Items

/-- Put an item in place of the one at a key. -/
def replace (items : Items) (key : String) (item : Item) : Items :=
  alterEntry key (fun _ => item) items

/-- Change the table at the end of a path, which is created where it is missing. -/
def changeAt (route : Route) (change : Origin → Items → Option Items) :
    (path : List String) → Origin → Items → Option Items
  | [], origin, items => change origin items
  | key :: path, _, items =>
    match items.lookup key with
    | none => do
      let inner ← changeAt route change path route.creates []
      return items.replace key (.table route.creates inner)
    | some (.value _) => none
    | some (.table origin inner) => do
      let origin ← route.enters? origin
      let inner ← changeAt route change path origin inner
      return items.replace key (.table origin inner)
    | some (.tables last earlier) => do
      let last ← changeAt route change path .header last
      return items.replace key (.tables last earlier)

/-- Add a new key to a table. -/
def add? (items : Items) (key : String) (item : Item) : Option Items :=
  if (items.lookup key).isSome then none else some (items ++ [(key, item)])

/-- Write a value at dotted keys.  The table that several keys lead to must count as made by dotted
keys. -/
def write? (dialect : Dialect) (items : Items) (keys : List String) (value : Value) :
    Option Items := do
  let key ← keys.getLast?
  let path := keys.dropLast
  changeAt (.dotted dialect) (fun origin items =>
    if path = [] ∨ origin = .dotted then items.add? key (.value value) else none)
    path .header items

/-- Open a table by its header. -/
def openTable? (items : Items) (keys : List String) : Option Items := do
  let key ← keys.getLast?
  changeAt .header (fun _ items =>
    match items.lookup key with
    | none => items.add? key (.table .header [])
    | some (.table .passed inner) => some (items.replace key (.table .header inner))
    | some _ => none)
    keys.dropLast .header items

/-- Open the next table of a list by its header. -/
def openListTable? (items : Items) (keys : List String) : Option Items := do
  let key ← keys.getLast?
  changeAt .header (fun _ items =>
    match items.lookup key with
    | none => items.add? key (.tables [] [])
    | some (.tables last earlier) => some (items.replace key (.tables [] (last :: earlier)))
    | some _ => none)
    keys.dropLast .header items

/-- Write a value at dotted keys of the table that was opened last. -/
def writeBelow? (dialect : Dialect) (items : Items) (opened : List String) (keys : List String)
    (value : Value) : Option Items :=
  changeAt .header (fun _ inner => write? dialect inner keys value) opened .header items

end Items

mutual

/-- The finished value of an item. -/
def Item.finish : Item → Value
  | .value value => value
  | .table _ items => .table (finishItems items)
  | .tables last earlier => .list (.table (finishItems last) :: finishElements earlier).reverse

/-- The finished entries of a table. -/
def finishItems : List (String × Item) → List (String × Value)
  | [] => []
  | (key, item) :: rest => (key, item.finish) :: finishItems rest

/-- The finished tables of a list, in the same order. -/
def finishElements : List (List (String × Item)) → List Value
  | [] => []
  | items :: rest => .table (finishItems items) :: finishElements rest

end

end TopicBroker.Toml

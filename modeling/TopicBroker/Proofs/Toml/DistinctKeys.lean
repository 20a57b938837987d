import TopicBroker.Toml.Document

/-!
# Keys of a document are different

A document that writes a key of a table twice is refused, however the table came
to be.  Hence in what a document gives, each table has every key once, and the entry
that is found for a key is the only one.

The keys of a table under construction are different all the time.  They
change at one place only, where an entry is altered, or added if it is missing.
-/

namespace TopicBroker.Toml

/-- Entries with different keys, whose values are as asked for. -/
structure Keyed {α : Type} (good : α → Prop) (entries : List (String × α)) : Prop where
  keys : (entries.map Prod.fst).Nodup
  values : ∀ entry ∈ entries, good entry.2

section Entries

variable {α : Type} {good : α → Prop} {entries : List (String × α)} {key : String} {value : α}
  {change : Option α → α}

theorem mem_of_lookup (found : entries.lookup key = some value) : (key, value) ∈ entries := by
  obtain ⟨before, after, rfl, -⟩ := List.lookup_eq_some_iff.mp found
  simp

theorem lookup_eq_none_iff_keys : entries.lookup key = none ↔ key ∉ entries.map Prod.fst := by
  rw [List.lookup_eq_none_iff, List.mem_map]
  constructor
  · rintro missed ⟨entry, member, rfl⟩
    simpa using missed entry member
  · intro missed entry member
    simpa using fun same : key = entry.1 => missed ⟨entry, member, same.symm⟩

theorem lookup_alterEntry (key other : String) (change : Option α → α)
    (entries : List (String × α)) : (alterEntry key change entries).lookup other =
      if other = key then some (change (entries.lookup key)) else entries.lookup other := by
  induction entries with
  | nil =>
      by_cases same : other = key
      · simp [alterEntry, same]
      · simp [alterEntry, List.lookup_cons, same, beq_false_of_ne same]
  | cons entry entries ih =>
      obtain ⟨present, value⟩ := entry
      by_cases here : present = key
      · subst here
        by_cases same : other = present
        · simp [alterEntry, same]
        · simp [alterEntry, List.lookup_cons, same, beq_false_of_ne same]
      · have missed : (key == present) = false := beq_false_of_ne (Ne.symm here)
        by_cases same : other = present
        · simp [alterEntry, here, same]
        · have passed : (other == present) = false := beq_false_of_ne same
          simp only [alterEntry, if_neg here, List.lookup_cons, missed, passed, ih]

theorem alterEntry_of_lookup_eq_none (change : Option α → α) (missed : entries.lookup key = none) :
    alterEntry key change entries = entries ++ [(key, change none)] := by
  induction entries with
  | nil => rfl
  | cons entry entries ih =>
      obtain ⟨present, value⟩ := entry
      rw [lookup_eq_none_iff_keys, List.map_cons, List.mem_cons, not_or] at missed
      obtain ⟨other, missed⟩ := missed
      rw [alterEntry, if_neg (Ne.symm other), ih (lookup_eq_none_iff_keys.mpr missed)]
      rfl

theorem keys_alterEntry_of_mem (present : key ∈ entries.map Prod.fst) :
    (alterEntry key change entries).map Prod.fst = entries.map Prod.fst := by
  induction entries with
  | nil => cases present
  | cons entry entries ih =>
      obtain ⟨first, value⟩ := entry
      by_cases here : first = key
      · rw [alterEntry, if_pos here, List.map_cons, List.map_cons, here]
      · have later : key ∈ entries.map Prod.fst :=
          (List.mem_cons.mp present).resolve_left (Ne.symm here)
        rw [alterEntry, if_neg here, List.map_cons, List.map_cons, ih later]

theorem mem_alterEntry {entry : String × α} (member : entry ∈ alterEntry key change entries) :
    entry ∈ entries ∨ entry = (key, change (entries.lookup key)) := by
  induction entries with
  | nil => exact Or.inr (List.mem_singleton.mp member)
  | cons present entries ih =>
      obtain ⟨first, value⟩ := present
      by_cases here : first = key
      · subst here
        rw [alterEntry, if_pos rfl] at member
        rcases List.mem_cons.mp member with rfl | member
        · exact Or.inr (by simp)
        · exact Or.inl (List.mem_cons_of_mem _ member)
      · rw [alterEntry, if_neg here] at member
        rcases List.mem_cons.mp member with rfl | member
        · exact Or.inl List.mem_cons_self
        · rw [List.lookup_cons, beq_false_of_ne (Ne.symm here)]
          exact (ih member).imp_left (List.mem_cons_of_mem _)

theorem Keyed.nil : Keyed good [] := ⟨List.nodup_nil, by simp⟩

theorem Keyed.of_lookup (keyed : Keyed good entries) (found : entries.lookup key = some value) :
    good value :=
  keyed.values _ (mem_of_lookup found)

theorem Keyed.alterEntry (keyed : Keyed good entries)
    (changed : good (change (entries.lookup key))) :
    Keyed good (alterEntry key change entries) where
  keys := by
    by_cases present : key ∈ entries.map Prod.fst
    · rw [keys_alterEntry_of_mem present]
      exact keyed.keys
    · rw [alterEntry_of_lookup_eq_none change (lookup_eq_none_iff_keys.mpr present), List.map_append]
      refine List.nodup_append.mpr ⟨keyed.keys, List.pairwise_singleton _ _, ?_⟩
      rintro first member last added rfl
      rw [List.mem_singleton.mp added] at member
      exact present member
  values entry member := by
    rcases mem_alterEntry member with member | rfl
    · exact keyed.values entry member
    · exact changed

end Entries

/-- Whether a value is neither a list nor a table. -/
def Value.IsSingle : Value → Prop
  | .list _ | .table _ => False
  | _ => True

/-- The keys are different in all tables of a value. -/
inductive Value.Distinct : Value → Prop
  | single {value : Value} (single : value.IsSingle) : Distinct value
  | list {items : List Value} (all : ∀ item ∈ items, Distinct item) : Distinct (.list items)
  | table {entries : List (String × Value)} (keys : (entries.map Prod.fst).Nodup)
      (values : ∀ entry ∈ entries, Distinct entry.2) : Distinct (.table entries)

/-- The keys are different in all tables of what stands at a key. -/
inductive Item.Distinct : Item → Prop
  | value {value : Value} (distinct : value.Distinct) : Distinct (.value value)
  | table {origin : Origin} {items : Items} (keys : (items.map Prod.fst).Nodup)
      (values : ∀ entry ∈ items, Distinct entry.2) : Distinct (.table origin items)
  | tables {last : Items} {earlier : List Items}
      (keys : ∀ items ∈ last :: earlier, (items.map Prod.fst).Nodup)
      (values : ∀ items ∈ last :: earlier, ∀ entry ∈ items, Distinct entry.2) :
      Distinct (.tables last earlier)

theorem Value.Distinct.keyed {entries : List (String × Value)}
    (distinct : (Value.table entries).Distinct) : Keyed Value.Distinct entries := by
  cases distinct with
  | single single => exact single.elim
  | table keys values => exact ⟨keys, values⟩

theorem finishItems_eq_map (items : Items) :
    finishItems items = items.map fun entry => (entry.1, entry.2.finish) := by
  induction items with
  | nil => rfl
  | cons entry items ih => rw [finishItems, ih, List.map_cons]

theorem finishElements_eq_map (elements : List Items) :
    finishElements elements = elements.map fun items => .table (finishItems items) := by
  induction elements with
  | nil => rfl
  | cons items elements ih => rw [finishElements, ih, List.map_cons]

/-- Finishing a table does not touch its keys. -/
theorem Value.Distinct.finishItems {items : Items} (keys : (items.map Prod.fst).Nodup)
    (values : ∀ entry ∈ items, entry.2.finish.Distinct) :
    (Value.table (finishItems items)).Distinct := by
  rw [finishItems_eq_map]
  refine .table ?_ ?_
  · rw [List.map_map]
    exact keys
  · intro entry member
    obtain ⟨item, inside, rfl⟩ := List.mem_map.mp member
    exact values item inside

theorem Item.Distinct.finish {item : Item} (distinct : item.Distinct) : item.finish.Distinct := by
  induction distinct with
  | value distinct => exact distinct
  | table keys _ ih => exact .finishItems keys ih
  | @tables last earlier keys _ ih =>
      rw [Item.finish, finishElements_eq_map]
      change (Value.list ((last :: earlier).map fun items =>
        Value.table (TopicBroker.Toml.finishItems items)).reverse).Distinct
      refine .list fun element member => ?_
      obtain ⟨items, inside, rfl⟩ := List.mem_map.mp (List.mem_reverse.mp member)
      exact .finishItems (keys items inside) (ih items inside)

/-! ## Tables under construction -/

namespace Items

/-- The keys are different in all tables of a table under construction. -/
abbrev Distinct (items : Items) : Prop := Keyed Item.Distinct items

variable {items result : Items} {key : String} {item : Item}

theorem Distinct.finish (distinct : items.Distinct) : (Value.table (finishItems items)).Distinct :=
  .finishItems distinct.keys fun entry member => (distinct.values entry member).finish

theorem distinct_table {origin : Origin} (distinct : items.Distinct) :
    (Item.table origin items).Distinct :=
  .table distinct.keys distinct.values

theorem distinct_of_table {origin : Origin} (distinct : (Item.table origin items).Distinct) :
    items.Distinct := by
  cases distinct with
  | table keys values => exact ⟨keys, values⟩

theorem distinct_tables {earlier : List Items} (distinct : ∀ items ∈ earlier, items.Distinct)
    {last : Items} (distinctLast : last.Distinct) : (Item.tables last earlier).Distinct := by
  have all : ∀ items ∈ last :: earlier, items.Distinct := by
    intro items member
    rcases List.mem_cons.mp member with rfl | member
    · exact distinctLast
    · exact distinct items member
  exact .tables (fun items member => (all items member).keys)
    fun items member => (all items member).values

theorem distinct_of_tables {last : Items} {earlier : List Items}
    (distinct : (Item.tables last earlier).Distinct) :
    last.Distinct ∧ ∀ items ∈ earlier, items.Distinct := by
  cases distinct with
  | tables keys values =>
      refine ⟨⟨keys last List.mem_cons_self, values last List.mem_cons_self⟩, ?_⟩
      intro items member
      have member := List.mem_cons_of_mem last member
      exact ⟨keys items member, values items member⟩

theorem Distinct.replace (distinct : items.Distinct) (replacement : item.Distinct) :
    (items.replace key item).Distinct :=
  Keyed.alterEntry distinct replacement

theorem Distinct.add (distinct : items.Distinct) (added : item.Distinct)
    (adds : items.add? key item = some result) : result.Distinct := by
  unfold add? at adds
  split at adds
  case isTrue => cases adds
  case isFalse missed =>
      cases adds
      have missed : items.lookup key = none := Option.not_isSome_iff_eq_none.mp missed
      rw [← alterEntry_of_lookup_eq_none (fun _ => item) missed]
      exact Keyed.alterEntry distinct added

/-- A change at the end of a path keeps keys different if it does so in the table found there. -/
theorem Distinct.changeAt {route : Route} {change : Origin → Items → Option Items}
    (kept : ∀ origin (items result : Items), items.Distinct → change origin items = some result →
      result.Distinct)
    {path : List String} {origin : Origin} (distinct : items.Distinct)
    (changes : changeAt route change path origin items = some result) : result.Distinct := by
  -- Whatever the way leads into, the table in front of it gets the changed one in the same place.
  induction path generalizing origin items result with
  | nil => exact kept origin items result distinct changes
  | cons key path ih =>
      rw [Items.changeAt] at changes
      split at changes
      case h_1 =>
          obtain ⟨inner, changesInner, changes⟩ := Option.bind_eq_some_iff.mp changes
          cases changes
          exact distinct.replace (distinct_table (ih Keyed.nil changesInner))
      case h_2 => cases changes
      case h_3 present found =>
          obtain ⟨entered, _, changes⟩ := Option.bind_eq_some_iff.mp changes
          obtain ⟨inner, changesInner, changes⟩ := Option.bind_eq_some_iff.mp changes
          cases changes
          have distinctInner := distinct_of_table (Keyed.of_lookup distinct found)
          exact distinct.replace (distinct_table (ih distinctInner changesInner))
      case h_4 found =>
          obtain ⟨inner, changesInner, changes⟩ := Option.bind_eq_some_iff.mp changes
          cases changes
          obtain ⟨distinctLast, others⟩ := distinct_of_tables (Keyed.of_lookup distinct found)
          exact distinct.replace (distinct_tables others (ih distinctLast changesInner))

theorem Distinct.write {dialect : Dialect} {keys : List String} {value : Value}
    (distinct : items.Distinct) (written : value.Distinct)
    (writes : items.write? dialect keys value = some result) : result.Distinct := by
  obtain ⟨key, _, writes⟩ := Option.bind_eq_some_iff.mp writes
  refine distinct.changeAt ?_ writes
  intro origin items result distinct changes
  split at changes
  · exact distinct.add (.value written) changes
  · cases changes

theorem Distinct.openTable {keys : List String} (distinct : items.Distinct)
    (opens : items.openTable? keys = some result) : result.Distinct := by
  obtain ⟨key, _, opens⟩ := Option.bind_eq_some_iff.mp opens
  refine distinct.changeAt ?_ opens
  intro origin items result distinct changes
  split at changes
  case h_1 => exact distinct.add (distinct_table Keyed.nil) changes
  case h_2 found =>
      cases changes
      exact distinct.replace (distinct_table (distinct_of_table (Keyed.of_lookup distinct found)))
  case h_3 => cases changes

theorem Distinct.openListTable {keys : List String} (distinct : items.Distinct)
    (opens : items.openListTable? keys = some result) : result.Distinct := by
  obtain ⟨key, _, opens⟩ := Option.bind_eq_some_iff.mp opens
  refine distinct.changeAt ?_ opens
  intro origin items result distinct changes
  split at changes
  case h_1 => exact distinct.add (distinct_tables (by simp) Keyed.nil) changes
  case h_2 found =>
      cases changes
      obtain ⟨distinctLast, others⟩ := distinct_of_tables (Keyed.of_lookup distinct found)
      exact distinct.replace (distinct_tables (by simpa using ⟨distinctLast, others⟩) Keyed.nil)
  case h_3 => cases changes

theorem Distinct.writeBelow {dialect : Dialect} {opened keys : List String} {value : Value}
    (distinct : items.Distinct) (written : value.Distinct)
    (writes : items.writeBelow? dialect opened keys value = some result) : result.Distinct :=
  distinct.changeAt (fun _ _ _ distinct writes => distinct.write written writes) writes

end Items

/-! ## Reading -/

/-- Whatever a reader gives is as asked for. -/
def Gives {α : Type} (good : α → Prop) (reader : Reader α) : Prop :=
  ∀ text value rest, reader text = some (value, rest) → good value

theorem isSingle_of_word {dialect : Dialect} {text : List Char} {value : Value}
    (reads : word? dialect text = some value) : value.IsSingle := by
  unfold word? at reads
  split at reads
  · cases reads
    trivial
  · split at reads
    · cases reads
      trivial
    · simp only [Option.or_eq_some_iff, Option.map_eq_some_iff] at reads
      obtain (⟨_, _, rfl⟩ | ⟨_, _, _, rfl⟩) | ⟨_, _, _, rfl⟩ := reads
      all_goals trivial

theorem gives_readScalar (dialect : Dialect) : Gives Value.Distinct (readScalar dialect) := by
  intro text value rest reads
  apply Value.Distinct.single
  unfold readScalar at reads
  split at reads
  case h_3 =>
      obtain ⟨word, readsWord, same⟩ := Option.map_eq_some_iff.mp reads
      cases same
      exact isSingle_of_word readsWord
  all_goals
    obtain ⟨_, _, same⟩ := Option.map_eq_some_iff.mp reads
    cases same
    trivial

variable {dialect : Dialect} {item : Reader Value}

theorem distinct_of_readList (given : Gives Value.Distinct item) {bound text rest : List Char}
    {values : List Value} (reads : readList item bound text = some (values, rest)) :
    ∀ value ∈ values, value.Distinct := by
  induction bound generalizing text values rest with
  | nil => cases reads
  | cons _ bound ih =>
      rw [readList] at reads
      obtain ⟨text, _, reads⟩ := Option.bind_eq_some_iff.mp reads
      split at reads
      case h_1 =>
          cases reads
          simp
      case h_2 =>
          obtain ⟨⟨value, rest⟩, readsFirst, reads⟩ := Option.bind_eq_some_iff.mp reads
          have first := given _ value rest readsFirst
          obtain ⟨_, _, reads⟩ := Option.bind_eq_some_iff.mp reads
          split at reads
          case h_1 =>
              cases reads
              simpa using first
          case h_2 =>
              obtain ⟨⟨values, rest⟩, readsRest, same⟩ := Option.map_eq_some_iff.mp reads
              cases same
              simpa using ⟨first, ih readsRest⟩
          case h_3 => cases reads

theorem distinct_of_readAssignment {skip? : List Char → Option (List Char)}
    (given : Gives Value.Distinct item) {text rest : List Char} {keys : List String} {value : Value}
    (reads : readAssignment dialect skip? item text = some ((keys, value), rest)) :
    value.Distinct := by
  obtain ⟨⟨_, _⟩, _, reads⟩ := Option.bind_eq_some_iff.mp reads
  obtain ⟨_, _, reads⟩ := Option.bind_eq_some_iff.mp reads
  split at reads
  case h_1 =>
      obtain ⟨_, _, reads⟩ := Option.bind_eq_some_iff.mp reads
      obtain ⟨⟨read, rest⟩, readsValue, reads⟩ := Option.bind_eq_some_iff.mp reads
      cases reads
      exact given _ _ _ readsValue
  case h_2 => cases reads

theorem distinct_of_readInline (given : Gives Value.Distinct item) {bound text rest : List Char}
    {items : Items} {value : Value} (distinct : items.Distinct)
    (reads : readInline dialect item bound items text = some (value, rest)) : value.Distinct := by
  induction bound generalizing items text with
  | nil => cases reads
  | cons _ bound ih =>
      rw [readInline] at reads
      obtain ⟨⟨⟨keys, read⟩, _⟩, readsFirst, reads⟩ := Option.bind_eq_some_iff.mp reads
      obtain ⟨items, writes, reads⟩ := Option.bind_eq_some_iff.mp reads
      have distinct := distinct.write (distinct_of_readAssignment given readsFirst) writes
      obtain ⟨_, _, reads⟩ := Option.bind_eq_some_iff.mp reads
      split at reads
      case h_1 =>
          cases reads
          exact distinct.finish
      case h_2 =>
          obtain ⟨_, _, reads⟩ := Option.bind_eq_some_iff.mp reads
          split at reads
          · cases reads
            exact distinct.finish
          · exact ih distinct reads
      case h_3 => cases reads

theorem gives_readValue (dialect : Dialect) (depth : Nat) :
    Gives Value.Distinct (readValue dialect depth) := by
  induction depth with
  | zero =>
      intro text value rest reads
      exact gives_readScalar dialect text value rest reads
  | succ depth ih =>
      intro text value rest reads
      rw [readValue.eq_def] at reads
      dsimp only at reads
      split at reads
      case h_1 =>
          obtain ⟨⟨values, _⟩, readsList, same⟩ := Option.map_eq_some_iff.mp reads
          cases same
          exact .list (distinct_of_readList ih readsList)
      case h_2 =>
          obtain ⟨_, _, reads⟩ := Option.bind_eq_some_iff.mp reads
          split at reads
          · cases reads
            exact .table List.nodup_nil (by simp)
          · exact distinct_of_readInline ih Keyed.nil reads
      case h_3 => exact gives_readScalar dialect _ _ _ reads

theorem distinct_of_readLine {progress next : Progress} {text rest : List Char}
    (distinct : progress.items.Distinct)
    (reads : readLine dialect progress text = some (next, rest)) : next.items.Distinct := by
  unfold readLine at reads
  split at reads
  case h_1 =>
      obtain ⟨⟨_, _⟩, _, reads⟩ := Option.bind_eq_some_iff.mp reads
      obtain ⟨_, opens, reads⟩ := Option.bind_eq_some_iff.mp reads
      cases reads
      exact distinct.openListTable opens
  case h_2 =>
      obtain ⟨⟨_, _⟩, _, reads⟩ := Option.bind_eq_some_iff.mp reads
      obtain ⟨_, opens, reads⟩ := Option.bind_eq_some_iff.mp reads
      cases reads
      exact distinct.openTable opens
  case h_3 =>
      obtain ⟨⟨⟨_, _⟩, _⟩, readsValue, reads⟩ := Option.bind_eq_some_iff.mp reads
      obtain ⟨_, writes, reads⟩ := Option.bind_eq_some_iff.mp reads
      cases reads
      exact distinct.writeBelow
        (distinct_of_readAssignment (gives_readValue dialect _) readsValue) writes

theorem distinct_of_readLines {steps : Nat} {progress : Progress} {text : List Char} {items : Items}
    (distinct : progress.items.Distinct)
    (reads : readLines dialect steps progress text = some items) : items.Distinct := by
  induction steps generalizing progress text with
  | zero => cases reads
  | succ steps ih =>
      rw [readLines] at reads
      split at reads
      case h_1 =>
          cases reads
          exact distinct
      case h_2 =>
          split at reads
          case h_1 => exact ih distinct reads
          case h_2 =>
              split at reads
              · obtain ⟨_, _, reads⟩ := Option.bind_eq_some_iff.mp reads
                exact ih distinct reads
              · obtain ⟨⟨next, _⟩, readsLine, reads⟩ := Option.bind_eq_some_iff.mp reads
                obtain ⟨_, _, reads⟩ := Option.bind_eq_some_iff.mp reads
                exact ih (distinct_of_readLine distinct readsLine) reads

/-- All tables of a document have different keys. -/
theorem distinct_of_parse {document : String} {value : Value}
    (parses : parse? dialect document = some value) : value.Distinct := by
  obtain ⟨items, reads, rfl⟩ := Option.map_eq_some_iff.mp parses
  exact (distinct_of_readLines Keyed.nil reads).finish

end TopicBroker.Toml

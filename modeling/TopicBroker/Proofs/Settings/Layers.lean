import Mathlib.Data.List.TakeWhile
import TopicBroker.Proofs.Toml.DistinctKeys
import TopicBroker.Settings.KeyPath

/-!
# Values laid over each other

A table that is laid over another one changes the entries it has, and no other.  Since
its keys are different, each entry is laid over the one below exactly once.  All
other values replace what is below them.

A text that is a key on its own is the path to that key at the root.
-/

namespace TopicBroker

open Toml

namespace Toml.Value

variable {value lower : Value} {entries : List (String × Value)}

def IsTable (value : Value) : Prop := ∃ entries, value = .table entries

def IsList (value : Value) : Prop := ∃ items, value = .list items

instance (value : Value) : Decidable value.IsList :=
  match value with
  | .list items => isTrue ⟨items, rfl⟩
  | .missing | .boolean _ | .integer _ | .float _ | .text _ | .moment _ | .table _ =>
    isFalse nofun

theorem field?_alterKey (key other : String) (change : Value → Value) (value : Value) :
    (value.alterKey key change).field? other =
      if other = key then some (change ((value.field? key).getD .missing))
      else value.field? other :=
  lookup_alterEntry key other (fun present => change (present.getD .missing)) value.entries

theorem over_of_not_isTable (single : ¬ value.IsTable) : value.over lower = value := by
  cases value with
  | table entries => exact absurd ⟨entries, rfl⟩ single
  | _ => rw [Value.over]

theorem isTable_layEntries (below : lower.IsTable) : (layEntries entries lower).IsTable := by
  induction entries generalizing lower with
  | nil =>
      rw [layEntries]
      exact below
  | cons entry entries ih =>
      rw [layEntries]
      exact ih ⟨_, rfl⟩

theorem isTable_over : (value.over lower).IsTable ↔ value.IsTable := by
  by_cases isTable : value.IsTable
  · refine iff_of_true ?_ isTable
    obtain ⟨entries, rfl⟩ := isTable
    rw [Value.over]
    exact isTable_layEntries ⟨_, rfl⟩
  · rw [over_of_not_isTable isTable]

theorem field?_layEntries (keys : (entries.map Prod.fst).Nodup) (lower : Value) (key : String) :
    (layEntries entries lower).field? key =
      match entries.lookup key with
      | none => lower.field? key
      | some value => some (value.over ((lower.field? key).getD .missing)) := by
  induction entries generalizing lower with
  | nil =>
      rw [layEntries]
      rfl
  | cons entry entries ih =>
      obtain ⟨first, value⟩ := entry
      obtain ⟨once, keys⟩ := List.nodup_cons.mp keys
      rw [layEntries, ih keys, field?_alterKey, List.lookup_cons]
      by_cases here : key = first
      · subst here
        rw [lookup_eq_none_iff_keys.mpr once, beq_self_eq_true, if_pos rfl]
      · rw [beq_false_of_ne here, if_neg here]

theorem field?_over (keys : (entries.map Prod.fst).Nodup) (lower : Value) (key : String) :
    ((table entries).over lower).field? key =
      match entries.lookup key with
      | none => lower.field? key
      | some value => some (value.over ((lower.field? key).getD .missing)) := by
  rw [Value.over, field?_layEntries keys]
  rfl

end Toml.Value

namespace KeyPath

theorem field?_write (path : KeyPath) (written present : Value) (key : String) :
    (path.write written present).field? key =
      if key = path.root then
        some (writeAlong written path.steps ((present.field? path.root).getD .missing))
      else present.field? key :=
  Value.field?_alterKey path.root key (writeAlong written path.steps) present

theorem append_of_readKey {text rest : List Char} {key : String}
    (reads : readKey text = some (key, rest)) : text = key.toList ++ rest := by
  unfold readKey at reads
  dsimp only at reads
  split at reads
  · cases reads
  · cases reads
    rw [String.toList_ofList, List.takeWhile_append_dropWhile]

theorem eq_nil_of_readSteps {limit : Nat} {text : List Char}
    (reads : readSteps limit text = some []) : text = [] := by
  unfold readSteps at reads
  split at reads
  case h_1 => rfl
  case h_4 => cases reads
  all_goals
    obtain ⟨_, _, reads⟩ := Option.bind_eq_some_iff.mp reads
    obtain ⟨_, _, reads⟩ := Option.bind_eq_some_iff.mp reads
    cases reads

theorem eq_of_readSteps {limit : Nat} {text : List Char} {name : String}
    (reads : readSteps limit text = some [.key name]) : text = '.' :: name.toList := by
  unfold readSteps at reads
  split at reads
  case h_2 =>
      obtain ⟨⟨key, rest⟩, readsKey, reads⟩ := Option.bind_eq_some_iff.mp reads
      obtain ⟨steps, readsRest, reads⟩ := Option.bind_eq_some_iff.mp reads
      cases reads
      rw [append_of_readKey readsKey, eq_nil_of_readSteps readsRest, List.append_nil]
  case h_3 =>
      obtain ⟨_, _, reads⟩ := Option.bind_eq_some_iff.mp reads
      obtain ⟨_, _, reads⟩ := Option.bind_eq_some_iff.mp reads
      cases reads
  all_goals cases reads

/-- Only one text writes a path with two keys. -/
theorem eq_of_ofText {text root name : String} (leads : ofText text = ⟨root, [.key name]⟩) :
    text = root ++ "." ++ name := by
  unfold ofText at leads
  cases parses : parse? text with
  | none =>
      rw [parses] at leads
      cases leads
  | some path =>
      rw [parses] at leads
      obtain rfl : path = ⟨root, [.key name]⟩ := leads
      obtain ⟨⟨key, rest⟩, readsRoot, parses⟩ := Option.bind_eq_some_iff.mp parses
      obtain ⟨steps, readsRest, parses⟩ := Option.bind_eq_some_iff.mp parses
      cases parses
      rw [String.ext_iff, append_of_readKey readsRoot, eq_of_readSteps readsRest]
      simp

/-- Whether a text can be a bare key of a document. -/
def IsBare (text : String) : Prop := text ≠ "" ∧ ∀ letter ∈ text.toList, inBareKey letter = true

instance (text : String) : Decidable (IsBare text) :=
  decidable_of_iff (text ≠ "" ∧ text.toList.all inBareKey = true)
    (and_congr_right' List.all_eq_true)

theorem ofText_of_isBare {text : String} (bare : IsBare text) : ofText text = ⟨text, []⟩ := by
  obtain ⟨present, letters⟩ := bare
  have whole : text.toList.takeWhile inKey = text.toList := List.takeWhile_eq_self_iff.mpr letters
  have rest : text.toList.dropWhile inKey = [] := List.dropWhile_eq_nil_iff.mpr letters
  have nonempty : text.toList.isEmpty = false := by
    rw [List.isEmpty_eq_false_iff]
    exact fun empty => present (String.toList_eq_nil_iff.mp empty)
  have reads : readKey text.toList = some (text, []) := by
    rw [readKey, whole, rest, nonempty, String.ofList_toList]
    rfl
  rw [ofText, parse?, reads]
  rfl

end KeyPath

end TopicBroker

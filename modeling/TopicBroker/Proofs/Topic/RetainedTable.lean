import Mathlib.Data.List.Induction
import Std.Data.ExtHashMap
import TopicBroker.Proofs.Topic.RetainedMessages

/-!
# Retained messages as a table

What topics retain depends on the messages that it was asked to retain, one
after the other.  `Table.after` says how, without any trie: each message takes
the place of the one before it on the same topic, an empty message clears its
topic, and a text that is no topic name makes no difference.

After every history the trie and its counter represent this table, and then
whatever can be read is read off the table.  The counter is lowered where a
message is cleared, and since it is the size of the table it is never lowered
below zero.
-/

namespace TopicBroker.Retained

/-- The messages that topics retain. -/
abbrev Table := Std.ExtHashMap String RetainedMessage

/-- What a message for a topic makes of a table. -/
def Table.keep (maxLevels : Nat) (table : Table) (asked : String × RetainedMessage) : Table :=
  match checkName maxLevels asked.1 with
  | .error _ => table
  | .ok () =>
    if asked.2.payload.isEmpty then table.erase asked.1 else table.insert asked.1 asked.2

/-- The table that a history of messages makes of an empty one. -/
def Table.after (maxLevels : Nat) (history : List (String × RetainedMessage)) : Table :=
  history.foldl (Table.keep maxLevels) ∅

/-- Retain a message on a topic, unless this is refused. -/
def keep (retained : Retained) (asked : String × RetainedMessage) : Retained :=
  match retained.retain asked.1 asked.2.payload asked.2.qos with
  | .error _ => retained
  | .ok kept => kept

/-- What is retained after a history of messages. -/
def after (retained : Retained) (history : List (String × RetainedMessage)) : Retained :=
  history.foldl keep retained

/-- The table holds what the topics retain, and the counter is its size. -/
structure Represents (retained : Retained) (table : Table) : Prop where
  sound : retained.Sound
  kept (topic : String) : table[topic]? = retained.get? topic
  count : retained.count = table.size

/-- The selection has the message of each topic that the filter matches, weakened to the given
guarantee and once, and nothing else. -/
structure Table.Selects (table : Table) (filter : String) (qos : Qos)
    (selected : List (String × RetainedMessage)) : Prop where
  once : (selected.map Prod.fst).Nodup
  mem (topic : String) (message : RetainedMessage) : (topic, message) ∈ selected ↔
    topicMatches filter topic = true ∧ ∃ stored, table[topic]? = some stored ∧
      message = ⟨stored.payload, min stored.qos qos⟩

/-- Everything that is read of the retained messages is what the table says. -/
structure ReadsAs (maxLevels : Nat) (retained : Retained) (table : Table) : Prop where
  valid (topic : String) (row : topic ∈ table) : checkName maxLevels topic = .ok ()
  get (topic : String) : retained.get? topic = table[topic]?
  size : retained.count = table.size
  isEmpty : retained.isEmpty = true ↔ table = ∅
  accepts (topic : String) (payload : Payload) (qos : Qos) :
    (retained.retain topic payload qos).map (fun _ => ()) = checkName maxLevels topic
  /-- The counter is never zero where it is lowered. -/
  lowers (topic : String) (qos : Qos) (after : Retained) (row : topic ∈ table)
    (clears : retained.retain topic [] qos = .ok after) : after.count + 1 = retained.count
  select (filter : String) (qos : Qos) :
    match checkFilter maxLevels filter with
    | .error fault => retained.select filter qos = .error fault
    | .ok () => ∃ selected, retained.select filter qos = .ok selected ∧
        table.Selects filter qos selected

section Step

variable {retained after : Retained} {table : Table} {topic : String} {payload : Payload}
  {qos : Qos}

theorem isSome_payloadAt (valid : nameFault? retained.maxLevels topic = none) :
    (retained.trie.root.payloadAt (levelsOf topic)).isSome = (retained.get? topic).isSome := by
  rw [get?_eq, if_pos valid, messageAt]

theorem count_retain (accepted : retained.retain topic payload qos = .ok after) :
    after.count =
      if payload.isEmpty then
        if (retained.get? topic).isSome then retained.count - 1 else retained.count
      else if (retained.get? topic).isSome then retained.count else retained.count + 1 := by
  unfold retain at accepted
  rw [parseName_eq] at accepted
  cases valid : nameFault? retained.maxLevels topic with
  | some fault =>
      rw [valid] at accepted
      cases accepted
  | none =>
      have clears : (retained.trie.update (levelsOf topic) fun slot =>
          ((none : Option RetainedMessage), slot.isSome)).2.getD false =
            (retained.get? topic).isSome :=
        (Node.getD_update_snd _ rfl (levelsOf topic) retained.trie.root).trans
          (isSome_payloadAt valid)
      have replaces : (retained.trie.upsert (levelsOf topic) fun slot =>
          (some ⟨payload, qos⟩, slot.isSome)).2 = (retained.get? topic).isSome :=
        (Node.upsert_snd _ (levelsOf topic) retained.trie.root).trans (isSome_payloadAt valid)
      rw [valid] at accepted
      by_cases empty : payload.isEmpty = true
      · obtain rfl := Except.ok.inj ((if_pos empty).symm.trans accepted)
        rw [if_pos empty, ← clears]
        rfl
      · obtain rfl := Except.ok.inj ((if_neg empty).symm.trans accepted)
        rw [if_neg empty, ← replaces]
        rfl

theorem represents_empty (maxLevels : Nat) : (empty maxLevels).Represents ∅ where
  sound := sound_empty maxLevels
  kept topic := by
    have nothing : (empty maxLevels).messageAt (levelsOf topic) = none := Node.payloadAt_idle _
    rw [get?_eq, nothing, ite_self, Std.ExtHashMap.getElem?_empty]
  count := Std.ExtHashMap.size_empty.symm

theorem Represents.mem_iff (represents : retained.Represents table) (topic : String) :
    topic ∈ table ↔ (retained.get? topic).isSome = true := by
  rw [Std.ExtHashMap.mem_iff_isSome_getElem?, represents.kept]

theorem Represents.retain (represents : retained.Represents table)
    (accepted : retained.retain topic payload qos = .ok after) :
    after.Represents
      (if payload.isEmpty then table.erase topic else table.insert topic ⟨payload, qos⟩) := by
  have count := count_retain accepted
  have reads := get?_retain accepted
  refine ⟨represents.sound.retain accepted, fun other => ?_, ?_⟩
  · rw [reads, leftBy]
    split
    · rw [Std.ExtHashMap.getElem?_erase, represents.kept]
      simp only [beq_iff_eq, @eq_comm _ topic]
    · rw [Std.ExtHashMap.getElem?_insert, represents.kept]
      simp only [beq_iff_eq, @eq_comm _ topic]
  · rw [count]
    split
    · rw [Std.ExtHashMap.size_erase, represents.count]
      simp only [represents.mem_iff]
    · rw [Std.ExtHashMap.size_insert, represents.count]
      simp only [represents.mem_iff]

theorem maxLevels_keep (retained : Retained) (asked : String × RetainedMessage) :
    (retained.keep asked).maxLevels = retained.maxLevels := by
  unfold keep
  split
  · rfl
  · rename_i kept accepted
    exact maxLevels_retain accepted

theorem Represents.keep (represents : retained.Represents table)
    (asked : String × RetainedMessage) :
    (retained.keep asked).Represents (table.keep retained.maxLevels asked) := by
  simp only [Retained.keep, Table.keep, checkName]
  rcases retain_cases retained asked.1 asked.2.payload asked.2.qos with
    ⟨fault, faulty, refused⟩ | ⟨valid, kept, accepted, _⟩
  · simpa only [refused, faulty] using represents
  · simpa only [accepted, valid] using represents.retain accepted

end Step

section Read

variable {retained : Retained} {table : Table} (represents : retained.Represents table)
include represents

theorem Represents.valid (topic : String) (row : topic ∈ table) :
    checkName retained.maxLevels topic = .ok () := by
  obtain ⟨message, kept⟩ := Option.isSome_iff_exists.mp ((represents.mem_iff topic).mp row)
  exact checkName_eq_ok_iff.mpr (represents.sound.of_get? kept).2

theorem Represents.lowers {topic : String} {qos : Qos} {after : Retained} (row : topic ∈ table)
    (clears : retained.retain topic [] qos = .ok after) : after.count + 1 = retained.count := by
  have lowered := count_retain clears
  have occupied : table.size ≠ 0 := by
    intro none
    rw [Std.ExtHashMap.eq_empty_iff_size_eq_zero.mpr none] at row
    exact Std.ExtHashMap.not_mem_empty row
  have total := represents.count
  rw [if_pos List.isEmpty_nil, if_pos ((represents.mem_iff topic).mp row)] at lowered
  omega

theorem Represents.selects {filter : String}
    (valid : filterFault? retained.maxLevels filter = none) (qos : Qos) :
    table.Selects filter qos (retained.selected filter qos) where
  once := nodup_selected represents.sound valid qos
  mem topic message := by simp only [mem_selected represents.sound valid, represents.kept]

theorem Represents.readsAs : retained.ReadsAs retained.maxLevels table where
  valid := represents.valid
  get topic := (represents.kept topic).symm
  size := represents.count
  isEmpty := by
    rw [isEmpty, beq_iff_eq, represents.count, Std.ExtHashMap.eq_empty_iff_size_eq_zero]
  accepts topic payload qos := by
    rw [checkName]
    rcases retain_cases retained topic payload qos with
      ⟨fault, faulty, refused⟩ | ⟨valid, after, accepted, _⟩
    · rw [refused, faulty]
      rfl
    · rw [accepted, valid]
      rfl
  lowers _ _ _ row := represents.lowers row
  select filter qos := by
    rw [checkFilter, select_eq]
    cases valid : filterFault? retained.maxLevels filter with
    | some fault => rfl
    | none => exact ⟨_, rfl, represents.selects valid qos⟩

end Read

section History

variable (maxLevels : Nat) (history : List (String × RetainedMessage))

theorem maxLevels_after (retained : Retained) :
    (retained.after history).maxLevels = retained.maxLevels := by
  induction history generalizing retained with
  | nil => rfl
  | cons asked history ih => exact (ih (retained.keep asked)).trans (maxLevels_keep retained asked)

/-- What topics retain after a history is what the table of the history says. -/
theorem represents_after :
    ((empty maxLevels).after history).Represents (Table.after maxLevels history) := by
  induction history using List.reverseRecOn with
  | nil => exact represents_empty maxLevels
  | append_singleton earlier asked ih =>
      have next := ih.keep asked
      rw [maxLevels_after earlier (empty maxLevels)] at next
      rw [after, Table.after, List.foldl_append, List.foldl_append]
      exact next

/-- After every history of messages the trie can be used as the table of the last message of each
topic. -/
theorem reads_as_last_messages :
    ((empty maxLevels).after history).ReadsAs maxLevels (Table.after maxLevels history) := by
  have reads := (represents_after maxLevels history).readsAs
  rwa [maxLevels_after history (empty maxLevels)] at reads

end History

end TopicBroker.Retained

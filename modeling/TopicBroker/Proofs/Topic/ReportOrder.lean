import TopicBroker.Proofs.Topic.SubscriptionHistory

/-!
# In which order a topic is reported

A search reports the payloads of the stored paths that match a topic, each of
them once.  Their order can be read off the paths: at the first place where two
of them differ, a `#` comes before a path that ends there, the end of a path
before a `+`, and a `+` before a literal level.  This holds for every trie,
also for one whose paths no valid filter has.

For one client the order is that of its own filters.  So what a topic reports
for the client depends neither on other clients nor on the changes that have led
to its filters.
-/

namespace TopicBroker

/-- The turn of the way that a path takes on from a node, where `none` stands for a path that ends
there. -/
def turnOfNext : Option String → ℕ
  | none => 1
  | some level => (LevelPattern.ofLevel level).turn

/-- At the first place where the paths differ, it is the turn of the first one. -/
def ReportedBefore (first second : List String) : Prop :=
  ∃ shared firstRest secondRest, first = shared ++ firstRest ∧ second = shared ++ secondRest ∧
    turnOfNext firstRest.head? < turnOfNext secondRest.head?

section Order

theorem ReportedBefore.cons {first second : List String} (before : ReportedBefore first second)
    (level : String) : ReportedBefore (level :: first) (level :: second) := by
  obtain ⟨shared, firstRest, secondRest, rfl, rfl, earlier⟩ := before
  exact ⟨level :: shared, firstRest, secondRest, rfl, rfl, earlier⟩

theorem reportedBefore_of_turn_lt {first second : List String}
    (earlier : turnOfNext first.head? < turnOfNext second.head?) : ReportedBefore first second :=
  ⟨[], first, second, rfl, rfl, earlier⟩

theorem turn_ne_one (pattern : LevelPattern) : pattern.turn ≠ 1 := by
  cases pattern with
  | literal text => exact (by decide : 3 ≠ 1)
  | single => decide
  | multi => decide

theorem turnOfNext_le_of_searchKey_lt {first second : List String}
    (less : searchKey first < searchKey second) :
    turnOfNext first.head? ≤ turnOfNext second.head? := by
  have heads (path : List String) : ∃ rest,
      searchKey path = toLex (turnOfNext path.head?, path.head?.getD "") :: rest := by
    cases path <;> exact ⟨_, rfl⟩
  obtain ⟨_, firstKey⟩ := heads first
  obtain ⟨_, secondKey⟩ := heads second
  rw [firstKey, secondKey, List.cons_lt_cons_iff, Prod.Lex.toLex_lt_toLex, toLex_inj,
    Prod.mk.injEq] at less
  omega

/-- Different levels that have the same turn are both literal. -/
theorem literal_of_turn_eq {level other : String} (different : level ≠ other)
    (same : (LevelPattern.ofLevel level).turn = (LevelPattern.ofLevel other).turn) :
    LevelPattern.ofLevel level = .literal level ∧ LevelPattern.ofLevel other = .literal other := by
  unfold LevelPattern.ofLevel at same ⊢
  split_ifs at same ⊢ <;> simp_all [LevelPattern.turn]

/-- Different levels of filters that match the same topic have different turns, since a literal
level that matches is the one of the topic. -/
theorem turn_ne_of_matches {level other : String} {rest others topic : List String}
    (firstMatches : matchesLevels (level :: rest) topic = true)
    (secondMatches : matchesLevels (other :: others) topic = true) (different : level ≠ other) :
    (LevelPattern.ofLevel level).turn ≠ (LevelPattern.ofLevel other).turn := by
  intro same
  obtain ⟨literal, otherLiteral⟩ := literal_of_turn_eq different same
  cases topic with
  | nil => simp [matchesLevels, literal] at firstMatches
  | cons head tail =>
      simp only [matchesLevels, literal, otherLiteral, Bool.and_eq_true, decide_eq_true_eq]
        at firstMatches secondMatches
      exact different (firstMatches.1.symm.trans secondMatches.1)

/-- Two paths that match the same topic differ where their turns differ. -/
theorem reportedBefore_of_searchKey_lt {first second topic : List String}
    (firstMatches : matchesLevels first topic = true)
    (secondMatches : matchesLevels second topic = true)
    (less : searchKey first < searchKey second) : ReportedBefore first second := by
  have notLater := turnOfNext_le_of_searchKey_lt less
  induction first generalizing second topic with
  | nil =>
      cases second with
      | nil => exact absurd less (lt_irrefl _)
      | cons other others =>
          have notOne := turn_ne_one (LevelPattern.ofLevel other)
          exact reportedBefore_of_turn_lt (lt_of_le_of_ne notLater notOne.symm)
  | cons level rest ih =>
      cases second with
      | nil =>
          have notOne := turn_ne_one (LevelPattern.ofLevel level)
          exact reportedBefore_of_turn_lt (lt_of_le_of_ne notLater notOne)
      | cons other others =>
          by_cases same : level = other
          case neg =>
            have differ := turn_ne_of_matches firstMatches secondMatches same
            exact reportedBefore_of_turn_lt (lt_of_le_of_ne notLater differ)
          case pos =>
            subst same
            rw [searchKey_cons_lt_cons_iff] at less
            by_cases multi : level = LevelPattern.multiText
            · -- Nothing follows a `#` that matches.
              subst multi
              rw [matchesLevels_multi, List.isEmpty_iff] at firstMatches secondMatches
              rw [firstMatches, secondMatches] at less
              exact absurd less (lt_irrefl _)
            · cases topic with
              | nil => simp [matchesLevels_cons_nil rest multi] at firstMatches
              | cons head tail =>
                  have one := mt LevelPattern.ofLevel_eq_multi.mp multi
                  rw [matchesLevels_cons_cons one, Bool.and_eq_true] at firstMatches secondMatches
                  exact (ih firstMatches.2 secondMatches.2 less
                    (turnOfNext_le_of_searchKey_lt less)).cons level

end Order

namespace Trie

variable {α : Type} [Vacancy α]

/-- The stored paths that match a topic, each of them once and with its payload, in the order in
which they are reported. -/
structure ReportsInOrder (trie : Trie α) (topic : List String)
    (reported : List (List String × α)) : Prop where
  once : (reported.map Prod.fst).Nodup
  mem : ∀ path payload, (path, payload) ∈ reported ↔
    trie.stored? path = some payload ∧ matchesLevels path topic = true
  inOrder : reported.Pairwise fun first second => ReportedBefore first.1 second.1

theorem reportsInOrder_hits {topic : List String} (plain : PlainLevels topic) (trie : Trie α) :
    trie.ReportsInOrder topic (trie.root.hits topic) := by
  have sorted := Node.inSearchOrder_hits plain trie.root
  refine ⟨?_, fun path payload => ?_, sorted.imp_of_mem ?_⟩
  · exact List.pairwise_map.mpr (sorted.imp fun less same => absurd (same ▸ less) (lt_irrefl _))
  · rw [Node.mem_hits plain, stored?_eq_some_iff]
  · intro first second firstHit secondHit less
    exact reportedBefore_of_searchKey_lt ((Node.mem_hits plain).mp firstHit).2
      ((Node.mem_hits plain).mp secondHit).2 less

end Trie

namespace Subscriptions

/-- The guarantees that a topic reports for one client, in order. -/
def reported (subscriptions : Subscriptions) (client topic : String) :
    Except TopicError (List Qos) :=
  (subscriptions.recipients topic).map fun recipients =>
    (recipients.filter fun recipient => recipient.1 = client).map Prod.snd

/-- The filters of a client that match a topic, each of them once and with the guarantee that is
granted on it, in the order in which they are reported. -/
structure ReportsInOrder (subscriptions : Subscriptions) (client topic : String)
    (filters : List (String × Qos)) : Prop where
  once : (filters.map Prod.fst).Nodup
  mem : ∀ filter granted, (filter, granted) ∈ filters ↔
    (filter, granted) ∈ subscriptions.filtersOf client ∧ topicMatches filter topic = true
  inOrder : filters.Pairwise fun first second =>
    ReportedBefore (levelsOf first.1) (levelsOf second.1)

variable {subscriptions : Subscriptions} {client topic : String}

theorem reported_eq (sound : subscriptions.Sound)
    (valid : nameFault? subscriptions.maxLevels topic = none) :
    subscriptions.reported client topic =
      .ok ((subscriptions.found client topic).map Subscription.granted) := by
  rw [reported, recipients_eq, valid]
  apply congrArg Except.ok
  beta_reduce
  rw [List.filter_map, List.map_map, ← filter_hits sound (plainLevels_of_valid valid)]
  rfl

theorem reportsInOrder_found (sound : subscriptions.Sound) (client topic : String) :
    subscriptions.ReportsInOrder client topic
      ((subscriptions.found client topic).map fun subscription =>
        (subscription.filter, subscription.granted)) := by
  have different {first second : Subscription} (firstFound : first ∈ subscriptions.found client topic)
      (secondFound : second ∈ subscriptions.found client topic) (distinct : first ≠ second) :
      first.filter ≠ second.filter := by
    obtain ⟨firstLive, firstOwn⟩ := own_of_mem_found firstFound
    obtain ⟨secondLive, secondOwn⟩ := own_of_mem_found secondFound
    intro same
    exact distinct (eq_of_live sound firstLive secondLive same (firstOwn.trans secondOwn.symm))
  have distinct := nodup_found sound client topic
  refine ⟨?_, fun filter granted => ?_, ?_⟩
  · rw [List.map_map]
    exact List.pairwise_map.mpr (distinct.imp_of_mem different)
  · rw [mem_filtersOf, List.mem_map]
    constructor
    · rintro ⟨⟨_, _, _⟩, found, same⟩
      cases same
      obtain ⟨live, rfl, applies⟩ := mem_found.mp found
      exact ⟨live, applies⟩
    · rintro ⟨live, applies⟩
      exact ⟨⟨filter, client, granted⟩, mem_found.mpr ⟨live, rfl, applies⟩, rfl⟩
  · rw [List.pairwise_map]
    have sorted := List.pairwise_insertionSort FoundBefore
      (subscriptions.live.filter fun subscription =>
        subscription.client = client ∧ topicMatches subscription.filter topic)
    refine (sorted.and distinct).imp_of_mem ?_
    rintro first second firstFound secondFound ⟨notLater, unequal⟩
    have keys : searchKey (levelsOf first.filter) ≠ searchKey (levelsOf second.filter) := fun same =>
      different firstFound secondFound unequal (levelsOf_injective (searchKey_injective same))
    exact reportedBefore_of_searchKey_lt (mem_found.mp firstFound).2.2
      (mem_found.mp secondFound).2.2 (lt_of_le_of_ne notLater keys)

end Subscriptions

/-- A search reports the stored paths that match a topic in the order of their turns.  For one
client this is the order of its own filters, and whatever else has been subscribed or removed, the
same filters report the same guarantees. -/
theorem reports_in_order :
    (∀ {α : Type} [Vacancy α] (trie : Trie α) (topic : List String), PlainLevels topic →
      ∃ reported, trie.ReportsInOrder topic reported ∧
        trie.matching topic = reported.map Prod.snd) ∧
    ∀ (maxQos : Qos) (maxLevels : Nat) (history : List Subscriptions.Change)
      (client topic : String), checkName maxLevels topic = .ok () →
      let subscriptions := (Subscriptions.empty maxQos maxLevels).after history
      (∃ filters, subscriptions.ReportsInOrder client topic filters ∧
        subscriptions.reported client topic = .ok (filters.map Prod.snd)) ∧
      ∀ (otherQos : Qos) (otherLevels : Nat) (otherHistory : List Subscriptions.Change),
        checkName otherLevels topic = .ok () →
        let other := (Subscriptions.empty otherQos otherLevels).after otherHistory
        (∀ entry, entry ∈ other.filtersOf client ↔ entry ∈ subscriptions.filtersOf client) →
          other.reported client topic = subscriptions.reported client topic := by
  refine ⟨fun trie topic plain => ?_, fun maxQos maxLevels history client topic valid => ?_⟩
  · exact ⟨_, Trie.reportsInOrder_hits plain trie, (Node.map_snd_hits topic trie.root).symm⟩
  · intro subscriptions
    have sound : subscriptions.Sound := (Subscriptions.sound_empty maxQos maxLevels).after history
    have levels : subscriptions.maxLevels = maxLevels := (Subscriptions.limits_after _ history).1
    rw [checkName_eq_ok_iff, ← levels] at valid
    have reported : subscriptions.reported client topic = _ :=
      Subscriptions.reported_eq sound valid
    refine ⟨⟨_, Subscriptions.reportsInOrder_found sound client topic, ?_⟩, ?_⟩
    · rw [reported, List.map_map]
      rfl
    · intro otherQos otherLevels otherHistory otherValid other same
      have otherSound : other.Sound :=
        (Subscriptions.sound_empty otherQos otherLevels).after otherHistory
      have sameLevels : other.maxLevels = otherLevels :=
        (Subscriptions.limits_after _ otherHistory).1
      rw [checkName_eq_ok_iff, ← sameLevels] at otherValid
      rw [reported, Subscriptions.reported_eq otherSound otherValid,
        Subscriptions.found_congr sound otherSound
          ((Subscriptions.mem_filtersOf_congr sound otherSound).mp same)]

/-- One stored path goes on behind a `#`, and a client comes to the same filters in two ways. -/
theorem reports_in_order_despite_order_of_changes :
    let trie : Trie (Option ℕ) :=
      [(["a", "b"], 1), (["a", "#", "b"], 2), (["a", "b", "#"], 3), (["a", "+"], 4), (["#"], 5)].foldl
        (fun trie entry => (trie.upsert entry.1 fun _ => (some entry.2, ())).1) Trie.empty
    let history : List Subscriptions.Change :=
      [.subscribe "a/b" "ann" .atMostOnce, .subscribe "#" "bob" .exactlyOnce,
        .subscribe "a/+" "ann" .atLeastOnce, .subscribe "a/b/#" "ann" .exactlyOnce]
    let otherHistory : List Subscriptions.Change :=
      [.subscribe "a/b/#" "ann" .exactlyOnce, .subscribe "a/+" "ann" .exactlyOnce,
        .subscribe "#" "ann" .atMostOnce, .unsubscribe "#" "ann",
        .subscribe "a/+" "ann" .atLeastOnce, .subscribe "a/b" "ann" .atMostOnce]
    let subscriptions := (Subscriptions.empty .exactlyOnce 0).after history
    let other := (Subscriptions.empty .exactlyOnce 3).after otherHistory
    (PlainLevels ["a", "b"] ∧ trie.matching ["a", "b"] = [some 5, some 4, some 3, some 1] ∧
      ∃ reported, trie.ReportsInOrder ["a", "b"] reported ∧
        trie.matching ["a", "b"] = reported.map Prod.snd) ∧
    checkName 0 "a/b" = .ok () ∧ checkName 3 "a/b" = .ok () ∧
      (∀ entry, entry ∈ other.filtersOf "ann" ↔ entry ∈ subscriptions.filtersOf "ann") ∧
      subscriptions.reported "ann" "a/b" = .ok [.atLeastOnce, .exactlyOnce, .atMostOnce] ∧
      other.reported "ann" "a/b" = subscriptions.reported "ann" "a/b" := by
  intro trie history otherHistory subscriptions other
  have plain : PlainLevels ["a", "b"] := by
    unfold PlainLevels
    decide
  have valid : checkName 0 "a/b" = .ok () := by decide +kernel
  have otherValid : checkName 3 "a/b" = .ok () := by decide +kernel
  have sameFilters : other.filtersOf "ann" = subscriptions.filtersOf "ann" := by decide +kernel
  have same (entry : String × Qos) :
      entry ∈ other.filtersOf "ann" ↔ entry ∈ subscriptions.filtersOf "ann" := by
    rw [sameFilters]
  exact ⟨⟨plain, by decide +kernel, reports_in_order.1 trie ["a", "b"] plain⟩, valid, otherValid,
    same, by decide +kernel,
    (reports_in_order.2 .exactlyOnce 0 history "ann" "a/b" valid).2 .exactlyOnce 3 otherHistory
      otherValid same⟩

end TopicBroker

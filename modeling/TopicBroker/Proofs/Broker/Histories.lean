import Mathlib.Data.List.Induction
import TopicBroker.Proofs.Broker.Effects

/-!
# Histories of a broker

Every operation leaves a consistent broker consistent, so by induction on the
history every reachable broker is consistent.  The main consequence is that
operations are all or nothing: what is refused has changed nothing and hands
nothing over.
-/

namespace TopicBroker.Broker

variable {broker : Broker}

section Step

/-- Every operation is refused as a whole or accepted as a whole. -/
theorem settles_perform (consistent : broker.Consistent) (operation : Operation) :
    (broker.perform operation).Settles broker (fun _ => True) (fun _ _ _ => True) :=
  (settles_effect consistent operation).mono (fun _ _ => trivial) fun _ _ _ _ => trivial

theorem Consistent.perform (consistent : broker.Consistent) (operation : Operation) :
    broker.Continues (broker.perform operation).broker := by
  cases operation with
  | subscribe filter client qos => exact consistent.subscribe filter client qos
  | unsubscribe filter client => exact consistent.unsubscribe filter client
  | unsubscribeAll client => exact ⟨consistent.unsubscribeAll client, rfl⟩
  | publish topic payload qos retain => exact consistent.publish topic payload qos retain
  | retain topic payload qos => exact consistent.retain topic payload qos
  | createSession client connection => exact consistent.createSession client connection
  | resumeSession client connection => exact consistent.resumeSession client connection
  | suspendSession client => exact consistent.suspendSession client
  | removeSession client => exact consistent.removeSession client
  | connect request connection generated => exact consistent.connect connection request generated
  | release client token ending => exact consistent.release client token ending

end Step

section Run

theorem run_append (broker : Broker) (earlier later : List Operation) :
    broker.run (earlier ++ later) = (broker.run earlier).run later := by
  simp [run]

theorem run_append_singleton (broker : Broker) (history : List Operation) (operation : Operation) :
    broker.run (history ++ [operation]) = ((broker.run history).perform operation).broker := by
  simp [run]

theorem Consistent.run (consistent : broker.Consistent) (history : List Operation) :
    broker.Continues (broker.run history) := by
  induction history generalizing broker with
  | nil => exact ⟨consistent, rfl⟩
  | cons operation history ih =>
      have first := consistent.perform operation
      have rest := ih first.consistent
      exact ⟨rest.consistent, rest.settings.trans first.settings⟩

theorem consistent_of_reachable (reachable : broker.Reachable) : broker.Consistent := by
  obtain ⟨settings, history, rfl⟩ := reachable
  exact ((consistent_start settings).run history).consistent

theorem sound_retained_run (settings : BrokerSettings) (history : List Operation) :
    ((start settings).run history).retained.Sound := by
  induction history using List.reverseRecOn with
  | nil => exact Retained.sound_empty settings.maxTopicLevels
  | append_singleton earlier operation ih =>
      have consistent := ((consistent_start settings).run earlier).consistent
      rw [run_append_singleton]
      rcases settles_effect consistent operation with
        ⟨error, refused, _⟩ | ⟨reply, after, deliveries, accepted, effect⟩
      · rw [refused]
        exact ih
      · rw [accepted]
        exact ih.takes effect.takes

/-- An operation that is refused leaves every part of the broker as it was and hands nothing over. -/
theorem unchanged_of_refused (reachable : broker.Reachable) (operation : Operation)
    {error : BrokerError} (refused : (broker.perform operation).result = .error error) :
    (broker.perform operation).broker = broker ∧ (broker.perform operation).deliveries = [] := by
  have settles := settles_perform (consistent_of_reachable reachable) operation
  obtain ⟨unchanged, silent, _⟩ := settles.of_error refused
  exact ⟨unchanged, silent⟩

/-- A client that is here cannot be given a second session. -/
theorem unchanged_of_second_session :
    let broker := (start default).run [.createSession "ann" ⟨0⟩, .subscribe "a/+" "ann" .atLeastOnce]
    let outcome := broker.perform (.createSession "ann" ⟨1⟩)
    outcome.result = .error (.session (.alreadyActive "ann")) ∧
      outcome.broker = broker ∧ outcome.deliveries = [] := by
  have refused : (((start default).run [.createSession "ann" ⟨0⟩,
      .subscribe "a/+" "ann" .atLeastOnce]).perform (.createSession "ann" ⟨1⟩)).result =
        .error (.session (.alreadyActive "ann")) := by
    decide +kernel
  exact ⟨refused, unchanged_of_refused ⟨default, _, rfl⟩ _ refused⟩

end Run

end TopicBroker.Broker

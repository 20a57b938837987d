import Mathlib.Data.List.DropRight
import TopicBroker.Session.Basic

/-!
# What waits for a client

A backlog keeps the last of the messages that were pushed into it, as many as
it has room for.  So pushing one message after the other comes to the same as
appending all of them and keeping the last ones, and it does not matter in how
many goes they are pushed.
-/

namespace TopicBroker

section Last

variable {α : Type} (count : Nat) (earlier later : List α)

/-- What is dropped first would have been dropped later. -/
theorem rtake_append_rtake :
    (earlier.rtake count ++ later).rtake count = (earlier ++ later).rtake count := by
  simp only [List.rtake, List.length_append, List.length_drop, List.drop_append, List.drop_drop]
  congr 1
  · congr 1
    omega
  · congr 1
    omega

theorem rtake_of_length_le (fits : earlier.length ≤ count) : earlier.rtake count = earlier := by
  rw [List.rtake, Nat.sub_eq_zero_of_le fits, List.drop_zero]

theorem length_rtake_le : (earlier.rtake count).length ≤ count := by
  rw [List.rtake, List.length_drop]
  omega

end Last

namespace Backlog

/-- No more messages wait than there is room for. -/
def Fits (backlog : Backlog) : Prop := backlog.messages.length ≤ backlog.capacity

def pushAll (backlog : Backlog) (messages : List Publish) : Backlog :=
  messages.foldl (fun backlog message => (backlog.push message).1) backlog

variable {backlog : Backlog}

@[simp]
theorem pushAll_nil (backlog : Backlog) : backlog.pushAll [] = backlog := rfl

@[simp]
theorem pushAll_cons (backlog : Backlog) (message : Publish) (messages : List Publish) :
    backlog.pushAll (message :: messages) = (backlog.push message).1.pushAll messages := rfl

theorem fits_empty (capacity : Nat) : (empty capacity).Fits := Nat.zero_le capacity

theorem push_fst (fits : backlog.Fits) (message : Publish) :
    (backlog.push message).1 =
      { backlog with messages := (backlog.messages ++ [message]).rtake backlog.capacity } := by
  unfold Fits at fits
  unfold push
  by_cases noRoom : backlog.capacity = 0
  · have nothing : backlog.messages = [] := List.length_eq_zero_iff.mp (by omega)
    cases backlog
    simp_all
  · rw [if_neg noRoom]
    apply congrArg (Backlog.mk backlog.capacity)
    -- A full backlog holds as many messages as there is room for, so the oldest one is too many.
    by_cases full : backlog.capacity ≤ backlog.messages.length
    · have length : backlog.messages.length + 1 - backlog.capacity = 1 := by omega
      have one : 1 ≤ backlog.messages.length := by omega
      rw [if_pos full, List.rtake, List.length_append, List.length_singleton, length,
        List.drop_append_of_le_length one]
    · rw [if_neg full, rtake_of_length_le]
      rw [List.length_append, List.length_singleton]
      omega

theorem pushAll_eq (fits : backlog.Fits) (messages : List Publish) :
    backlog.pushAll messages =
      { backlog with messages := (backlog.messages ++ messages).rtake backlog.capacity } := by
  induction messages generalizing backlog with
  | nil =>
      rw [List.append_nil, rtake_of_length_le _ _ fits]
      rfl
  | cons message messages ih =>
      have pushed := push_fst fits message
      have stillFits : (backlog.push message).1.Fits := by
        rw [pushed]
        exact length_rtake_le _ _
      rw [pushAll_cons, ih stillFits, pushed]
      simp only [rtake_append_rtake, List.append_assoc, List.singleton_append]

theorem Fits.pushAll (fits : backlog.Fits) (messages : List Publish) :
    (backlog.pushAll messages).Fits := by
  rw [pushAll_eq fits]
  exact length_rtake_le _ _

end Backlog

namespace Session

/-- The session after messages have arrived for its client one after the other: they wait unless
the client is here. -/
def await (session : Session) (messages : List Publish) : Session :=
  if session.isActive then session
  else { session with backlog := session.backlog.pushAll messages }

@[simp]
theorem await_nil (session : Session) : session.await [] = session := by
  simp [await]

theorem await_of_isActive {session : Session} (here : session.isActive = true)
    (messages : List Publish) : session.await messages = session :=
  if_pos here

@[simp]
theorem link_await (session : Session) (messages : List Publish) :
    (session.await messages).link = session.link := by
  unfold await
  split <;> rfl

@[simp]
theorem will_await (session : Session) (messages : List Publish) :
    (session.await messages).will = session.will := by
  unfold await
  split <;> rfl

theorem await_cons {session : Session} (away : session.link = none) (message : Publish)
    (messages : List Publish) :
    session.await (message :: messages) = (session.enqueue message).1.await messages := by
  simp [await, isActive, enqueue, away]

end Session

end TopicBroker

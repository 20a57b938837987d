import TopicBroker.Broker.Exchange

/-!
# Accounts of outlets

Messages are handed to an outlet one after the other, and they leave it when the
client takes them or when the receiving end is closed.  The account of an outlet
sets the messages that it admitted against those that have left it and those
that still wait.  Accounts of successive periods add up: once an outlet is
closed, nothing is admitted and nothing leaves it any more.
-/

namespace TopicBroker.Outlet

/-- The outlet of a connection that is opened with so much room, or with no limit. -/
def ofRoom : Option Nat → Outlet
  | none => recorder
  | some capacity => channel capacity

/-- Whether an outlet that was opened with so much room takes one more message. -/
def takesMore (room : Option Nat) (outlet : Outlet) : Bool :=
  match room with
  | none => true
  | some capacity => !outlet.closed && decide (outlet.waiting.length < max capacity 1)

/-- Whether the outlet does not refuse a message. -/
def admits (outlet : Outlet) : Bool := !outlet.closed && !outlet.isFull

/-- The outlet after a message has been sent into it, or has been dropped because it was refused. -/
def offered (outlet : Outlet) (message : Publish) : Outlet :=
  match outlet.send message with
  | .ok changed => changed
  | .error _ => outlet

/-- The messages that were not refused by the outlet as they found it. -/
def admitted (handed : List (Publish × Outlet)) : List Publish :=
  (handed.filter fun entry => entry.2.admits).map Prod.fst

/-- The outlet has changed in a period in which these messages were handed to it, each with the
outlet that it found, these were taken out and discarded, and it was closed or not. -/
structure Account (outlet : Outlet) (handed : List (Publish × Outlet))
    (taken discarded : List Publish) (closes : Prop) (after : Outlet) : Prop where
  capacity : after.capacity = outlet.capacity
  closed : after.closed = true ↔ outlet.closed = true ∨ closes
  foundCapacity : ∀ entry ∈ handed, entry.2.capacity = outlet.capacity
  foundClosed : ∀ entry ∈ handed, (outlet.closed = true → entry.2.closed = true) ∧
    (entry.2.closed = true → after.closed = true)
  balance : taken ++ discarded ++ after.waiting = outlet.waiting ++ admitted handed
  nothingDiscarded : after.closed = false → discarded = []
  nothingWaits : after.closed = true → after.waiting = []
  untouched : outlet.capacity = none → taken = [] ∧ discarded = [] ∧ ¬ closes

theorem sound_ofRoom (room : Option Nat) :
    (ofRoom room).closed = true → (ofRoom room).waiting = [] := by
  cases room <;> exact fun _ => rfl

theorem admitted_append (handed further : List (Publish × Outlet)) :
    admitted (handed ++ further) = admitted handed ++ admitted further := by
  simp [admitted]

theorem admitted_eq_nil {handed : List (Publish × Outlet)}
    (closed : ∀ entry ∈ handed, entry.2.closed = true) : admitted handed = [] := by
  have refused : handed.filter (fun entry => entry.2.admits) = [] :=
    List.filter_eq_nil_iff.mpr fun entry member => by simp [admits, closed entry member]
  rw [admitted, refused, List.map_nil]

theorem admitted_of_unlimited {handed : List (Publish × Outlet)}
    (unlimited : ∀ entry ∈ handed, entry.2.capacity = none)
    (opened : ∀ entry ∈ handed, entry.2.closed = false) :
    admitted handed = handed.map Prod.fst := by
  have all : handed.filter (fun entry => entry.2.admits) = handed :=
    List.filter_eq_self.mpr fun entry member => by
      simp [admits, isFull, unlimited entry member, opened entry member]
  rw [admitted, all]

theorem admitted_of_limited {capacity : Nat} {handed : List (Publish × Outlet)}
    (limited : ∀ entry ∈ handed, entry.2.capacity = some (max capacity 1)) :
    admitted handed =
      (handed.filter fun entry => entry.2.takesMore (some capacity)).map Prod.fst := by
  refine congrArg (List.map Prod.fst) (List.filter_congr fun entry member => ?_)
  simp only [takesMore, admits, isFull, limited entry member, ← decide_not, Nat.not_le]

variable {outlet : Outlet}

theorem admits_iff : outlet.admits = true ↔ outlet.closed = false ∧ outlet.isFull = false := by
  simp [admits]

theorem offered_of_admits (message : Publish) (admits : outlet.admits = true) :
    outlet.offered message = { outlet with waiting := outlet.waiting ++ [message] } := by
  obtain ⟨opened, room⟩ := admits_iff.mp admits
  simp [offered, send, opened, room]

theorem offered_of_not_admits (message : Publish) (refuses : outlet.admits = false) :
    outlet.offered message = outlet := by
  unfold offered send
  cases closed : outlet.closed with
  | true => rfl
  | false =>
      have full : outlet.isFull = true := by simpa [admits, closed] using refuses
      simp [full]

namespace Account

variable {closes : Prop}

section Periods

variable {between after : Outlet} {handed further : List (Publish × Outlet)}
variable {taken takenLater discarded discardedLater : List Publish} {closesLater : Prop}

theorem staysClosed (account : outlet.Account handed taken discarded closes after)
    (closed : outlet.closed = true) : after.closed = true :=
  account.closed.mpr (Or.inl closed)

theorem staysOpen (account : outlet.Account handed taken discarded closes after)
    (opened : after.closed = false) : outlet.closed = false := by
  cases closed : outlet.closed with
  | false => rfl
  | true => exact (account.staysClosed closed).symm.trans opened

theorem trans (first : outlet.Account handed taken discarded closes between)
    (second : between.Account further takenLater discardedLater closesLater after) :
    outlet.Account (handed ++ further) (taken ++ takenLater) (discarded ++ discardedLater)
      (closes ∨ closesLater) after where
  capacity := second.capacity.trans first.capacity
  closed := by rw [second.closed, first.closed, or_assoc]
  foundCapacity entry member := by
    rcases List.mem_append.mp member with earlier | later
    · exact first.foundCapacity entry earlier
    · exact (second.foundCapacity entry later).trans first.capacity
  foundClosed entry member := by
    rcases List.mem_append.mp member with earlier | later
    · obtain ⟨still, stays⟩ := first.foundClosed entry earlier
      exact ⟨still, fun found => second.staysClosed (stays found)⟩
    · obtain ⟨still, stays⟩ := second.foundClosed entry later
      exact ⟨fun closed => still (first.staysClosed closed), stays⟩
  balance := by
    have before := first.balance
    have since := second.balance
    rw [admitted_append]
    cases closed : between.closed with
    | false =>
        rw [first.nothingDiscarded closed] at before ⊢
        rw [← List.append_assoc outlet.waiting, ← before]
        simpa using since
    | true =>
        -- A closed outlet admits nothing and has nothing that could leave it.
        have nothing : admitted further = [] :=
          admitted_eq_nil fun entry member => (second.foundClosed entry member).1 closed
        rw [first.nothingWaits closed, nothing] at since
        simp only [List.append_nil, List.append_eq_nil_iff] at since
        obtain ⟨⟨rfl, rfl⟩, waiting⟩ := since
        rw [first.nothingWaits closed] at before
        simpa [nothing, waiting] using before
  nothingDiscarded opened := by
    rw [second.nothingDiscarded opened, first.nothingDiscarded (second.staysOpen opened),
      List.append_nil]
  nothingWaits := second.nothingWaits
  untouched unlimited := by
    obtain ⟨rfl, rfl, stays⟩ := first.untouched unlimited
    obtain ⟨rfl, rfl, staysLater⟩ := second.untouched (first.capacity.trans unlimited)
    exact ⟨rfl, rfl, not_or.mpr ⟨stays, staysLater⟩⟩

theorem open_recorder (account : recorder.Account handed taken discarded closes after) :
    after.closed = false :=
  Bool.eq_false_iff.mpr fun closed =>
    (account.closed.mp closed).elim Bool.false_ne_true (account.untouched rfl).2.2

theorem admitted_recorder (account : recorder.Account handed taken discarded closes after) :
    admitted handed = handed.map Prod.fst := by
  refine admitted_of_unlimited account.foundCapacity fun entry member =>
    Bool.eq_false_iff.mpr fun closed => ?_
  have closes := (account.foundClosed entry member).2 closed
  rw [account.open_recorder] at closes
  cases closes

/-- A recorder stays open and keeps all that it is handed. -/
theorem after_recorder (account : recorder.Account handed taken discarded closes after) :
    after = { recorder with waiting := handed.map Prod.fst } := by
  obtain ⟨rfl, rfl, _⟩ := account.untouched rfl
  have waiting : after.waiting = handed.map Prod.fst := by
    rw [← account.admitted_recorder]
    exact account.balance
  calc after = ⟨after.capacity, after.waiting, after.closed⟩ := rfl
    _ = ⟨recorder.capacity, handed.map Prod.fst, false⟩ := by
      rw [account.capacity, waiting, account.open_recorder]

/-- What is admitted depends on the room with which the outlet was opened. -/
theorem admitted_room {room : Option Nat}
    (account : (ofRoom room).Account handed taken discarded closes after) :
    admitted handed = (handed.filter fun entry => entry.2.takesMore room).map Prod.fst := by
  cases room with
  | none =>
      rw [account.admitted_recorder, List.filter_eq_self.mpr]
      exact fun _ _ => rfl
  | some capacity => exact admitted_of_limited account.foundCapacity

end Periods

section Steps

theorem ofClose (closing : closes) (limited : outlet.capacity ≠ none) :
    outlet.Account [] [] outlet.waiting closes outlet.close where
  capacity := rfl
  closed := iff_of_true rfl (Or.inr closing)
  foundCapacity := by simp
  foundClosed := by simp
  balance := by simp [close, admitted]
  nothingDiscarded opened := by cases opened
  nothingWaits _ := rfl
  untouched unlimited := (limited unlimited).elim

variable (sound : outlet.closed = true → outlet.waiting = [])
variable (silent : ¬ closes)
include sound silent

theorem refl : outlet.Account [] [] [] closes outlet where
  capacity := rfl
  closed := by simp [silent]
  foundCapacity := by simp
  foundClosed := by simp
  balance := by simp [admitted]
  nothingDiscarded _ := rfl
  nothingWaits := sound
  untouched _ := ⟨rfl, rfl, silent⟩

theorem ofOffered (message : Publish) :
    outlet.Account [(message, outlet)] [] [] closes (outlet.offered message) := by
  cases admits : outlet.admits with
  | false =>
      rw [offered_of_not_admits message admits]
      exact { refl sound silent with
        foundCapacity := by simp
        foundClosed := by simp
        balance := by simp [admitted, admits] }
  | true =>
      rw [offered_of_admits message admits]
      obtain ⟨opened, _⟩ := admits_iff.mp admits
      exact { refl sound silent with
        foundCapacity := by simp
        foundClosed := by simp
        balance := by simp [admitted, admits]
        nothingWaits := by simp [opened] }

theorem ofReceive (limited : outlet.capacity ≠ none) :
    outlet.Account [] outlet.receive.2.toList [] closes outlet.receive.1 :=
  { refl sound silent with
    balance := by
      simp only [receive, admitted]
      cases outlet.waiting <;> simp
    nothingWaits := fun closed => by simp [receive, sound closed]
    untouched := fun unlimited => (limited unlimited).elim }

theorem ofDrain (limited : outlet.capacity ≠ none) :
    outlet.Account [] outlet.drain.2 [] closes outlet.drain.1 :=
  { refl sound silent with
    balance := by simp [drain, admitted]
    nothingWaits := fun _ => rfl
    untouched := fun unlimited => (limited unlimited).elim }

end Steps

end Account

end TopicBroker.Outlet

import Mathlib.Data.List.Induction

/-!
# What has held since

Often a state has a property because one step of its history brought the
property about and no later step has ended it.  `HeldSince` says so of the
history alone.  If every single step goes along with it, the property holds in
the last state exactly if it has been held since some step.
-/

namespace TopicBroker

variable {State Step : Type} (next : State → Step → State)

/-- No step of a run is of the given kind, where each step is judged in the state in which it is
taken. -/
def Never (kind : State → Step → Prop) : State → List Step → Prop
  | _, [] => True
  | state, step :: steps => ¬ kind state step ∧ Never kind (next state step) steps

/-- Some step of a history brings a property about, and no later step ends it. -/
def HeldSince (brings ends : State → Step → Prop) (start : State) (history : List Step) : Prop :=
  ∃ earlier step later, history = earlier ++ step :: later ∧
    brings (earlier.foldl next start) step ∧
    Never next ends (next (earlier.foldl next start) step) later

variable {next} {kind other brings ends : State → Step → Prop} {start : State}

theorem never_append (state : State) (first second : List Step) :
    Never next kind state (first ++ second) ↔
      Never next kind state first ∧ Never next kind (first.foldl next state) second := by
  induction first generalizing state with
  | nil => simp [Never]
  | cons step steps ih => simp [Never, ih, and_assoc]

theorem Never.mono {state : State} {steps : List Step} (never : Never next kind state steps)
    (implies : ∀ state step, other state step → kind state step) :
    Never next other state steps := by
  induction steps generalizing state with
  | nil => trivial
  | cons step steps ih => exact ⟨mt (implies state step) never.1, ih never.2⟩

theorem Never.or {state : State} {steps : List Step} (first : Never next kind state steps)
    (second : Never next other state steps) :
    Never next (fun state step => kind state step ∨ other state step) state steps := by
  induction steps generalizing state with
  | nil => trivial
  | cons step steps ih =>
      exact ⟨not_or.mpr ⟨first.1, second.1⟩, ih first.2 second.2⟩

theorem not_heldSince_nil : ¬ HeldSince next brings ends start [] := by
  rintro ⟨earlier, step, later, split, _⟩
  simp at split

theorem heldSince_append_singleton (history : List Step) (step : Step) :
    HeldSince next brings ends start (history ++ [step]) ↔
      brings (history.foldl next start) step ∨
        (HeldSince next brings ends start history ∧ ¬ ends (history.foldl next start) step) := by
  constructor
  · rintro ⟨earlier, bringing, later, split, brought, never⟩
    rcases List.eq_nil_or_concat later with rfl | ⟨between, last, rfl⟩
    · obtain ⟨rfl, same⟩ := List.append_inj' split rfl
      exact Or.inl (List.singleton_inj.mp same ▸ brought)
    · rw [List.concat_eq_append] at split never
      rw [← List.cons_append, ← List.append_assoc] at split
      obtain ⟨rfl, same⟩ := List.append_inj' split rfl
      obtain rfl := List.singleton_inj.mp same
      rw [never_append] at never
      refine Or.inr ⟨⟨earlier, bringing, between, rfl, brought, never.1⟩, ?_⟩
      rw [List.foldl_append]
      exact never.2.1
  · rintro (brought | ⟨⟨earlier, bringing, later, rfl, brought, never⟩, spared⟩)
    · exact ⟨history, step, [], rfl, brought, trivial⟩
    · refine ⟨earlier, bringing, later ++ [step], by simp, brought, ?_⟩
      rw [List.foldl_append] at spared
      exact (never_append ..).mpr ⟨never, spared, trivial⟩

/-- A property that every step brings about, ends or leaves alone holds after a history exactly if
it has been held since some step.  The law of a single step may rely on an invariant. -/
theorem holds_iff_heldSince {property invariant : State → Prop} (lacking : ¬ property start)
    (initially : invariant start)
    (keeps : ∀ state step, invariant state → invariant (next state step))
    (law : ∀ state step, invariant state →
      (property (next state step) ↔ brings state step ∨ (property state ∧ ¬ ends state step)))
    (history : List Step) :
    property (history.foldl next start) ↔ HeldSince next brings ends start history := by
  have always (history : List Step) : invariant (history.foldl next start) :=
    List.foldlRecOn history next initially fun state kept step _ => keeps state step kept
  induction history using List.reverseRecOn with
  | nil => exact iff_of_false lacking not_heldSince_nil
  | append_singleton earlier step ih =>
      rw [List.foldl_append, heldSince_append_singleton]
      exact (law _ step (always earlier)).trans (or_congr_right (and_congr_left' ih))

/-- As long as no step brings a property about or ends it, the property stays as it is. -/
theorem holds_iff_of_never {property invariant : State → Prop} {state : State}
    {steps : List Step} (initially : invariant state)
    (keeps : ∀ state step, invariant state → invariant (next state step))
    (law : ∀ state step, invariant state →
      (property (next state step) ↔ brings state step ∨ (property state ∧ ¬ ends state step)))
    (notBrought : Never next brings state steps) (spared : Never next ends state steps) :
    property (steps.foldl next state) ↔ property state := by
  induction steps generalizing state with
  | nil => rfl
  | cons step steps ih =>
      rw [List.foldl_cons, ih (keeps state step initially) notBrought.2 spared.2,
        law state step initially]
      have notNow := notBrought.1
      have sparedNow := spared.1
      tauto

end TopicBroker

import ChipEight.Proofs.Bounds

/-!
# What lasts from the past of a run

Some facts about a machine go back to an event of its run and last until another action ends them:
a byte was stored and the machine was not started again since, or the index was moved somewhere and
not pointed elsewhere since.  `Outstanding` says of a run that there was such an event.

A property that begins with the event only, and ends only with the actions that end it, holds after
a run exactly if an event is outstanding.  Each half is an induction over the actions, which carries
along that the machine between two of them is bounded.
-/

namespace ChipEight.Machine

variable {event ends : Machine → Action → Prop}

/-- No action of the run ends what was before. -/
def Lasts (ends : Machine → Action → Prop) : Machine → List Action → Prop
  | _, [] => True
  | machine, action :: rest =>
      ¬ ends machine action ∧ Lasts ends (machine.perform action).machine rest

/-- The run has an event that no later action of it ends. -/
def Outstanding (event ends : Machine → Action → Prop) : Machine → List Action → Prop
  | _, [] => False
  | machine, action :: rest =>
      event machine action ∧ Lasts ends (machine.perform action).machine rest ∨
        Outstanding event ends (machine.perform action).machine rest

instance decidableLasts [∀ machine action, Decidable (ends machine action)] :
    (machine : Machine) → (actions : List Action) → Decidable (Lasts ends machine actions)
  | _, [] => inferInstanceAs (Decidable True)
  | machine, action :: rest =>
      have := decidableLasts (machine.perform action).machine rest
      inferInstanceAs (Decidable (¬ ends machine action ∧
        Lasts ends (machine.perform action).machine rest))

instance decidableOutstanding
    [∀ machine action, Decidable (event machine action)]
    [∀ machine action, Decidable (ends machine action)] :
    (machine : Machine) → (actions : List Action) →
      Decidable (Outstanding event ends machine actions)
  | _, [] => inferInstanceAs (Decidable False)
  | machine, action :: rest =>
      have := decidableOutstanding (machine.perform action).machine rest
      inferInstanceAs (Decidable (
        event machine action ∧ Lasts ends (machine.perform action).machine rest ∨
          Outstanding event ends (machine.perform action).machine rest))

/-! ## A property that begins with an event -/

/-- What begins with an event only was there before the run or goes back to an event of it. -/
theorem outstanding_of_performAll
    (property : Machine → Prop)
    (begins : ∀ machine action, machine.Bounded → property (machine.perform action).machine →
      event machine action ∨ (property machine ∧ ¬ ends machine action))
    {machine : Machine} (bounded : machine.Bounded) {actions : List Action}
    (holds : property (machine.performAll actions)) :
    (property machine ∧ Lasts ends machine actions) ∨ Outstanding event ends machine actions := by
  induction actions generalizing machine with
  | nil => exact Or.inl ⟨holds, trivial⟩
  | cons action rest later =>
      rw [performAll_cons] at holds
      rcases later (bounded.perform action) holds with ⟨after, lasts⟩ | outstanding
      · rcases begins machine action bounded after with happened | ⟨before, goesOn⟩
        · exact Or.inr (Or.inl ⟨happened, lasts⟩)
        · exact Or.inl ⟨before, goesOn, lasts⟩
      · exact Or.inr (Or.inr outstanding)

/-- What only the ending actions end holds after a run without them. -/
theorem performAll_of_lasts
    (property : Machine → Prop)
    (goesOn : ∀ machine action, machine.Bounded → property machine → ¬ ends machine action →
      property (machine.perform action).machine)
    {machine : Machine} (bounded : machine.Bounded) {actions : List Action}
    (holds : property machine) (lasts : Lasts ends machine actions) :
    property (machine.performAll actions) := by
  induction actions generalizing machine with
  | nil => exact holds
  | cons action rest later =>
      rw [performAll_cons]
      exact later (bounded.perform action) (goesOn machine action bounded holds lasts.1) lasts.2

/-- What an event brings about holds for as long as the event is outstanding. -/
theorem performAll_of_outstanding
    (property : Machine → Prop)
    (happens : ∀ machine action, machine.Bounded → event machine action →
      property (machine.perform action).machine)
    (goesOn : ∀ machine action, machine.Bounded → property machine → ¬ ends machine action →
      property (machine.perform action).machine)
    {machine : Machine} (bounded : machine.Bounded) {actions : List Action}
    (outstanding : Outstanding event ends machine actions) :
    property (machine.performAll actions) := by
  induction actions generalizing machine with
  | nil => cases outstanding
  | cons action rest later =>
      rw [performAll_cons]
      rcases outstanding with ⟨happened, lasts⟩ | outstanding
      · exact performAll_of_lasts property goesOn (bounded.perform action)
          (happens machine action bounded happened) lasts
      · exact later (bounded.perform action) outstanding

/-! ## The last ending action -/

/-- Either nothing of the run ends what was before, or some action is the last one that does. -/
theorem lasts_or_exists_last (ends : Machine → Action → Prop) (machine : Machine)
    (actions : List Action) :
    Lasts ends machine actions ∨
      ∃ before action after, actions = before ++ action :: after ∧
        ends (machine.performAll before) action ∧
          Lasts ends ((machine.performAll before).perform action).machine after := by
  induction actions generalizing machine with
  | nil => exact Or.inl trivial
  | cons action rest later =>
      rcases later (machine.perform action).machine with
        lasts | ⟨before, last, after, rfl, happened, lasts⟩
      · by_cases happened : ends machine action
        · exact Or.inr ⟨[], action, rest, rfl, happened, lasts⟩
        · exact Or.inl ⟨happened, lasts⟩
      · exact Or.inr ⟨action :: before, last, after, rfl, happened, lasts⟩

end ChipEight.Machine

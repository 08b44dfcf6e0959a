import ChipEight.Machine.Action

/-!
# Reachable machines

A machine is reachable if some sequence of actions makes it of a new machine.  The random source of
the new machine is arbitrary, and so are the actions: steps may fail, programs may be refused, and
the host may write the keypad at any time.

Whatever holds of every new machine and is kept by every action holds of all reachable machines.
`performAll_invariant` is the induction behind it; it also serves runs in which only some actions
are allowed.
-/

namespace ChipEight.Machine

@[simp]
theorem performAll_nil (machine : Machine) : machine.performAll [] = machine :=
  rfl

@[simp]
theorem performAll_cons (machine : Machine) (action : Action) (rest : List Action) :
    machine.performAll (action :: rest) = (machine.perform action).machine.performAll rest :=
  rfl

theorem performAll_append (machine : Machine) (first second : List Action) :
    machine.performAll (first ++ second) = (machine.performAll first).performAll second := by
  simp [performAll]

/-- What every allowed action keeps is kept by a sequence of allowed actions. -/
theorem performAll_invariant
    {property : Machine → Prop} {allowed : Action → Prop}
    (kept : ∀ machine action,
      allowed action → property machine → property (machine.perform action).machine)
    {machine : Machine} (initial : property machine)
    {actions : List Action} (allAllowed : ∀ action ∈ actions, allowed action) :
    property (machine.performAll actions) := by
  induction actions generalizing machine with
  | nil => exact initial
  | cons action rest step =>
      rw [performAll_cons]
      have first : property (machine.perform action).machine :=
        kept machine action (allAllowed action List.mem_cons_self) initial
      exact step first fun later member => allAllowed later (List.mem_cons_of_mem action member)

/-- Some sequence of actions, failed ones included, makes this machine of a new one. -/
def Reachable (machine : Machine) : Prop :=
  ∃ (random : Random) (actions : List Action),
    (create random).machine.performAll actions = machine

theorem reachable_create (random : Random) : (create random).machine.Reachable :=
  ⟨random, [], rfl⟩

namespace Reachable

/-- What can be reached stays within reach under any actions. -/
theorem performAll {machine : Machine} (reachable : machine.Reachable) (actions : List Action) :
    (machine.performAll actions).Reachable := by
  rcases reachable with ⟨random, before, rfl⟩
  exact ⟨random, before ++ actions, performAll_append _ before actions⟩

/-- What holds of new machines and is kept by every action holds of reachable machines. -/
theorem invariant
    {property : Machine → Prop}
    (initial : ∀ random, property (create random).machine)
    (kept : ∀ machine action, property machine → property (machine.perform action).machine)
    {machine : Machine} (reachable : machine.Reachable) : property machine := by
  rcases reachable with ⟨random, actions, rfl⟩
  exact performAll_invariant (fun machine action (_ : True) => kept machine action)
    (initial random) fun _ _ => trivial

end Reachable

end ChipEight.Machine

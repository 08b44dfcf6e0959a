/-!
# The call stack

Sixteen slots for the addresses of calls, and how many of them are in use.  A call writes the
next slot; a return only lowers the depth, so a slot above it keeps what was last written there
until another call replaces it.  `entries` is the view that leaves those slots out.
-/

namespace ChipEight

/-- The slots of the stack and how many of them hold a pending call. -/
structure CallStack where
  slots : Vector UInt16 16
  depth : Nat
deriving DecidableEq

namespace CallStack

/-- How many calls may be pending at once. -/
abbrev capacity : Nat := 16

def empty : CallStack :=
  ⟨Vector.replicate capacity 0, 0⟩

def push (stack : CallStack) (address : UInt16) : CallStack :=
  ⟨stack.slots.setIfInBounds stack.depth address, stack.depth + 1⟩

/-- The address of the last pending call. -/
def top (stack : CallStack) : UInt16 :=
  stack.slots[stack.depth - 1]?.getD 0

def pop (stack : CallStack) : CallStack :=
  { stack with depth := stack.depth - 1 }

/-- The addresses of the pending calls, the first call first. -/
def entries (stack : CallStack) : List UInt16 :=
  stack.slots.toList.take stack.depth

@[simp]
theorem entries_empty : empty.entries = [] :=
  rfl

/-- A call adds its address at the end. -/
theorem entries_push
    (stack : CallStack) (address : UInt16) (room : stack.depth < capacity) :
    (stack.push address).entries = stack.entries ++ [address] := by
  apply List.ext_getElem?
  intro index
  simp only [entries, push, Vector.toList_setIfInBounds, List.getElem?_take,
    List.getElem?_append, List.length_take, Vector.length_toList, List.getElem?_set]
  have full : min stack.depth 16 = stack.depth := Nat.min_eq_left (Nat.le_of_lt room)
  rw [full]
  by_cases below : index < stack.depth
  · have different : stack.depth ≠ index := by omega
    have within : index < stack.depth + 1 := by omega
    simp [below, different, within]
  · by_cases same : index = stack.depth
    · subst same
      simp [room]
    · have above : ¬ index < stack.depth + 1 := by omega
      have rest : index - stack.depth ≠ 0 := by omega
      simp [below, above, rest]

/-- A return takes the last address away. -/
theorem entries_pop (stack : CallStack) (bound : stack.depth ≤ capacity) :
    stack.pop.entries = stack.entries.dropLast := by
  have full : min stack.depth 16 = stack.depth := Nat.min_eq_left bound
  simp [entries, pop, List.dropLast_eq_take, List.take_take, full]

theorem length_entries (stack : CallStack) (bound : stack.depth ≤ capacity) :
    stack.entries.length = stack.depth := by
  simp [entries, Nat.min_eq_left bound]

/-- The last pending call is the one that a return continues. -/
theorem entries_eq_append_top
    (stack : CallStack) (pending : 0 < stack.depth) (bound : stack.depth ≤ capacity) :
    stack.entries = stack.pop.entries ++ [stack.top] := by
  have inside : stack.depth - 1 < capacity := by omega
  have next : stack.depth = stack.depth - 1 + 1 := by omega
  have last : stack.slots.toList[stack.depth - 1]? = some stack.top := by
    simp [top, inside]
  calc
    stack.entries = stack.slots.toList.take (stack.depth - 1 + 1) := by rw [entries, ← next]
    _ = stack.slots.toList.take (stack.depth - 1) ++ [stack.top] := by
      rw [List.take_add_one, last, Option.toList_some]

/-- What a return reads is a live entry. -/
theorem top_mem_entries
    (stack : CallStack) (pending : 0 < stack.depth) (bound : stack.depth ≤ capacity) :
    stack.top ∈ stack.entries := by
  rw [entries_eq_append_top stack pending bound]
  exact List.mem_append_right _ (List.mem_singleton_self _)

end CallStack

end ChipEight

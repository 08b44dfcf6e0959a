/-!
# Dictionaries

Names with what they stand for, each name once, in the order in which the names first came.
Putting a name that is there already replaces its value and keeps its place.
-/

namespace ChipEight

/-- Pairs of a name and a value. -/
abbrev Dictionary (Value : Type) := List (String × Value)

namespace Dictionary

variable {Value : Type}

/-- The value of a name. -/
def find? (dictionary : Dictionary Value) (name : String) : Option Value :=
  match dictionary with
  | [] => none
  | (other, value) :: rest => if name = other then some value else find? rest name

/-- The names, in order. -/
def names (dictionary : Dictionary Value) : List String :=
  dictionary.map (·.1)

/-- The dictionary gives a name a value: the first entry with the name has it. -/
def Gives (dictionary : Dictionary Value) (name : String) (value : Value) : Prop :=
  ∃ before after, dictionary = before ++ (name, value) :: after ∧ name ∉ names before

/-- Give a name a value. -/
def put (dictionary : Dictionary Value) (name : String) (value : Value) : Dictionary Value :=
  match dictionary with
  | [] => [(name, value)]
  | (other, old) :: rest =>
      if other = name then (name, value) :: rest else (other, old) :: put rest name value

@[simp]
theorem find?_nil (name : String) : find? ([] : Dictionary Value) name = none :=
  rfl

theorem find?_cons
    (other : String) (value : Value) (rest : Dictionary Value) (name : String) :
    find? ((other, value) :: rest) name =
      if name = other then some value else find? rest name :=
  rfl

/-- A search finds the value that the dictionary gives. -/
theorem find?_eq_some_iff {dictionary : Dictionary Value} {name : String} {value : Value} :
    dictionary.find? name = some value ↔ dictionary.Gives name value := by
  induction dictionary with
  | nil => simp [Gives]
  | cons entry rest step =>
      rcases entry with ⟨other, first⟩
      rw [find?_cons]
      by_cases same : name = other
      · subst same
        rw [if_pos rfl, Option.some.injEq]
        constructor
        · rintro rfl
          exact ⟨[], rest, rfl, List.not_mem_nil⟩
        · rintro ⟨before, after, split, fresh⟩
          cases before with
          | nil => cases split; rfl
          | cons => cases split; exact absurd List.mem_cons_self fresh
      · rw [if_neg same, step]
        constructor
        · rintro ⟨before, after, rfl, fresh⟩
          exact ⟨(other, first) :: before, after, rfl,
            List.not_mem_cons_of_ne_of_not_mem same fresh⟩
        · rintro ⟨before, after, split, fresh⟩
          cases before with
          | nil => cases split; exact absurd rfl same
          | cons =>
              cases split
              exact ⟨_, after, rfl, fun listed => fresh (List.mem_cons_of_mem _ listed)⟩

/-- A name is given one value at most. -/
theorem Gives.unique
    {dictionary : Dictionary Value} {name : String} {value other : Value}
    (gives : dictionary.Gives name value) (givesOther : dictionary.Gives name other) :
    value = other :=
  Option.some.inj ((find?_eq_some_iff.mpr gives).symm.trans (find?_eq_some_iff.mpr givesOther))

/-- A name that is given a value occurs. -/
theorem Gives.mem_names
    {dictionary : Dictionary Value} {name : String} {value : Value}
    (gives : dictionary.Gives name value) : name ∈ dictionary.names := by
  rcases gives with ⟨before, after, rfl, _⟩
  simp [names]

/-- A search finds nothing exactly if the name does not occur. -/
theorem find?_eq_none_iff {dictionary : Dictionary Value} {name : String} :
    dictionary.find? name = none ↔ name ∉ dictionary.names := by
  induction dictionary with
  | nil => simp [names]
  | cons entry rest step =>
      by_cases same : name = entry.1
      · simp [find?, names, same]
      · simp [find?, names, same, step]

/-- A name that is put finds its new value, and every other name what it found before. -/
@[simp]
theorem find?_put
    (dictionary : Dictionary Value) (name other : String) (value : Value) :
    (dictionary.put name value).find? other =
      if other = name then some value else dictionary.find? other := by
  induction dictionary with
  | nil => simp [put, find?_cons]
  | cons entry rest step =>
      obtain ⟨first, old⟩ := entry
      by_cases same : first = name
      · subst same
        by_cases asked : other = first <;> simp [put, find?_cons, asked]
      · by_cases asked : other = first
        · subst asked
          simp [put, find?_cons, same]
        · simp [put, find?_cons, same, asked, step]

end Dictionary

end ChipEight

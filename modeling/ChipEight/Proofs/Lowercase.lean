import ChipEight.Text.Lowercase
import Mathlib.Data.Nat.ModEq

/-!
# Lower case once and for all

A text in lower case has itself as its lower case.  No capital is the lower-case form of another
one: a run of capitals either lies clear of the forms that another run maps to, or takes every
second code point and the forms are the ones in between.  The context of a character matters to
capital sigmas alone, and of those none is left.
-/

namespace ChipEight.Text

/-! ## Runs of capitals -/

namespace CaseRun

/--
No form that the run maps to is a capital of the other run: the forms lie before all of these,
behind them, or in between.
-/
def avoids (run other : CaseRun) : Bool :=
  (run.target + (run.last - run.first)).blt other.first || other.last.blt run.target ||
    ((run.first == run.last || run.step % other.step == 0) &&
      other.first % other.step != run.target % other.step)

/-- A run covers the codes between its ends that are a number of its steps from the first. -/
theorem covers_iff (run : CaseRun) (code : Nat) :
    run.covers code = true ↔
      run.first ≤ code ∧ code ≤ run.last ∧ run.step ∣ code - run.first := by
  simp [covers, Nat.dvd_iff_mod_eq_zero, and_assoc]

/-- What a run makes of its codes is never covered by a run that it avoids. -/
theorem not_covers_of_avoids
    {run other : CaseRun} (avoiding : run.avoids other = true) {code : Nat}
    (covered : run.covers code = true) :
    other.covers (run.target + (code - run.first)) = false := by
  rcases (run.covers_iff code).mp covered with ⟨low, high, multiple⟩
  refine Bool.eq_false_iff.mpr fun coveredAgain => ?_
  rcases (other.covers_iff _).mp coveredAgain with ⟨lowAgain, highAgain, multipleAgain⟩
  simp only [avoids, Bool.or_eq_true, Bool.and_eq_true, Nat.blt_eq, beq_iff_eq, bne_iff_ne,
    or_assoc] at avoiding
  rcases avoiding with before | behind | ⟨fits, between⟩
  · omega
  · omega
  · have whole : other.step ∣ code - run.first := by
      rcases fits with single | divides
      · rw [Nat.sub_eq_zero_of_le (single ▸ high)]
        exact Nat.dvd_zero _
      · exact (Nat.dvd_of_mod_eq_zero divides).trans multiple
    have sameTarget : run.target + (code - run.first) ≡ run.target + 0 [MOD other.step] :=
      Nat.ModEq.add_left _ (Nat.modEq_zero_iff_dvd.mpr whole)
    exact between (((Nat.modEq_iff_dvd' lowAgain).mpr multipleAgain).trans sameTarget)

end CaseRun

/-- All capitals: those of ASCII, the capital I with a dot, and those of the runs. -/
def capitals : List CaseRun :=
  ⟨0x41, 0x5A, 1, 0x61⟩ :: ⟨0x130, 0x130, 1, 0x69⟩ :: caseRuns

/-- No run makes a capital, which is checked run by run. -/
theorem caseRuns_avoid_capitals :
    (caseRuns.all fun run => capitals.all run.avoids) = true := by
  decide +kernel

/-! ## Characters in lower case -/

/-- The character is its own lower-case form wherever it stands. -/
def Stays (character : Char) : Prop :=
  character ≠ capitalSigma ∧ lowerChar character = [character]

instance (character : Char) : Decidable (Stays character) :=
  inferInstanceAs (Decidable (_ ∧ _))

theorem stays_toLower_ascii : ∀ code < 0x80, Stays (Char.ofNat code).toLower := by
  decide +kernel

theorem toLower_eq_self_ascii :
    ∀ code < 0x80, CaseRun.covers ⟨0x41, 0x5A, 1, 0x61⟩ code = false →
      (Char.ofNat code).toLower = Char.ofNat code := by
  decide +kernel

/-- Beyond ASCII, what is found among no capitals stays. -/
theorem stays_of_unfound
    {character : Char} (beyond : ¬ character.toNat < 0x80) (undotted : character.toNat ≠ 0x130)
    (unfound : caseRuns.find? (·.covers character.toNat) = none) : Stays character := by
  constructor
  · rintro rfl
    exact absurd unfound (by decide +kernel)
  · rw [lowerChar, if_neg beyond, if_neg undotted, unfound]

theorem stays_of_not_capital
    {character : Char} (small : ∀ run ∈ capitals, run.covers character.toNat = false) :
    Stays character := by
  rcases List.forall_mem_cons.mp small with ⟨notAscii, others⟩
  rcases List.forall_mem_cons.mp others with ⟨notDotted, inNoRun⟩
  by_cases ascii : character.toNat < 0x80
  · have stays := stays_toLower_ascii character.toNat ascii
    rwa [toLower_eq_self_ascii character.toNat ascii notAscii, Char.ofNat_toNat] at stays
  · have undotted : character.toNat ≠ 0x130 := by
      intro dotted
      rw [dotted] at notDotted
      cases notDotted
    refine stays_of_unfound ascii undotted (List.find?_eq_none.mpr fun run listed => ?_)
    rw [inNoRun run listed]
    exact Bool.false_ne_true

/-- A code point that is none stands for the character zero, which stays. -/
theorem stays_ofNat
    {code : Nat} (small : ∀ run ∈ capitals, run.covers code = false) : Stays (Char.ofNat code) := by
  by_cases valid : code.isValidChar
  · have same : (Char.ofNat code).toNat = code := by
      rw [Char.ofNat, dif_pos valid]
      rfl
    exact stays_of_not_capital (by rwa [same])
  · have zero : Char.ofNat code = Char.ofNat 0 := by
      rw [Char.ofNat, dif_neg valid]
      rfl
    rw [zero]
    decide +kernel

/-- Every lower-case form stays. -/
theorem stays_lowerChar (character : Char) : ∀ form ∈ lowerChar character, Stays form := by
  rw [lowerChar]
  split
  case isTrue ascii =>
    have stays := stays_toLower_ascii character.toNat ascii
    rw [Char.ofNat_toNat] at stays
    simpa using stays
  case isFalse beyond =>
    split
    case isTrue =>
      exact List.forall_mem_cons.mpr
        ⟨by decide +kernel, List.forall_mem_singleton.mpr (by decide +kernel)⟩
    case isFalse undotted =>
      split
      case h_1 run found =>
        have listed : run ∈ caseRuns := List.mem_of_find?_eq_some found
        have covered : run.covers character.toNat = true := by
          simpa using List.find?_some found
        have avoiding := List.all_eq_true.mp caseRuns_avoid_capitals run listed
        exact List.forall_mem_singleton.mpr (stays_ofNat fun other listedOther =>
          CaseRun.not_covers_of_avoids (List.all_eq_true.mp avoiding other listedOther) covered)
      case h_2 unfound =>
        exact List.forall_mem_singleton.mpr (stays_of_unfound beyond undotted unfound)

theorem stays_lowerSigma (before after : List Char) : Stays (lowerSigma before after) := by
  rw [lowerSigma]
  split
  all_goals decide +kernel

/-! ## Texts in lower case -/

/-- All that the lower case is made of stays. -/
theorem stays_of_mem_lowercaseAfter
    (before text : List Char) : ∀ character ∈ lowercaseAfter before text, Stays character := by
  induction text generalizing before with
  | nil => exact List.forall_mem_nil _
  | cons first rest step =>
      rw [lowercaseAfter, List.forall_mem_append]
      refine ⟨?_, step (first :: before)⟩
      split
      case isTrue => exact List.forall_mem_singleton.mpr (stays_lowerSigma before rest)
      case isFalse => exact stays_lowerChar first

/-- A text of characters that stay does not change, whatever stands before it: only for a capital
sigma would that matter. -/
theorem lowercaseAfter_eq_self
    {text : List Char} (stays : ∀ character ∈ text, Stays character) (before : List Char) :
    lowercaseAfter before text = text := by
  induction text generalizing before with
  | nil => rfl
  | cons first rest step =>
      rcases List.forall_mem_cons.mp stays with ⟨firstStays, restStays⟩
      rw [lowercaseAfter, if_neg firstStays.1, firstStays.2, step restStays, List.singleton_append]

/-- Lower case is lower case already. -/
@[simp]
theorem lowercase_lowercase (text : String) : lowercase (lowercase text) = lowercase text := by
  have stays := stays_of_mem_lowercaseAfter [] text.toList
  rw [lowercase, lowercase, String.toList_ofList, lowercaseAfter_eq_self stays]

end ChipEight.Text

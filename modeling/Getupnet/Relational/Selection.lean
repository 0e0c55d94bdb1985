import Mathlib.Data.List.Basic

namespace relational

variable {ρ δ τ : Type} [DecidableEq τ]

/-- The rows whose field has the text. -/
def having (text : ρ → Option τ) (value : τ) (rows : List ρ) : List ρ :=
  rows.filter fun row => text row == some value

/-- The rows whose field is shown as the text. -/
def showing (text : ρ → Option τ) (shown : Option τ → τ) (value : τ) (rows : List ρ) : List ρ :=
  rows.filter fun row => shown (text row) == value

section

variable {text : ρ → Option τ} {shown : Option τ → τ} {value : τ} {rows : List ρ} {row : ρ}

theorem mem_having : row ∈ having text value rows ↔ row ∈ rows ∧ text row = some value := by
  rw [having, List.mem_filter, beq_iff_eq]

theorem mem_showing : row ∈ showing text shown value rows ↔ row ∈ rows ∧ shown (text row) = value := by
  rw [showing, List.mem_filter, beq_iff_eq]

/-- A text that is shown as it is finds its own rows, in their order, among those it is
shown for. -/
theorem having_sublist_showing (hvalue : shown (some value) = value) :
    (having text value rows).Sublist (showing text shown value rows) := by
  refine List.monotone_filter_right rows fun row hrow => ?_
  rw [beq_iff_eq] at hrow ⊢
  rw [hrow, hvalue]

/-- When showing twice is showing once, nothing is shown as a text that is not shown as
it is. -/
theorem showing_eq_nil (hshown : ∀ found, shown (some (shown found)) = shown found)
    (hvalue : shown (some value) ≠ value) : showing text shown value rows = [] := by
  refine List.filter_eq_nil_iff.mpr fun row _ hrow => hvalue ?_
  rw [beq_iff_eq] at hrow
  rw [← hrow, hshown]

/-- Both ways to choose give the same rows exactly when they agree about each row, even
if rows are told apart by their decoded form only. -/
theorem map_showing_eq_iff (decoded : ρ → δ) (hshown : ∀ found, shown (some (shown found)) = shown found) :
    (showing text shown value rows).map decoded = (having text value rows).map decoded ↔
      ∀ row ∈ rows, shown (text row) = value ↔ text row = some value := by
  constructor
  · intro h
    have hlength : (showing text shown value rows).length = (having text value rows).length := by
      simpa using congrArg List.length h
    have hsame : showing text shown value rows = having text value rows := by
      by_cases hvalue : shown (some value) = value
      · exact ((having_sublist_showing hvalue).eq_of_length hlength.symm).symm
      · rw [showing_eq_nil hshown hvalue] at hlength ⊢
        exact (List.length_eq_zero_iff.mp hlength.symm).symm
    intro row hrow
    have hmem : row ∈ showing text shown value rows ↔ row ∈ having text value rows := by rw [hsame]
    simpa only [mem_showing, mem_having, hrow, true_and] using hmem
  · intro h
    have hsame : showing text shown value rows = having text value rows := by
      refine List.filter_congr fun row hrow => ?_
      rw [Bool.eq_iff_iff, beq_iff_eq, beq_iff_eq]
      exact h row hrow
    rw [hsame]

end

end relational

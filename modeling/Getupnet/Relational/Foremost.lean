import Mathlib.Data.List.Sort

namespace relational

variable {α : Type}

/-- A value of a list meets a condition and stands before all others that do. -/
structure IsForemost (before : α → α → Prop) (condition : α → Prop) (values : List α) (value : α) :
    Prop where
  mem : value ∈ values
  meets : condition value
  first : ∀ other ∈ values, condition other → before value other

section

variable {before : α → α → Prop} {condition : α → Prop} {values others : List α} {value other : α}

/-- Where the order tells values apart, only one is foremost. -/
theorem IsForemost.unique
    (hantisymm : ∀ first ∈ values, ∀ second ∈ values,
      before first second → before second first → first = second)
    (hvalue : IsForemost before condition values value) (hother : IsForemost before condition values other) :
    value = other := by
  refine hantisymm value hvalue.mem other hother.mem ?_ ?_
  · exact hvalue.first other hother.mem hother.meets
  · exact hother.first value hvalue.mem hvalue.meets

/-- Values that do not meet the condition come and go without a difference. -/
theorem IsForemost.of_same (hsame : ∀ value, condition value → (value ∈ values ↔ value ∈ others))
    (h : IsForemost before condition values value) : IsForemost before condition others value where
  mem := (hsame value h.meets).mp h.mem
  meets := h.meets
  first other hother hmeets := h.first other ((hsame other hmeets).mpr hother) hmeets

theorem head_before (hsorted : values.Pairwise before) (hrefl : ∀ value, before value value)
    (hhead : values.head? = some value) : ∀ other ∈ values, before value other := by
  obtain ⟨rest, rfl⟩ := List.head?_eq_some_iff.mp hhead
  intro other hother
  obtain rfl | hrest := List.mem_cons.mp hother
  · exact hrefl other
  · exact List.rel_of_pairwise_cons hsorted hrest

variable [DecidableRel before] {test : α → Bool}

theorem head?_sorted_filter_eq_none (htest : ∀ value ∈ values, test value = true ↔ condition value) :
    ((values.filter test).insertionSort before).head? = none ↔ ∀ value ∈ values, ¬ condition value := by
  rw [List.head?_eq_none_iff, ← List.length_eq_zero_iff, List.length_insertionSort, List.length_eq_zero_iff,
    List.filter_eq_nil_iff]
  exact forall₂_congr fun value hvalue => not_congr (htest value hvalue)

/-- The first of the values in their order is the foremost of them. -/
theorem head?_sorted_filter_eq_some [Std.Total before] [IsTrans α before]
    (htest : ∀ value ∈ values, test value = true ↔ condition value)
    (hantisymm : ∀ first ∈ values, ∀ second ∈ values,
      before first second → before second first → first = second) :
    ((values.filter test).insertionSort before).head? = some value ↔ IsForemost before condition values value := by
  have hforemost : ∀ head, ((values.filter test).insertionSort before).head? = some head →
      IsForemost before condition values head := by
    intro head hhead
    have hmem : head ∈ values.filter test := (List.mem_insertionSort before).mp (List.mem_of_head? hhead)
    have hfirst := head_before (List.pairwise_insertionSort before _) (fun value => Std.Refl.refl value) hhead
    obtain ⟨hvalues, hpasses⟩ := List.mem_filter.mp hmem
    refine ⟨hvalues, (htest head hvalues).mp hpasses, fun other hother hmeets => ?_⟩
    have hfound : other ∈ values.filter test := List.mem_filter.mpr ⟨hother, (htest other hother).mpr hmeets⟩
    exact hfirst other ((List.mem_insertionSort before).mpr hfound)
  constructor
  · exact hforemost value
  · intro h
    obtain hnone | ⟨head, hhead⟩ := Option.eq_none_or_eq_some ((values.filter test).insertionSort before).head?
    · exact absurd h.meets ((head?_sorted_filter_eq_none htest).mp hnone value h.mem)
    · rw [hhead, (hforemost head hhead).unique hantisymm h]

end

end relational

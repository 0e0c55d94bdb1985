import Mathlib.Data.List.Induction
import Mathlib.Order.Lattice

namespace relational

variable {κ : Type} [LinearOrder κ] {due : Nat → κ} {times : List κ} {time : κ}

/-- The times at which the rounds of a schedule are served: each time serves at most one
round, the first one left, and only if that is due. -/
def served (due : Nat → κ) (times : List κ) : List κ :=
  times.foldl (fun rounds time => if due rounds.length ≤ time then rounds ++ [time] else rounds) []

@[simp] theorem served_nil : served due [] = [] := rfl

theorem served_append_of_due (h : due (served due times).length ≤ time) :
    served due (times ++ [time]) = served due times ++ [time] := by
  rw [served, List.foldl_append, List.foldl_cons, List.foldl_nil]
  exact if_pos h

theorem served_append_of_not_due (h : ¬ due (served due times).length ≤ time) :
    served due (times ++ [time]) = served due times := by
  rw [served, List.foldl_append, List.foldl_cons, List.foldl_nil]
  exact if_neg h

/-- No round is served before it is due. -/
theorem due_le_of_served {round : Nat} (h : (served due times)[round]? = some time) : due round ≤ time := by
  induction times using List.reverseRecOn with
  | nil => simp at h
  | append_singleton times last ih =>
    by_cases hdue : due (served due times).length ≤ last
    · rw [served_append_of_due hdue] at h
      obtain hlt | heq | hgt := lt_trichotomy round (served due times).length
      · rw [List.getElem?_append_left hlt] at h
        exact ih h
      · rw [heq, List.getElem?_append_right (le_refl _), Nat.sub_self] at h
        cases h
        rw [heq]
        exact hdue
      · rw [List.getElem?_append_right (Nat.le_of_lt hgt), List.getElem?_eq_none] at h
        · cases h
        · rw [List.length_singleton]
          omega
    · rw [served_append_of_not_due hdue] at h
      exact ih h

/-- The rounds are served in order, one at a time. -/
theorem served_sublist (due : Nat → κ) (times : List κ) : (served due times).Sublist times := by
  induction times using List.reverseRecOn with
  | nil => exact List.Sublist.refl _
  | append_singleton times last ih =>
    by_cases hdue : due (served due times).length ≤ last
    · rw [served_append_of_due hdue]
      exact ih.append (List.Sublist.refl _)
    · rw [served_append_of_not_due hdue]
      exact ih.trans (List.sublist_append_left _ _)

/-- A round is made up for as soon as there have been as many times since it was due as
there are rounds up to it. -/
theorem min_countP_le_served (hdue : Monotone due) (times : List κ) (round : Nat) :
    min (round + 1) (times.countP fun time => decide (due round ≤ time)) ≤ (served due times).length := by
  induction times using List.reverseRecOn with
  | nil => simp
  | append_singleton times last ih =>
    rw [List.countP_append, List.countP_singleton]
    by_cases hnext : due (served due times).length ≤ last
    · rw [served_append_of_due hnext, List.length_append, List.length_singleton]
      split <;> omega
    · rw [served_append_of_not_due hnext]
      by_cases hserved : round < (served due times).length
      · omega
      · have hlate : ¬ due round ≤ last := fun h => hnext ((hdue (Nat.not_lt.mp hserved)).trans h)
        rw [decide_eq_false hlate]
        simpa using ih

end relational

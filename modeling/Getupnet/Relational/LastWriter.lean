import Mathlib.Data.List.Basic

namespace relational

variable {α : Type} {before : α → α → Prop} {candidates : List α}

/-- The candidate that comes after all others in an order: of several writers
of one field, taken in that order, the one whose value stays. -/
def IsLast (before : α → α → Prop) (candidates : List α) (last : α) : Prop :=
  last ∈ candidates ∧ ∀ other ∈ candidates, other ≠ last → before other last

theorem IsLast.unique (hasymm : ∀ first second, before first second → ¬ before second first) {first second : α}
    (hfirst : IsLast before candidates first) (hsecond : IsLast before candidates second) : first = second := by
  by_contra hne
  exact hasymm first second (hsecond.2 first hfirst.1 hne) (hfirst.2 second hsecond.1 (Ne.symm hne))

theorem IsLast.ne_nil {last : α} (h : IsLast before candidates last) : candidates ≠ [] :=
  List.ne_nil_of_mem h.1

/-- Only the candidates matter, not how they are listed. -/
theorem IsLast.congr {others : List α} (hmem : ∀ value, value ∈ candidates ↔ value ∈ others) {last : α} :
    IsLast before candidates last ↔ IsLast before others last := by
  simp only [IsLast, hmem]

/-- Some candidate comes last in an order that compares any two of them. -/
theorem exists_isLast (htrans : ∀ first second third, before first second → before second third → before first third)
    (htotal : ∀ first ∈ candidates, ∀ second ∈ candidates, first ≠ second →
      before first second ∨ before second first)
    (hne : candidates ≠ []) : ∃ last, IsLast before candidates last := by
  induction candidates with
  | nil => exact absurd rfl hne
  | cons head rest ih =>
    by_cases hrest : rest = []
    · subst hrest
      refine ⟨head, List.mem_singleton_self head, fun other hother hother_ne => ?_⟩
      exact absurd (List.mem_singleton.mp hother) hother_ne
    · obtain ⟨last, hlast, hbefore⟩ := ih
        (fun first hfirst second hsecond => htotal first (List.mem_cons_of_mem _ hfirst) second
          (List.mem_cons_of_mem _ hsecond)) hrest
      by_cases hsame : head = last
      · refine ⟨last, List.mem_cons_of_mem _ hlast, fun other hother hother_ne => ?_⟩
        obtain rfl | hin := List.mem_cons.mp hother
        · exact absurd hsame hother_ne
        · exact hbefore other hin hother_ne
      · obtain hhead | hhead :=
          htotal head List.mem_cons_self last (List.mem_cons_of_mem _ hlast) hsame
        · refine ⟨last, List.mem_cons_of_mem _ hlast, fun other hother hother_ne => ?_⟩
          obtain rfl | hin := List.mem_cons.mp hother
          · exact hhead
          · exact hbefore other hin hother_ne
        · refine ⟨head, List.mem_cons_self, fun other hother hother_ne => ?_⟩
          obtain rfl | hin := List.mem_cons.mp hother
          · exact absurd rfl hother_ne
          · by_cases hother_last : other = last
            · exact hother_last ▸ hhead
            · exact htrans other last head (hbefore other hin hother_last) hhead

/-- In a list that is sorted by an order, the last element comes last in it. -/
theorem isLast_getLast? (hsorted : candidates.Pairwise before) {last : α}
    (hlast : candidates.getLast? = some last) :
    IsLast before candidates last := by
  obtain ⟨init, rfl⟩ := List.getLast?_eq_some_iff.mp hlast
  refine ⟨List.mem_append_right _ (List.mem_singleton_self last), fun other hother hne => ?_⟩
  obtain hin | hin := List.mem_append.mp hother
  · exact (List.pairwise_append.mp hsorted).2.2 other hin last (List.mem_singleton_self last)
  · exact absurd (List.mem_singleton.mp hin) hne

end relational

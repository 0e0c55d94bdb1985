import Mathlib.Data.List.Basic

namespace relational

variable {σ ℓ : Type}

/-- A finite run of labelled steps from an initial state: the steps taken, each
with the state it was taken in, and the state reached. -/
inductive Run (step : σ → ℓ → σ → Prop) (initial : σ) : List (σ × ℓ) → σ → Prop where
  | start : Run step initial [] initial
  | step {taken : List (σ × ℓ)} {state after : σ} {label : ℓ}
      (before : Run step initial taken state) (hstep : step state label after) :
      Run step initial (taken ++ [(state, label)]) after

/-- The states of a run, from the initial to the reached one. -/
def Run.visited (taken : List (σ × ℓ)) (reached : σ) : List σ := taken.map Prod.fst ++ [reached]

theorem Run.mem_visited_append {taken : List (σ × ℓ)} {state reached other : σ} {label : ℓ} :
    other ∈ Run.visited (taken ++ [(state, label)]) reached ↔
      other ∈ Run.visited taken state ∨ other = reached := by
  simp [Run.visited, or_assoc]

theorem Run.reached_mem_visited (taken : List (σ × ℓ)) (reached : σ) :
    reached ∈ Run.visited taken reached := by
  simp [Run.visited]

variable {step : σ → ℓ → σ → Prop} {initial : σ} {inv property : σ → Prop} {condition : σ → ℓ → Prop}

/-- A run is invariant when its steps are, given a condition that all of them meet. -/
theorem Run.invariant_of_condition (hinitial : inv initial)
    (hkeep : ∀ state label after, inv state → condition state label → step state label after →
      inv after)
    {taken : List (σ × ℓ)} {reached : σ} (run : Run step initial taken reached)
    (hcondition : ∀ entry ∈ taken, condition entry.1 entry.2) :
    ∀ state ∈ Run.visited taken reached, inv state := by
  induction run with
  | start =>
    intro state hstate
    simp only [Run.visited, List.map_nil, List.nil_append, List.mem_singleton] at hstate
    exact hstate ▸ hinitial
  | @step taken state after label before hstep ih =>
    have hbefore := ih (fun entry hentry => hcondition entry (List.mem_append_left _ hentry))
    have hlast := hcondition (state, label) (List.mem_append_right _ (List.mem_singleton_self _))
    intro other hother
    rcases Run.mem_visited_append.mp hother with hold | rfl
    · exact hbefore other hold
    · exact hkeep _ _ _ (hbefore _ (Run.reached_mem_visited _ _)) hlast hstep

/-- Whatever was taken was a step. -/
theorem Run.exists_step {taken : List (σ × ℓ)} {reached : σ} (run : Run step initial taken reached) :
    ∀ entry ∈ taken, ∃ after, step entry.1 entry.2 after := by
  induction run with
  | start => exact fun entry hentry => absurd hentry List.not_mem_nil
  | @step taken state after label before hstep ih =>
    intro entry hentry
    obtain hold | hlast := List.mem_append.mp hentry
    · exact ih entry hold
    · rw [List.mem_singleton.mp hlast]
      exact ⟨after, hstep⟩

/-- A transitive relation that holds across each step holds from any state of the
run to any later one. -/
theorem Run.visited_pairwise {relation : σ → σ → Prop}
    (htrans : ∀ first second third, relation first second → relation second third → relation first third)
    {taken : List (σ × ℓ)} {reached : σ} (run : Run step initial taken reached)
    (hstep : ∀ entry ∈ taken, ∀ after, step entry.1 entry.2 after → relation entry.1 after) :
    (Run.visited taken reached).Pairwise relation := by
  induction run with
  | start => simp [Run.visited]
  | @step taken state after label before hlast ih =>
    have hbefore := ih fun entry hentry => hstep entry (List.mem_append_left _ hentry)
    have hnew := hstep (state, label) (List.mem_append_right _ (List.mem_singleton_self _)) after hlast
    have hvisited : Run.visited (taken ++ [(state, label)]) after = Run.visited taken state ++ [after] := by
      simp [Run.visited]
    rw [hvisited]
    refine List.pairwise_append.mpr ⟨hbefore, List.pairwise_singleton _ _, fun earlier hearlier last hlast => ?_⟩
    rw [List.mem_singleton.mp hlast]
    obtain hold | rfl := List.mem_append.mp hearlier |>.imp_right List.mem_singleton.mp
    · have hlink := (List.pairwise_append.mp hbefore).2.2 earlier hold state (List.mem_singleton_self _)
      exact htrans _ _ _ hlink hnew
    · exact hnew

/-- When a step that meets the condition keeps the invariant, and any other
step from an invariant state breaks the property at once, the property holds
throughout a run exactly if all of its steps meet the condition. -/
theorem Run.property_iff_condition (hinitial : inv initial)
    (hproperty : ∀ state, inv state → property state)
    (hkeep : ∀ state label after, inv state → condition state label → step state label after →
      inv after)
    (hbreak : ∀ state label after, inv state → ¬ condition state label → step state label after →
      ¬ property after)
    {taken : List (σ × ℓ)} {reached : σ} (run : Run step initial taken reached) :
    (∀ state ∈ Run.visited taken reached, property state) ↔ ∀ entry ∈ taken, condition entry.1 entry.2 := by
  constructor
  · intro hall
    induction run with
    | start => simp
    | @step taken state after label before hstep ih =>
      have hbefore := ih (fun other hother => hall other (Run.mem_visited_append.mpr (Or.inl hother)))
      have hstate := Run.invariant_of_condition hinitial hkeep before hbefore state
        (Run.reached_mem_visited _ _)
      intro entry hentry
      rcases List.mem_append.mp hentry with hold | hnew
      · exact hbefore entry hold
      · rw [List.mem_singleton.mp hnew]
        by_contra hnot
        exact hbreak state label after hstate hnot hstep
          (hall after (Run.mem_visited_append.mpr (Or.inr rfl)))
  · intro hcondition state hstate
    exact hproperty state (Run.invariant_of_condition hinitial hkeep run hcondition state hstate)

/-- Something holds of each step of a run and the steps before it. -/
def Run.Each (property : List (σ × ℓ) → σ → ℓ → Prop) (taken : List (σ × ℓ)) : Prop :=
  ∀ before state label rest, taken = before ++ (state, label) :: rest → property before state label

theorem Run.each_append {property : List (σ × ℓ) → σ → ℓ → Prop} {taken : List (σ × ℓ)} {state : σ} {label : ℓ}
    (htaken : Run.Each property taken) (hlast : property taken state label) :
    Run.Each property (taken ++ [(state, label)]) := by
  intro before other name rest hsplit
  obtain rfl | ⟨rest, last, rfl⟩ := rest.eq_nil_or_concat
  · obtain ⟨rfl, heq⟩ := List.append_inj' hsplit rfl
    cases heq
    exact hlast
  · rw [List.concat_eq_append, ← List.cons_append, ← List.append_assoc] at hsplit
    obtain ⟨rfl, _⟩ := List.append_inj' hsplit rfl
    exact htaken before other name rest rfl

/-- An invariant of the steps taken and the state reached, which each step keeps under
the condition, and which gives what is claimed of the step. -/
theorem Run.each_of_history {history : List (σ × ℓ) → σ → Prop} {property : List (σ × ℓ) → σ → ℓ → Prop}
    (hinitial : history [] initial)
    (hkeep : ∀ taken state label after, history taken state → condition state label → step state label after →
      property taken state label ∧ history (taken ++ [(state, label)]) after)
    {taken : List (σ × ℓ)} {reached : σ} (run : Run step initial taken reached)
    (hcondition : ∀ entry ∈ taken, condition entry.1 entry.2) : Run.Each property taken ∧
    history taken reached := by
  induction run with
  | start => exact ⟨fun before _ _ _ h => absurd h.symm (by simp), hinitial⟩
  | @step taken state after label before hstep ih =>
    obtain ⟨hall, hhistory⟩ := ih fun entry hentry => hcondition entry (List.mem_append_left _ hentry)
    have hlast := hcondition (state, label) (List.mem_append_right _ (List.mem_singleton_self _))
    obtain ⟨hproperty, hnext⟩ := hkeep _ _ _ _ hhistory hlast hstep
    exact ⟨Run.each_append hall hproperty, hnext⟩

/-- The states in which the labels of a list are taken, when each leads to one
state. -/
def Run.trace (next : ℓ → σ → σ) (state : σ) : List ℓ → List (σ × ℓ)
  | [] => []
  | label :: labels => (state, label) :: Run.trace next (next label state) labels

/-- The state that the labels of a list lead to. -/
def Run.last (next : ℓ → σ → σ) (state : σ) (labels : List ℓ) : σ :=
  labels.foldl (fun state label => next label state) state

theorem Run.append {taken later : List (σ × ℓ)} {middle reached : σ} (run : Run step initial taken middle)
    (rest : Run step middle later reached) : Run step initial (taken ++ later) reached := by
  induction rest with
  | start =>
    rw [List.append_nil]
    exact run
  | step before hstep ih =>
    rw [← List.append_assoc]
    exact .step ih hstep

theorem Run.forall_mem_trace_nil {next : ℓ → σ → σ} {state : σ} {property : σ × ℓ → Prop} :
    ∀ entry ∈ Run.trace next state [], property entry := fun _ h => absurd h List.not_mem_nil

theorem Run.forall_mem_trace {next : ℓ → σ → σ} {state : σ} {label : ℓ} {labels : List ℓ}
    {property : σ × ℓ → Prop} :
    (∀ entry ∈ Run.trace next state (label :: labels), property entry) ↔
      property (state, label) ∧ ∀ entry ∈ Run.trace next (next label state) labels, property entry :=
  List.forall_mem_cons

/-- A list of labels is a run when each of them is a step where it is taken. -/
theorem Run.of_trace {next : ℓ → σ → σ} {labels : List ℓ} {state : σ}
    (h : ∀ entry ∈ Run.trace next state labels, step entry.1 entry.2 (next entry.2 entry.1)) :
    Run step state (Run.trace next state labels) (Run.last next state labels) := by
  induction labels generalizing state with
  | nil => exact .start
  | cons label labels ih =>
    have hfirst : Run step state [(state, label)] (next label state) :=
      .step .start (h (state, label) List.mem_cons_self)
    exact hfirst.append (ih fun entry hentry => h entry (List.mem_cons_of_mem _ hentry))

section

variable {α : Type} [DecidableEq α] {values : List α} {value target : α}

/-- How many values of a list differ from the one before them. -/
def changes : List α → Nat
  | first :: second :: rest => (if first = second then 0 else 1) + changes (second :: rest)
  | _ => 0

theorem changes_eq_zero (h : ∀ other ∈ values, other = value) : changes (value :: values) = 0 := by
  induction values with
  | nil => rfl
  | cons second rest ih =>
    rw [changes, h second List.mem_cons_self, if_pos rfl, Nat.zero_add]
    exact ih fun other hother => h other (List.mem_cons_of_mem _ hother)

/-- Values that are all as before or the target change at most once. -/
theorem changes_le_one (h : values.Pairwise fun first second => second = first ∨ second = target) :
    changes values ≤ 1 := by
  induction values with
  | nil => exact Nat.zero_le 1
  | cons first values ih =>
    obtain ⟨hfirst, hrest⟩ := List.pairwise_cons.mp h
    cases values with
    | nil => exact Nat.zero_le 1
    | cons second rest =>
      rw [changes]
      split
      · rw [Nat.zero_add]
        exact ih hrest
      · rename_i hne
        have htarget : second = target :=
          (hfirst second List.mem_cons_self).resolve_left fun hsame => hne hsame.symm
        have hconstant : ∀ other ∈ rest, other = second := by
          intro other hother
          have hsecond := (List.pairwise_cons.mp hrest).1 other hother
          exact hsecond.elim id fun hsame => hsame.trans htarget.symm
        exact Nat.le_of_eq (congrArg (1 + ·) (changes_eq_zero hconstant))

end

end relational

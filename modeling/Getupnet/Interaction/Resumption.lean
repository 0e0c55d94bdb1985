import Mathlib.Dynamics.FixedPoints.Basic

namespace interaction

variable {σ : Type}

/-- The state that a list of steps leaves, taken in order. -/
def replay (steps : List (σ → σ)) (state : σ) : σ := steps.foldl (fun reached step => step reached) state

@[simp] theorem replay_nil (state : σ) : replay [] state = state := rfl

@[simp] theorem replay_cons (step : σ → σ) (steps : List (σ → σ)) (state : σ) :
    replay (step :: steps) state = replay steps (step state) := rfl

theorem replay_append (first second : List (σ → σ)) (state : σ) :
    replay (first ++ second) state = replay second (replay first state) := List.foldl_append

/-- A step that is taken under a condition only. -/
def when (condition : Bool) (step : σ → σ) : σ → σ := if condition then step else id

@[simp] theorem when_true (step : σ → σ) : when true step = step := rfl

@[simp] theorem when_false (step : σ → σ) : when false step = id := rfl

/-- What every step keeps holds wherever the steps stop. -/
theorem replay_keeps {inv : σ → Prop} {steps : List (σ → σ)}
    (hsteps : ∀ step ∈ steps, ∀ state, inv state → inv (step state)) {state : σ} (hinv : inv state) :
    inv (replay steps state) := by
  induction steps generalizing state with
  | nil => exact hinv
  | cons step steps ih =>
    exact ih (fun other hmem => hsteps other (List.mem_cons_of_mem _ hmem)) (hsteps step List.mem_cons_self _ hinv)

/-- Steps with nothing to do leave the state as it is, wherever they stop. -/
theorem replay_fixed {steps : List (σ → σ)} {state : σ} (h : ∀ step ∈ steps, Function.IsFixedPt step state)
    (count : Nat) : replay (steps.take count) state = state :=
  @replay_keeps _ (fun reached => reached = state) _
    (fun step hmem reached hreached => by rw [hreached]; exact h step (List.mem_of_mem_take hmem)) _ rfl

/-- What one step brings about under a condition that all keep, and that no step
undoes, holds in the end. -/
theorem replay_establishes {inv goal : σ → Prop} {steps : List (σ → σ)} {step : σ → σ} (hmem : step ∈ steps)
    (hinv : ∀ other ∈ steps, ∀ state, inv state → inv (other state))
    (hstep : ∀ state, inv state → goal (step state))
    (hgoal : ∀ other ∈ steps, ∀ state, goal state → goal (other state)) {state : σ} (hstart : inv state) :
    goal (replay steps state) := by
  obtain ⟨first, second, rfl⟩ := List.append_of_mem hmem
  rw [replay_append, replay_cons]
  refine replay_keeps (fun other hother => hgoal other ?_) (hstep _ ?_)
  · exact List.mem_append_right _ (List.mem_cons_of_mem _ hother)
  · exact replay_keeps (fun other hother => hinv other (List.mem_append_left _ hother)) hstart

/-- A later step leaves the work of an earlier one alone: where the earlier one
has nothing left to do, it still has nothing to do after the later one. -/
def Undisturbed (inv : σ → Prop) (earlier later : σ → σ) : Prop :=
  ∀ state, inv state → Function.IsFixedPt earlier state → Function.IsFixedPt earlier (later state)

theorem Undisturbed.when {inv : σ → Prop} {earlier later : σ → σ} (h : Undisturbed inv earlier later)
    (condition : Bool) : Undisturbed inv (when condition earlier) later := by
  cases condition with
  | false => exact fun _ _ _ => rfl
  | true => exact h

/-- Steps that can be taken again: each finds nothing to do right after itself
and is left alone by those that follow it. -/
structure Repeatable (inv : σ → Prop) (steps : List (σ → σ)) : Prop where
  keeps : ∀ step ∈ steps, ∀ state, inv state → inv (step state)
  settles : ∀ step ∈ steps, ∀ state, inv state → Function.IsFixedPt step (step state)
  undisturbed : steps.Pairwise (Undisturbed inv)

theorem Repeatable.tail {inv : σ → Prop} {step : σ → σ} {steps : List (σ → σ)}
    (h : Repeatable inv (step :: steps)) : Repeatable inv steps where
  keeps other hmem := h.keeps other (List.mem_cons_of_mem _ hmem)
  settles other hmem := h.settles other (List.mem_cons_of_mem _ hmem)
  undisturbed := h.undisturbed.of_cons

private theorem Repeatable.settled_after {inv : σ → Prop} {step : σ → σ} {steps : List (σ → σ)}
    (h : Repeatable inv (step :: steps)) {state : σ} (hinv : inv state) (count : Nat) :
    Function.IsFixedPt step (replay (steps.take count) (step state)) := by
  have hstart : inv (step state) ∧ Function.IsFixedPt step (step state) :=
    ⟨h.keeps step List.mem_cons_self state hinv, h.settles step List.mem_cons_self state hinv⟩
  refine (@replay_keeps _ (fun reached => inv reached ∧ Function.IsFixedPt step reached) _ ?_ _ hstart).2
  intro later hlater reached hreached
  have hmem : later ∈ steps := List.mem_of_mem_take hlater
  have hpair : Undisturbed inv step later := List.rel_of_pairwise_cons h.undisturbed hmem
  exact ⟨h.keeps later (List.mem_cons_of_mem _ hmem) reached hreached.1, hpair reached hreached.1 hreached.2⟩

/-- Repeatable steps that stopped anywhere and are taken again from the start
end where they would have ended without the interruption. -/
theorem Repeatable.resume {inv : σ → Prop} {steps : List (σ → σ)} (h : Repeatable inv steps) {state : σ}
    (hinv : inv state) (count : Nat) :
    replay steps (replay (steps.take count) state) = replay steps state := by
  induction steps generalizing state count with
  | nil => simp
  | cons step steps ih =>
    cases count with
    | zero => rfl
    | succ count =>
      have hsettled := h.settled_after hinv count
      rw [List.take_succ_cons, replay_cons, replay_cons, replay_cons, hsettled.eq]
      exact ih h.tail (h.keeps step List.mem_cons_self state hinv) count

end interaction

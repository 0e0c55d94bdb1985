import Getupnet.Relational.Runs
import Getupnet.Relational.Transaction

namespace relational

variable {σ τ ε α β ℓ κ : Type}

/-- Whenever a method returns, its replay does so, too, on the part of the state that
it sees, and leaves there what the method leaves. -/
def Method.ReplayedBy (part : σ → τ) (method : Method σ ε α) (replay : Method τ ε α) : Prop :=
  ∀ state value after, method.exec state = (.ok value, after) →
    replay.exec (part state) = (.ok value, part after)

section

variable {part : σ → τ}

theorem Method.ReplayedBy.pure (value : α) :
    Method.ReplayedBy part (Pure.pure value : Method σ ε α) (Pure.pure value) := by
  intro state result after h
  cases h
  rfl

theorem Method.ReplayedBy.modify {change : σ → σ} {other : τ → τ}
    (h : ∀ state, part (change state) = other (part state)) :
    Method.ReplayedBy part (modify change : Method σ ε Unit) (modify other) := by
  intro state result after hexec
  cases hexec
  rw [Method.exec_modify, h]

/-- What never returns has any replay. -/
theorem Method.ReplayedBy.throw {exception : ε} (replay : Method τ ε α) :
    Method.ReplayedBy part (MonadExcept.throw exception : Method σ ε α) replay := by
  intro state value after h
  cases h

theorem Method.ReplayedBy.bind {method : Method σ ε α} {replay : Method τ ε α} {next : α → Method σ ε β}
    {later : α → Method τ ε β} (h : Method.ReplayedBy part method replay)
    (hnext : ∀ value, Method.ReplayedBy part (next value) (later value)) :
    Method.ReplayedBy part (method >>= next) (replay >>= later) := by
  intro state value after hexec
  rw [Method.exec_bind] at hexec
  cases hmethod : method.exec state with
  | mk result middle =>
    rw [hmethod] at hexec
    cases result with
    | error exception => cases hexec
    | ok found =>
      rw [Method.exec_bind_of_ok (h state found middle hmethod)]
      exact hnext found middle value after hexec

theorem Method.ReplayedBy.get_bind {next : σ → Method σ ε α} {later : τ → Method τ ε α}
    (h : ∀ state, Method.ReplayedBy part (next state) (later (part state))) :
    Method.ReplayedBy part (get >>= next) (get >>= later) :=
  fun state value after hexec => h state state value after hexec

/-- Only a value that is no exception matters for what follows it. -/
theorem Method.ReplayedBy.ofExcept_bind {γ : Type} {first : Except ε α} {second : Except ε γ}
    {next : α → Method σ ε β} {later : γ → Method τ ε β}
    (h : ∀ value, first = .ok value → ∃ other, second = .ok other ∧
      Method.ReplayedBy part (next value) (later other)) :
    Method.ReplayedBy part (Method.ofExcept first >>= next) (Method.ofExcept second >>= later) := by
  intro state value after hexec
  obtain ⟨found, hfirst, hrest⟩ := Method.ofExcept_bind_returns hexec
  obtain ⟨other, hsecond, hreplay⟩ := h found hfirst
  rw [hsecond, Method.ofExcept_ok_bind]
  exact hreplay state value after hrest

theorem Method.ReplayedBy.forEach {method : α → Method σ ε Unit} {replay : α → Method τ ε Unit}
    (h : ∀ value, Method.ReplayedBy part (method value) (replay value)) (values : List α) :
    Method.ReplayedBy part (Method.forEach method values) (Method.forEach replay values) := by
  induction values with
  | nil => exact .pure ()
  | cons value rest ih => exact (h value).bind fun _ => ih

/-- Methods at work on corresponding parts of two states. -/
theorem Method.ReplayedBy.focus {σ' τ' : Type} {view : σ → σ'} {replace : σ' → σ → σ} {other : τ → τ'}
    {put : τ' → τ → τ} {inner : σ' → τ'} {method : Method σ' ε α} {replay : Method τ' ε α}
    (hview : ∀ state, other (part state) = inner (view state))
    (hreplace : ∀ rest state, part (replace rest state) = put (inner rest) (part state))
    (h : Method.ReplayedBy inner method replay) :
    Method.ReplayedBy part (Method.focus view replace method) (Method.focus other put replay) := by
  intro state value after hexec
  rw [Method.exec_focus] at hexec
  obtain ⟨hresult, rfl⟩ := Prod.mk.inj hexec
  have hreplay := h (view state) value _ (Prod.ext hresult rfl)
  rw [Method.exec_focus, hview, hreplay, hreplace]

/-- Where a method returns, so does its replay. -/
theorem Method.ReplayedBy.returns {method : Method σ ε α} {replay : Method τ ε α}
    (h : Method.ReplayedBy part method replay) {state : σ} (hreturns : (method.exec state).1.isOk = true) :
    (replay.exec (part state)).1.isOk = true := by
  cases hexec : method.exec state with
  | mk result after =>
    rw [hexec] at hreturns
    cases result with
    | error exception => cases hreturns
    | ok value => rw [h state value after hexec]; rfl

/-- A transaction that is not undone leaves to the replay what it leaves to the method. -/
theorem Method.ReplayedBy.commit {restore : σ → σ → σ} {undo : τ → τ → τ} {method : Method σ ε α}
    {replay : Method τ ε α} (h : Method.ReplayedBy part method replay) {state : σ}
    (hreturns : (method.exec state).1.isOk = true) :
    replay.commit undo (part state) = part (method.commit restore state) := by
  cases hexec : method.exec state with
  | mk result after =>
    rw [hexec] at hreturns
    cases result with
    | error exception => cases hreturns
    | ok value => rw [Method.commit_of_ok hexec, Method.commit_of_ok (h state value after hexec)]

end

/-- A run seen in part: the steps that are kept are steps of another system, and the
steps that are not change nothing of what is seen. -/
theorem Run.replay {step : σ → ℓ → σ → Prop} {other : τ → κ → τ → Prop} {part : σ → τ} {relabel : ℓ → κ}
    {kept : σ × ℓ → Bool}
    (hkept : ∀ state label after, step state label after → kept (state, label) = true →
      other (part state) (relabel label) (part after))
    (hdropped : ∀ state label after, step state label after → kept (state, label) = false →
      part after = part state)
    {initial reached : σ} {taken : List (σ × ℓ)} (run : Run step initial taken reached) :
    Run other (part initial) ((taken.filter kept).map fun entry => (part entry.1, relabel entry.2))
      (part reached) := by
  induction run with
  | start => exact .start
  | @step taken state after label before hstep ih =>
    rw [List.filter_append, List.map_append]
    cases hlabel : kept (state, label) with
    | true =>
      rw [List.filter_cons_of_pos hlabel]
      exact .step ih (hkept state label after hstep hlabel)
    | false =>
      have hnot : ¬kept (state, label) = true := by simp [hlabel]
      rw [List.filter_cons_of_neg hnot, hdropped state label after hstep hlabel]
      simpa using ih

end relational

import Getupnet.Relational.Transaction

namespace relational

variable {σ τ ε α β ν : Type}

/-- A method leaves a view of the state as it was, whether it returns or raises. -/
def Method.Keeps (view : σ → ν) (method : Method σ ε α) : Prop :=
  ∀ state, view (method.exec state).2 = view state

variable {view : σ → ν}

theorem Method.Keeps.pure {value : α} : Method.Keeps view (Pure.pure value : Method σ ε α) := fun _ => rfl

theorem Method.Keeps.ofExcept {result : Except ε α} :
    Method.Keeps view (Method.ofExcept result : Method σ ε α) := fun _ => rfl

theorem Method.Keeps.throw {exception : ε} :
    Method.Keeps view (MonadExcept.throw exception : Method σ ε α) := fun _ => rfl

/-- What would follow an exception does not matter. -/
theorem Method.Keeps.throw_bind {exception : ε} {next : α → Method σ ε β} :
    Method.Keeps view (MonadExcept.throw exception >>= next) := fun _ => rfl

theorem Method.Keeps.get : Method.Keeps view (MonadState.get : Method σ ε σ) := fun _ => rfl

theorem Method.Keeps.modify {change : σ → σ} (h : ∀ state, view (change state) = view state) :
    Method.Keeps view (modify change : Method σ ε Unit) := h

theorem Method.Keeps.bind {method : Method σ ε α} {next : α → Method σ ε β} (hmethod : method.Keeps view)
    (hnext : ∀ value, (next value).Keeps view) : Method.Keeps view (method >>= next) := by
  intro state
  have hfirst := hmethod state
  rw [Method.exec_bind]
  cases hexec : method.exec state with
  | mk result after =>
    rw [hexec] at hfirst
    cases result with
    | ok value => exact (hnext value after).trans hfirst
    | error exception => exact hfirst

theorem Method.Keeps.tryCatch {method : Method σ ε α} {handler : ε → Method σ ε α} (hmethod : method.Keeps view)
    (hhandler : ∀ exception, (handler exception).Keeps view) :
    Method.Keeps view (MonadExcept.tryCatch method handler) := by
  intro state
  have hfirst := hmethod state
  rw [Method.exec_tryCatch]
  cases hexec : method.exec state with
  | mk result after =>
    rw [hexec] at hfirst
    cases result with
    | ok value => exact hfirst
    | error exception => exact (hhandler exception after).trans hfirst

/-- A view that a part of the state determines is kept with the part. -/
theorem Method.Keeps.focus {part : σ → τ} {replace : τ → σ → σ} {method : Method τ ε α} {inner : τ → ν}
    (hmethod : method.Keeps inner) (hview : ∀ rest state, inner rest = inner (part state) →
      view (replace rest state) = view state) :
    Method.Keeps view (Method.focus part replace method) :=
  fun state => hview _ state (hmethod (part state))

theorem Method.Keeps.when {condition : Bool} {method : Method σ ε Unit} (h : method.Keeps view) :
    (Method.when condition method).Keeps view := by
  cases condition with
  | true => exact h
  | false => exact .pure

theorem Method.Keeps.forEach {method : α → Method σ ε Unit} (h : ∀ value, (method value).Keeps view)
    (values : List α) : (Method.forEach method values).Keeps view := by
  induction values with
  | nil => exact .pure
  | cons value rest ih => exact (h value).bind fun _ => ih

/-- A method keeps an invariant, whether it returns or raises. -/
def Method.Preserves (inv : σ → Prop) (method : Method σ ε α) : Prop :=
  ∀ state, inv state → inv (method.exec state).2

section

variable {inv : σ → Prop}

theorem Method.Preserves.pure {value : α} : Method.Preserves inv (Pure.pure value : Method σ ε α) := fun _ => id

theorem Method.Preserves.bind {method : Method σ ε α} {next : α → Method σ ε β} (hmethod : method.Preserves inv)
    (hnext : ∀ value, (next value).Preserves inv) : Method.Preserves inv (method >>= next) := by
  intro state hinv
  have hfirst := hmethod state hinv
  rw [Method.exec_bind]
  cases hexec : method.exec state with
  | mk result after =>
    rw [hexec] at hfirst
    cases result with
    | ok value => exact hnext value after hfirst
    | error exception => exact hfirst

theorem Method.Preserves.forEach {method : α → Method σ ε Unit} {values : List α}
    (h : ∀ value ∈ values, (method value).Preserves inv) : (Method.forEach method values).Preserves inv := by
  induction values with
  | nil => exact .pure
  | cons value rest ih =>
    exact (h value List.mem_cons_self).bind fun _ => ih fun other hother =>
      h other (List.mem_cons_of_mem _ hother)

end

/-- A method on a larger state does to a part of it what another method does
there, whatever it records beside it. -/
def Method.Forgets (part : σ → τ) (logged : Method σ ε α) (method : Method τ ε α) : Prop :=
  ∀ state, (logged.exec state).1 = (method.exec (part state)).1 ∧
    part (logged.exec state).2 = (method.exec (part state)).2

section

variable {part : σ → τ}

theorem Method.Forgets.focus {replace : τ → σ → σ} {method : Method τ ε α}
    (hreplace : ∀ rest state, part (replace rest state) = rest) :
    Method.Forgets part (Method.focus part replace method) method :=
  fun state => ⟨rfl, hreplace _ state⟩

theorem Method.Forgets.bind {logged : Method σ ε α} {method : Method τ ε α} {next : α → Method σ ε β}
    {plain : α → Method τ ε β} (h : Method.Forgets part logged method)
    (hnext : ∀ value, Method.Forgets part (next value) (plain value)) :
    Method.Forgets part (logged >>= next) (method >>= plain) := by
  intro state
  obtain ⟨hresult, hpart⟩ := h state
  rw [Method.exec_bind, Method.exec_bind]
  cases hlogged : logged.exec state with
  | mk result after =>
    cases hmethod : method.exec (part state) with
    | mk other rest =>
      rw [hlogged, hmethod] at hresult hpart
      dsimp only at hresult hpart
      subst hresult hpart
      cases result with
      | ok value => exact hnext value after
      | error exception => exact ⟨rfl, rfl⟩

/-- Recording something first changes nothing of the part. -/
theorem Method.Forgets.modify_bind {change : σ → σ} {logged : Method σ ε α} {method : Method τ ε α}
    (hchange : ∀ state, part (change state) = part state) (h : Method.Forgets part logged method) :
    Method.Forgets part (do modify change; logged) method := by
  intro state
  have hafter := h (change state)
  rw [hchange] at hafter
  exact hafter

theorem Method.Forgets.forEach {logged : α → Method σ ε Unit} {method : α → Method τ ε Unit}
    (h : ∀ value, Method.Forgets part (logged value) (method value)) (values : List α) :
    Method.Forgets part (Method.forEach logged values) (Method.forEach method values) := by
  induction values with
  | nil => exact fun _ => ⟨rfl, rfl⟩
  | cons value rest ih => exact (h value).bind fun _ => ih

end

end relational

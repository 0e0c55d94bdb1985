import Mathlib.Data.List.Forall2
import Getupnet.Relational.Frame

namespace relational

variable {σ τ ε α β : Type}

/-- From a state a method returns exactly under a condition, and then with a
result. -/
def Method.ReturnsIff (method : Method σ ε α) (state : σ) (condition : Prop) (result : α → σ → Prop) : Prop :=
  match method.exec state with
  | (.ok value, after) => condition ∧ result value after
  | (.error _, _) => ¬ condition

variable {state : σ} {condition : Prop}

section

variable {method : Method σ ε α} {result : α → σ → Prop}

theorem Method.ReturnsIff.congr {other : Prop} (h : method.ReturnsIff state condition result)
    (hcondition : condition ↔ other) : method.ReturnsIff state other result := by
  rw [← propext hcondition]
  exact h

theorem Method.ReturnsIff.mono {weaker : α → σ → Prop} (h : method.ReturnsIff state condition result)
    (hresult : ∀ value after, result value after → weaker value after) :
    method.ReturnsIff state condition weaker := by
  unfold Method.ReturnsIff at h ⊢
  cases hexec : method.exec state with
  | mk outcome after =>
    rw [hexec] at h
    cases outcome with
    | ok value => exact ⟨h.1, hresult value after h.2⟩
    | error exception => exact h

/-- Two methods in a row return when both conditions hold. -/
theorem Method.ReturnsIff.bind {next : α → Method σ ε β} {later : Prop} {last : β → σ → Prop}
    (h : method.ReturnsIff state condition result)
    (hnext : ∀ value after, result value after → (next value).ReturnsIff after later last) :
    Method.ReturnsIff (method >>= next) state (condition ∧ later) last := by
  unfold Method.ReturnsIff at h ⊢
  rw [Method.exec_bind]
  cases hexec : method.exec state with
  | mk outcome after =>
    rw [hexec] at h
    cases outcome with
    | ok value =>
      have hlater := hnext value after h.2
      unfold Method.ReturnsIff at hlater
      simp only [h.1, true_and]
      exact hlater
    | error exception => exact fun hboth => h hboth.1

/-- What a method leaves as it was comes with its result. -/
theorem Method.ReturnsIff.keeping {ν : Type} {view : σ → ν} (h : method.ReturnsIff state condition result)
    (hkeeps : method.Keeps view) :
    method.ReturnsIff state condition fun value after => result value after ∧ view after = view state := by
  have hview := hkeeps state
  unfold Method.ReturnsIff at h ⊢
  cases hexec : method.exec state with
  | mk outcome after =>
    rw [hexec] at h hview
    cases outcome with
    | ok value => exact ⟨h.1, h.2, hview⟩
    | error exception => exact h

/-- A method after one that always returns. -/
theorem Method.ReturnsIff.bind_of_true {next : α → Method σ ε β} {last : β → σ → Prop}
    (h : method.ReturnsIff state True result)
    (hnext : ∀ value after, result value after → (next value).ReturnsIff after condition last) :
    Method.ReturnsIff (method >>= next) state condition last :=
  (h.bind hnext).congr (Iff.of_eq (true_and condition))

end

theorem Method.ReturnsIff.pure {value : α} {result : α → σ → Prop} (h : result value state) :
    Method.ReturnsIff (Pure.pure value : Method σ ε α) state True result := ⟨trivial, h⟩

theorem Method.ReturnsIff.get_bind {next : σ → Method σ ε α} {result : α → σ → Prop}
    (h : (next state).ReturnsIff state condition result) :
    Method.ReturnsIff (get >>= next) state condition result := h

theorem Method.ReturnsIff.modify {change : σ → σ} :
    Method.ReturnsIff (modify change : Method σ ε Unit) state True (fun _ after => after = change state) :=
  ⟨trivial, rfl⟩

/-- A method after a value that may be an exception already. -/
theorem Method.ReturnsIff.ofExcept_bind {outcome : Except ε α} {next : α → Method σ ε β} {later : α → Prop}
    {result : β → σ → Prop}
    (hnext : ∀ value, outcome = .ok value → (next value).ReturnsIff state (later value) result) :
    Method.ReturnsIff (Method.ofExcept outcome >>= next) state (∃ value, outcome = .ok value ∧ later value)
      result := by
  cases outcome with
  | ok value =>
    rw [Method.ofExcept_ok_bind]
    refine (hnext value rfl).congr ⟨fun h => ⟨value, rfl, h⟩, ?_⟩
    rintro ⟨other, hsame, h⟩
    exact Except.ok.inj hsame ▸ h
  | error exception => exact fun ⟨_, hsame, _⟩ => nomatch hsame

theorem Method.ReturnsIff.when {holds : Bool} {method : Method σ ε Unit} {result : Unit → σ → Prop}
    (htrue : holds = true → method.ReturnsIff state condition result)
    (hfalse : holds = false → condition ∧ result () state) :
    (Method.when holds method).ReturnsIff state condition result := by
  cases holds with
  | true => exact htrue rfl
  | false => exact hfalse rfl

theorem Method.ReturnsIff.focus {part : σ → τ} {replace : τ → σ → σ} {method : Method τ ε α}
    {result : α → τ → Prop} (h : method.ReturnsIff (part state) condition result) :
    (Method.focus part replace method).ReturnsIff state condition
      (fun value after => ∃ rest, result value rest ∧ after = replace rest state) := by
  unfold Method.ReturnsIff at h ⊢
  rw [Method.exec_focus]
  cases hexec : method.exec (part state) with
  | mk outcome rest =>
    rw [hexec] at h
    cases outcome with
    | ok value => exact ⟨h.1, rest, h.2, rfl⟩
    | error exception => exact h

/-- A loop returns when the condition of each element holds, whose calls take
an invariant of the elements done so far from one to the next. -/
theorem Method.ReturnsIff.forEach {method : α → Method σ ε Unit} {inv : List α → σ → Prop} {accepts : α → Prop}
    (hstep : ∀ done value state, inv done state →
      (method value).ReturnsIff state (accepts value) fun _ after => inv (done ++ [value]) after)
    {values : List α} (hinv : inv [] state) :
    (Method.forEach method values).ReturnsIff state (∀ value ∈ values, accepts value)
      (fun _ after => inv values after) := by
  suffices hfrom : ∀ done state, inv done state → (Method.forEach method values).ReturnsIff state
      (∀ value ∈ values, accepts value) (fun _ after => inv (done ++ values) after) from hfrom [] state hinv
  induction values with
  | nil =>
    intro done state hdone
    rw [List.append_nil]
    exact ⟨fun value hvalue => absurd hvalue List.not_mem_nil, hdone⟩
  | cons value rest ih =>
    intro done state hdone
    rw [Method.forEach]
    have hrest : ∀ (_ : Unit) after, inv (done ++ [value]) after → (Method.forEach method rest).ReturnsIff after
        (∀ value ∈ rest, accepts value) (fun _ last => inv (done ++ value :: rest) last) := by
      intro _ after hafter
      have hlast := ih (done ++ [value]) after hafter
      rw [List.append_assoc, List.singleton_append] at hlast
      exact hlast
    exact ((hstep done value state hdone).bind hrest).congr List.forall_mem_cons.symm

section

variable {f : α → Except ε β} {arguments : List α} {results : List β}

/-- A traversal returns what each argument gives, in their order. -/
theorem mapM_ok_iff_forall₂ :
    arguments.mapM f = .ok results ↔
      List.Forall₂ (fun argument result => f argument = .ok result) arguments results := by
  induction arguments generalizing results with
  | nil =>
    rw [List.mapM_nil, List.forall₂_nil_left_iff]
    exact ⟨fun h => (Except.ok.inj h).symm, fun h => h ▸ rfl⟩
  | cons argument rest ih =>
    rw [List.mapM_cons, bind_ok_iff, List.forall₂_cons_left_iff]
    constructor
    · rintro ⟨first, hfirst, hrest⟩
      obtain ⟨others, hothers, heq⟩ := bind_ok_iff.mp hrest
      exact ⟨first, others, hfirst, ih.mp hothers, (Except.ok.inj heq).symm⟩
    · rintro ⟨first, others, hfirst, hothers, rfl⟩
      exact ⟨first, hfirst, bind_ok_iff.mpr ⟨others, ih.mpr hothers, rfl⟩⟩

/-- A traversal returns when every argument gives a result. -/
theorem exists_mapM_ok_iff :
    (∃ results, arguments.mapM f = .ok results) ↔ ∀ argument ∈ arguments, ∃ result, f argument = .ok result := by
  simp only [mapM_ok_iff_forall₂]
  induction arguments with
  | nil => exact iff_of_true ⟨[], .nil⟩ fun argument hargument => absurd hargument List.not_mem_nil
  | cons argument rest ih =>
    rw [List.forall_mem_cons, ← ih]
    constructor
    · rintro ⟨results, hresults⟩
      obtain ⟨first, others, hfirst, hothers, rfl⟩ := List.forall₂_cons_left_iff.mp hresults
      exact ⟨⟨first, hfirst⟩, others, hothers⟩
    · rintro ⟨⟨first, hfirst⟩, others, hothers⟩
      exact ⟨first :: others, .cons hfirst hothers⟩

theorem mem_mapM_ok_iff {result : β} (h : arguments.mapM f = .ok results) :
    result ∈ results ↔ ∃ argument ∈ arguments, f argument = .ok result := by
  have hall := mapM_ok_iff_forall₂.mp h
  clear h
  induction hall with
  | nil => simp
  | @cons argument first rest others hfirst hothers ih =>
    rw [List.mem_cons, List.exists_mem_cons_iff, hfirst, Except.ok.injEq, eq_comm]
    exact or_congr Iff.rfl ih

/-- What holds of all elements of one list, holds of all elements of a related one. -/
theorem forall_mem_iff_of_forall₂ {relation : α → β → Prop} {property : α → Prop} {other : β → Prop}
    {values : List β}
    (h : List.Forall₂ relation arguments values)
    (hiff : ∀ argument value, relation argument value → (property argument ↔ other value)) :
    (∀ argument ∈ arguments, property argument) ↔ ∀ value ∈ values, other value := by
  induction h with
  | nil => exact iff_of_true (fun _ h => absurd h List.not_mem_nil) fun _ h => absurd h List.not_mem_nil
  | cons hfirst _ ih => rw [List.forall_mem_cons, List.forall_mem_cons, hiff _ _ hfirst, ih]

theorem getElem?_of_forall₂ {relation : α → β → Prop} {values : List β}
    (h : List.Forall₂ relation arguments values)
    {i : Nat} {argument : α} (hargument : arguments[i]? = some argument) :
    ∃ value, values[i]? = some value ∧ relation argument value := by
  induction h generalizing i with
  | nil => cases hargument
  | cons hfirst _ ih =>
    cases i with
    | zero =>
      cases hargument
      exact ⟨_, rfl, hfirst⟩
    | succ i => exact ih hargument

end

end relational

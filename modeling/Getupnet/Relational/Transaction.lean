namespace relational

/-- A method that reads and changes a state and may raise. An exception keeps
the changes made before it, as in the programming language; undoing them is
the business of a transaction. -/
abbrev Method (σ ε α : Type) : Type := ExceptT ε (StateM σ) α

variable {σ τ ε α β : Type}

/-- What a method returns or raises from a state, and the state it leaves. -/
def Method.exec (method : Method σ ε α) (state : σ) : Except ε α × σ := StateT.run (ExceptT.run method) state

@[simp] theorem Method.exec_pure (value : α) (state : σ) :
    Method.exec (pure value : Method σ ε α) state = (.ok value, state) := rfl

@[simp] theorem Method.exec_throw (exception : ε) (state : σ) :
    Method.exec (throw exception : Method σ ε α) state = (.error exception, state) := rfl

@[simp] theorem Method.exec_get (state : σ) :
    Method.exec (get : Method σ ε σ) state = (.ok state, state) := rfl

@[simp] theorem Method.exec_modify (change : σ → σ) (state : σ) :
    Method.exec (modify change : Method σ ε Unit) state = (.ok (), change state) := rfl

@[simp] theorem Method.exec_bind (method : Method σ ε α) (next : α → Method σ ε β) (state : σ) :
    Method.exec (method >>= next) state =
      match method.exec state with
      | (.ok value, after) => (next value).exec after
      | (.error exception, after) => (.error exception, after) := by
  simp only [Method.exec, bind, ExceptT.bind, ExceptT.mk, ExceptT.run, StateT.run, StateT.bind]
  cases method state with
  | mk result after => cases result <;> rfl

theorem Method.exec_bind_of_ok {method : Method σ ε α} {next : α → Method σ ε β} {state after : σ} {value : α}
    (h : method.exec state = (.ok value, after)) : (method >>= next).exec state = (next value).exec after := by
  rw [Method.exec_bind, h]

theorem Method.exec_map (f : α → β) (method : Method σ ε α) (state : σ) :
    Method.exec (f <$> method) state =
      match method.exec state with
      | (.ok value, after) => (.ok (f value), after)
      | (.error exception, after) => (.error exception, after) := by
  rw [← bind_pure_comp, Method.exec_bind]
  rfl

theorem Method.exec_get_bind (next : σ → Method σ ε α) (state : σ) :
    Method.exec (get >>= next) state = (next state).exec state := rfl

@[simp] theorem Method.exec_tryCatch (method : Method σ ε α) (handler : ε → Method σ ε α) (state : σ) :
    Method.exec (tryCatch method handler) state =
      match method.exec state with
      | (.ok value, after) => (.ok value, after)
      | (.error exception, after) => (handler exception).exec after := by
  simp only [Method.exec, tryCatch, tryCatchThe, MonadExceptOf.tryCatch, ExceptT.tryCatch, ExceptT.mk,
    ExceptT.run, StateT.run, bind, StateT.bind]
  cases method state with
  | mk result after => cases result <;> rfl

/-- Two methods in a row return when the second does from where the first does. -/
theorem Method.exec_then_returns {first : Method σ ε Unit} {second : Method σ ε α} {state after : σ} {value : α}
    (h : Method.exec (do first; second) state = (.ok value, after)) :
    ∃ middle, first.exec state = (.ok (), middle) ∧ second.exec middle = (.ok value, after) := by
  rw [Method.exec_bind] at h
  cases hfirst : first.exec state with
  | mk result middle =>
    rw [hfirst] at h
    cases result with
    | ok _ => exact ⟨middle, rfl, h⟩
    | error exception => cases h

/-- A value that may be an exception already. -/
def Method.ofExcept (result : Except ε α) : Method σ ε α := ExceptT.mk (pure result)

@[simp] theorem Method.exec_ofExcept (result : Except ε α) (state : σ) :
    Method.exec (Method.ofExcept result : Method σ ε α) state = (result, state) := rfl

theorem Method.ofExcept_bind_returns {result : Except ε α} {next : α → Method σ ε β} {state after : σ} {value : β}
    (h : Method.exec (Method.ofExcept result >>= next) state = (.ok value, after)) :
    ∃ found, result = .ok found ∧ (next found).exec state = (.ok value, after) := by
  rw [Method.exec_bind, Method.exec_ofExcept] at h
  cases result with
  | ok found => exact ⟨found, rfl, h⟩
  | error exception => cases h

theorem Method.ofExcept_ok_bind (value : α) (next : α → Method σ ε β) :
    (Method.ofExcept (.ok value) >>= next) = next value := rfl

/-- `if condition: method` -/
def Method.when (condition : Bool) (method : Method σ ε Unit) : Method σ ε Unit :=
  if condition then method else pure ()

/-- A method given by its outcome from each state. -/
def Method.ofFun (outcome : σ → Except ε α × σ) : Method σ ε α := ExceptT.mk outcome

@[simp] theorem Method.exec_ofFun (outcome : σ → Except ε α × σ) (state : σ) :
    Method.exec (Method.ofFun outcome) state = outcome state := rfl

/-- Running a method on a part of a larger state. -/
def Method.focus (part : σ → τ) (replace : τ → σ → σ) (method : Method τ ε α) : Method σ ε α :=
  Method.ofFun fun state => ((method.exec (part state)).1, replace (method.exec (part state)).2 state)

@[simp] theorem Method.exec_focus (part : σ → τ) (replace : τ → σ → σ) (method : Method τ ε α) (state : σ) :
    Method.exec (Method.focus part replace method) state =
      ((method.exec (part state)).1, replace (method.exec (part state)).2 state) := rfl

/-- One call in a database transaction of its own: an exception that escapes
restores the stored part of the state, and nothing else. -/
def Method.commit (restore : σ → σ → σ) (method : Method σ ε α) (state : σ) : σ :=
  match method.exec state with
  | (.ok _, after) => after
  | (.error _, after) => restore state after

theorem Method.commit_of_ok {restore : σ → σ → σ} {method : Method σ ε α} {state after : σ} {value : α}
    (h : method.exec state = (.ok value, after)) : method.commit restore state = after := by
  rw [Method.commit, h]

theorem Method.commit_of_error {restore : σ → σ → σ} {method : Method σ ε α} {state after : σ} {exception : ε}
    (h : method.exec state = (.error exception, after)) :
    method.commit restore state = restore state after := by
  rw [Method.commit, h]

/-- A transaction keeps a relation to the state before it when a call that
returns does and an undone one does. -/
theorem Method.commit_relates {restore : σ → σ → σ} {method : Method σ ε α} {relation : σ → σ → Prop} {state : σ}
    (hreturns : ∀ value after, method.exec state = (.ok value, after) → relation state after)
    (hrestore : ∀ after, relation state (restore state after)) :
    relation state (method.commit restore state) := by
  cases hexec : method.exec state with
  | mk result after =>
    cases result with
    | ok value =>
      rw [Method.commit_of_ok hexec]
      exact hreturns value after hexec
    | error exception =>
      rw [Method.commit_of_error hexec]
      exact hrestore after

/-- One call among others, in a database transaction of its own. -/
def Method.transaction (restore : σ → σ → σ) (method : Method σ ε α) : Method σ ε α :=
  Method.ofFun fun state => ((method.exec state).1, method.commit restore state)

/-- Calling a method on each element of a list, stopping at the first exception. -/
def Method.forEach (method : α → Method σ ε Unit) : List α → Method σ ε Unit
  | [] => pure ()
  | value :: rest => do
    method value
    Method.forEach method rest

theorem Method.forEach_singleton (method : α → Method σ ε Unit) (value : α) :
    Method.forEach method [value] = method value := by
  simp [Method.forEach]

theorem Method.exec_forEach_cons (method : α → Method σ ε Unit) (value : α) (rest : List α) (state : σ) :
    Method.exec (Method.forEach method (value :: rest)) state =
      match (method value).exec state with
      | (.ok _, after) => (Method.forEach method rest).exec after
      | (.error exception, after) => (.error exception, after) := by
  rw [Method.forEach, Method.exec_bind]
  rcases (method value).exec state with ⟨_ | _, _⟩ <;> rfl

/-- A loop that returns has returned from its first call. -/
theorem Method.forEach_cons_returns {method : α → Method σ ε Unit} {value : α} {rest : List α} {state after : σ}
    (h : (Method.forEach method (value :: rest)).exec state = (.ok (), after)) :
    ∃ middle, (method value).exec state = (.ok (), middle) ∧
      (Method.forEach method rest).exec middle = (.ok (), after) := by
  rw [Method.exec_forEach_cons] at h
  cases hexec : (method value).exec state with
  | mk result middle =>
    rw [hexec] at h
    cases result with
    | ok _ => exact ⟨middle, rfl, h⟩
    | error exception => cases h

/-- A reflexive and transitive relation that every returning call keeps is kept
by a loop that returns. -/
theorem Method.forEach_relates {method : α → Method σ ε Unit} {relation : σ → σ → Prop}
    (hrefl : ∀ state, relation state state)
    (htrans : ∀ first second third, relation first second → relation second third → relation first third)
    {values : List α}
    (hstep : ∀ value ∈ values, ∀ state after, (method value).exec state = (.ok (), after) → relation state after)
    {state after : σ} (h : (Method.forEach method values).exec state = (.ok (), after)) :
    relation state after := by
  induction values generalizing state with
  | nil =>
    obtain ⟨_, rfl⟩ := Prod.mk.inj h
    exact hrefl state
  | cons value rest ih =>
    obtain ⟨middle, hfirst, hrest⟩ := Method.forEach_cons_returns h
    have hrelated := ih (fun other hother => hstep other (List.mem_cons_of_mem _ hother)) hrest
    exact htrans state middle after (hstep value List.mem_cons_self state middle hfirst) hrelated

/-- What every returning call keeps, a loop that returns keeps. -/
theorem Method.forEach_invariant {method : α → Method σ ε Unit} {inv : σ → Prop} {values : List α}
    (hstep : ∀ value ∈ values, ∀ state after, inv state → (method value).exec state = (.ok (), after) → inv after)
    {state after : σ} (hinv : inv state) (h : (Method.forEach method values).exec state = (.ok (), after)) :
    inv after := by
  induction values generalizing state with
  | nil =>
    obtain ⟨_, rfl⟩ := Prod.mk.inj h
    exact hinv
  | cons value rest ih =>
    obtain ⟨middle, hfirst, hrest⟩ := Method.forEach_cons_returns h
    have hmiddle := hstep value List.mem_cons_self state middle hinv hfirst
    exact ih (fun other hother => hstep other (List.mem_cons_of_mem _ hother)) hmiddle hrest

/-- A loop that returns has returned from the call of each element, between
states related to the first and the last. -/
theorem Method.forEach_reaches {method : α → Method σ ε Unit} {relation : σ → σ → Prop}
    (hrefl : ∀ state, relation state state)
    (htrans : ∀ first second third, relation first second → relation second third → relation first third)
    (hstep : ∀ value state after, (method value).exec state = (.ok (), after) → relation state after)
    {values : List α} {value : α} (hvalue : value ∈ values) {state after : σ}
    (h : (Method.forEach method values).exec state = (.ok (), after)) :
    ∃ middle next, relation state middle ∧ (method value).exec middle = (.ok (), next) ∧ relation next after := by
  induction values generalizing state with
  | nil => exact absurd hvalue List.not_mem_nil
  | cons head rest ih =>
    obtain ⟨middle, hfirst, hrest⟩ := Method.forEach_cons_returns h
    obtain rfl | hin := List.mem_cons.mp hvalue
    · refine ⟨state, middle, hrefl state, hfirst, ?_⟩
      exact Method.forEach_relates hrefl htrans (fun value _ state after => hstep value state after) hrest
    · obtain ⟨later, next, hlater, hnext, hlast⟩ := ih hin hrest
      exact ⟨later, next, htrans _ _ _ (hstep head state middle hfirst) hlater, hnext, hlast⟩

/-- A loop that raises has raised in the call of an element, from a state
related to the first. -/
theorem Method.forEach_raises {method : α → Method σ ε Unit} {relation : σ → σ → Prop}
    (hrefl : ∀ state, relation state state)
    (htrans : ∀ first second third, relation first second → relation second third → relation first third)
    (hstep : ∀ value state after, (method value).exec state = (.ok (), after) → relation state after)
    {values : List α} {state after : σ} {exception : ε}
    (h : (Method.forEach method values).exec state = (.error exception, after)) :
    ∃ value ∈ values, ∃ middle, relation state middle ∧
      (method value).exec middle = (.error exception, after) := by
  induction values generalizing state with
  | nil => cases h
  | cons head rest ih =>
    rw [Method.exec_forEach_cons] at h
    cases hhead : (method head).exec state with
    | mk result middle =>
      rw [hhead] at h
      cases result with
      | ok value =>
        obtain ⟨other, hother, later, hlater, hraised⟩ := ih h
        exact ⟨other, List.mem_cons_of_mem _ hother, later,
          htrans _ _ _ (hstep head state middle hhead) hlater, hraised⟩
      | error raised =>
        cases h
        exact ⟨head, List.mem_cons_self, state, hrefl state, hhead⟩

/-- Checks that raise nothing have changed nothing. -/
theorem Method.forEach_ofExcept_returns {check : α → Except ε Unit} {values : List α} {state after : σ}
    (h : (Method.forEach (fun value => Method.ofExcept (check value)) values).exec state = (.ok (), after)) :
    after = state ∧ ∀ value ∈ values, check value = .ok () := by
  induction values with
  | nil =>
    obtain ⟨_, rfl⟩ := Prod.mk.inj h
    exact ⟨rfl, by simp⟩
  | cons value rest ih =>
    obtain ⟨middle, hfirst, hrest⟩ := Method.forEach_cons_returns h
    obtain ⟨hvalue, rfl⟩ := Prod.mk.inj hfirst
    obtain ⟨hafter, hall⟩ := ih hrest
    refine ⟨hafter, fun other hother => ?_⟩
    obtain rfl | hin := List.mem_cons.mp hother
    · exact hvalue
    · exact hall other hin

/-- A loop over elements that are ready for their call keeps what each call
keeps, provided that no call makes a later element unready. -/
theorem Method.forEach_keeps {method : α → Method σ ε Unit} {inv : σ → Prop} {ready : σ → α → Prop}
    {independent : α → α → Prop}
    (hkeep : ∀ value state after, ready state value → inv state →
      (method value).exec state = (.ok (), after) → inv after)
    (hready : ∀ value other state after, independent value other → ready state value → ready state other →
      (method value).exec state = (.ok (), after) → ready after other)
    {values : List α} (hvalues : values.Pairwise independent) {state after : σ}
    (hall : ∀ value ∈ values, ready state value) (hinv : inv state)
    (h : (Method.forEach method values).exec state = (.ok (), after)) : inv after := by
  induction values generalizing state with
  | nil =>
    obtain ⟨_, rfl⟩ := Prod.mk.inj h
    exact hinv
  | cons value rest ih =>
    obtain ⟨middle, hfirst, hrest⟩ := Method.forEach_cons_returns h
    obtain ⟨hindependent, hpairwise⟩ := List.pairwise_cons.mp hvalues
    have hvalue := hall value List.mem_cons_self
    refine ih hpairwise (fun other hother => ?_) (hkeep value state middle hvalue hinv hfirst) hrest
    exact hready value other state middle (hindependent other hother) hvalue
      (hall other (List.mem_cons_of_mem _ hother)) hfirst

/-- What a traversal returns at a position comes from the argument there. -/
theorem mapM_ok_getElem {f : α → Except ε β} {arguments : List α} {results : List β}
    (h : arguments.mapM f = .ok results) {i : Nat} {result : β} (hresult : results[i]? = some result) :
    ∃ argument, arguments[i]? = some argument ∧ f argument = .ok result := by
  induction arguments generalizing results i with
  | nil =>
    cases h
    simp at hresult
  | cons argument rest ih =>
    rw [List.mapM_cons] at h
    cases hfirst : f argument with
    | error exception =>
      rw [hfirst] at h
      cases h
    | ok first =>
      cases hrest : rest.mapM f with
      | error exception =>
        rw [hfirst, hrest] at h
        cases h
      | ok others =>
        rw [hfirst, hrest] at h
        cases h
        cases i with
        | zero =>
          rw [List.getElem?_cons_zero, Option.some.injEq] at hresult
          exact ⟨argument, List.getElem?_cons_zero, hresult ▸ hfirst⟩
        | succ i =>
          rw [List.getElem?_cons_succ] at hresult
          obtain ⟨other, hother, hvalue⟩ := ih hrest hresult
          exact ⟨other, by rw [List.getElem?_cons_succ, hother], hvalue⟩

/-- What returns has returned from its first part. -/
theorem bind_ok_iff {first : Except ε α} {next : α → Except ε β} {value : β} :
    (first >>= next) = .ok value ↔ ∃ middle, first = .ok middle ∧ next middle = .ok value := by
  cases first with
  | ok middle => exact ⟨fun h => ⟨middle, rfl, h⟩, fun ⟨_, hmiddle, h⟩ => Except.ok.inj hmiddle ▸ h⟩
  | error exception => exact iff_of_false nofun (fun ⟨_, hmiddle, _⟩ => nomatch hmiddle)

/-- A loop of checks passes when each of them does. -/
theorem forM_ok_iff {check : α → Except ε Unit} {values : List α} :
    values.forM check = .ok () ↔ ∀ value ∈ values, check value = .ok () := by
  induction values with
  | nil => exact iff_of_true rfl fun value hvalue => absurd hvalue List.not_mem_nil
  | cons value rest ih =>
    have hcons : (value :: rest).forM check = check value >>= fun _ => rest.forM check := rfl
    rw [hcons, List.forall_mem_cons, ← ih]
    cases check value with
    | ok _ => exact ⟨fun h => ⟨rfl, h⟩, fun h => h.2⟩
    | error exception =>
      refine iff_of_false (fun h => ?_) (fun h => ?_)
      · cases h
      · cases h.1

end relational

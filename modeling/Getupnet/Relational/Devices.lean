import Mathlib.Logic.Function.Basic
import Getupnet.Relational.Frame

namespace relational

variable {ι κ σ τ ε α β ν : Type}

/-- A device that may refuse any command, by all that it was sent before: a
refused command raises and does nothing. The state keeps the commands sent. -/
def rejecting (rejects : List κ → κ → Option ε) (device : κ → Method τ ε Unit) (command : κ) :
    Method (List κ × τ) ε Unit :=
  Method.ofFun fun state =>
    match rejects state.1 command with
    | some exception => (.error exception, state.1 ++ [command], state.2)
    | none => (((device command).exec state.2).1, state.1 ++ [command], ((device command).exec state.2).2)

theorem rejecting_exec_of_accepted {rejects : List κ → κ → Option ε} {device : κ → Method τ ε Unit} {command : κ}
    {log : List κ} {state : τ} (h : rejects log command = none) :
    (rejecting rejects device command).exec (log, state) =
      (((device command).exec state).1, log ++ [command], ((device command).exec state).2) := by
  rw [rejecting, Method.exec_ofFun]
  simp only [h]

theorem rejecting_exec_of_rejected {rejects : List κ → κ → Option ε} {device : κ → Method τ ε Unit} {command : κ}
    {log : List κ} {state : τ} {exception : ε} (h : rejects log command = some exception) :
    (rejecting rejects device command).exec (log, state) = (.error exception, log ++ [command], state) := by
  rw [rejecting, Method.exec_ofFun]
  simp only [h]

theorem rejecting_keeps {rejects : List κ → κ → Option ε} {device : κ → Method τ ε Unit} {command : κ}
    {view : τ → ν}
    (h : (device command).Keeps view) : (rejecting rejects device command).Keeps fun state => view state.2 := by
  intro state
  cases hrejects : rejects state.1 command with
  | some exception => rw [rejecting_exec_of_rejected hrejects]
  | none =>
    rw [rejecting_exec_of_accepted hrejects]
    exact h state.2

/-- A method at work on one device of a family. -/
def Method.onDevice [DecidableEq ι] (id : ι) (method : Method τ ε α) : Method (ι → τ) ε α :=
  Method.focus (fun family => family id) (fun state family => Function.update family id state) method

variable [DecidableEq ι] {id : ι} {family : ι → τ}

theorem Method.exec_onDevice (id : ι) (method : Method τ ε α) (family : ι → τ) :
    (Method.onDevice id method).exec family =
      ((method.exec (family id)).1, Function.update family id (method.exec (family id)).2) := rfl

theorem Method.onDevice_keeps {method : Method τ ε α} {view : τ → ν} (h : method.Keeps view) :
    (Method.onDevice id method).Keeps fun family => view (family id) := by
  refine Method.Keeps.focus h fun rest family hsame => ?_
  rw [Function.update_self]
  exact hsame

theorem Method.onDevice_pure (value : α) :
    Method.onDevice id (pure value : Method τ ε α) = (pure value : Method (ι → τ) ε α) := by
  funext family
  exact congrArg (Prod.mk (Except.ok value)) (Function.update_eq_self id family)

theorem Method.onDevice_throw (exception : ε) :
    Method.onDevice id (throw exception : Method τ ε α) = (throw exception : Method (ι → τ) ε α) := by
  funext family
  exact congrArg (Prod.mk (Except.error exception)) (Function.update_eq_self id family)

/-- What one device raises is handled on it. -/
theorem Method.onDevice_tryCatch (method : Method τ ε α) (handler : ε → Method τ ε α) :
    Method.onDevice id (tryCatch method handler) =
      (tryCatch (Method.onDevice id method) fun exception => Method.onDevice id (handler exception) :
        Method (ι → τ) ε α) := by
  funext family
  change (Method.onDevice id (tryCatch method handler)).exec family =
    (tryCatch (Method.onDevice id method) fun exception => Method.onDevice id (handler exception)).exec family
  rw [Method.exec_tryCatch, Method.exec_onDevice, Method.exec_onDevice, Method.exec_tryCatch]
  cases method.exec (family id) with
  | mk result after =>
    cases result with
    | ok value => rfl
    | error exception => simp only [Method.exec_onDevice, Function.update_self, Function.update_idem]

/-- A sequence of visits, each to one member of a family, leaves every member as the visits
to it alone would. -/
theorem foldl_update_member {members : σ → ι → τ} {visit : σ → α → σ} {member : α → ι}
    {change : τ → α → τ}
    (h : ∀ state value, members (visit state value) =
      Function.update (members state) (member value) (change (members state (member value)) value))
    (values : List α) (state : σ) (index : ι) :
    members (values.foldl visit state) index =
      (values.filter fun value => decide (member value = index)).foldl change (members state index) := by
  induction values generalizing state with
  | nil => rfl
  | cons value rest ih =>
    rw [List.foldl_cons, ih, h]
    by_cases hmember : member value = index
    · rw [List.filter_cons, decide_eq_true hmember, if_pos rfl, List.foldl_cons, ← hmember, Function.update_self]
    · rw [List.filter_cons, decide_eq_false hmember, if_neg Bool.false_ne_true, Function.update_of_ne (Ne.symm hmember)]

end relational

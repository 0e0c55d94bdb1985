import Getupnet.Interaction.Issued

namespace interaction

variable {κ ρ ε σ α β : Type}

/-- With answers from a given range, the program ends by returning such a value or by
raising such an exception. -/
def Program.Ends (answers : Except ε ρ → Prop) (returned : α → Prop) (raised : ε → Prop) :
    Program κ ρ ε α → Prop
  | .returns value => returned value
  | .raises exception => raised exception
  | .issue _ next => ∀ answer, answers answer → (next answer).Ends answers returned raised

/-- A device whose answers are in a given range. -/
def Gives (answers : Except ε ρ → Prop) (perform : σ → κ → Except ε ρ × σ) : Prop :=
  ∀ state command, answers (perform state command).1

variable {answers : Except ε ρ → Prop} {returned : α → Prop} {later : β → Prop} {raised : ε → Prop}
  {program : Program κ ρ ε α} {perform : σ → κ → Except ε ρ × σ}

theorem Program.Ends.of_exec_error (h : program.Ends answers returned raised) (hgives : Gives answers perform)
    {state after : σ} {exception : ε} (hexec : program.exec perform state = (.error exception, after)) :
    raised exception := by
  induction program generalizing state with
  | returns result => cases hexec
  | raises other =>
    cases hexec
    exact h
  | issue command next ih => exact ih _ (h _ (hgives state command)) hexec

theorem Program.Ends.mono {expected : α → Prop} {tolerated : ε → Prop} (h : program.Ends answers returned raised)
    (hreturned : ∀ value, returned value → expected value)
    (hraised : ∀ exception, raised exception → tolerated exception) :
    program.Ends answers expected tolerated := by
  induction program with
  | returns value => exact hreturned value h
  | raises exception => exact hraised exception h
  | issue command next ih => exact fun answer hanswer => ih answer (h answer hanswer)

theorem Program.Ends.bind {next : α → Program κ ρ ε β} (h : program.Ends answers returned raised)
    (hnext : ∀ value, returned value → (next value).Ends answers later raised) :
    (program >>= next).Ends answers later raised := by
  change (program.bind next).Ends answers later raised
  induction program with
  | returns value => exact hnext value h
  | raises exception => exact h
  | issue command rest ih => exact fun answer hanswer => ih answer (h answer hanswer)

/-- The handler takes over from what is raised. -/
theorem Program.Ends.attempt {caught : ε → Prop} {handler : ε → Program κ ρ ε α}
    (h : program.Ends answers returned caught)
    (hhandler : ∀ exception, caught exception → (handler exception).Ends answers returned raised) :
    (program.attempt handler).Ends answers returned raised := by
  induction program with
  | returns value => exact h
  | raises exception => exact hhandler exception h
  | issue command rest ih => exact fun answer hanswer => ih answer (h answer hanswer)

theorem Program.Ends.command {command : κ} (h : ∀ exception, answers (.error exception) → raised exception) :
    (Program.command command : Program κ ρ ε ρ).Ends answers (fun _ => True) raised := by
  intro answer hanswer
  cases answer with
  | ok response => trivial
  | error exception => exact h exception hanswer

theorem Program.Ends.when {condition : Bool} {program : Program κ ρ ε Unit}
    (h : condition = true → program.Ends answers (fun _ => True) raised) :
    (Program.when condition program).Ends answers (fun _ => True) raised := by
  cases condition with
  | false => trivial
  | true => exact h rfl

theorem Program.Ends.forEach {program : α → Program κ ρ ε Unit} {values : List α}
    (h : ∀ value ∈ values, (program value).Ends answers (fun _ => True) raised) :
    (Program.forEach program values).Ends answers (fun _ => True) raised := by
  induction values with
  | nil => trivial
  | cons value rest ih =>
    refine (h value List.mem_cons_self).bind fun _ _ => ih fun other hother => ?_
    exact h other (List.mem_cons_of_mem _ hother)

/-- A sequence that returns has done so in its first part. -/
theorem Program.exists_exec_of_bind {next : α → Program κ ρ ε β} {state after : σ} {result : β}
    (h : (program >>= next).exec perform state = (.ok result, after)) :
    ∃ value middle, program.exec perform state = (.ok value, middle) ∧
      (next value).exec perform middle = (.ok result, after) := by
  rw [Program.exec_bind] at h
  cases hexec : program.exec perform state with
  | mk answer middle =>
    rw [hexec] at h
    cases answer with
    | ok value => exact ⟨value, middle, rfl, h⟩
    | error exception => cases h

/-- What a sequence raises is raised by one of its parts. -/
theorem Program.exec_error_of_bind {next : α → Program κ ρ ε β} {state after : σ} {exception : ε}
    (h : (program >>= next).exec perform state = (.error exception, after)) :
    program.exec perform state = (.error exception, after) ∨
      ∃ value middle, program.exec perform state = (.ok value, middle) ∧
        (next value).exec perform middle = (.error exception, after) := by
  rw [Program.exec_bind] at h
  cases hexec : program.exec perform state with
  | mk answer middle =>
    rw [hexec] at h
    cases answer with
    | ok value => exact Or.inr ⟨value, middle, rfl, h⟩
    | error other =>
      cases h
      exact Or.inl rfl

/-- A sequence goes on where its first part has returned. -/
theorem Program.exec_bind_of_ok {next : α → Program κ ρ ε β} {state middle : σ} {value : α}
    (h : program.exec perform state = (.ok value, middle)) :
    (program >>= next).exec perform state = (next value).exec perform middle := by
  rw [Program.exec_bind, h]

/-- From every state, the program returns. -/
def Program.Completes (perform : σ → κ → Except ε ρ × σ) (program : Program κ ρ ε α) : Prop :=
  ∀ state, ∃ value after, program.exec perform state = (.ok value, after)

theorem Program.Completes.pure (value : α) : Program.Completes perform (Pure.pure value : Program κ ρ ε α) :=
  fun state => ⟨value, state, rfl⟩

theorem Program.Completes.bind {next : α → Program κ ρ ε β} (h : program.Completes perform)
    (hnext : ∀ value, (next value).Completes perform) : (program >>= next).Completes perform := by
  intro state
  obtain ⟨value, middle, hexec⟩ := h state
  rw [Program.exec_bind_of_ok hexec]
  exact hnext value middle

/-- The handler of a program that returns has nothing to do. -/
theorem Program.Completes.attempt (h : program.Completes perform) (handler : ε → Program κ ρ ε α) :
    (program.attempt handler).Completes perform := by
  intro state
  obtain ⟨value, after, hexec⟩ := h state
  refine ⟨value, after, ?_⟩
  rw [Program.exec_attempt, hexec]

theorem Program.Completes.forEach {program : α → Program κ ρ ε Unit} (values : List α)
    (h : ∀ value, (program value).Completes perform) : (Program.forEach program values).Completes perform := by
  induction values with
  | nil => exact .pure ()
  | cons value rest ih => exact (h value).bind fun _ => ih

end interaction

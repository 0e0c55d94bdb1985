import Getupnet.Interaction.Program

namespace interaction

variable {κ ρ ε σ α β : Type}

/-- The commands, in order, given how they are answered. -/
def Program.issued (perform : σ → κ → Except ε ρ × σ) : Program κ ρ ε α → σ → List κ
  | .returns _, _ => []
  | .raises _, _ => []
  | .issue command next, state =>
    command :: (next (perform state command).1).issued perform (perform state command).2

/-- However its commands are answered, the program issues only such commands. -/
def Program.Only (accepts : κ → Prop) : Program κ ρ ε α → Prop
  | .returns _ => True
  | .raises _ => True
  | .issue command next => accepts command ∧ ∀ answer, (next answer).Only accepts

/-- `if condition: program` -/
def Program.when (condition : Bool) (program : Program κ ρ ε Unit) : Program κ ρ ε Unit :=
  if condition then program else pure ()

theorem Program.issued_bind (perform : σ → κ → Except ε ρ × σ) (program : Program κ ρ ε α)
    (next : α → Program κ ρ ε β) (state : σ) :
    (program >>= next).issued perform state = program.issued perform state ++
      match program.exec perform state with
      | (.ok value, after) => (next value).issued perform after
      | (.error _, _) => [] := by
  change (program.bind next).issued perform state = _
  induction program generalizing state with
  | returns value => rfl
  | raises exception => rfl
  | issue command rest ih =>
    rw [Program.bind, Program.issued, Program.issued, ih, List.cons_append, Program.exec]

section

variable {perform : σ → κ → Except ε ρ × σ} {program : Program κ ρ ε α} {next : α → Program κ ρ ε β}
  {command : κ} {state after : σ} {value : α}

theorem Program.mem_issued_bind_left (h : command ∈ program.issued perform state) :
    command ∈ (program >>= next).issued perform state := by
  rw [Program.issued_bind]
  exact List.mem_append_left _ h

/-- What comes after a program that returns is issued too. -/
theorem Program.mem_issued_bind_right (hexec : program.exec perform state = (.ok value, after))
    (h : command ∈ (next value).issued perform after) : command ∈ (program >>= next).issued perform state := by
  rw [Program.issued_bind, hexec]
  exact List.mem_append_right _ h

end

section

variable {accepts : κ → Prop} {program : Program κ ρ ε α} {next : α → Program κ ρ ε β}

theorem Program.Only.mem (h : program.Only accepts) (perform : σ → κ → Except ε ρ × σ) (state : σ) :
    ∀ command ∈ program.issued perform state, accepts command := by
  induction program generalizing state with
  | returns value => exact fun _ => nofun
  | raises exception => exact fun _ => nofun
  | issue first rest ih =>
    intro command hcommand
    obtain rfl | hlater := List.mem_cons.mp hcommand
    · exact h.1
    · exact ih _ (h.2 _) _ command hlater

theorem Program.Only.mono {expected : κ → Prop} (h : program.Only accepts)
    (haccepts : ∀ command, accepts command → expected command) : program.Only expected := by
  induction program with
  | returns value => trivial
  | raises exception => trivial
  | issue command rest ih => exact ⟨haccepts command h.1, fun answer => ih answer (h.2 answer)⟩

theorem Program.Only.bind (h : program.Only accepts) (hnext : ∀ value, (next value).Only accepts) :
    (program >>= next).Only accepts := by
  change (program.bind next).Only accepts
  induction program with
  | returns value => exact hnext value
  | raises exception => trivial
  | issue command rest ih => exact ⟨h.1, fun answer => ih answer (h.2 answer)⟩

theorem Program.Only.attempt {handler : ε → Program κ ρ ε α} (h : program.Only accepts)
    (hhandler : ∀ exception, (handler exception).Only accepts) : (program.attempt handler).Only accepts := by
  induction program with
  | returns value => trivial
  | raises exception => exact hhandler exception
  | issue command rest ih => exact ⟨h.1, fun answer => ih answer (h.2 answer)⟩

theorem Program.Only.ofExcept (result : Except ε α) :
    (Program.ofExcept result : Program κ ρ ε α).Only accepts := by
  cases result <;> trivial

theorem Program.Only.command {command : κ} (h : accepts command) :
    (Program.command command : Program κ ρ ε ρ).Only accepts := by
  refine ⟨h, fun answer => ?_⟩
  cases answer <;> trivial

theorem Program.Only.when {condition : Bool} {program : Program κ ρ ε Unit}
    (h : condition = true → program.Only accepts) : (Program.when condition program).Only accepts := by
  cases condition with
  | false => trivial
  | true => exact h rfl

theorem Program.Only.forEach {program : α → Program κ ρ ε Unit} {values : List α}
    (h : ∀ value ∈ values, (program value).Only accepts) : (Program.forEach program values).Only accepts := by
  induction values with
  | nil => trivial
  | cons value rest ih =>
    refine (h value List.mem_cons_self).bind fun _ => ih fun other hother => ?_
    exact h other (List.mem_cons_of_mem _ hother)

end

/-- When each run returns without a trace in the state, so does the loop. -/
theorem Program.forEach_exec {perform : σ → κ → Except ε ρ × σ} {program : α → Program κ ρ ε Unit}
    {values : List α}
    {state : σ} (h : ∀ value ∈ values, (program value).exec perform state = (.ok (), state)) :
    (Program.forEach program values).exec perform state = (.ok (), state) := by
  induction values with
  | nil => rfl
  | cons value rest ih =>
    rw [Program.forEach, Program.exec_bind, h value List.mem_cons_self]
    exact ih fun other hother => h other (List.mem_cons_of_mem _ hother)

end interaction

import Getupnet.Interaction.Ends

namespace interaction

variable {κ ρ ε σ α β : Type}

/-- The commands of a program, each with the state in which it is issued. -/
def Program.trace (perform : σ → κ → Except ε ρ × σ) : Program κ ρ ε α → σ → List (σ × κ)
  | .returns _, _ => []
  | .raises _, _ => []
  | .issue command next, state =>
    (state, command) :: (next (perform state command).1).trace perform (perform state command).2

/-- Every command is issued in a state that allows it. -/
def Program.Allowed (perform : σ → κ → Except ε ρ × σ) (allows : σ → κ → Prop) (program : Program κ ρ ε α)
    (state : σ) : Prop :=
  ∀ step ∈ program.trace perform state, allows step.1 step.2

section

variable {perform : σ → κ → Except ε ρ × σ} {allows : σ → κ → Prop} {program : Program κ ρ ε α} {state : σ}

@[simp] theorem Program.allowed_ofExcept (result : Except ε α) (state : σ) :
    (Program.ofExcept result : Program κ ρ ε α).Allowed perform allows state := by
  cases result <;> exact nofun

theorem Program.allowed_issue {command : κ} {next : Except ε ρ → Program κ ρ ε α} :
    (Program.issue command next).Allowed perform allows state ↔
      allows state command ∧ (next (perform state command).1).Allowed perform allows (perform state command).2 :=
  List.forall_mem_cons

/-- Commands that are always allowed. -/
theorem Program.Only.allowed {accepts : κ → Prop} (h : program.Only accepts)
    (hallows : ∀ state command, accepts command → allows state command) (state : σ) :
    program.Allowed perform allows state := by
  induction program generalizing state with
  | returns value => exact nofun
  | raises exception => exact nofun
  | issue command rest ih => exact Program.allowed_issue.mpr ⟨hallows state command h.1, ih _ (h.2 _) _⟩

/-- What such commands keep, the program keeps. -/
theorem Program.Only.keeps {accepts : κ → Prop} {inv : σ → Prop} (h : program.Only accepts)
    (hkeeps : ∀ state command, accepts command → inv state → inv (perform state command).2) {state : σ}
    (hinv : inv state) : inv (program.exec perform state).2 := by
  induction program generalizing state with
  | returns value => exact hinv
  | raises exception => exact hinv
  | issue command rest ih => exact ih _ (h.2 _) (hkeeps state command h.1 hinv)

end

end interaction

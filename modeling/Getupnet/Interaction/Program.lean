import Getupnet.Interaction.Resumption

namespace interaction

/-- A program that talks to a device: it returns, raises, or issues a command
and goes on with the answer, which may be an exception. -/
inductive Program (κ ρ ε α : Type) where
  | returns (value : α)
  | raises (exception : ε)
  | issue (command : κ) (next : Except ε ρ → Program κ ρ ε α)

variable {κ ρ ε σ α β : Type}

def Program.bind (program : Program κ ρ ε α) (next : α → Program κ ρ ε β) : Program κ ρ ε β :=
  match program with
  | .returns value => next value
  | .raises exception => .raises exception
  | .issue command rest => .issue command fun answer => (rest answer).bind next

instance : Monad (Program κ ρ ε) where
  pure := Program.returns
  bind := Program.bind

theorem Program.bind_assoc {γ : Type} (program : Program κ ρ ε α) (next : α → Program κ ρ ε β)
    (last : β → Program κ ρ ε γ) :
    (program.bind next).bind last = program.bind fun value => (next value).bind last := by
  induction program with
  | returns value => rfl
  | raises exception => rfl
  | issue command rest ih => exact congrArg (Program.issue command) (funext ih)

theorem Program.bind_returns (program : Program κ ρ ε α) : program.bind Program.returns = program := by
  induction program with
  | returns value => rfl
  | raises exception => rfl
  | issue command rest ih => exact congrArg (Program.issue command) (funext ih)

instance : LawfulMonad (Program κ ρ ε) := LawfulMonad.mk' _
  (fun _ => Program.bind_returns _)
  (fun _ _ => rfl)
  (fun _ _ _ => Program.bind_assoc _ _ _)

/-- One command, whose exception escapes unless an `attempt` stops it. -/
def Program.command (command : κ) : Program κ ρ ε ρ :=
  .issue command fun
    | .ok response => .returns response
    | .error exception => .raises exception

/-- A value that may be an exception already. -/
def Program.ofExcept : Except ε α → Program κ ρ ε α
  | .ok value => .returns value
  | .error exception => .raises exception

/-- Exception handling. -/
def Program.attempt (program : Program κ ρ ε α) (handler : ε → Program κ ρ ε α) : Program κ ρ ε α :=
  match program with
  | .returns value => .returns value
  | .raises exception => handler exception
  | .issue command rest => .issue command fun answer => (rest answer).attempt handler

/-- Running a program on each element of a list, in order. -/
def Program.forEach (program : α → Program κ ρ ε Unit) : List α → Program κ ρ ε Unit
  | [] => pure ()
  | value :: rest => do
    program value
    Program.forEach program rest

/-- A device: how it answers each command, and the exception that meets a
command once the connection is gone. -/
structure Device (κ ρ ε σ : Type) where
  perform : σ → κ → Except ε ρ × σ
  lost : ε

/-- What a program returns or raises, and the state it leaves, given how
commands are answered. -/
def Program.exec (perform : σ → κ → Except ε ρ × σ) : Program κ ρ ε α → σ → Except ε α × σ
  | .returns value, state => (.ok value, state)
  | .raises exception, state => (.error exception, state)
  | .issue command next, state => (next (perform state command).1).exec perform (perform state command).2

@[simp] theorem Program.exec_pure (perform : σ → κ → Except ε ρ × σ) (value : α) (state : σ) :
    Program.exec perform (pure value) state = (.ok value, state) := rfl

@[simp] theorem Program.exec_raises (perform : σ → κ → Except ε ρ × σ) (exception : ε) (state : σ) :
    Program.exec perform (.raises exception : Program κ ρ ε α) state = (.error exception, state) := rfl

theorem Program.exec_bind (perform : σ → κ → Except ε ρ × σ) (program : Program κ ρ ε α)
    (next : α → Program κ ρ ε β) (state : σ) :
    Program.exec perform (program >>= next) state =
      match program.exec perform state with
      | (.ok value, after) => (next value).exec perform after
      | (.error exception, after) => (.error exception, after) := by
  change Program.exec perform (program.bind next) state = _
  induction program generalizing state with
  | returns value => rfl
  | raises exception => rfl
  | issue command rest ih => exact ih _ _

theorem Program.exec_attempt (perform : σ → κ → Except ε ρ × σ) (program : Program κ ρ ε α)
    (handler : ε → Program κ ρ ε α) (state : σ) :
    Program.exec perform (program.attempt handler) state =
      match program.exec perform state with
      | (.ok value, after) => (.ok value, after)
      | (.error exception, after) => (handler exception).exec perform after := by
  induction program generalizing state with
  | returns value => rfl
  | raises exception => rfl
  | issue command rest ih => exact ih _ _

theorem Program.exec_command (perform : σ → κ → Except ε ρ × σ) (command : κ) (state : σ) :
    Program.exec perform (Program.command command : Program κ ρ ε ρ) state = perform state command := by
  rw [Program.command, Program.exec]
  cases hanswer : perform state command with
  | mk answer after => cases answer <;> rfl

/-- A program that returns from some state. -/
def Program.Returns (perform : σ → κ → Except ε ρ × σ) (program : Program κ ρ ε α) : Prop :=
  ∃ state value after, program.exec perform state = (.ok value, after)

theorem Program.not_returns_raises (perform : σ → κ → Except ε ρ × σ) (exception : ε) :
    ¬ Program.Returns perform (.raises exception : Program κ ρ ε α) := by
  rintro ⟨state, value, after, hexec⟩
  cases hexec

/-- A sequence that returns does so in both its parts. -/
theorem Program.Returns.of_bind {perform : σ → κ → Except ε ρ × σ} {program : Program κ ρ ε α}
    {next : α → Program κ ρ ε β} (h : Program.Returns perform (program >>= next)) :
    Program.Returns perform program ∧ ∃ value, Program.Returns perform (next value) := by
  obtain ⟨state, result, after, hexec⟩ := h
  rw [Program.exec_bind] at hexec
  cases hprogram : program.exec perform state with
  | mk answer middle =>
    rw [hprogram] at hexec
    cases answer with
    | ok value => exact ⟨⟨state, value, middle, hprogram⟩, value, middle, result, after, hexec⟩
    | error exception => cases hexec

theorem Program.Returns.of_optional {perform : σ → κ → Except ε ρ × σ} {condition : Bool}
    {program : Program κ ρ ε Unit} {next : Unit → Program κ ρ ε β}
    (h : Program.Returns perform (if condition = true then program >>= next else next ())) :
    (condition = true → Program.Returns perform program) ∧ Program.Returns perform (next ()) := by
  cases condition with
  | false => exact ⟨fun hcondition => (Bool.false_ne_true hcondition).elim, h⟩
  | true => exact ⟨fun _ => h.of_bind.1, h.of_bind.2.choose_spec⟩

theorem Program.Returns.of_attempt {perform : σ → κ → Except ε ρ × σ} {program : Program κ ρ ε α}
    {handler : ε → Program κ ρ ε α} (h : Program.Returns perform (program.attempt handler)) :
    Program.Returns perform program ∨ ∃ exception, Program.Returns perform (handler exception) := by
  obtain ⟨state, value, after, hexec⟩ := h
  rw [Program.exec_attempt] at hexec
  cases hprogram : program.exec perform state with
  | mk answer middle =>
    rw [hprogram] at hexec
    cases answer with
    | ok result => exact Or.inl ⟨state, result, middle, hprogram⟩
    | error exception => exact Or.inr ⟨exception, middle, value, after, hexec⟩

theorem Program.Returns.of_ofExcept {perform : σ → κ → Except ε ρ × σ} {result : Except ε α}
    (h : Program.Returns perform (Program.ofExcept result : Program κ ρ ε α)) : ∃ value, result = .ok value := by
  cases result with
  | ok value => exact ⟨value, rfl⟩
  | error exception => exact (Program.not_returns_raises perform exception h).elim

/-- The same device over a connection that carries so many commands and no
more: later ones raise without effect. -/
def Device.lossy (device : Device κ ρ ε σ) : σ × Nat → κ → Except ε ρ × (σ × Nat)
  | (state, 0), _ => (.error device.lost, (state, 0))
  | (state, left + 1), command => ((device.perform state command).1, ((device.perform state command).2, left))

/-- The state left by a program whose connection is lost after so many commands. -/
def Program.cut (device : Device κ ρ ε σ) (program : Program κ ρ ε α) (state : σ) (left : Nat) : σ :=
  (program.exec device.lossy (state, left)).2.1

/-- Nothing happens once the connection is gone. -/
theorem Program.exec_lossy_zero (device : Device κ ρ ε σ) (program : Program κ ρ ε α) (state : σ) :
    (program.exec device.lossy (state, 0)).2 = (state, 0) := by
  induction program generalizing state with
  | returns value => rfl
  | raises exception => rfl
  | issue command next ih => exact ih _ _

/-- A connection that carries enough commands is as good as one that is never lost. -/
theorem Program.exists_uncut (device : Device κ ρ ε σ) (program : Program κ ρ ε α) (state : σ) :
    ∃ left, program.cut device state left = (program.exec device.perform state).2 := by
  induction program generalizing state with
  | returns value => exact ⟨0, rfl⟩
  | raises exception => exact ⟨0, rfl⟩
  | issue command next ih =>
    obtain ⟨left, hleft⟩ := ih (device.perform state command).1 (device.perform state command).2
    exact ⟨left + 1, hleft⟩

/-- From a state, a program takes these steps and returns this value; a lost
connection makes it stop after some of them. -/
structure Program.Performs (device : Device κ ρ ε σ) (program : Program κ ρ ε α) (state : σ)
    (steps : List (σ → σ)) (value : α) : Prop where
  returns : program.exec device.perform state = (.ok value, replay steps state)
  stops : ∀ left, (∃ rest, program.exec device.lossy (state, left) = (.ok value, (replay steps state, rest))) ∨
    ∃ count, (program.exec device.lossy (state, left)).2 = (replay (steps.take count) state, 0)

variable {device : Device κ ρ ε σ} {program : Program κ ρ ε α} {state : σ} {steps : List (σ → σ)} {value : α}

theorem Program.Performs.pure (state : σ) (value : α) :
    Program.Performs device (pure value) state [] value where
  returns := rfl
  stops left := Or.inl ⟨left, rfl⟩

/-- A command that is answered, and the step it amounts to. -/
theorem Program.Performs.command {command : κ} {response : ρ} {step : σ → σ}
    (h : device.perform state command = (.ok response, step state)) :
    (Program.command command : Program κ ρ ε ρ).Performs device state [step] response where
  returns := by rw [Program.exec_command, h]; rfl
  stops
    | 0 => Or.inr ⟨0, Program.exec_lossy_zero device _ state⟩
    | left + 1 => Or.inl ⟨left, by rw [Program.exec_command, Device.lossy, h]; rfl⟩

/-- Steps with nothing to do may be counted in. -/
theorem Program.Performs.of_replay (h : program.Performs device state [] value)
    (hsteps : ∀ count, replay (steps.take count) state = state) : program.Performs device state steps value := by
  have hall : replay steps state = state := by
    have hcount := hsteps steps.length
    rwa [List.take_length] at hcount
  refine ⟨by rw [h.returns, hall]; rfl, fun left => ?_⟩
  cases h.stops left with
  | inl hcomplete =>
    rw [hall]
    exact Or.inl hcomplete
  | inr hstopped =>
    obtain ⟨count, hcount⟩ := hstopped
    refine Or.inr ⟨0, hcount.trans ?_⟩
    rw [List.take_nil]
    rfl

theorem Program.Performs.skip (h : program.Performs device state [] value) {step : σ → σ}
    (hstep : Function.IsFixedPt step state) : program.Performs device state [step] value := by
  refine h.of_replay fun count => ?_
  cases count with
  | zero => rfl
  | succ count => rw [List.take_succ_cons, List.take_nil, replay_cons, hstep.eq, replay_nil]

/-- Only what a step makes of the state it is taken from matters. -/
theorem Program.Performs.congr {step other : σ → σ} (h : program.Performs device state [step] value)
    (hstep : other state = step state) : program.Performs device state [other] value := by
  have hreplay : ∀ count, replay ([other].take count) state = replay ([step].take count) state := by
    intro count
    cases count with
    | zero => rfl
    | succ count => simpa using hstep
  have hall : replay [other] state = replay [step] state := hstep
  refine ⟨by rw [h.returns, hall], fun left => ?_⟩
  rw [hall]
  refine (h.stops left).imp_right fun ⟨count, hcount⟩ => ⟨count, ?_⟩
  rw [hreplay]
  exact hcount

/-- A command that changes nothing takes no step. -/
theorem Program.Performs.query {command : κ} {response : ρ}
    (h : device.perform state command = (.ok response, state)) :
    (Program.command command : Program κ ρ ε ρ).Performs device state [] response where
  returns := by rw [Program.exec_command, h]; rfl
  stops
    | 0 => Or.inr ⟨0, Program.exec_lossy_zero device _ state⟩
    | left + 1 => Or.inl ⟨left, by rw [Program.exec_command, Device.lossy, h]; rfl⟩

theorem Program.Performs.bind {next : α → Program κ ρ ε β} {more : List (σ → σ)} {result : β}
    (hfirst : program.Performs device state steps value)
    (hnext : (next value).Performs device (replay steps state) more result) :
    (program >>= next).Performs device state (steps ++ more) result := by
  refine ⟨?_, fun left => ?_⟩
  · rw [Program.exec_bind, hfirst.returns, replay_append]
    exact hnext.returns
  · rw [Program.exec_bind]
    cases hfirst.stops left with
    | inl hcomplete =>
      obtain ⟨rest, hrest⟩ := hcomplete
      rw [hrest, replay_append]
      refine (hnext.stops rest).imp_right fun ⟨count, hcount⟩ => ⟨steps.length + count, ?_⟩
      rw [List.take_length_add_append, replay_append]
      exact hcount
    | inr hstopped =>
      obtain ⟨count, hcount⟩ := hstopped
      refine Or.inr ⟨min count steps.length, ?_⟩
      have htake : (steps ++ more).take (min count steps.length) = steps.take count := by
        rw [List.take_append_of_le_length (Nat.min_le_right _ _), ← List.take_eq_take_min]
      rw [htake, ← hcount]
      cases hexec : program.exec device.lossy (state, left) with
      | mk answer after =>
        rw [hexec] at hcount
        cases hcount
        cases answer with
        | ok reached => exact Program.exec_lossy_zero device (next reached) _
        | error exception => rfl

/-- A step with nothing to do may be counted in before the others. -/
theorem Program.Performs.after_skip (h : program.Performs device state steps value) {step : σ → σ}
    (hstep : Function.IsFixedPt step state) : program.Performs device state (step :: steps) value := by
  have hskip : (Pure.pure () : Program κ ρ ε Unit).Performs device state [step] () :=
    (Program.Performs.pure state ()).skip hstep
  have hsame : replay [step] state = state := hstep
  refine @Program.Performs.bind _ _ _ _ _ _ device _ _ _ _ (fun _ => program) _ _ hskip ?_
  rw [hsame]
  exact h

/-- A handler is not needed by a program that returns. -/
theorem Program.Performs.attempt (h : program.Performs device state steps value)
    (handler : ε → Program κ ρ ε α) : (program.attempt handler).Performs device state steps value := by
  refine ⟨by rw [Program.exec_attempt, h.returns], fun left => ?_⟩
  rw [Program.exec_attempt]
  cases h.stops left with
  | inl hcomplete =>
    obtain ⟨rest, hrest⟩ := hcomplete
    exact Or.inl ⟨rest, by rw [hrest]⟩
  | inr hstopped =>
    obtain ⟨count, hcount⟩ := hstopped
    refine Or.inr ⟨count, ?_⟩
    rw [← hcount]
    cases hexec : program.exec device.lossy (state, left) with
    | mk answer after =>
      rw [hexec] at hcount
      cases hcount
      cases answer with
      | ok reached => rfl
      | error exception => exact Program.exec_lossy_zero device (handler exception) _

/-- A command that changes nothing and whose exception is passed over takes no
step, whether or not it is answered. -/
theorem Program.Performs.tolerated {command : κ} {handler : ε → Program κ ρ ε Unit}
    (hsame : (device.perform state command).2 = state)
    (hhandler : ∀ exception, (device.perform state command).1 = .error exception → handler exception = .returns ()) :
    ((do let _ ← Program.command command; Pure.pure () : Program κ ρ ε Unit).attempt handler).Performs device
      state [] () := by
  have hexec : ∀ {τ : Type} {perform : τ → κ → Except ε ρ × τ} {start after : τ},
      perform start command = ((device.perform state command).1, after) →
      ((do let _ ← Program.command command; Pure.pure () : Program κ ρ ε Unit).attempt handler).exec perform start =
        (.ok (), after) := by
    intro τ perform start after hperform
    rw [Program.exec_attempt, Program.exec_bind, Program.exec_command, hperform]
    cases hanswer : (device.perform state command).1 with
    | ok response => rfl
    | error exception =>
      dsimp only
      rw [hhandler exception hanswer]
      rfl
  refine ⟨hexec (Prod.ext rfl hsame), fun left => ?_⟩
  cases left with
  | zero => exact Or.inr ⟨0, Program.exec_lossy_zero device _ state⟩
  | succ left => exact Or.inl ⟨left, hexec (Prod.ext rfl (Prod.ext hsame rfl))⟩

theorem Program.Performs.optional {condition : Bool} {program : Program κ ρ ε Unit} {step : σ → σ}
    (h : condition = true → program.Performs device state [step] ()) :
    (if condition = true then program else Pure.pure ()).Performs device state [when condition step] () := by
  cases condition with
  | false => exact (Program.Performs.pure state ()).skip rfl
  | true => exact h rfl

/-- The same, with more to do after it either way. -/
theorem Program.Performs.optional_bind {condition : Bool} {program : Program κ ρ ε Unit} {step : σ → σ}
    {next : Unit → Program κ ρ ε β} {more : List (σ → σ)} {result : β}
    (h : condition = true → program.Performs device state [step] ())
    (hnext : (next ()).Performs device (when condition step state) more result) :
    (if condition = true then program >>= next else next ()).Performs device state (when condition step :: more)
      result := by
  cases condition with
  | false => exact hnext.after_skip rfl
  | true => exact (h rfl).bind hnext

/-- Programs run one after the other take the steps of each. -/
theorem Program.Performs.forEach {program : α → Program κ ρ ε Unit} {steps : α → List (σ → σ)} {inv : σ → Prop}
    {values : List α} (h : ∀ value ∈ values, ∀ state, inv state → (program value).Performs device state (steps value) ())
    (hkeeps : ∀ value ∈ values, ∀ state, inv state → inv (replay (steps value) state)) {state : σ}
    (hinv : inv state) :
    (Program.forEach program values).Performs device state (values.flatMap steps) () := by
  induction values generalizing state with
  | nil => exact .pure state ()
  | cons value values ih =>
    have hhead := h value List.mem_cons_self state hinv
    refine hhead.bind (ih (fun other hmem => h other (List.mem_cons_of_mem _ hmem))
      (fun other hmem => hkeeps other (List.mem_cons_of_mem _ hmem)) ?_)
    exact hkeeps value List.mem_cons_self state hinv

/-- A program of repeatable steps that was interrupted anywhere and is run again
ends as a single uninterrupted run does. -/
theorem Program.Performs.resume {inv : σ → Prop} (hperforms : ∀ state, program.Performs device state steps value)
    (h : Repeatable inv steps) (hinv : inv state) (left : Nat) :
    program.exec device.perform (program.cut device state left) = program.exec device.perform state := by
  have hcut : ∃ count, program.cut device state left = replay (steps.take count) state := by
    cases (hperforms state).stops left with
    | inl hcomplete =>
      obtain ⟨rest, hrest⟩ := hcomplete
      exact ⟨steps.length, by rw [Program.cut, hrest, List.take_length]⟩
    | inr hstopped =>
      obtain ⟨count, hcount⟩ := hstopped
      exact ⟨count, congrArg Prod.fst hcount⟩
  obtain ⟨count, hcount⟩ := hcut
  rw [hcount, (hperforms _).returns, (hperforms state).returns, h.resume hinv count]

end interaction

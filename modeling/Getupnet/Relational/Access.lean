import Getupnet.Relational.Transaction

namespace relational

/-- What an access to the records of a model may be. -/
inductive Operation where
  | read
  | write
  | create
  | unlink
  deriving DecidableEq

variable {μ γ σ τ ε α β : Type}

/-- A row of an access table: what the members of a group may do with the records of a
model. -/
structure AccessRight (μ γ : Type) where
  model : μ
  group : γ
  perm_read : Bool
  perm_write : Bool
  perm_create : Bool
  perm_unlink : Bool

def AccessRight.perm (self : AccessRight μ γ) : Operation → Bool
  | .read => self.perm_read
  | .write => self.perm_write
  | .create => self.perm_create
  | .unlink => self.perm_unlink

/-- Some row grants the operation to one of the groups. -/
def granted [DecidableEq μ] [DecidableEq γ] (rights : List (AccessRight μ γ)) (groups : List γ) (model : μ)
    (operation : Operation) : Bool :=
  rights.any fun right => decide (right.model = model) && decide (right.group ∈ groups) && right.perm operation

/-- What a method whose accesses are checked raises: an access error, or an exception of
its own. -/
inductive Refusal (μ ε : Type) where
  | access_error (model : μ) (operation : Operation)
  | raised (exception : ε)

/-- The access check of a user who may do these operations. -/
def Method.check_access (may : μ → Operation → Bool) (model : μ) (operation : Operation) :
    Method σ (Refusal μ ε) Unit :=
  if may model operation then pure () else throw (.access_error model operation)

/-- A method whose accesses are not checked. -/
def Method.sudo (method : Method σ ε α) : Method σ (Refusal μ ε) α :=
  Method.ofFun fun state => ((method.exec state).1.mapError .raised, (method.exec state).2)

/-- A method that is one access to the records of a model. -/
def Method.checked (may : μ → Operation → Bool) (model : μ) (operation : Operation) (method : Method σ ε α) :
    Method σ (Refusal μ ε) α := do
  Method.check_access may model operation
  Method.sudo method

/-- The method ends in an access error. -/
def Method.Refused (method : Method σ (Refusal μ ε) α) (state : σ) : Prop :=
  ∃ model operation, (method.exec state).1 = .error (.access_error model operation)

section

variable {may : μ → Operation → Bool} {model : μ} {operation : Operation} {state after : σ} {value : α}

theorem Method.exec_sudo (method : Method σ ε α) (state : σ) :
    (Method.sudo method : Method σ (Refusal μ ε) α).exec state =
      ((method.exec state).1.mapError .raised, (method.exec state).2) := rfl

theorem Method.exec_sudo_of_ok {method : Method σ ε α} (h : method.exec state = (.ok value, after)) :
    (Method.sudo method : Method σ (Refusal μ ε) α).exec state = (.ok value, after) := by
  rw [Method.exec_sudo, h]
  rfl

theorem Method.exec_check_access (h : may model operation = true) (state : σ) :
    (Method.check_access may model operation : Method σ (Refusal μ ε) Unit).exec state = (.ok (), state) := by
  rw [Method.check_access, h]
  rfl

theorem Method.exec_checked (h : may model operation = true) (method : Method σ ε α) (state : σ) :
    (Method.checked may model operation method).exec state = (Method.sudo method : Method σ (Refusal μ ε) α).exec state := by
  rw [Method.checked, Method.exec_bind, Method.exec_check_access h]

theorem Method.exec_checked_of_ok {method : Method σ ε α} (h : may model operation = true)
    (hexec : method.exec state = (.ok value, after)) :
    (Method.checked may model operation method).exec state = (.ok value, after) :=
  (Method.exec_checked h method state).trans (Method.exec_sudo_of_ok hexec)

end

end relational

import Getupnet.IspCore.PlanChangeRequest.Due
import Getupnet.Relational.Access

open relational
open calendar

namespace getupnet.isp_core

/-- The groups of the ISP addons. -/
inductive ResGroup where
  | isp_admin
  | isp_noc
  | isp_field_tech
  | isp_support
  | isp_billing
  | isp_portal_customer
  deriving DecidableEq

/-- The models that the plan change and transfer workflows access. -/
inductive IrModel where
  | subscription
  | provisioning_job
  | plan_change_request
  | bank_transfer_payment
  | ir_attachment
  deriving DecidableEq

abbrev IrModelAccess : Type := AccessRight IrModel ResGroup

/-- The rows of `isp_core/security/ir.model.access.csv` about these models. -/
def isp_core_access : List IrModelAccess :=
  [⟨.subscription, .isp_admin, true, true, true, true⟩,
    ⟨.subscription, .isp_noc, true, true, true, false⟩,
    ⟨.subscription, .isp_support, true, true, true, false⟩,
    ⟨.subscription, .isp_billing, true, true, true, false⟩,
    ⟨.provisioning_job, .isp_admin, true, true, true, true⟩,
    ⟨.provisioning_job, .isp_noc, true, true, true, false⟩,
    ⟨.provisioning_job, .isp_support, true, false, false, false⟩,
    ⟨.provisioning_job, .isp_billing, true, false, false, false⟩,
    ⟨.plan_change_request, .isp_admin, true, true, true, true⟩,
    ⟨.plan_change_request, .isp_noc, true, true, true, false⟩,
    ⟨.plan_change_request, .isp_support, true, true, true, false⟩,
    ⟨.plan_change_request, .isp_billing, true, true, true, false⟩]

/-- The rows of `isp_billing/security/ir.model.access.csv`. -/
def isp_billing_access : List IrModelAccess :=
  [⟨.bank_transfer_payment, .isp_admin, true, true, true, true⟩,
    ⟨.bank_transfer_payment, .isp_billing, true, true, true, false⟩,
    ⟨.bank_transfer_payment, .isp_support, true, false, false, false⟩]

/-- The rows of `isp_portal/security/ir.model.access.csv`. -/
def isp_portal_access : List IrModelAccess :=
  [⟨.subscription, .isp_portal_customer, true, false, false, false⟩,
    ⟨.plan_change_request, .isp_portal_customer, true, false, true, false⟩,
    ⟨.bank_transfer_payment, .isp_portal_customer, true, false, true, false⟩]

def ir_model_access : List IrModelAccess := isp_core_access ++ isp_billing_access ++ isp_portal_access

/-- What the members of these groups may do. The rights to attachments are those of the
server itself. -/
def may_access (attachments : ResGroup → Operation → Bool) (groups : List ResGroup) (model : IrModel)
    (operation : Operation) : Bool :=
  match model with
  | .ir_attachment => groups.any fun group => attachments group operation
  | model => granted ir_model_access groups model operation

abbrev Checked (σ α : Type) : Type := Method σ (Refusal IrModel OdooError) α

/-- An assignment to fields of a request. -/
def IspPlanChangeRequest.assign {ρ : Type} (id : Nat) (change : IspPlanChangeRequest → IspPlanChangeRequest) :
    Odoo (List PlanChangeEntry) ρ Unit :=
  modify (World.writeRequest · id change)

/-- The lines of `action_apply` that write to the subscription of a request. -/
def IspPlanChangeRequest.write_plan {ρ : Type} (token_hex : Nat → String) (id : Nat) :
    Odoo (List PlanChangeEntry) ρ Unit := do
  let world ← get
  let request := Workflow.request world id
  let sub ← Method.ofExcept
    ((World.subscription world request.subscription_id).apply_plan world.records.plans request.requested_plan_id
      (token_hex id))
  modify (World.writeSubscription · request.subscription_id sub)

section

variable {ρ : Type} (may : IrModel → Operation → Bool)

/-- The assignment of `_ensure_effective_date`, where there is one. -/
def IspPlanChangeRequest.ensure_effective_date_as (today : Date) (id : Nat) : Checked (Workflow ρ) Unit := do
  let world ← get
  let request := Workflow.request world id
  match request.effective_date, request.effective_date_mode with
  | some _, _ => pure ()
  | none, .custom => pure ()
  | none, _ =>
    Method.checked may .plan_change_request .write
      (IspPlanChangeRequest.assign id (IspPlanChangeRequest.ensure_effective_date today
        (World.subscription world request.subscription_id)))

/-- `create`, whose records get their effective dates by later writes. -/
def IspPlanChangeRequest.create_as (today : Date) (vals_list : List IspPlanChangeRequest) :
    Checked (Workflow ρ) (List Nat) := do
  Method.check_access may .plan_change_request .create
  let world ← get
  Method.sudo (Method.forEach (fun vals =>
    Method.ofExcept (IspPlanChangeRequest.check_effective_date vals)) vals_list)
  Method.sudo (Method.forEach (fun vals => Method.ofExcept
    (IspPlanChangeRequest.check_plan_diff (world.subscription vals.subscription_id).plan_id vals)) vals_list)
  Method.sudo (modify (Workflow.withCreated vals_list))
  let records := List.range' world.records.plan_change_requests.next_id vals_list.length
  Method.forEach (IspPlanChangeRequest.ensure_effective_date_as may today) records
  return records

/-- One pass through the loop of `action_submit`. The audit log is written by the
superuser. -/
def IspPlanChangeRequest.submit_as (user : User) (today : Date) (id : Nat) : Checked (Workflow ρ) Unit := do
  let world ← get
  if (Workflow.request world id).effective_date_mode = .immediate ∧ ¬ user.Privileged then
    throw (.raised (.validation "Immediate plan changes require Admin or NOC permissions."))
  else do
    IspPlanChangeRequest.ensure_effective_date_as may today id
    Method.checked may .plan_change_request .write
      (IspPlanChangeRequest.assign id fun request => { request with state := .submitted })
    Method.sudo (modify (Workflow.log_action .plan_change_submitted id user))

def IspPlanChangeRequest.action_submit_as (user : User) (today : Date) (self : List Nat) :
    Checked (Workflow ρ) Unit :=
  Method.forEach (IspPlanChangeRequest.submit_as may user today) self

variable (user : User) (clock : Nat → Nat) (token_hex : Nat → String)

/-- One pass through the loop of `action_apply`: the plan and missing credentials are
written to the subscription, a job is created, and the request is written. -/
def IspPlanChangeRequest.apply_as (id : Nat) : Checked (Workflow ρ) Unit := do
  let world ← get
  let request := Workflow.request world id
  Method.checked may .subscription .write (IspPlanChangeRequest.write_plan token_hex id)
  Method.checked may .provisioning_job .create (modify (World.queue_job clock request.subscription_id .change_plan))
  Method.checked may .plan_change_request .write
    (IspPlanChangeRequest.assign id fun request => { request with state := .applied })
  Method.sudo (modify (Workflow.log_action .plan_change_applied id user))

/-- One pass through the loop of `action_approve`. -/
def IspPlanChangeRequest.approve_as (today : Date) (id : Nat) : Checked (Workflow ρ) Unit := do
  IspPlanChangeRequest.ensure_effective_date_as may today id
  Method.checked may .plan_change_request .write
    (IspPlanChangeRequest.assign id fun request => { request with state := .approved })
  Method.checked may .plan_change_request .write
    (IspPlanChangeRequest.assign id fun request => { request with approved_by := some user.id })
  Method.sudo (modify (Workflow.log_action .plan_change_approved id user))
  let world ← get
  match (Workflow.request world id).effective_date with
  | some effective_date =>
    if effective_date ≤ today then
      Method.forEach (IspPlanChangeRequest.apply_as may user clock token_hex) [id]
    else pure ()
  | none => pure ()

def IspPlanChangeRequest.action_approve_as (today : Date) (self : List Nat) : Checked (Workflow ρ) Unit :=
  Method.forEach (IspPlanChangeRequest.approve_as may user clock token_hex today) self

end

section

variable {ρ : Type} {may : IrModel → Operation → Bool} {user : User} {clock : Nat → Nat} {token_hex : Nat → String}
  {today : Date}

theorem IspPlanChangeRequest.ensure_effective_date_as_exec (hwrite : may .plan_change_request .write = true)
    (id : Nat)
    (world : Workflow ρ) :
    (IspPlanChangeRequest.ensure_effective_date_as may today id).exec world =
      (.ok (), World.writeRequest world id (IspPlanChangeRequest.ensure_effective_date today
        (world.subscription (world.request id).subscription_id))) := by
  have hkept : (world.request id).ensure_effective_date today
        (world.subscription (world.request id).subscription_id) = world.request id →
      World.writeRequest world id (IspPlanChangeRequest.ensure_effective_date today
        (world.subscription (world.request id).subscription_id)) = world := by
    intro hsame
    rw [World.writeRequest, Store.write_unchanged _ hsame]
  rw [IspPlanChangeRequest.ensure_effective_date_as, Method.exec_get_bind]
  dsimp only
  cases hdate : (world.request id).effective_date with
  | some effective_date =>
    rw [hkept (by rw [IspPlanChangeRequest.ensure_effective_date, hdate])]
    rfl
  | none =>
    cases hmode : (world.request id).effective_date_mode with
    | custom =>
      rw [hkept (by rw [IspPlanChangeRequest.ensure_effective_date, hdate, hmode])]
      rfl
    | immediate => exact Method.exec_checked_of_ok hwrite rfl
    | next_cycle => exact Method.exec_checked_of_ok hwrite rfl

theorem IspPlanChangeRequest.assign_as_exec (hwrite : may .plan_change_request .write = true) (id : Nat)
    (change : IspPlanChangeRequest → IspPlanChangeRequest) (world : Workflow ρ) :
    (Method.checked may .plan_change_request .write (IspPlanChangeRequest.assign id change)).exec world =
      (.ok (), World.writeRequest world id change) :=
  Method.exec_checked_of_ok hwrite rfl

/-- With the right to write requests, an approval goes on to the application just when
the request falls due. -/
theorem IspPlanChangeRequest.approve_as_exec (hwrite : may .plan_change_request .write = true) (id : Nat)
    (world : Workflow ρ) [Decidable (world.FallsDue today id)] :
    (IspPlanChangeRequest.approve_as may user clock token_hex today id).exec world =
      if world.FallsDue today id then
        (IspPlanChangeRequest.apply_as may user clock token_hex id).exec (world.approvedBy user today id)
      else (.ok (), world.approvedBy user today id) := by
  have happroved : World.writeRequest (World.writeRequest (World.writeRequest world id
      (IspPlanChangeRequest.ensure_effective_date today
        (world.subscription (world.request id).subscription_id))) id fun request => { request with state := .approved })
      id (fun request => { request with approved_by := some user.id }) =
      World.writeRequest world id (IspPlanChangeRequest.asApproved user today
        (world.subscription (world.request id).subscription_id)) := by
    rw [World.writeRequest_writeRequest, World.writeRequest_writeRequest]
    rfl
  rw [IspPlanChangeRequest.approve_as,
    Method.exec_bind_of_ok (IspPlanChangeRequest.ensure_effective_date_as_exec hwrite id world),
    Method.exec_bind_of_ok (IspPlanChangeRequest.assign_as_exec hwrite id _ _),
    Method.exec_bind_of_ok (IspPlanChangeRequest.assign_as_exec hwrite id _ _), happroved,
    Method.exec_bind_of_ok (Method.exec_sudo_of_ok (Method.exec_modify _ _)), Method.exec_get_bind]
  rw [← Method.forEach_singleton (IspPlanChangeRequest.apply_as may user clock token_hex) id]
  exact Workflow.exec_if_due _

theorem IspPlanChangeRequest.write_plan_exec (id : Nat) (world : Workflow ρ) :
    (IspPlanChangeRequest.write_plan token_hex id).exec world =
      (.ok (), World.writeSubscription world (world.request id).subscription_id
        ((world.subscription (world.request id).subscription_id).movedTo world.records.plans
          (world.request id).requested_plan_id)) := by
  rw [IspPlanChangeRequest.write_plan, Method.exec_get_bind]
  dsimp only
  rw [IspSubscription.apply_plan_eq]
  rfl

theorem IspPlanChangeRequest.apply_as_exec (hmay : ∀ model operation, may model operation = true) (id : Nat)
    (world : Workflow ρ) :
    (IspPlanChangeRequest.apply_as may user clock token_hex id).exec world =
      (Method.sudo (IspPlanChangeRequest.apply_logged user clock token_hex id)).exec world := by
  rw [IspPlanChangeRequest.apply_as, Method.exec_get_bind]
  dsimp only
  rw [Method.exec_bind_of_ok (Method.exec_checked_of_ok (hmay _ _) (IspPlanChangeRequest.write_plan_exec id world)),
    Method.exec_bind_of_ok (Method.exec_checked_of_ok (hmay _ _) (Method.exec_modify _ _)),
    Method.exec_bind_of_ok (IspPlanChangeRequest.assign_as_exec (hmay _ _) id _ _)]
  refine (Method.exec_sudo_of_ok (Method.exec_modify _ _)).trans (Method.exec_sudo_of_ok ?_).symm
  rw [IspPlanChangeRequest.apply_logged,
    Method.exec_bind_of_ok (IspPlanChangeRequest.apply_exec clock token_hex id world)]
  rfl

/-- An approval by a user with every right does what the approval of the workflow does. -/
theorem IspPlanChangeRequest.approve_as_sudo (hmay : ∀ model operation, may model operation = true) (id : Nat)
    (world : Workflow ρ) :
    (IspPlanChangeRequest.approve_as may user clock token_hex today id).exec world =
      (Method.sudo (IspPlanChangeRequest.approve user clock token_hex today id)).exec world := by
  classical
  rw [IspPlanChangeRequest.approve_as_exec (hmay _ _), Method.exec_sudo,
    IspPlanChangeRequest.approve_exec]
  by_cases hdue : world.FallsDue today id
  · rw [if_pos hdue, if_pos hdue, IspPlanChangeRequest.action_apply_logged, Method.forEach_singleton,
      IspPlanChangeRequest.apply_as_exec hmay]
    rfl
  · rw [if_neg hdue, if_neg hdue]
    rfl

end

end getupnet.isp_core

import Getupnet.IspCore.PlanChangeRequest.Trail
import Getupnet.IspCore.Records
import Getupnet.Relational.Runs

open relational
open calendar

namespace getupnet.isp_core

variable {ρ : Type}

/-- A database that keeps the audit log of the plan change workflow. -/
abbrev Workflow (ρ : Type) : Type := World (Records (List PlanChangeEntry)) ρ

def Workflow.request (self : Workflow ρ) (id : Nat) : IspPlanChangeRequest :=
  self.records.plan_change_requests.row id

def Workflow.log_action (action : PlanChangeAction) (request : Nat) (user : User) (self : Workflow ρ) :
    Workflow ρ :=
  { self with
    records := { self.records with
      extension := self.records.extension ++ [{ action, request, user }] } }

/-- A database with some more requests. -/
def Workflow.withCreated (requests : List IspPlanChangeRequest) (self : Workflow ρ) : Workflow ρ :=
  { self with
    records := { self.records with
      plan_change_requests := self.records.plan_change_requests.createAll requests } }

def IspPlanChangeRequest.check_plan_diff (current_plan_id : Nat) (self : IspPlanChangeRequest) :
    Except OdooError Unit :=
  if self.requested_plan_id = current_plan_id then
    throw (.validation "Requested plan must be different from current plan.")
  else pure ()

def IspPlanChangeRequest.check_effective_date (self : IspPlanChangeRequest) : Except OdooError Unit :=
  if self.effective_date_mode = .custom ∧ self.effective_date = none then
    throw (.validation "Custom effective date is required.")
  else pure ()

/-- `create`, which checks a whole batch before it fills in the effective dates. -/
def IspPlanChangeRequest.create_records (today : Date) (vals_list : List IspPlanChangeRequest) :
    Odoo (List PlanChangeEntry) ρ Unit := do
  let world ← get
  Method.forEach (fun vals => Method.ofExcept (IspPlanChangeRequest.check_effective_date vals)) vals_list
  Method.forEach (fun vals => Method.ofExcept
    (IspPlanChangeRequest.check_plan_diff (world.subscription vals.subscription_id).plan_id vals)) vals_list
  modify (Workflow.withCreated
    (vals_list.map fun vals => vals.ensure_effective_date today (world.subscription vals.subscription_id)))

/-- One pass through the loop of `action_submit`. -/
def IspPlanChangeRequest.submit (user : User) (today : Date) (id : Nat) :
    Odoo (List PlanChangeEntry) ρ Unit := do
  let world ← get
  let request := Workflow.request world id
  if request.effective_date_mode = .immediate ∧ ¬ user.Privileged then
    throw (.validation "Immediate plan changes require Admin or NOC permissions.")
  else do
    modify (World.writeRequest · id (IspPlanChangeRequest.ensure_effective_date today
      (world.subscription request.subscription_id)))
    modify (World.writeRequest · id fun request => { request with state := .submitted })
    modify (Workflow.log_action .plan_change_submitted id user)

def IspPlanChangeRequest.action_submit (user : User) (today : Date) (self : List Nat) :
    Odoo (List PlanChangeEntry) ρ Unit :=
  Method.forEach (IspPlanChangeRequest.submit user today) self

/-- One pass through the loop of `action_reject`. -/
def IspPlanChangeRequest.reject (user : User) (id : Nat) : Odoo (List PlanChangeEntry) ρ Unit := do
  let world ← get
  let request := Workflow.request world id
  if ¬ truthy request.rejection_reason then
    throw (.validation "Rejection reason is required.")
  else do
    modify (World.writeRequest · id fun request => { request with state := .rejected })
    modify (Workflow.log_action .plan_change_rejected id user)

def IspPlanChangeRequest.action_reject (user : User) (self : List Nat) : Odoo (List PlanChangeEntry) ρ Unit :=
  Method.forEach (IspPlanChangeRequest.reject user) self

section

variable (user : User) (clock : Nat → Nat) (token_hex : Nat → String)

/-- One pass through the loop of `action_apply`, with its log entry. -/
def IspPlanChangeRequest.apply_logged (id : Nat) : Odoo (List PlanChangeEntry) ρ Unit := do
  IspPlanChangeRequest.apply clock token_hex id
  modify (Workflow.log_action .plan_change_applied id user)

def IspPlanChangeRequest.action_apply_logged (self : List Nat) : Odoo (List PlanChangeEntry) ρ Unit :=
  Method.forEach (IspPlanChangeRequest.apply_logged user clock token_hex) self

/-- One pass through the loop of `action_approve`. -/
def IspPlanChangeRequest.approve (today : Date) (id : Nat) : Odoo (List PlanChangeEntry) ρ Unit := do
  let world ← get
  modify (World.writeRequest · id (IspPlanChangeRequest.ensure_effective_date today
    (world.subscription (Workflow.request world id).subscription_id)))
  modify (World.writeRequest · id fun request =>
    { request with
      state := .approved
      approved_by := some user.id })
  modify (Workflow.log_action .plan_change_approved id user)
  let world ← get
  match (Workflow.request world id).effective_date with
  | some effective_date =>
    if effective_date ≤ today then IspPlanChangeRequest.action_apply_logged user clock token_hex [id]
    else pure ()
  | none => pure ()

def IspPlanChangeRequest.action_approve (today : Date) (self : List Nat) : Odoo (List PlanChangeEntry) ρ Unit :=
  Method.forEach (IspPlanChangeRequest.approve user clock token_hex today) self

def IspPlanChangeRequest.cron_apply_plan_changes_logged (today : Date) : Odoo (List PlanChangeEntry) ρ Unit := do
  let records := (← get).records.plan_change_requests.searchDesc (IspPlanChangeRequest.isDue today)
  Method.forEach (fun request => IspPlanChangeRequest.action_apply_logged user clock token_hex [request]) records

end

/-- The calls of the workflow, each by a user. -/
inductive WorkflowCall where
  | create (today : Date) (vals_list : List IspPlanChangeRequest)
  | action_submit (user : User) (today : Date) (requests : List Nat)
  | action_approve (user : User) (clock : Nat → Nat) (token_hex : Nat → String) (today : Date) (requests : List Nat)
  | action_reject (user : User) (requests : List Nat)
  | action_apply (user : User) (clock : Nat → Nat) (token_hex : Nat → String) (requests : List Nat)
  | cron_apply_plan_changes (user : User) (clock : Nat → Nat) (token_hex : Nat → String) (today : Date)

def WorkflowCall.method : WorkflowCall → Odoo (List PlanChangeEntry) ρ Unit
  | .create today vals_list => IspPlanChangeRequest.create_records today vals_list
  | .action_submit user today requests => IspPlanChangeRequest.action_submit user today requests
  | .action_approve user clock token_hex today requests =>
    IspPlanChangeRequest.action_approve user clock token_hex today requests
  | .action_reject user requests => IspPlanChangeRequest.action_reject user requests
  | .action_apply user clock token_hex requests =>
    IspPlanChangeRequest.action_apply_logged user clock token_hex requests
  | .cron_apply_plan_changes user clock token_hex today =>
    IspPlanChangeRequest.cron_apply_plan_changes_logged user clock token_hex today

/-- The requests that a call is made on. -/
def WorkflowCall.requests : WorkflowCall → List Nat
  | .create _ _ | .cron_apply_plan_changes _ _ _ _ => []
  | .action_submit _ _ requests | .action_approve _ _ _ _ requests | .action_reject _ requests
  | .action_apply _ _ _ requests => requests

/-- The database after a call, which runs in a transaction of its own. -/
def WorkflowCall.call (call : WorkflowCall) (world : Workflow ρ) : Workflow ρ :=
  call.method.commit World.rollback world

/-- A call is made on existing requests. -/
def WorkflowStep (world : Workflow ρ) (call : WorkflowCall) (after : Workflow ρ) : Prop :=
  (∀ request ∈ call.requests, request ∈ world.records.plan_change_requests.ids) ∧ after = call.call world

end getupnet.isp_core

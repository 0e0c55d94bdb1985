import Getupnet.IspCore.PlanChangeRequest

open relational
open calendar

namespace getupnet.isp_core

/-- The records a method of these models works on. `extension` is what other
addons keep beside them. -/
structure Records (μ : Type) where
  subscriptions : Store IspSubscription
  plans : Nat → IspServicePlan
  plan_change_requests : Store IspPlanChangeRequest
  extension : μ

variable {μ ρ : Type}

/-- The methods of the models: they read and write the whole database. -/
abbrev Odoo (μ ρ α : Type) : Type := Method (World (Records μ) ρ) OdooError α

def World.subscription (self : World (Records μ) ρ) (id : Nat) : IspSubscription :=
  self.records.subscriptions.row id

def World.planOf (self : World (Records μ) ρ) (id : Nat) : IspServicePlan :=
  self.records.plans (self.subscription id).plan_id

def World.writeSubscription (self : World (Records μ) ρ) (id : Nat) (sub : IspSubscription) :
    World (Records μ) ρ :=
  { self with
    records := { self.records with
      subscriptions := self.records.subscriptions.write id fun _ => sub } }

@[simp] theorem World.writeSubscription_self (self : World (Records μ) ρ) (id : Nat) (sub : IspSubscription) :
    (self.writeSubscription id sub).subscription id = sub :=
  self.records.subscriptions.write_row_self id fun _ => sub

theorem World.writeSubscription_ne (self : World (Records μ) ρ) {id other : Nat} (h : other ≠ id)
    (sub : IspSubscription) : (self.writeSubscription id sub).subscription other = self.subscription other :=
  self.records.subscriptions.write_row_ne h fun _ => sub

def World.writeRequest (self : World (Records μ) ρ) (id : Nat)
    (change : IspPlanChangeRequest → IspPlanChangeRequest) : World (Records μ) ρ :=
  { self with
    records := { self.records with
      plan_change_requests := self.records.plan_change_requests.write id change } }

/-- The job that `_queue_job` creates. -/
def IspSubscription.job (self : IspSubscription) (id : Nat) (job_type : JobType) (requested_at : Nat) :
    IspProvisioningJob where
  job_type
  subscription_id := some id
  device_id := none
  sector_id := some self.sector_id
  requested_at

/-- The state in which a handled job leaves its subscription. -/
def JobType.stateAfter (state : SubscriptionState) : JobType → SubscriptionState
  | .activate_subscription => .active
  | .suspend_subscription => .suspended
  | .reconnect_subscription => .active
  | .terminate_subscription => .terminated
  | _ => state

/-- `clock` gives the time at which each new job is created. -/
def World.queue_job (clock : Nat → Nat) (id : Nat) (job_type : JobType) (self : World (Records μ) ρ) :
    World (Records μ) ρ :=
  { self with
    jobs := self.jobs.create ((self.subscription id).job id job_type (clock self.jobs.next_id)) }

/-- Queueing a job of one type for each of several subscriptions, in order. -/
def World.queueAll (clock : Nat → Nat) (job_type : JobType) (ids : List Nat) (self : World (Records μ) ρ) :
    World (Records μ) ρ :=
  ids.foldl (fun world id => world.queue_job clock id job_type) self

/-- The jobs that `queueAll` creates. -/
def World.newJobs (clock : Nat → Nat) (job_type : JobType) (ids : List Nat) (self : World (Records μ) ρ) :
    List IspProvisioningJob :=
  (ids.zipIdx self.jobs.next_id).map fun (id, job) => (self.subscription id).job id job_type (clock job)

theorem World.queueAll_eq (clock : Nat → Nat) (job_type : JobType) (ids : List Nat)
    (self : World (Records μ) ρ) :
    self.queueAll clock job_type ids =
      { self with jobs := self.jobs.createAll (self.newJobs clock job_type ids) } := by
  induction ids generalizing self with
  | nil => rfl
  | cons id ids ih =>
    rw [World.queueAll, List.foldl_cons]
    exact ih (self.queue_job clock id job_type)

/-- The new jobs name the subscriptions they were queued for. -/
theorem World.newJobs_subscriptions (clock : Nat → Nat) (job_type : JobType) (ids : List Nat)
    (self : World (Records μ) ρ) :
    (self.newJobs clock job_type ids).map (fun job => (job.job_type, job.subscription_id)) =
      ids.map fun id => (job_type, some id) := by
  have hfst := List.zipIdx_map_fst self.jobs.next_id ids
  rw [World.newJobs, List.map_map]
  conv_rhs => rw [← hfst, List.map_map]
  rfl

/-- A loop that queues a job of one type wherever its argument calls for one. -/
theorem World.exec_forEach_queue {α : Type} {clock : Nat → Nat} {job_type : JobType}
    {body : α → Odoo μ ρ Unit} {target : World (Records μ) ρ → α → Option Nat}
    (hbody : ∀ value world, (body value).exec world =
      (.ok (), world.queueAll clock job_type (target world value).toList))
    (htarget : ∀ world id, target (world.queue_job clock id job_type) = target world)
    (values : List α) (world : World (Records μ) ρ) :
    (Method.forEach body values).exec world =
      (.ok (), world.queueAll clock job_type (values.filterMap (target world))) := by
  induction values generalizing world with
  | nil => rfl
  | cons value values ih =>
    rw [Method.exec_forEach_cons, hbody]
    cases hvalue : target world value with
    | none =>
      rw [List.filterMap_cons_none hvalue]
      exact ih world
    | some id =>
      have hrest := ih (world.queue_job clock id job_type)
      rw [htarget] at hrest
      rw [List.filterMap_cons_some hvalue]
      exact hrest

/-- The loop of the buttons that do nothing but queue a job for each selected
subscription. -/
def IspSubscription.queue_each (clock : Nat → Nat) (job_type : JobType) (self : List Nat) : Odoo μ ρ Unit :=
  Method.forEach (fun id => modify (World.queue_job clock id job_type)) self

def IspSubscription.action_suspend (clock : Nat → Nat) (self : List Nat) : Odoo μ ρ Unit :=
  IspSubscription.queue_each clock .suspend_subscription self

def IspSubscription.action_reconnect (clock : Nat → Nat) (self : List Nat) : Odoo μ ρ Unit :=
  IspSubscription.queue_each clock .reconnect_subscription self

def IspSubscription.action_terminate (clock : Nat → Nat) (self : List Nat) : Odoo μ ρ Unit :=
  IspSubscription.queue_each clock .terminate_subscription self

def IspSubscription.action_change_plan (clock : Nat → Nat) (self : List Nat) : Odoo μ ρ Unit :=
  IspSubscription.queue_each clock .change_plan self

/-- One pass through the loop of `action_activate`. -/
def IspSubscription.activate (clock : Nat → Nat) (token_hex : Nat → String) (id : Nat) : Odoo μ ρ Unit := do
  let world ← get
  let sub ← Method.ofExcept ((world.subscription id).ensure_pppoe_credentials (world.planOf id) (token_hex id))
  modify (World.writeSubscription · id sub)
  modify (World.queue_job clock id .activate_subscription)

def IspSubscription.action_activate (clock : Nat → Nat) (token_hex : Nat → String) (self : List Nat) :
    Odoo μ ρ Unit :=
  Method.forEach (IspSubscription.activate clock token_hex) self

/-- `create`, which adds the records of a whole batch or none. -/
def IspSubscription.create_records (next_by_code : Nat → CharField) (token_hex : String → String)
    (vals_list : List SubscriptionVals) : Odoo μ ρ Unit := do
  let world ← get
  let records ← Method.ofExcept (IspSubscription.create world.records.plans next_by_code token_hex vals_list)
  modify fun world =>
    { world with
      records := { world.records with subscriptions := world.records.subscriptions.createAll records } }

/-- The subscription that `mac_onboarding` creates for a MAC that has none. -/
def mac_onboarding_vals (partner_id plan_id sector_id : Nat) (router_id : Option Nat) (norm_mac ip : CharField) :
    SubscriptionVals where
  partner_id
  plan_id
  sector_id
  router_id
  service_mac := norm_mac
  service_ip := ip
  state := .draft

theorem IspSubscription.queue_each_exec (clock : Nat → Nat) (job_type : JobType) (subs : List Nat)
    (world : World (Records μ) ρ) :
    (IspSubscription.queue_each clock job_type subs).exec world = (.ok (), world.queueAll clock job_type subs) := by
  rw [IspSubscription.queue_each]
  induction subs generalizing world with
  | nil => rfl
  | cons id subs ih =>
    rw [Method.exec_forEach_cons, Method.exec_modify]
    exact ih _

theorem IspSubscription.activate_exec (clock : Nat → Nat) (token_hex : Nat → String) (id : Nat)
    (world : World (Records μ) ρ) :
    (IspSubscription.activate clock token_hex id).exec world =
      (.ok (), (world.writeSubscription id
        ((world.subscription id).withProfile ((world.subscription id).ensuredProfile (world.planOf id)))).queue_job
          clock id .activate_subscription) := by
  simp only [IspSubscription.activate, Method.exec_bind, Method.exec_get,
    IspSubscription.ensure_pppoe_credentials_eq, Method.exec_ofExcept, Method.exec_modify]

/-- A creation that returns has added the created records to the table. -/
theorem IspSubscription.create_records_returns {next_by_code : Nat → CharField} {token_hex : String → String}
    {vals_list : List SubscriptionVals} {world after : World (Records μ) ρ}
    (h : (IspSubscription.create_records next_by_code token_hex vals_list).exec world = (.ok (), after)) :
    ∃ records, IspSubscription.create world.records.plans next_by_code token_hex vals_list = .ok records ∧
      after = { world with
        records := { world.records with subscriptions := world.records.subscriptions.createAll records } } := by
  simp only [IspSubscription.create_records, Method.exec_bind, Method.exec_get, Method.exec_ofExcept] at h
  cases hcreate : IspSubscription.create world.records.plans next_by_code token_hex vals_list with
  | error exception =>
    rw [hcreate] at h
    cases h
  | ok records =>
    rw [hcreate] at h
    cases h
    exact ⟨records, rfl, rfl⟩

/-- One pass through the loop of `action_apply`. A request always has a
subscription: the field is required and deleting the one deletes the other. -/
def IspPlanChangeRequest.apply (clock : Nat → Nat) (token_hex : Nat → String) (id : Nat) : Odoo μ ρ Unit := do
  let world ← get
  let request := world.records.plan_change_requests.row id
  let sub ← Method.ofExcept
    ((world.subscription request.subscription_id).apply_plan world.records.plans request.requested_plan_id
      (token_hex id))
  modify (World.writeSubscription · request.subscription_id sub)
  modify (World.queue_job clock request.subscription_id .change_plan)
  modify (World.writeRequest · id fun request => { request with state := .applied })

def IspPlanChangeRequest.action_apply (clock : Nat → Nat) (token_hex : Nat → String) (self : List Nat) :
    Odoo μ ρ Unit :=
  Method.forEach (IspPlanChangeRequest.apply clock token_hex) self

/-- The domain of the scheduled pass. -/
def IspPlanChangeRequest.isDue (today : Date) (self : IspPlanChangeRequest) : Bool :=
  match self.state, self.effective_date with
  | .approved, some effective_date => decide (effective_date ≤ today)
  | _, _ => false

/-- `_cron_apply_plan_changes`: the newest request comes first. -/
def IspPlanChangeRequest.cron_apply_plan_changes (clock : Nat → Nat) (token_hex : Nat → String) (today : Date) :
    Odoo μ ρ Unit := do
  let records := (← get).records.plan_change_requests.searchDesc (IspPlanChangeRequest.isDue today)
  Method.forEach (fun request => IspPlanChangeRequest.action_apply clock token_hex [request]) records

/-- The world that applying a request leaves. -/
def World.applied (clock : Nat → Nat) (id : Nat) (self : World (Records μ) ρ) : World (Records μ) ρ :=
  let request := self.records.plan_change_requests.row id
  ((self.writeSubscription request.subscription_id
      ((self.subscription request.subscription_id).movedTo self.records.plans request.requested_plan_id)).queue_job
    clock request.subscription_id .change_plan).writeRequest id fun request => { request with state := .applied }

theorem IspPlanChangeRequest.apply_exec (clock : Nat → Nat) (token_hex : Nat → String) (id : Nat)
    (world : World (Records μ) ρ) :
    (IspPlanChangeRequest.apply clock token_hex id).exec world = (.ok (), world.applied clock id) := by
  simp only [IspPlanChangeRequest.apply, Method.exec_bind, Method.exec_get, IspSubscription.apply_plan_eq,
    Method.exec_ofExcept, Method.exec_modify]
  rfl

/-- The world that applying several requests in order leaves. -/
def World.appliedAll (clock : Nat → Nat) (requests : List Nat) (self : World (Records μ) ρ) :
    World (Records μ) ρ :=
  requests.foldl (fun world id => world.applied clock id) self

theorem IspPlanChangeRequest.action_apply_exec (clock : Nat → Nat) (token_hex : Nat → String)
    (requests : List Nat)
    (world : World (Records μ) ρ) :
    (IspPlanChangeRequest.action_apply clock token_hex requests).exec world =
      (.ok (), world.appliedAll clock requests) := by
  rw [IspPlanChangeRequest.action_apply]
  induction requests generalizing world with
  | nil => rfl
  | cons id requests ih =>
    rw [Method.exec_forEach_cons, IspPlanChangeRequest.apply_exec]
    exact ih _

theorem IspPlanChangeRequest.forEach_action_apply_exec (clock : Nat → Nat) (token_hex : Nat → String)
    (requests : List Nat) (world : World (Records μ) ρ) :
    (Method.forEach (fun request => IspPlanChangeRequest.action_apply clock token_hex [request]) requests).exec
      world = (.ok (), world.appliedAll clock requests) := by
  induction requests generalizing world with
  | nil => rfl
  | cons id requests ih =>
    rw [Method.exec_forEach_cons, IspPlanChangeRequest.action_apply_exec]
    exact ih _

theorem IspPlanChangeRequest.cron_apply_plan_changes_exec (clock : Nat → Nat) (token_hex : Nat → String)
    (today : Date) (world : World (Records μ) ρ) :
    (IspPlanChangeRequest.cron_apply_plan_changes clock token_hex today).exec world =
      (.ok (), world.appliedAll clock
        (world.records.plan_change_requests.searchDesc (IspPlanChangeRequest.isDue today))) := by
  rw [IspPlanChangeRequest.cron_apply_plan_changes, Method.exec_bind, Method.exec_get]
  exact IspPlanChangeRequest.forEach_action_apply_exec clock token_hex _ world

theorem World.applied_subscription_self (clock : Nat → Nat) (id : Nat) (self : World (Records μ) ρ) :
    (self.applied clock id).subscription (self.records.plan_change_requests.row id).subscription_id =
      (self.subscription (self.records.plan_change_requests.row id).subscription_id).movedTo self.records.plans
        (self.records.plan_change_requests.row id).requested_plan_id :=
  World.writeSubscription_self _ _ _

theorem World.applied_subscription_ne (clock : Nat → Nat) {id sub : Nat} {self : World (Records μ) ρ}
    (h : sub ≠ (self.records.plan_change_requests.row id).subscription_id) :
    (self.applied clock id).subscription sub = self.subscription sub :=
  World.writeSubscription_ne _ h _

/-- Applying a request changes of a request at most its state. -/
theorem World.applied_request (clock : Nat → Nat) (id other : Nat) (self : World (Records μ) ρ) :
    ((self.applied clock id).records.plan_change_requests.row other).subscription_id =
        (self.records.plan_change_requests.row other).subscription_id ∧
      ((self.applied clock id).records.plan_change_requests.row other).requested_plan_id =
        (self.records.plan_change_requests.row other).requested_plan_id := by
  by_cases hsame : other = id
  · subst hsame
    have hrow : (self.applied clock other).records.plan_change_requests.row other =
        { self.records.plan_change_requests.row other with state := .applied } :=
      self.records.plan_change_requests.write_row_self other fun request => { request with state := .applied }
    rw [hrow]
    exact ⟨rfl, rfl⟩
  · have hrow : (self.applied clock id).records.plan_change_requests.row other =
        self.records.plan_change_requests.row other :=
      self.records.plan_change_requests.write_row_ne hsame fun request => { request with state := .applied }
    rw [hrow]
    exact ⟨rfl, rfl⟩

theorem World.appliedAll_request (clock : Nat → Nat) (requests : List Nat) (other : Nat)
    (self : World (Records μ) ρ) :
    ((self.appliedAll clock requests).records.plan_change_requests.row other).subscription_id =
        (self.records.plan_change_requests.row other).subscription_id ∧
      ((self.appliedAll clock requests).records.plan_change_requests.row other).requested_plan_id =
        (self.records.plan_change_requests.row other).requested_plan_id := by
  induction requests generalizing self with
  | nil => exact ⟨rfl, rfl⟩
  | cons id requests ih =>
    obtain ⟨hsub, hplan⟩ := ih (self.applied clock id)
    obtain ⟨hfirstSub, hfirstPlan⟩ := self.applied_request clock id other
    exact ⟨hsub.trans hfirstSub, hplan.trans hfirstPlan⟩

theorem World.appliedAll_request_ids (clock : Nat → Nat) (requests : List Nat) (self : World (Records μ) ρ) :
    (self.appliedAll clock requests).records.plan_change_requests.ids = self.records.plan_change_requests.ids := by
  induction requests generalizing self with
  | nil => rfl
  | cons id requests ih => exact ih (self.applied clock id)

/-- A request once it is applied. -/
def IspPlanChangeRequest.asApplied (self : IspPlanChangeRequest) : IspPlanChangeRequest :=
  { self with state := .applied }

@[simp] theorem IspPlanChangeRequest.isDue_asApplied (today : Date) (self : IspPlanChangeRequest) :
    self.asApplied.isDue today = false := rfl

/-- Applying requests marks exactly these as applied. -/
theorem World.appliedAll_row (clock : Nat → Nat) (requests : List Nat) (other : Nat)
    (self : World (Records μ) ρ) :
    (self.appliedAll clock requests).records.plan_change_requests.row other =
      if other ∈ requests then (self.records.plan_change_requests.row other).asApplied
      else self.records.plan_change_requests.row other := by
  induction requests generalizing self with
  | nil => simp [World.appliedAll]
  | cons id requests ih =>
    have hrest := ih (self.applied clock id)
    have hfirst : (self.applied clock id).records.plan_change_requests.row other =
        if other = id then (self.records.plan_change_requests.row id).asApplied
        else self.records.plan_change_requests.row other :=
      self.records.plan_change_requests.write_row id other fun request => { request with state := .applied }
    rw [hfirst] at hrest
    refine Eq.trans hrest ?_
    by_cases hsame : other = id
    · subst hsame
      simp [IspPlanChangeRequest.asApplied]
    · simp [hsame]

/-- Applying requests changes nothing but plans and jobs, PPP profiles and the
requests themselves. -/
theorem World.appliedAll_records (clock : Nat → Nat) (requests : List Nat) (self : World (Records μ) ρ) :
    (self.appliedAll clock requests).records.subscriptions.ids = self.records.subscriptions.ids ∧
      (self.appliedAll clock requests).records.plans = self.records.plans ∧
      (self.appliedAll clock requests).records.extension = self.records.extension ∧
      (self.appliedAll clock requests).outside = self.outside := by
  induction requests generalizing self with
  | nil => exact ⟨rfl, rfl, rfl, rfl⟩
  | cons id requests ih => exact ih (self.applied clock id)

/-- The last of several requests for a subscription decides its plan. -/
theorem World.appliedAll_subscription (clock : Nat → Nat) (requests : List Nat) (sub : Nat)
    (self : World (Records μ) ρ) :
    ∃ profile, (self.appliedAll clock requests).subscription sub =
      ((self.subscription sub).withPlan
        (((requests.filter fun id =>
          decide ((self.records.plan_change_requests.row id).subscription_id = sub)).getLast?.map fun id =>
            (self.records.plan_change_requests.row id).requested_plan_id).getD
          (self.subscription sub).plan_id)).withProfile profile := by
  induction requests using List.reverseRecOn with
  | nil => exact ⟨(self.subscription sub).pppoe_profile, rfl⟩
  | append_singleton requests id ih =>
    obtain ⟨profile, hprofile⟩ := ih
    obtain ⟨hsub, hplan⟩ := self.appliedAll_request clock requests id
    have hlast : self.appliedAll clock (requests ++ [id]) = (self.appliedAll clock requests).applied clock id := by
      rw [World.appliedAll, List.foldl_append]
      rfl
    rw [hlast, List.filter_append]
    by_cases hsame : (self.records.plan_change_requests.row id).subscription_id = sub
    · have hfilter : [id].filter (fun id =>
          decide ((self.records.plan_change_requests.row id).subscription_id = sub)) = [id] := by
        simp [hsame]
      have hself := (self.appliedAll clock requests).applied_subscription_self clock id
      rw [hsub, hplan, hsame] at hself
      rw [hself, hprofile, hfilter, List.getLast?_concat, Option.map_some, Option.getD_some]
      exact ⟨_, rfl⟩
    · have hfilter : [id].filter (fun id =>
          decide ((self.records.plan_change_requests.row id).subscription_id = sub)) = [] := by
        simp [hsame]
      have hother := (self.appliedAll clock requests).applied_subscription_ne clock
        (fun heq => hsame (hsub.symm.trans heq.symm))
      rw [hother, hprofile, hfilter, List.append_nil]
      exact ⟨profile, rfl⟩

end getupnet.isp_core

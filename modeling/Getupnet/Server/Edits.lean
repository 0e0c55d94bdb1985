import Mathlib.Logic.Relation
import Getupnet.Server
import Getupnet.IspBilling.Suspension

open relational
open calendar
open getupnet.isp_core
open getupnet.isp_mikrotik
open getupnet.isp_billing

namespace getupnet.server

variable {ρ : Type}

/-- The values that a call creates subscriptions from. -/
def ServerEvent.created : ServerEvent ρ → List SubscriptionVals
  | .create _ _ vals_list => vals_list
  | .mac_onboarding _ _ partner_id plan_id sector_id router_id norm_mac ip =>
    [mac_onboarding_vals partner_id plan_id sector_id router_id norm_mac ip]
  | _ => []

/-- The jobs that a call may queue for a subscription. -/
def ServerEvent.Queues (world : Billing ρ) (id : Nat) (job_type : JobType) : ServerEvent ρ → Prop
  | .action_activate _ _ subs => id ∈ subs ∧ job_type = .activate_subscription
  | .action_suspend _ subs => id ∈ subs ∧ job_type = .suspend_subscription
  | .action_reconnect _ subs => id ∈ subs ∧ job_type = .reconnect_subscription
  | .action_terminate _ subs => id ∈ subs ∧ job_type = .terminate_subscription
  | .action_change_plan _ subs => id ∈ subs ∧ job_type = .change_plan
  | .cron_suspend_overdue _ _ _ => (world.subscription id).state = .active ∧ job_type = .suspend_subscription
  | .cron_reconnect_on_payment _ => (world.subscription id).state = .suspended ∧ job_type = .reconnect_subscription
  | .action_apply _ _ _ | .cron_apply_plan_changes _ _ _ => job_type = .change_plan
  | _ => False

/-- One change that a call makes to the database while it executes no job. -/
inductive Edit (event : ServerEvent ρ) (world : Billing ρ) : Billing ρ → Prop where
  | create {next_by_code : Nat → CharField} {token_hex : String → String} {records : List IspSubscription}
      (h : IspSubscription.create world.records.plans next_by_code token_hex event.created = .ok records) :
      Edit event world { world with
        records := { world.records with subscriptions := world.records.subscriptions.createAll records } }
  | provision (id plan_id : Nat) (profile : CharField) :
      Edit event world
        (world.writeSubscription id (((world.subscription id).withPlan plan_id).withProfile profile))
  | queue_job (clock : Nat → Nat) {id : Nat} {job_type : JobType} (h : event.Queues world id job_type) :
      Edit event world (world.queue_job clock id job_type)
  | invoice (today : Date) (action_post : Nat → AccountMove → Except OdooError Posting) {id : Nat}
      (h : id ∈ world.records.subscriptions.ids) : Edit event world (world.invoiced today action_post id)
  | requests (plan_change_requests : Store IspPlanChangeRequest) :
      Edit event world { world with records := { world.records with plan_change_requests } }
  | payment (move : Nat) (payment_state : PaymentState) (amount_residual : ℚ) :
      Edit event world (Billing.withMoves
        (world.moves.write move fun move => { move with payment_state, amount_residual }) world)
  | outside (outside : ρ) : Edit event world { world with outside }

abbrev Edits (event : ServerEvent ρ) : Billing ρ → Billing ρ → Prop := Relation.ReflTransGen (Edit event)

section

variable {event : ServerEvent ρ} {world after : Billing ρ}

theorem Edits.queueAll {clock : Nat → Nat} {job_type : JobType} {ids : List Nat}
    (h : ∀ id ∈ ids, event.Queues world id job_type) :
    Edits event world (world.queueAll clock job_type ids) := by
  induction ids generalizing world with
  | nil => exact .refl
  | cons id ids ih =>
    have hrest : ∀ other ∈ ids, event.Queues (world.queue_job clock id job_type) other job_type :=
      fun other hother => h other (List.mem_cons_of_mem _ hother)
    exact .head (.queue_job clock (h id List.mem_cons_self)) (ih hrest)

theorem Edits.queue_each {clock : Nat → Nat} {job_type : JobType} {subs : List Nat}
    (hqueues : ∀ id ∈ subs, event.Queues world id job_type)
    (h : (IspSubscription.queue_each clock job_type subs).exec world = (.ok (), after)) :
    Edits event world after := by
  rw [IspSubscription.queue_each_exec] at h
  obtain ⟨_, rfl⟩ := Prod.mk.inj h
  exact Edits.queueAll hqueues

theorem Edits.create_records {next_by_code : Nat → CharField} {token_hex : String → String}
    (h : (IspSubscription.create_records next_by_code token_hex event.created).exec world = (.ok (), after)) :
    Edits event world after := by
  obtain ⟨records, hcreate, rfl⟩ := IspSubscription.create_records_returns h
  exact .single (.create hcreate)

theorem Edits.action_activate {clock : Nat → Nat} {token_hex : Nat → String} {subs : List Nat}
    (hqueues : ∀ world, ∀ id ∈ subs, event.Queues world id .activate_subscription)
    (h : (IspSubscription.action_activate clock token_hex subs).exec world = (.ok (), after)) :
    Edits event world after := by
  refine Method.forEach_relates (fun _ => .refl) (fun _ _ _ => .trans) (fun id hid state next hexec => ?_) h
  rw [IspSubscription.activate_exec] at hexec
  obtain ⟨_, rfl⟩ := Prod.mk.inj hexec
  have hprovision : Edit event state _ :=
    .provision id (state.subscription id).plan_id ((state.subscription id).ensuredProfile (state.planOf id))
  exact .head hprovision (.single (.queue_job clock (hqueues _ id hid)))

theorem Edits.invoicedAll {today : Date} {action_post : Nat → AccountMove → Except OdooError Posting}
    {subs : List Nat} (h : ∀ sub ∈ subs, sub ∈ world.records.subscriptions.ids) :
    Edits event world (world.invoicedAll today action_post subs) := by
  induction subs generalizing world with
  | nil => exact .refl
  | cons id subs ih =>
    have hrest : ∀ sub ∈ subs, sub ∈ (world.invoiced today action_post id).records.subscriptions.ids :=
      fun sub hsub => h sub (List.mem_cons_of_mem _ hsub)
    exact .head (.invoice today action_post (h id List.mem_cons_self)) (ih hrest)

theorem Edits.appliedAll {clock : Nat → Nat} {requests : List Nat}
    (hqueues : ∀ world id, event.Queues world id .change_plan) :
    Edits event world (world.appliedAll clock requests) := by
  induction requests generalizing world with
  | nil => exact .refl
  | cons id requests ih =>
    have hprovision : Edit event world _ :=
      .provision (world.records.plan_change_requests.row id).subscription_id
        (world.records.plan_change_requests.row id).requested_plan_id
        (((world.subscription (world.records.plan_change_requests.row id).subscription_id).withPlan
          (world.records.plan_change_requests.row id).requested_plan_id).ensuredProfile
            (world.records.plans (world.records.plan_change_requests.row id).requested_plan_id))
    have hqueue := Relation.ReflTransGen.tail (.single hprovision) (.queue_job clock
      (hqueues _ (world.records.plan_change_requests.row id).subscription_id))
    have happlied : Edits event world (world.applied clock id) := hqueue.tail (.requests _)
    exact happlied.trans ih

end

/-- What a step can do: it edits the database, or it executes jobs that all
return. An exception leaves nothing but what was done outside. -/
theorem ServerStep.cases {world after : Billing ρ} {event : ServerEvent ρ}
    (hstep : ServerStep world event after) :
    Edits event world after ∨ ∃ surroundings now,
      (Method.forEach (IspProvisioningJob.execute (dispatch surroundings) now) event.executed).exec world =
        (.ok (), after) := by
  obtain ⟨hpossible, rfl⟩ := hstep
  refine @Method.commit_relates _ _ _ World.rollback event.method (fun world after => Edits event world after ∨
    ∃ surroundings now, (Method.forEach (IspProvisioningJob.execute (dispatch surroundings) now)
      event.executed).exec world = (.ok (), after)) world (fun _ next h => ?_)
    (fun undone => Or.inl (.single (.outside undone.outside)))
  cases event with
  | create next_by_code token_hex vals_list => exact Or.inl (Edits.create_records h)
  | mac_onboarding next_by_code token_hex partner_id plan_id sector_id router_id norm_mac ip =>
    exact Or.inl (Edits.create_records h)
  | action_activate clock token_hex subs => exact Or.inl (Edits.action_activate (fun _ _ hid => ⟨hid, rfl⟩) h)
  | action_suspend clock subs => exact Or.inl (Edits.queue_each (fun _ hid => ⟨hid, rfl⟩) h)
  | action_reconnect clock subs => exact Or.inl (Edits.queue_each (fun _ hid => ⟨hid, rfl⟩) h)
  | action_terminate clock subs => exact Or.inl (Edits.queue_each (fun _ hid => ⟨hid, rfl⟩) h)
  | action_change_plan clock subs => exact Or.inl (Edits.queue_each (fun _ hid => ⟨hid, rfl⟩) h)
  | action_generate_invoice today action_post subs =>
    rw [ServerEvent.method, IspSubscription.action_generate_invoice,
      IspSubscription.forEach_generate_invoice_exec] at h
    obtain ⟨_, rfl⟩ := Prod.mk.inj h
    exact Or.inl (Edits.invoicedAll hpossible)
  | cron_generate_invoices today action_post =>
    rw [ServerEvent.method, IspSubscription.cron_generate_invoices_exec] at h
    obtain ⟨_, rfl⟩ := Prod.mk.inj h
    exact Or.inl (Edits.invoicedAll fun sub hsub => ((Store.mem_searchDesc _ _ _).mp hsub).1)
  | cron_suspend_overdue clock today moves =>
    obtain ⟨_, rfl⟩ := IspSubscription.cron_suspend_overdue_returns h
    refine Or.inl (Edits.queueAll fun sub hsub => ?_)
    obtain ⟨move, _, hoverdue⟩ := List.mem_filterMap.mp hsub
    obtain ⟨_, hactive, _⟩ := (world.suspendedFor_eq_some_iff today _ sub).mp hoverdue
    exact ⟨hactive, rfl⟩
  | cron_reconnect_on_payment clock =>
    rw [ServerEvent.method, IspSubscription.cron_reconnect_on_payment_exec] at h
    obtain ⟨_, rfl⟩ := Prod.mk.inj h
    refine Or.inl (Edits.queueAll fun sub hsub => ?_)
    obtain ⟨_, hsuspended⟩ := (Store.mem_searchDesc _ _ _).mp (List.mem_filter.mp hsub).1
    exact ⟨of_decide_eq_true hsuspended, rfl⟩
  | create_request request =>
    obtain ⟨_, rfl⟩ := Prod.mk.inj h
    exact Or.inl (.single (.requests _))
  | write_request id change =>
    obtain ⟨_, rfl⟩ := Prod.mk.inj h
    exact Or.inl (.single (.requests _))
  | action_apply clock token_hex requests =>
    rw [ServerEvent.method, IspPlanChangeRequest.action_apply_exec] at h
    obtain ⟨_, rfl⟩ := Prod.mk.inj h
    exact Or.inl (Edits.appliedAll fun _ _ => rfl)
  | cron_apply_plan_changes clock token_hex today =>
    rw [ServerEvent.method, IspPlanChangeRequest.cron_apply_plan_changes_exec] at h
    obtain ⟨_, rfl⟩ := Prod.mk.inj h
    exact Or.inl (Edits.appliedAll fun _ _ => rfl)
  | action_run surroundings now jobs => exact Or.inr ⟨surroundings, now, h⟩
  | cron_run_pending_jobs surroundings now jobs => exact Or.inr ⟨surroundings, now, h⟩
  | payment move payment_state amount_residual =>
    obtain ⟨_, rfl⟩ := Prod.mk.inj h
    exact Or.inl (.single (.payment move payment_state amount_residual))

end getupnet.server

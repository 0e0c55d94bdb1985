import Getupnet.Relational.Runs
import Getupnet.IspMikrotik.Dispatch
import Getupnet.IspBilling.Subscription

open relational
open calendar
open getupnet.isp_core
open getupnet.isp_mikrotik
open getupnet.isp_billing

namespace getupnet.server

variable {ρ : Type}

/-- The calls that the server runs: requests and buttons of users, scheduled
passes, and what the accounting and the plan change workflow write. `clock`
gives the time at which each new job is created. -/
inductive ServerEvent (ρ : Type) where
  | create (next_by_code : Nat → CharField) (token_hex : String → String) (vals_list : List SubscriptionVals)
  | mac_onboarding (next_by_code : Nat → CharField) (token_hex : String → String)
      (partner_id plan_id sector_id : Nat) (router_id : Option Nat) (norm_mac ip : CharField)
  | action_activate (clock : Nat → Nat) (token_hex : Nat → String) (subs : List Nat)
  | action_suspend (clock : Nat → Nat) (subs : List Nat)
  | action_reconnect (clock : Nat → Nat) (subs : List Nat)
  | action_terminate (clock : Nat → Nat) (subs : List Nat)
  | action_change_plan (clock : Nat → Nat) (subs : List Nat)
  | action_generate_invoice (today : Date) (action_post : Nat → AccountMove → Except OdooError Posting)
      (subs : List Nat)
  | cron_generate_invoices (today : Date) (action_post : Nat → AccountMove → Except OdooError Posting)
  | cron_suspend_overdue (clock : Nat → Nat) (today : Date) (moves : List Nat)
  | cron_reconnect_on_payment (clock : Nat → Nat)
  | create_request (request : IspPlanChangeRequest)
  | write_request (id : Nat) (change : IspPlanChangeRequest → IspPlanChangeRequest)
  | action_apply (clock : Nat → Nat) (token_hex : Nat → String) (requests : List Nat)
  | cron_apply_plan_changes (clock : Nat → Nat) (token_hex : Nat → String) (today : Date)
  | action_run (surroundings : Surroundings ρ) (now : Nat) (jobs : List Nat)
  | cron_run_pending_jobs (surroundings : Surroundings ρ) (now : Nat) (jobs : List Nat)
  | payment (move : Nat) (payment_state : PaymentState) (amount_residual : ℚ)

def ServerEvent.method : ServerEvent ρ → Odoo Accounting ρ Unit
  | .create next_by_code token_hex vals_list => IspSubscription.create_records next_by_code token_hex vals_list
  | .mac_onboarding next_by_code token_hex partner_id plan_id sector_id router_id norm_mac ip =>
    IspSubscription.create_records next_by_code token_hex
      [mac_onboarding_vals partner_id plan_id sector_id router_id norm_mac ip]
  | .action_activate clock token_hex subs => IspSubscription.action_activate clock token_hex subs
  | .action_suspend clock subs => IspSubscription.action_suspend clock subs
  | .action_reconnect clock subs => IspSubscription.action_reconnect clock subs
  | .action_terminate clock subs => IspSubscription.action_terminate clock subs
  | .action_change_plan clock subs => IspSubscription.action_change_plan clock subs
  | .action_generate_invoice today action_post subs =>
    IspSubscription.action_generate_invoice today action_post subs
  | .cron_generate_invoices today action_post => IspSubscription.cron_generate_invoices today action_post
  | .cron_suspend_overdue clock today moves => IspSubscription.cron_suspend_overdue clock today moves
  | .cron_reconnect_on_payment clock => IspSubscription.cron_reconnect_on_payment clock
  | .create_request request => modify fun world : Billing ρ =>
    { world with
      records := { world.records with
        plan_change_requests := world.records.plan_change_requests.create request } }
  | .write_request id change => modify (World.writeRequest · id change)
  | .action_apply clock token_hex requests => IspPlanChangeRequest.action_apply clock token_hex requests
  | .cron_apply_plan_changes clock token_hex today =>
    IspPlanChangeRequest.cron_apply_plan_changes clock token_hex today
  | .action_run surroundings now jobs => IspProvisioningJob.action_run (dispatch surroundings) now jobs
  | .cron_run_pending_jobs surroundings now jobs =>
    IspProvisioningJob.cron_run_pending_jobs (dispatch surroundings) now jobs
  | .payment move payment_state amount_residual => modify fun world : Billing ρ =>
    world.withMoves (world.moves.write move fun move => { move with payment_state, amount_residual })

/-- The records that a call is made on exist, and those that a pass searches for
are what its search may find. -/
def ServerEvent.Possible (world : Billing ρ) : ServerEvent ρ → Prop
  | .action_activate _ _ subs | .action_suspend _ subs | .action_reconnect _ subs | .action_terminate _ subs
  | .action_change_plan _ subs | .action_generate_invoice _ _ subs =>
    ∀ sub ∈ subs, sub ∈ world.records.subscriptions.ids
  | .action_run _ _ jobs => ∀ job ∈ jobs, job ∈ world.jobs.ids
  | .cron_run_pending_jobs _ _ jobs => world.Pending jobs
  | .cron_suspend_overdue _ _ moves => world.Dunned moves
  | _ => True

/-- The world after a call, which runs in a transaction of its own. -/
def ServerEvent.call (event : ServerEvent ρ) (world : Billing ρ) : Billing ρ :=
  event.method.commit World.rollback world

def ServerStep (world : Billing ρ) (event : ServerEvent ρ) (after : Billing ρ) : Prop :=
  event.Possible world ∧ after = event.call world

/-- The jobs that a call executes, in order. -/
def ServerEvent.executed : ServerEvent ρ → List Nat
  | .action_run _ _ jobs | .cron_run_pending_jobs _ _ jobs => jobs
  | _ => []

theorem ServerEvent.executed_mem_ids {event : ServerEvent ρ} {world : Billing ρ} (h : event.Possible world) :
    ∀ job ∈ event.executed, job ∈ world.jobs.ids := by
  cases event
  case action_run => exact h
  case cron_run_pending_jobs => exact fun job hjob => (h.mem hjob).1
  all_goals exact fun job hjob => absurd hjob List.not_mem_nil

/-- One router for everybody, in dry-run mode. -/
def dryRun : Surroundings Unit where
  network := {
    router_of_device := fun _ => none
    router_of_sector := fun _ => some 0
    get_routeros_client := fun _ => .ok Client.dry_run }
  today := newYear
  token_hex := "c0ffee"
  other_handler := fun _ => pure ()

end getupnet.server

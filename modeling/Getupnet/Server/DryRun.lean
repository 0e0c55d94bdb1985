import Getupnet.IspMikrotik.DryRun
import Getupnet.Server.Ledger

open relational
open calendar
open getupnet.isp_core
open getupnet.isp_mikrotik
open getupnet.isp_billing

namespace getupnet.server

variable {μ ρ : Type}

/-- The same call on the server in dry-run mode. -/
def ServerEvent.dry_run : ServerEvent ρ → ServerEvent Unit
  | .create next_by_code token_hex vals_list => .create next_by_code token_hex vals_list
  | .mac_onboarding next_by_code token_hex partner_id plan_id sector_id router_id norm_mac ip =>
    .mac_onboarding next_by_code token_hex partner_id plan_id sector_id router_id norm_mac ip
  | .action_activate clock token_hex subs => .action_activate clock token_hex subs
  | .action_suspend clock subs => .action_suspend clock subs
  | .action_reconnect clock subs => .action_reconnect clock subs
  | .action_terminate clock subs => .action_terminate clock subs
  | .action_change_plan clock subs => .action_change_plan clock subs
  | .action_generate_invoice today action_post subs => .action_generate_invoice today action_post subs
  | .cron_generate_invoices today action_post => .cron_generate_invoices today action_post
  | .cron_suspend_overdue clock today moves => .cron_suspend_overdue clock today moves
  | .cron_reconnect_on_payment clock => .cron_reconnect_on_payment clock
  | .create_request request => .create_request request
  | .write_request id change => .write_request id change
  | .action_apply clock token_hex requests => .action_apply clock token_hex requests
  | .cron_apply_plan_changes clock token_hex today => .cron_apply_plan_changes clock token_hex today
  | .action_run surroundings now jobs => .action_run surroundings.dry_run now jobs
  | .cron_run_pending_jobs surroundings now jobs => .cron_run_pending_jobs surroundings.dry_run now jobs
  | .payment move payment_state amount_residual => .payment move payment_state amount_residual

/-- The call goes through, and its transaction is committed. -/
def ServerEvent.returns (event : ServerEvent ρ) (world : Billing ρ) : Bool := (event.method.exec world).1.isOk

/-- The calls of a run that went through, in dry-run mode. -/
def dryRunOf (taken : List (Billing ρ × ServerEvent ρ)) : List (Billing Unit × ServerEvent Unit) :=
  (taken.filter fun entry => entry.2.returns entry.1).map fun entry => (entry.1.database, entry.2.dry_run)

section

variable {clock : Nat → Nat}

theorem queue_each_replayed (job_type : JobType) (subs : List Nat) :
    Method.ReplayedBy World.database (IspSubscription.queue_each clock job_type subs : Odoo μ ρ Unit)
      (IspSubscription.queue_each clock job_type subs) := by
  refine .forEach (fun id => .modify fun world => ?_) subs
  rfl

theorem create_records_replayed (next_by_code : Nat → CharField) (token_hex : String → String)
    (vals_list : List SubscriptionVals) :
    Method.ReplayedBy World.database (IspSubscription.create_records next_by_code token_hex vals_list : Odoo μ ρ Unit)
      (IspSubscription.create_records next_by_code token_hex vals_list) := by
  refine .get_bind fun world => .ofExcept_bind fun records hrecords => ⟨records, hrecords, .modify fun world => ?_⟩
  rfl

theorem action_activate_replayed (token_hex : Nat → String) (subs : List Nat) :
    Method.ReplayedBy World.database (IspSubscription.action_activate clock token_hex subs : Odoo μ ρ Unit)
      (IspSubscription.action_activate clock token_hex subs) := by
  refine .forEach (fun id => .get_bind fun world => .ofExcept_bind fun sub hsub => ⟨sub, hsub, ?_⟩) subs
  refine .bind (.modify fun world => ?_) fun _ => .modify fun world => ?_
  · rfl
  · rfl

theorem action_apply_replayed (token_hex : Nat → String) (requests : List Nat) :
    Method.ReplayedBy World.database (IspPlanChangeRequest.action_apply clock token_hex requests : Odoo μ ρ Unit)
      (IspPlanChangeRequest.action_apply clock token_hex requests) := by
  refine .forEach (fun id => .get_bind fun world => .ofExcept_bind fun sub hsub => ⟨sub, hsub, ?_⟩) requests
  refine .bind (.modify fun world => ?_) fun _ => .bind (.modify fun world => ?_) fun _ => .modify fun world => ?_
  · rfl
  · rfl
  · rfl

theorem cron_apply_plan_changes_replayed (token_hex : Nat → String) (today : Date) :
    Method.ReplayedBy World.database
      (IspPlanChangeRequest.cron_apply_plan_changes clock token_hex today : Odoo μ ρ Unit)
      (IspPlanChangeRequest.cron_apply_plan_changes clock token_hex today) :=
  .get_bind fun _ => .forEach (fun request => action_apply_replayed token_hex [request]) _

theorem action_generate_invoice_replayed (today : Date)
    (action_post : Nat → AccountMove → Except OdooError Posting) (subs : List Nat) :
    Method.ReplayedBy World.database
      (IspSubscription.action_generate_invoice today action_post subs : Odoo Accounting ρ Unit)
      (IspSubscription.action_generate_invoice today action_post subs) := by
  refine .forEach (fun id => .get_bind fun world => ?_) subs
  refine .bind (.modify fun world => ?_) fun _ => .bind (.modify fun world => ?_) fun _ => .modify fun world => ?_
  · rfl
  · rfl
  · rfl

theorem cron_generate_invoices_replayed (today : Date)
    (action_post : Nat → AccountMove → Except OdooError Posting) :
    Method.ReplayedBy World.database
      (IspSubscription.cron_generate_invoices today action_post : Odoo Accounting ρ Unit)
      (IspSubscription.cron_generate_invoices today action_post) :=
  .get_bind fun _ => action_generate_invoice_replayed today action_post _

theorem cron_suspend_overdue_replayed (today : Date) (moves : List Nat) :
    Method.ReplayedBy World.database
      (IspSubscription.cron_suspend_overdue clock today moves : Odoo Accounting ρ Unit)
      (IspSubscription.cron_suspend_overdue clock today moves) := by
  refine .forEach (fun move => .get_bind fun world => ?_) moves
  refine .ofExcept_bind fun found hfound => ⟨found, hfound, ?_⟩
  cases found with
  | none => exact .pure ()
  | some sub =>
    refine .modify fun world => ?_
    rfl

theorem cron_reconnect_on_payment_replayed :
    Method.ReplayedBy World.database
      (IspSubscription.cron_reconnect_on_payment clock : Odoo Accounting ρ Unit)
      (IspSubscription.cron_reconnect_on_payment clock) := by
  refine .get_bind fun _ => .forEach (fun sub => .get_bind fun world => ?_) _
  have hsame : Billing.open_count world.database sub = Billing.open_count world sub := rfl
  rw [hsame]
  split
  · refine .modify fun world => ?_
    rfl
  · exact .pure ()

end

/-- Whatever the routers do, a call that goes through leaves the jobs, plans,
subscriptions, requests and invoices that it leaves in dry-run mode. -/
theorem ServerEvent.replayed (event : ServerEvent ρ) :
    Method.ReplayedBy World.database event.method event.dry_run.method := by
  cases event
  case create next_by_code token_hex vals_list => exact create_records_replayed next_by_code token_hex vals_list
  case mac_onboarding => exact create_records_replayed _ _ _
  case action_activate clock token_hex subs => exact action_activate_replayed token_hex subs
  case action_suspend => exact queue_each_replayed _ _
  case action_reconnect => exact queue_each_replayed _ _
  case action_terminate => exact queue_each_replayed _ _
  case action_change_plan => exact queue_each_replayed _ _
  case action_generate_invoice today action_post subs => exact action_generate_invoice_replayed today action_post subs
  case cron_generate_invoices today action_post => exact cron_generate_invoices_replayed today action_post
  case cron_suspend_overdue clock today moves => exact cron_suspend_overdue_replayed today moves
  case cron_reconnect_on_payment clock => exact cron_reconnect_on_payment_replayed
  case create_request =>
    refine .modify fun world => ?_
    rfl
  case write_request =>
    refine .modify fun world => ?_
    rfl
  case action_apply clock token_hex requests => exact action_apply_replayed token_hex requests
  case cron_apply_plan_changes clock token_hex today => exact cron_apply_plan_changes_replayed token_hex today
  case action_run surroundings now jobs =>
    exact .forEach (IspProvisioningJob.execute_replayed dispatch_replayed now) jobs
  case cron_run_pending_jobs surroundings now jobs =>
    exact .forEach (IspProvisioningJob.execute_replayed dispatch_replayed now) jobs
  case payment =>
    refine .modify fun world => ?_
    rfl

/-- A call can be made on the same records and finds the same ones. -/
theorem ServerEvent.possible_dry_run {event : ServerEvent ρ} {world : Billing ρ} (h : event.Possible world) :
    event.dry_run.Possible world.database := by
  cases event <;> exact h

/-- A call that raises leaves the database as it was. -/
theorem ServerEvent.database_of_raises {event : ServerEvent ρ} {world : Billing ρ}
    (h : event.returns world = false) : (event.call world).database = world.database := by
  unfold ServerEvent.returns at h
  cases hexec : event.method.exec world with
  | mk result after =>
    rw [hexec] at h
    cases result with
    | ok value => cases h
    | error exception =>
      rw [ServerEvent.call, Method.commit_of_error hexec]
      rfl

/-- A run of the server, whatever its routers answer, reject or lose, is a run of the
server in dry-run mode: the same calls, without those that raised, all go through and
leave the same jobs, plans, subscriptions, requests and invoices after each. What the
jobs that work on no subscription write elsewhere, on devices or on captive users, is
not compared. -/
theorem dry_run_replays {initial reached : Billing ρ} {taken : List (Billing ρ × ServerEvent ρ)}
    (run : Run ServerStep initial taken reached) :
    Run ServerStep initial.database (dryRunOf taken) reached.database ∧
      ∀ entry ∈ dryRunOf taken, entry.2.returns entry.1 = true := by
  constructor
  · refine run.replay (fun world event after hstep hreturns => ?_) fun world event after hstep hraises => ?_
    · obtain ⟨hpossible, rfl⟩ := hstep
      exact ⟨ServerEvent.possible_dry_run hpossible, (event.replayed.commit hreturns).symm⟩
    · obtain ⟨-, rfl⟩ := hstep
      exact ServerEvent.database_of_raises hraises
  · intro entry hentry
    obtain ⟨real, hreal, rfl⟩ := List.mem_map.mp hentry
    exact real.2.replayed.returns (List.mem_filter.mp hreal).2

/-- A server with one router for everybody. -/
def oneRouter (connection : Except OdooError (Client RouterTables)) : Surroundings RouterTables where
  network := {
    router_of_device := fun _ => none
    router_of_sector := fun _ => some 0
    get_routeros_client := fun _ => connection }
  today := newYear
  token_hex := "c0ffee"
  other_handler := fun _ => pure ()

/-- One active customer and an empty router. -/
def oneCustomer : Billing RouterTables where
  jobs := billedAtNewYear.jobs
  records := billedAtNewYear.records
  outside := .empty

/-- A suspension that does not reach the router at first. -/
theorem dry_run_replays_timeout :
    let suspend : ServerEvent RouterTables := .action_suspend id [0]
    let lost : ServerEvent RouterTables := .action_run (oneRouter (.error (.other "timed out"))) 1 [0]
    let run : ServerEvent RouterTables := .action_run (oneRouter (.ok RouterTables.cmd)) 2 [0]
    let queued := suspend.call oneCustomer
    let reached := run.call (lost.call queued)
    (reached.subscription 0).state = .suspended ∧
      Run ServerStep oneCustomer.database
        [(oneCustomer.database, suspend.dry_run), ((lost.call queued).database, run.dry_run)] reached.database := by
  intro suspend lost run queued reached
  have hsuspend : ServerStep oneCustomer suspend queued := by
    refine ⟨fun sub hsub => ?_, rfl⟩
    rw [List.mem_singleton.mp hsub]
    exact List.mem_singleton_self 0
  have hjob : ∀ job ∈ [0], job ∈ queued.jobs.ids := by
    intro job hjob
    rw [List.mem_singleton.mp hjob]
    exact List.mem_singleton_self 0
  have hlost : ServerStep queued lost (lost.call queued) := ⟨hjob, rfl⟩
  have hrun : ServerStep (lost.call queued) run reached := ⟨hjob, rfl⟩
  have hreplay := (dry_run_replays (.step (.step (.step .start hsuspend) hlost) hrun)).1
  have hcalls : dryRunOf ([] ++ [(oneCustomer, suspend)] ++ [(queued, lost)] ++ [(lost.call queued, run)]) =
      [(oneCustomer.database, suspend.dry_run), ((lost.call queued).database, run.dry_run)] := rfl
  rw [hcalls] at hreplay
  exact ⟨by decide, hreplay⟩

end getupnet.server

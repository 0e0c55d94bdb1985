import Getupnet.IspCore.ProvisioningJob.Batch
import Getupnet.IspCore.ProvisioningJob.Order
import Getupnet.IspCore.Records
import Getupnet.IspMikrotik.Frame

open relational
open calendar
open getupnet.isp_core

namespace getupnet.isp_mikrotik

variable {μ ρ : Type}

/-- The routers as jobs see them: the first router record of a device and of a
sector, and how a router is connected. -/
structure Network (ρ : Type) where
  router_of_device : Nat → Option Nat
  router_of_sector : Nat → Option Nat
  get_routeros_client : Nat → Except OdooError (Client ρ)

def get_router (network : Network ρ) (job : IspProvisioningJob) (sub : IspSubscription) : Except OdooError Nat :=
  match job.device_id.bind network.router_of_device <|> sub.router_id <|>
    network.router_of_sector sub.sector_id with
  | some router => .ok router
  | none => .error (.user "No MikroTik router found for this job.")

/-- What an execution depends on besides the database: the routers, the day, a fresh
token, and what the handlers that work on no subscription (the healthcheck and those of
the captive portal) do to the routers. What these write on devices and captive users is
no part of the records here. -/
structure Surroundings (ρ : Type) where
  network : Network ρ
  today : Date
  token_hex : String
  other_handler : IspProvisioningJob → Method ρ OdooError Unit

def Surroundings.connection (self : Surroundings ρ) (job : IspProvisioningJob) (sub : IspSubscription) :
    Except OdooError (Client ρ) :=
  (get_router self.network job sub).bind self.network.get_routeros_client

/-- A handler at work on one subscription of the database. -/
def onSubscription (id : Nat) (handler : Handler ρ Unit) : Method (Records μ × ρ) OdooError Unit :=
  Method.focus (fun state => (state.1.subscriptions.row id, state.2))
    (fun rest state =>
      ({ state.1 with subscriptions := state.1.subscriptions.write id fun _ => rest.1 }, rest.2)) handler

/-- The handler of a job that works on a subscription. -/
def handle_subscription (surroundings : Surroundings ρ) (job : IspProvisioningJob) :
    Method (Records μ × ρ) OdooError Unit :=
  match job.subscription_id with
  | none => throw (.user "Subscription is required.")
  | some id => do
    let records : Records μ := (← get).1
    let sub := records.subscriptions.row id
    onSubscription id
      ((subscription_handler (records.plans sub.plan_id) surroundings.today surroundings.token_hex
        (surroundings.connection job sub) job.job_type).getD (pure ()))

/-- The lookup of a job's handler by its type and the call. -/
def dispatch (surroundings : Surroundings ρ) : Dispatch (Records μ) ρ := fun _ job =>
  match job.job_type with
  | .export_config_snapshot => throw (.user "No handler for job type: export_config_snapshot")
  | .mikrotik_healthcheck | .captive_user_create | .captive_user_disable | .walled_garden_apply =>
    Method.focus Prod.snd (fun outside state => (state.1, outside)) (surroundings.other_handler job)
  | _ => handle_subscription surroundings job

/-- What a handled job may change of the records: the state, the PPP profile and
the start date of its own subscription. -/
structure Provisions (job : IspProvisioningJob) (before after : Records μ) : Prop where
  plans : after.plans = before.plans
  requests : after.plan_change_requests = before.plan_change_requests
  extension : after.extension = before.extension
  ids : after.subscriptions.ids = before.subscriptions.ids
  row : ∀ sub, ∃ profile start,
    (after.subscriptions.row sub).toSubscriptionValues =
      { (before.subscriptions.row sub).toSubscriptionValues with
        pppoe_profile := profile
        start_date := start
        state :=
          if job.subscription_id = some sub then job.job_type.stateAfter (before.subscriptions.row sub).state
          else (before.subscriptions.row sub).state }

/-- A job that leaves the records alone and whose type changes no state. -/
theorem Provisions.unchanged {job : IspProvisioningJob} (records : Records μ)
    (hstate : ∀ state, job.job_type.stateAfter state = state) : Provisions job records records where
  plans := rfl
  requests := rfl
  extension := rfl
  ids := rfl
  row := by
    intro sub
    refine ⟨(records.subscriptions.row sub).pppoe_profile, (records.subscriptions.row sub).start_date, ?_⟩
    rw [hstate, ite_self]

theorem subscription_handler_returns {plan : IspServicePlan} {today : Date} {token_hex : String}
    {connection : Except OdooError (Client ρ)} {job_type : JobType} {handler : Handler ρ Unit}
    {sub : IspSubscription} {router : ρ} {after : IspSubscription × ρ}
    (hhandler : subscription_handler plan today token_hex connection job_type = some handler)
    (h : handler.exec (sub, router) = (.ok (), after)) :
    ∃ profile start, after.1.toSubscriptionValues =
      { sub.toSubscriptionValues with
        pppoe_profile := profile
        start_date := start
        state := job_type.stateAfter sub.state } := by
  have hsame : after.1 = sub → job_type.stateAfter sub.state = sub.state → ∃ profile start,
      after.1.toSubscriptionValues =
        { sub.toSubscriptionValues with
          pppoe_profile := profile, start_date := start, state := job_type.stateAfter sub.state } := by
    intro hsub hstate
    refine ⟨sub.pppoe_profile, sub.start_date, ?_⟩
    rw [hsub, hstate]
  cases job_type <;> cases hhandler
  case activate_subscription =>
    obtain ⟨_, _, hvalues, _⟩ := handle_activate_subscription_returns h
    exact ⟨_, _, hvalues⟩
  case suspend_subscription =>
    obtain ⟨_, _, hvalues, _⟩ := Handler.switch_returns h
    exact ⟨_, _, hvalues⟩
  case reconnect_subscription =>
    obtain ⟨_, _, hvalues, _⟩ := Handler.switch_returns h
    exact ⟨_, _, hvalues⟩
  case terminate_subscription =>
    obtain ⟨_, _, hvalues, _⟩ := Handler.switch_returns h
    exact ⟨_, _, hvalues⟩
  case change_plan =>
    obtain ⟨_, _, hsub, _⟩ := handle_change_plan_returns h
    exact hsame hsub rfl
  case disconnect_session =>
    obtain ⟨_, _, hrest⟩ := Handler.connected h
    exact hsame (Handler.commands_returns hrest).1 rfl
  case activate_pppoe =>
    rw [handle_activate_pppoe, Method.exec_bind, Handler.exec_ensure_pppoe_credentials] at h
    obtain ⟨_, _, hrest⟩ := Handler.connected h
    rw [(Handler.commands_returns hrest).1]
    exact ⟨_, _, rfl⟩
  case activate_dhcp =>
    obtain ⟨_, _, hrest⟩ := Handler.connected h
    exact hsame (Handler.commands_returns hrest).1 rfl
  case ensure_queue =>
    obtain ⟨_, _, hrest⟩ := Handler.connected h
    exact hsame (Handler.commands_returns hrest).1 rfl

theorem onSubscription_returns {job : IspProvisioningJob} {id : Nat} {handler : Handler ρ Unit}
    {records after : Records μ} {outside later : ρ} (hjob : job.subscription_id = some id)
    (hhandler : ∀ sub result, handler.exec (records.subscriptions.row id, outside) = (.ok (), sub, result) →
      ∃ profile start, sub.toSubscriptionValues =
        { (records.subscriptions.row id).toSubscriptionValues with
          pppoe_profile := profile
          start_date := start
          state := job.job_type.stateAfter (records.subscriptions.row id).state })
    (h : (onSubscription id handler).exec (records, outside) = (.ok (), after, later)) :
    Provisions job records after := by
  rw [onSubscription, Method.exec_focus] at h
  obtain ⟨hresult, hpair⟩ := Prod.mk.inj h
  obtain ⟨rfl, rfl⟩ := Prod.mk.inj hpair
  obtain ⟨profile, start, hvalues⟩ := hhandler _ _ (Prod.ext hresult rfl)
  refine ⟨rfl, rfl, rfl, rfl, fun sub => ?_⟩
  by_cases hsame : sub = id
  · subst hsame
    refine ⟨profile, start, ?_⟩
    rw [if_pos hjob, Store.write_row_self]
    exact hvalues
  · have hother : job.subscription_id ≠ some sub := by
      rw [hjob]
      exact fun heq => hsame (Option.some.inj heq).symm
    refine ⟨(records.subscriptions.row sub).pppoe_profile, (records.subscriptions.row sub).start_date, ?_⟩
    rw [if_neg hother, Store.write_row_ne _ hsame]

theorem stateAfter_of_no_handler {plan : IspServicePlan} {today : Date} {token_hex : String}
    {connection : Except OdooError (Client ρ)} {job_type : JobType}
    (h : subscription_handler plan today token_hex connection job_type = none) (state : SubscriptionState) :
    job_type.stateAfter state = state := by
  cases job_type <;> first | rfl | cases h

theorem handle_subscription_returns {surroundings : Surroundings ρ} {job : IspProvisioningJob}
    {records after : Records μ} {outside later : ρ}
    (h : (handle_subscription surroundings job).exec (records, outside) = (.ok (), after, later)) :
    Provisions job records after := by
  unfold handle_subscription at h
  cases hjob : job.subscription_id with
  | none =>
    rw [hjob] at h
    cases h
  | some id =>
    rw [hjob] at h
    simp only [Method.exec_bind, Method.exec_get] at h
    refine onSubscription_returns hjob (fun sub result hreturns => ?_) h
    cases hhandler : subscription_handler (records.plans (records.subscriptions.row id).plan_id)
        surroundings.today surroundings.token_hex
        (surroundings.connection job (records.subscriptions.row id)) job.job_type with
    | none =>
      rw [hhandler] at hreturns
      cases hreturns
      refine ⟨(records.subscriptions.row id).pppoe_profile, (records.subscriptions.row id).start_date, ?_⟩
      rw [stateAfter_of_no_handler hhandler]
    | some handler =>
      rw [hhandler] at hreturns
      exact subscription_handler_returns hhandler hreturns

/-- The handler of the job has run on its subscription, and on what is outside. -/
theorem handle_subscription_handled {surroundings : Surroundings ρ} {job : IspProvisioningJob}
    {records after : Records μ} {outside later : ρ}
    (h : (handle_subscription surroundings job).exec (records, outside) = (.ok (), after, later)) :
    ∃ sub, job.subscription_id = some sub ∧ ∀ handler,
      subscription_handler (records.plans (records.subscriptions.row sub).plan_id) surroundings.today
        surroundings.token_hex (surroundings.connection job (records.subscriptions.row sub)) job.job_type =
          some handler →
      handler.exec (records.subscriptions.row sub, outside) = (.ok (), after.subscriptions.row sub, later) := by
  unfold handle_subscription at h
  cases hjob : job.subscription_id with
  | none =>
    rw [hjob] at h
    cases h
  | some sub =>
    rw [hjob] at h
    simp only [Method.exec_bind, Method.exec_get, onSubscription, Method.exec_focus] at h
    obtain ⟨hresult, hpair⟩ := Prod.mk.inj h
    obtain ⟨rfl, rfl⟩ := Prod.mk.inj hpair
    refine ⟨sub, rfl, fun handler hhandler => ?_⟩
    rw [hhandler, Option.getD_some] at hresult ⊢
    rw [Store.write_row_self]
    exact Prod.ext hresult rfl

/-- What is outside is left as the handler leaves it, returning or raising. -/
theorem handle_subscription_outside {surroundings : Surroundings ρ} {job : IspProvisioningJob}
    {records : Records μ}
    {outside : ρ} {sub : Nat} {handler : Handler ρ Unit} (hsub : job.subscription_id = some sub)
    (hhandler : subscription_handler (records.plans (records.subscriptions.row sub).plan_id) surroundings.today
      surroundings.token_hex (surroundings.connection job (records.subscriptions.row sub)) job.job_type =
        some handler) :
    ((handle_subscription surroundings job).exec (records, outside)).2.2 =
      (handler.exec (records.subscriptions.row sub, outside)).2.2 := by
  unfold handle_subscription
  rw [hsub]
  simp only [Method.exec_bind, Method.exec_get, hhandler, Option.getD_some]
  rfl

/-- What no command and no other handler touches is left alone by every job. -/
theorem dispatch_keeps {ν : Type} {view : ρ → ν} {surroundings : Surroundings ρ}
    (hclient : ∀ router client, surroundings.network.get_routeros_client router = .ok client →
      ∀ command, (client command).Keeps view)
    (hother : ∀ job, (surroundings.other_handler job).Keeps view) (id : Nat) (job : IspProvisioningJob) :
    Method.Keeps (fun state : Records μ × ρ => view state.2) (dispatch surroundings id job) := by
  have hsubscription : Method.Keeps (fun state : Records μ × ρ => view state.2)
      (handle_subscription surroundings job) := by
    rintro ⟨records, outside⟩
    unfold handle_subscription
    cases job.subscription_id with
    | none => rfl
    | some sub =>
      simp only [Method.exec_bind, Method.exec_get, onSubscription, Method.exec_focus]
      cases hhandler : subscription_handler (records.plans (records.subscriptions.row sub).plan_id)
          surroundings.today surroundings.token_hex
          (surroundings.connection job (records.subscriptions.row sub)) job.job_type with
      | none => rfl
      | some handler =>
        have hconnected : ∀ client, surroundings.connection job (records.subscriptions.row sub) = .ok client →
            ∀ command, (client command).Keeps view := by
          intro client hconnection
          unfold Surroundings.connection at hconnection
          cases hrouter : get_router surroundings.network job (records.subscriptions.row sub) with
          | error exception =>
            rw [hrouter] at hconnection
            cases hconnection
          | ok router =>
            rw [hrouter] at hconnection
            exact hclient router client hconnection
        exact subscription_handler_keeps hconnected hhandler (records.subscriptions.row sub, outside)
  unfold dispatch
  split
  · exact fun _ => rfl
  · exact Method.Keeps.focus (hother job) fun _ _ hsame => hsame
  · exact Method.Keeps.focus (hother job) fun _ _ hsame => hsame
  · exact Method.Keeps.focus (hother job) fun _ _ hsame => hsame
  · exact Method.Keeps.focus (hother job) fun _ _ hsame => hsame
  · exact hsubscription

/-- A job whose handler returns changes no more than that. -/
theorem dispatch_returns {surroundings : Surroundings ρ} {id : Nat} {job : IspProvisioningJob}
    {records after : Records μ} {outside later : ρ}
    (h : (dispatch surroundings id job).exec (records, outside) = (.ok (), after, later)) :
    Provisions job records after := by
  have hother : (∀ state, job.job_type.stateAfter state = state) →
      (Method.focus Prod.snd (fun outside (state : Records μ × ρ) => (state.1, outside))
        (surroundings.other_handler job)).exec (records, outside) = (.ok (), after, later) →
      Provisions job records after := by
    intro hstate hfocus
    rw [Method.exec_focus] at hfocus
    obtain ⟨_, hpair⟩ := Prod.mk.inj hfocus
    obtain ⟨rfl, _⟩ := Prod.mk.inj hpair
    exact Provisions.unchanged records hstate
  unfold dispatch at h
  cases htype : job.job_type with
  | export_config_snapshot =>
    rw [htype] at h
    cases h
  | mikrotik_healthcheck =>
    rw [htype] at h
    exact hother (fun _ => by rw [htype]; rfl) h
  | captive_user_create =>
    rw [htype] at h
    exact hother (fun _ => by rw [htype]; rfl) h
  | captive_user_disable =>
    rw [htype] at h
    exact hother (fun _ => by rw [htype]; rfl) h
  | walled_garden_apply =>
    rw [htype] at h
    exact hother (fun _ => by rw [htype]; rfl) h
  | _ =>
    rw [htype] at h
    exact handle_subscription_returns h

theorem Provisions.state {job : IspProvisioningJob} {before after : Records μ} (h : Provisions job before after)
    (sub : Nat) :
    (after.subscriptions.row sub).state =
      if job.subscription_id = some sub then job.job_type.stateAfter (before.subscriptions.row sub).state
      else (before.subscriptions.row sub).state := by
  obtain ⟨profile, start, hvalues⟩ := h.row sub
  rw [hvalues]

theorem Provisions.next_invoice_date {job : IspProvisioningJob} {before after : Records μ}
    (h : Provisions job before after) (sub : Nat) :
    (after.subscriptions.row sub).next_invoice_date = (before.subscriptions.row sub).next_invoice_date := by
  obtain ⟨profile, start, hvalues⟩ := h.row sub
  rw [hvalues]

/-- An execution that returns settles its job and no other. A runnable job has
changed of the records what its handler may, any other job nothing. -/
theorem execute_provisions {surroundings : Surroundings ρ} {now id : Nat} {world after : World (Records μ) ρ}
    (h : (IspProvisioningJob.execute (dispatch surroundings) now id).exec world = (.ok (), after)) :
    after.jobs = world.jobs.write id (IspProvisioningJob.settled now (.ok ())) ∧
      ((world.jobs.row id).Runnable ∧ Provisions (world.jobs.row id) world.records after.records ∨
        ¬ (world.jobs.row id).Runnable ∧ after.records = world.records) := by
  obtain ⟨hjobs, ⟨hrunnable, hdispatch⟩ | ⟨hnot, hrecords, _⟩⟩ := IspProvisioningJob.execute_returns h
  · have hstarted := dispatch_returns hdispatch
    exact ⟨hjobs, Or.inl ⟨hrunnable,
      ⟨hstarted.plans, hstarted.requests, hstarted.extension, hstarted.ids, hstarted.row⟩⟩⟩
  · exact ⟨hjobs, Or.inr ⟨hnot, hrecords⟩⟩

/-- The state of a subscription after an execution that returns. -/
theorem execute_state {surroundings : Surroundings ρ} {now id : Nat} {world after : World (Records μ) ρ}
    (h : (IspProvisioningJob.execute (dispatch surroundings) now id).exec world = (.ok (), after)) (sub : Nat) :
    (after.subscription sub).state =
      if (world.jobs.row id).Runnable ∧ (world.jobs.row id).subscription_id = some sub then
        (world.jobs.row id).job_type.stateAfter (world.subscription sub).state
      else (world.subscription sub).state := by
  obtain ⟨hrunnable, hprovisions⟩ | ⟨hnot, hsame⟩ := (execute_provisions h).2
  · rw [World.subscription, hprovisions.state sub]
    simp only [hrunnable, true_and]
    rfl
  · rw [if_neg (fun hboth => hnot hboth.1), World.subscription, hsame]
    rfl

theorem execute_subscription_ids {surroundings : Surroundings ρ} {now id : Nat}
    {world after : World (Records μ) ρ}
    (h : (IspProvisioningJob.execute (dispatch surroundings) now id).exec world = (.ok (), after)) :
    after.records.subscriptions.ids = world.records.subscriptions.ids := by
  obtain ⟨_, hprovisions⟩ | ⟨_, hsame⟩ := (execute_provisions h).2
  · exact hprovisions.ids
  · rw [hsame]

/-- The states of the subscriptions, which the lifecycle jobs write. -/
def subscriptionStates (records : Records μ) (sub : Nat) : SubscriptionState :=
  (records.subscriptions.row sub).state

theorem dispatch_writesState (surroundings : Surroundings ρ) :
    WritesState subscriptionStates (dispatch (μ := μ) surroundings) := by
  rintro id job records outside ⟨after, later⟩ hdispatch sub
  exact (dispatch_returns hdispatch).state sub

/-- A pass of the cron that returns. -/
theorem cronStep_of_returns {surroundings : Surroundings ρ} {now : Nat} {found : List Nat}
    {world after : World (Records μ) ρ} (hpending : world.Pending found)
    (h : (IspProvisioningJob.cron_run_pending_jobs (dispatch surroundings) now found).exec world = (.ok (), after)) :
    CronStep subscriptionStates world ⟨dispatch surroundings, now, found⟩ after where
  writes := dispatch_writesState surroundings
  pending := hpending
  returned := h

/-- One router for everybody, in dry-run mode. -/
def dummyRouter : Surroundings Unit where
  network := {
    router_of_device := fun _ => none
    router_of_sector := fun _ => some 0
    get_routeros_client := fun _ => .ok Client.dry_run }
  today := .of (by decide : IsDay 2026 1 1)
  token_hex := ""
  other_handler := fun _ => pure ()

def connectedCustomer : IspSubscription where
  name := "SUB0001"
  partner_id := 0
  plan_id := 0
  sector_id := 0
  state := .active
  gps_lat := 18
  gps_lng := 69
  service_ip := some "10.0.0.2"
  service_mac := some "AA:BB:CC:00:00:01"
  checked := rfl

/-- An active customer with a suspension and a reconnection that were requested in one
second. -/
def hurriedCustomer : World (Records Unit) Unit where
  jobs := suspendedAndReconnected
  records := {
    subscriptions := (Store.empty IspSubscription.blank).create connectedCustomer
    plans := fun _ => { name := "Basic", service_type := .dhcp }
    plan_change_requests := Store.empty { subscription_id := 0, requested_plan_id := 0 }
    extension := () }
  outside := ()

/-- The search may list the reconnection first: then the customer ends suspended. -/
theorem reconnection_overtaken :
    ∃ taken reached, Run (CronStep subscriptionStates) hurriedCustomer taken reached ∧
      (hurriedCustomer.subscription 0).state = .active ∧ queuedFor reached.jobs 0 = [] ∧
      (reached.subscription 0).state = .suspended ∧
      ¬ InCreationOrder subscriptionStates hurriedCustomer.jobs taken reached := by
  let reached :=
    ((IspProvisioningJob.cron_run_pending_jobs (dispatch dummyRouter) 0 [1, 0]).exec hurriedCustomer).2
  have hpending : hurriedCustomer.Pending [1, 0] := ⟨[1, 0], List.Perm.swap 0 1 [], by decide, rfl⟩
  have hstep : CronStep subscriptionStates hurriedCustomer ⟨dispatch dummyRouter, 0, [1, 0]⟩ reached :=
    cronStep_of_returns hpending rfl
  have hempty : queuedFor reached.jobs 0 = [] := by decide
  have hstate : subscriptionStates reached.records 0 = .suspended := rfl
  refine ⟨_, reached, .step .start hstep, rfl, hempty, hstate, fun h => ?_⟩
  have hlast := h.last 0 hempty 1 ⟨by decide, by decide⟩
  rw [hstate] at hlast
  cases hlast

end getupnet.isp_mikrotik

import Getupnet.IspCaptivePortal.ProvisioningJob
import Getupnet.IspMikrotik.Access
import Getupnet.IspMikrotik.Frame

open relational
open calendar
open getupnet.isp_core
open getupnet.isp_mikrotik

namespace getupnet.isp_captive_portal

/-- A mikrotik client on one router of the fleet. -/
def Policy.client (policy : Policy) (router : Nat) : Client Fleet :=
  fun command => Method.onDevice router (policy.cmd (.inl command))

def HotspotTables.NoEnabledUser (username : String) (self : HotspotTables) : Prop :=
  ∀ user, self.hotspot_users.find username = some user → user.disabled = true

/-- Neither the secret nor the queue of a subscription is enabled. -/
def RouterCutOff (sub : IspSubscription) (tables : RouterTables) : Prop :=
  tables.NoEnabledSecret sub ∧ tables.NoEnabledQueue sub

/-- The secret's command is sent for a PPPoE plan and accepted, or there is no
enabled secret; the queue's command, sent next, is accepted, or there is no
enabled queue. -/
def CutOffHeeded (policy : Policy) (plan : IspServicePlan) (sub : IspSubscription) (onQueue : Command)
    (connection : Connection) : Prop :=
  let onSecret : RouterCommand := .inl (.ppp_secret_set sub.pppoe_username none none true)
  let log := if plan.service_type = .pppoe then connection.1 ++ [onSecret] else connection.1
  (plan.service_type = .pppoe ∧ policy connection.1 onSecret = none ∨ connection.2.tables.NoEnabledSecret sub) ∧
    (policy log (.inl onQueue) = none ∨ connection.2.tables.NoEnabledQueue sub)

section

variable {policy : Policy} {router : Nat} {fleet later : Fleet} {plan : IspServicePlan} {sub : IspSubscription}

/-- A command whose rejection is ignored, as the router of the fleet takes it. -/
theorem exceptRouteros_client_ignored {command : Command} {tables : RouterTables}
    (h : (exceptRouteros (RouterTables.cmd command) (pure ())).exec (fleet router).2.tables = (.ok (), tables)) :
    ∃ connection : Connection,
      (exceptRouteros (policy.client router command) (pure ())).exec fleet =
        (.ok (), Function.update fleet router connection) ∧
      connection.1 = (fleet router).1 ++ [.inl command] ∧
      connection.2.tables =
        if policy (fleet router).1 (.inl command) = none then tables else (fleet router).2.tables := by
  have hrouter : (exceptRouteros (Router.cmd (.inl command)) (pure ())).exec (fleet router).2 =
      (.ok (), { (fleet router).2 with tables }) := by
    rw [Router.cmd]
    exact exceptRouteros_focus_ignored h
  refine ⟨_, exceptRouteros_fleet_ignored hrouter, rfl, ?_⟩
  split <;> rfl

theorem noEnabledSecret_ite_iff {tables : RouterTables} {p : Prop} [Decidable p] :
    (if p then tables.flagSecret true sub else tables).NoEnabledSecret sub ↔ p ∨ tables.NoEnabledSecret sub := by
  by_cases hp : p
  · simp [hp, RouterTables.flagSecret_noEnabledSecret]
  · simp [hp]

theorem noEnabledQueue_ite_flagSecret {tables : RouterTables} {p : Prop} [Decidable p] :
    (if p then tables.flagSecret true sub else tables).NoEnabledQueue sub ↔ tables.NoEnabledQueue sub := by
  split <;> rfl

/-- The queue's command, whose rejection is ignored, stops the queue when it is
accepted and leaves the secret alone. -/
theorem stopped_iff {onQueue : Command} {stopQueue : RouterTables → RouterTables}
    (hqueue : ∀ tables, (exceptRouteros (RouterTables.cmd onQueue) (pure ())).exec tables = (.ok (), stopQueue tables))
    (hsecrets : ∀ tables, (stopQueue tables).ppp_secrets = tables.ppp_secrets)
    (hstops : ∀ tables, (stopQueue tables).NoEnabledQueue sub)
    (h : (exceptRouteros (policy.client router onQueue) (pure ())).exec fleet = (.ok (), later)) :
    RouterCutOff sub (later router).2.tables ↔
      (fleet router).2.tables.NoEnabledSecret sub ∧
        (policy (fleet router).1 (.inl onQueue) = none ∨ (fleet router).2.tables.NoEnabledQueue sub) := by
  obtain ⟨last, hlast, _, htables⟩ := @exceptRouteros_client_ignored policy router fleet onQueue _ (hqueue _)
  rw [hlast] at h
  obtain ⟨_, rfl⟩ := Prod.mk.inj h
  rw [Function.update_self, htables]
  by_cases hpolicy : policy (fleet router).1 (.inl onQueue) = none
  · rw [if_pos hpolicy]
    simp only [RouterCutOff, RouterTables.NoEnabledSecret, hsecrets, hstops, hpolicy, true_or]
  · rw [if_neg hpolicy]
    simp only [RouterCutOff, hpolicy, false_or]

/-- A router whose queue command is ignored when rejected is cut off from the
subscription exactly when the commands it needed were heeded. -/
theorem cutOff_iff {onQueue : Command} {stopQueue : RouterTables → RouterTables}
    (hqueue : ∀ tables, (exceptRouteros (RouterTables.cmd onQueue) (pure ())).exec tables = (.ok (), stopQueue tables))
    (hsecrets : ∀ tables, (stopQueue tables).ppp_secrets = tables.ppp_secrets)
    (hstops : ∀ tables, (stopQueue tables).NoEnabledQueue sub)
    (h : (do
      if plan.service_type = .pppoe then routeros_pppoe_disable (policy.client router) sub
      exceptRouteros (policy.client router onQueue) (pure ()) : Method Fleet OdooError Unit).exec fleet =
        (.ok (), later)) :
    RouterCutOff sub (later router).2.tables ↔ CutOffHeeded policy plan sub onQueue (fleet router) := by
  by_cases hpppoe : plan.service_type = .pppoe
  · rw [if_pos hpppoe, Method.exec_bind] at h
    obtain ⟨middle, hmiddle, hlog, htables⟩ := @exceptRouteros_client_ignored policy router fleet _ _
      (routeros_pppoe_disable_exec sub (fleet router).2.tables)
    have hdisable : (routeros_pppoe_disable (policy.client router) sub).exec fleet = _ := hmiddle
    rw [hdisable] at h
    have hlast := stopped_iff hqueue hsecrets hstops h
    rw [Function.update_self, hlog, htables, noEnabledSecret_ite_iff, noEnabledQueue_ite_flagSecret] at hlast
    rw [hlast]
    simp only [CutOffHeeded, hpppoe, if_true, true_and]
  · rw [if_neg hpppoe] at h
    rw [stopped_iff hqueue hsecrets hstops h]
    simp only [CutOffHeeded, hpppoe, if_false, false_and, false_or]

theorem Policy.client_shows {key : EntryKey} :
    (policy.client router).Shows key fun fleet => (fleet router).2.tables.entry key := by
  intro command hkey
  have hrouter : (Router.cmd (.inl command)).Keeps fun router => router.tables.entry key := by
    rw [Router.cmd]
    exact Method.Keeps.focus (RouterTables.cmd_keeps hkey) fun _ _ hsame => hsame
  have hconnection : (policy.cmd (.inl command)).Keeps fun connection => connection.2.tables.entry key :=
    rejecting_keeps hrouter
  exact Method.onDevice_keeps hconnection

theorem enabledSecret_congr {before after : RouterTables}
    (h : after.entry (.secret sub.pppoe_username) = before.entry (.secret sub.pppoe_username)) :
    after.EnabledSecret sub ↔ before.EnabledSecret sub := by
  have hfind : after.ppp_secrets.find sub.pppoe_username = before.ppp_secrets.find sub.pppoe_username :=
    Option.map_injective (fun _ _ heq => Entry.secret.inj heq) h
  rw [RouterTables.EnabledSecret, RouterTables.EnabledSecret, hfind]

/-- There is a secret, and the command that enables it is accepted or it is
enabled already. -/
def EnableHeeded (policy : Policy) (sub : IspSubscription) (connection : Connection) : Prop :=
  ∃ secret, connection.2.tables.ppp_secrets.find sub.pppoe_username = some secret ∧
    (policy connection.1 (.inl (.ppp_secret_set sub.pppoe_username none none false)) = none ∨
      secret.disabled = false)

theorem enableHeeded_iff (hpppoe : plan.service_type = .pppoe)
    (h : (do
      if plan.service_type = .pppoe then routeros_pppoe_enable (policy.client router) sub
      routeros_queue_ensure (policy.client router) plan sub : Method Fleet OdooError Unit).exec fleet =
        (.ok (), later)) :
    (later router).2.tables.EnabledSecret sub ↔ EnableHeeded policy sub (fleet router) := by
  rw [if_pos hpppoe] at h
  obtain ⟨middle, hmiddle, hqueue⟩ := Method.exec_then_returns h
  obtain ⟨enabled, henabled, _, htables⟩ := @exceptRouteros_client_ignored policy router fleet _ _
    (routeros_pppoe_enable_exec sub (fleet router).2.tables)
  have henable : (routeros_pppoe_enable (policy.client router) sub).exec fleet = _ := henabled
  obtain ⟨_, rfl⟩ := Prod.mk.inj (henable.symm.trans hmiddle)
  have hqueueKey : EntryKey.secret sub.pppoe_username ≠ .queue sub.name := by simp
  have hkeeps := @routeros_queue_ensure_keeps _ _ (policy.client router) _ _ plan sub Policy.client_shows
    (fun _ => hqueueKey) (Function.update fleet router enabled)
  rw [hqueue, Function.update_self] at hkeeps
  rw [enabledSecret_congr hkeeps, htables, EnableHeeded]
  by_cases hpolicy : policy (fleet router).1 (.inl (.ppp_secret_set sub.pppoe_username none none false)) = none
  · rw [if_pos hpolicy, RouterTables.flagSecret_enabledSecret_iff, Option.isSome_iff_exists]
    simp only [hpolicy, true_or, and_true]
  · rw [if_neg hpolicy]
    simp only [RouterTables.EnabledSecret, hpolicy, false_or]

/-- Disabling a hotspot user, accepted or ignored. -/
theorem noEnabledUser_iff {username : String}
    (h : (exceptRouteros (Method.onDevice router (policy.cmd (.inr (.hotspot_user_set username none true))))
      (pure ())).exec fleet = (.ok (), later)) :
    (later router).2.hotspot.NoEnabledUser username ↔
      policy (fleet router).1 (.inr (.hotspot_user_set username none true)) = none ∨
        (fleet router).2.hotspot.NoEnabledUser username := by
  let disabled : HotspotTables := { (fleet router).2.hotspot with
    hotspot_users := (fleet router).2.hotspot.hotspot_users.adjust username fun user =>
      { user with disabled := true } }
  have hdisabled : disabled.NoEnabledUser username := by
    intro user hfind
    rw [KeyedTable.adjust_find_self] at hfind
    obtain ⟨_, _, rfl⟩ := Option.map_eq_some_iff.mp hfind
    rfl
  have htables : (exceptRouteros (HotspotTables.cmd (.hotspot_user_set username none true)) (pure ())).exec
      (fleet router).2.hotspot = (.ok (), disabled) := by
    rw [exceptRouteros_ignored_iff, HotspotTables.cmd, HotspotTables.apply, Method.exec_ofFun]
    simp only [Option.getD_none]
    obtain haccepted | ⟨hrejected, hsame⟩ := (fleet router).2.hotspot.hotspot_users.set_or_unchanged username
      fun user => { user with disabled := true }
    · rw [haccepted]
      exact Or.inl rfl
    · rw [hrejected]
      exact Or.inr ⟨"no such item", by simp only [disabled, hsame]⟩
  have hrouter : (exceptRouteros (Router.cmd (.inr (.hotspot_user_set username none true))) (pure ())).exec
      (fleet router).2 = (.ok (), { (fleet router).2 with hotspot := disabled }) := by
    rw [Router.cmd]
    exact exceptRouteros_focus_ignored htables
  obtain ⟨_, rfl⟩ := Prod.mk.inj ((exceptRouteros_fleet_ignored hrouter).symm.trans h)
  rw [Function.update_self]
  by_cases hpolicy : policy (fleet router).1 (.inr (.hotspot_user_set username none true)) = none
  · simp only [hpolicy, if_true, hdisabled, true_or]
  · simp only [hpolicy, if_false, false_or]

theorem walledGarden_iff {domain : String}
    (h : (exceptRouteros (Method.onDevice router (policy.cmd (.inr (.walled_garden_add domain))))
      (pure ())).exec fleet = (.ok (), later)) :
    domain ∈ (later router).2.hotspot.walled_garden ↔
      policy (fleet router).1 (.inr (.walled_garden_add domain)) = none ∨
        domain ∈ (fleet router).2.hotspot.walled_garden := by
  have hrouter : (exceptRouteros (Router.cmd (.inr (.walled_garden_add domain))) (pure ())).exec (fleet router).2 =
      (.ok (), { (fleet router).2 with
        hotspot := { (fleet router).2.hotspot with
          walled_garden := (fleet router).2.hotspot.walled_garden ++ [domain] } }) := rfl
  obtain ⟨_, rfl⟩ := Prod.mk.inj ((exceptRouteros_fleet_ignored hrouter).symm.trans h)
  rw [Function.update_self]
  by_cases hpolicy : policy (fleet router).1 (.inr (.walled_garden_add domain)) = none
  · simp [hpolicy]
  · simp [hpolicy]

end

/-- The jobs that are to take an entry out of use or to bring one into it. -/
def effectJobs : List JobType :=
  [.suspend_subscription, .reconnect_subscription, .terminate_subscription, .captive_user_disable,
    .walled_garden_apply]

/-- The router that a job is sent to. -/
def job_router (routers : Routers) (records : Records CaptivePortal) (id : Nat) (job : IspProvisioningJob) :
    Except OdooError Nat :=
  match job.job_type with
  | .captive_user_create | .captive_user_disable => do
    let user_id ← required (records.extension.payload id).captive_user_id "captive_user_id missing in payload."
    let user ← browse records.extension.users user_id
    get_router_for_captive routers user.router_id user.sector_id
  | .walled_garden_apply => do
    let wg_id ← required (records.extension.payload id).walled_garden_id "walled_garden_id missing in payload."
    let wg ← browse records.extension.walled_gardens wg_id
    get_router_for_captive routers wg.router_id wg.sector_id
  | _ =>
    match job.subscription_id with
    | some sub => get_router routers.network job (records.subscriptions.row sub)
    | none => .error (.user "Subscription is required.")

/-- What a job is for, on its router. -/
def Effect (records : Records CaptivePortal) (id : Nat) (job : IspProvisioningJob) (router : Router) : Prop :=
  match job.job_type with
  | .suspend_subscription | .terminate_subscription =>
    ∀ sub ∈ job.subscription_id, RouterCutOff (records.subscriptions.row sub) router.tables
  | .reconnect_subscription =>
    ∀ sub ∈ job.subscription_id,
      (records.plans (records.subscriptions.row sub).plan_id).service_type = .pppoe →
        router.tables.EnabledSecret (records.subscriptions.row sub)
  | .captive_user_disable =>
    ∀ user_id ∈ (records.extension.payload id).captive_user_id,
      router.hotspot.NoEnabledUser (records.extension.users.row user_id).username
  | .walled_garden_apply =>
    ∀ wg_id ∈ (records.extension.payload id).walled_garden_id,
      (records.extension.walled_gardens.row wg_id).domain ∈ router.hotspot.walled_garden
  | _ => True

/-- Each command that the effect needs is sent and not rejected, or what it is to
bring about was there before. -/
def Heeded (policy : Policy) (records : Records CaptivePortal) (id : Nat) (job : IspProvisioningJob)
    (connection : Connection) : Prop :=
  match job.job_type with
  | .suspend_subscription =>
    ∀ sub ∈ job.subscription_id,
      let sub := records.subscriptions.row sub
      CutOffHeeded policy (records.plans sub.plan_id) sub (.simple_queue_set sub.name none true) connection
  | .terminate_subscription =>
    ∀ sub ∈ job.subscription_id,
      let sub := records.subscriptions.row sub
      CutOffHeeded policy (records.plans sub.plan_id) sub (.simple_queue_remove sub.name) connection
  | .reconnect_subscription =>
    ∀ sub ∈ job.subscription_id,
      (records.plans (records.subscriptions.row sub).plan_id).service_type = .pppoe →
        EnableHeeded policy (records.subscriptions.row sub) connection
  | .captive_user_disable =>
    ∀ user_id ∈ (records.extension.payload id).captive_user_id,
      let username := (records.extension.users.row user_id).username
      policy connection.1 (.inr (.hotspot_user_set username none true)) = none ∨
        connection.2.hotspot.NoEnabledUser username
  | .walled_garden_apply =>
    ∀ wg_id ∈ (records.extension.payload id).walled_garden_id,
      let domain := (records.extension.walled_gardens.row wg_id).domain
      policy connection.1 (.inr (.walled_garden_add domain)) = none ∨ domain ∈ connection.2.hotspot.walled_garden
  | _ => True

section

variable {site : Site} {records after : Records CaptivePortal} {id : Nat} {job : IspProvisioningJob}
  {fleet later : Fleet}

theorem connection_eq_ok {sub : IspSubscription} {client : Client Fleet}
    (h : site.surroundings.connection job sub = .ok client) :
    ∃ router, get_router site.routers.network job sub = .ok router ∧
      client = (site.routers.policy router).client router := by
  rw [Surroundings.connection] at h
  cases hrouter : get_router site.surroundings.network job sub with
  | error exception =>
    rw [hrouter] at h
    cases h
  | ok router =>
    rw [hrouter] at h
    refine ⟨router, hrouter, ?_⟩
    cases hclient : site.routers.get_routeros_client router with
    | error exception =>
      simp only [Except.bind, Site.surroundings, Routers.network, hclient] at h
      cases h
    | ok full =>
      simp only [Except.bind, Site.surroundings, Routers.network, hclient] at h
      cases h
      rw [Routers.get_routeros_client_eq_ok hclient]
      rfl

/-- A handled job that switches the service of a subscription has sent its commands to
the router of it. -/
theorem handle_subscription_switched
    {secret : Client Fleet → IspSubscription → Method Fleet OdooError Unit}
    {queue : IspServicePlan → Client Fleet → IspSubscription → Method Fleet OdooError Unit}
    {state : SubscriptionState}
    (hswitch : ∀ plan today token_hex connection,
      subscription_handler plan today token_hex connection job.job_type =
        some (Handler.switch plan connection secret (queue plan) state))
    (h : (handle_subscription site.surroundings job).exec (records, fleet) = (.ok (), after, later)) :
    ∃ sub router, job.subscription_id = some sub ∧
      get_router site.routers.network job (records.subscriptions.row sub) = .ok router ∧
      (do
        if (records.plans (records.subscriptions.row sub).plan_id).service_type = .pppoe then
          secret ((site.routers.policy router).client router) (records.subscriptions.row sub)
        queue (records.plans (records.subscriptions.row sub).plan_id) ((site.routers.policy router).client router)
          (records.subscriptions.row sub) : Method Fleet OdooError Unit).exec fleet = (.ok (), later) := by
  obtain ⟨sub, hsub, hhandled⟩ := handle_subscription_handled h
  obtain ⟨client, hconnection, _, hsent⟩ := Handler.switch_returns (hhandled _ (hswitch _ _ _ _))
  obtain ⟨router, hrouter, rfl⟩ := connection_eq_ok hconnection
  exact ⟨sub, router, hsub, hrouter, hsent⟩

/-- A handled job has had its effect exactly if it was heeded by its router. The handler
returns where the router rejects a command that it goes on after, so that its return says
less. -/
theorem dispatch_effect_iff (hjob : job.job_type ∈ effectJobs)
    (h : (dispatch site id job).exec (records, fleet) = (.ok (), after, later)) :
    ∃ router, job_router site.routers records id job = .ok router ∧
      (Effect records id job (later router).2 ↔
        Heeded (site.routers.policy router) records id job (fleet router)) := by
  cases htype : job.job_type with
  | suspend_subscription =>
    simp only [dispatch, isp_mikrotik.dispatch, htype] at h
    obtain ⟨sub, router, hsub, hrouter, hsent⟩ :=
      handle_subscription_switched (fun _ _ _ _ => by rw [htype]; rfl) h
    refine ⟨router, ?_, ?_⟩
    · simp only [job_router, htype, hsub, hrouter]
    · simp only [Effect, Heeded, htype, hsub, Option.mem_some_iff, forall_eq']
      exact cutOff_iff (routeros_queue_disable_exec _) (fun _ => rfl)
        (fun _ => RouterTables.disableQueue_noEnabledQueue) hsent
  | terminate_subscription =>
    simp only [dispatch, isp_mikrotik.dispatch, htype] at h
    obtain ⟨sub, router, hsub, hrouter, hsent⟩ :=
      handle_subscription_switched (fun _ _ _ _ => by rw [htype]; rfl) h
    refine ⟨router, ?_, ?_⟩
    · simp only [job_router, htype, hsub, hrouter]
    · simp only [Effect, Heeded, htype, hsub, Option.mem_some_iff, forall_eq']
      exact cutOff_iff (routeros_queue_remove_exec _) (fun _ => rfl)
        (fun _ => RouterTables.removeQueue_noEnabledQueue) hsent
  | reconnect_subscription =>
    simp only [dispatch, isp_mikrotik.dispatch, htype] at h
    obtain ⟨sub, router, hsub, hrouter, hsent⟩ :=
      handle_subscription_switched (fun _ _ _ _ => by rw [htype]; rfl) h
    refine ⟨router, ?_, ?_⟩
    · simp only [job_router, htype, hsub, hrouter]
    · simp only [Effect, Heeded, htype, hsub, Option.mem_some_iff, forall_eq']
      constructor
      · exact fun heffect hpppoe => (enableHeeded_iff hpppoe hsent).mp (heffect hpppoe)
      · exact fun hheeded hpppoe => (enableHeeded_iff hpppoe hsent).mpr (hheeded hpppoe)
  | captive_user_disable =>
    simp only [dispatch, htype] at h
    obtain ⟨user_id, user, router, hpayload, hbrowse, hrouter, hsent⟩ := handle_captive_user_disable_returns h
    have hrow := browse_eq_ok hbrowse
    refine ⟨router, ?_, ?_⟩
    · simp only [job_router, htype, required_eq_ok_iff.mpr hpayload, bind, Except.bind, hbrowse, hrouter]
    · simp only [Effect, Heeded, htype, hpayload, Option.mem_some_iff, forall_eq', hrow]
      exact noEnabledUser_iff hsent
  | walled_garden_apply =>
    simp only [dispatch, htype] at h
    obtain ⟨wg_id, wg, router, hpayload, hbrowse, hrouter, hsent⟩ := handle_walled_garden_apply_returns h
    have hrow := browse_eq_ok hbrowse
    refine ⟨router, ?_, ?_⟩
    · simp only [job_router, htype, required_eq_ok_iff.mpr hpayload, bind, Except.bind, hbrowse, hrouter]
    · simp only [Effect, Heeded, htype, hpayload, Option.mem_some_iff, forall_eq', hrow]
      exact walledGarden_iff hsent
  | _ => simp [effectJobs, htype] at hjob

end

/-- Whenever one of these jobs ends in success, it has had its effect on the
router it was sent to if and only if the router heeded the commands it was sent
for that, or the effect was there before. -/
theorem success_means_done_iff (site : Site) {now id : Nat} {world after : World (Records CaptivePortal) Fleet}
    {result : Except OdooError Unit} (hjob : (world.jobs.row id).job_type ∈ effectJobs)
    (hrunnable : (world.jobs.row id).Runnable)
    (hexec : (IspProvisioningJob.execute (dispatch site) now id).exec world = (result, after))
    (hsuccess : (after.jobs.row id).state = .success) :
    ∃ router, job_router site.routers world.records id (world.jobs.row id) = .ok router ∧
      (Effect world.records id (world.jobs.row id) (after.outside router).2 ↔
        Heeded (site.routers.policy router) world.records id (world.jobs.row id) (world.outside router)) := by
  have hhandled := IspProvisioningJob.handled_of_success hrunnable hexec hsuccess
  exact @dispatch_effect_iff site world.records after.records id ((world.jobs.row id).started now) world.outside
    after.outside hjob hhandled

/-- A site where every sector has router 0. -/
def oneRouter (policy : Policy) : Site where
  routers := {
    router_of_device := fun _ => none
    router_of_sector := fun _ => some 0
    connect := fun _ => .ok ()
    policy := fun _ => policy }
  today := firstDay
  token_hex := ""
  handle_mikrotik_healthcheck := fun _ => pure ()

def activeCustomer : IspSubscription where
  toSubscriptionValues := { fiberCustomer.toSubscriptionValues with state := .active }
  checked := rfl

/-- A provisioned customer whose suspension is queued. -/
def suspending : World (Records CaptivePortal) Fleet where
  jobs := (Store.empty { job_type := .suspend_subscription, requested_at := 0 }).create
    { job_type := .suspend_subscription, subscription_id := some 0, requested_at := 0 }
  records := {
    subscriptions := (Store.empty activeCustomer).create activeCustomer
    plans := twoServices
    plan_change_requests := Store.empty { subscription_id := 0, requested_plan_id := 0 }
    extension := {
      users := Store.empty { username := "" }
      walled_gardens := Store.empty { domain := "" }
      sector_code := fun _ => ""
      payload := fun _ => {} } }
  outside := fun _ => ([], ⟨RouterTables.empty.ensureSecret (twoServices 1) activeCustomer, HotspotTables.empty⟩)

def afterSuspension (policy : Policy) : World (Records CaptivePortal) Fleet :=
  ((IspProvisioningJob.execute (dispatch (oneRouter policy)) 0 0).exec suspending).2

theorem success_means_done_iff_heeded :
    ((afterSuspension fun _ _ => none).jobs.row 0).state = .success ∧
      RouterCutOff activeCustomer ((afterSuspension fun _ _ => none).outside 0).2.tables := by
  have hsuccess : ((afterSuspension fun _ _ => none).jobs.row 0).state = .success := rfl
  obtain ⟨router, hrouter, hiff⟩ := @success_means_done_iff (oneRouter fun _ _ => none) 0 0 suspending
    (afterSuspension fun _ _ => none) (.ok ()) (by simp [effectJobs, suspending, Store.create, Store.empty])
    (by decide) rfl hsuccess
  cases hrouter
  refine ⟨hsuccess, hiff.mpr ?_ 0 rfl⟩
  intro sub hsub
  cases hsub
  exact ⟨Or.inl ⟨rfl, rfl⟩, Or.inl rfl⟩

/-- A router that rejects every command keeps the secret of a suspended customer
enabled, and the job is closed in success. -/
theorem rejected_suspension_succeeds :
    (suspending.jobs.row 0).job_type = .suspend_subscription ∧ (suspending.jobs.row 0).Runnable ∧
      ∃ after : World (Records CaptivePortal) Fleet,
        (IspProvisioningJob.execute (dispatch (oneRouter fun _ _ => some "failure")) 0 0).exec suspending =
          (.ok (), after) ∧
        (after.jobs.row 0).state = .success ∧ (after.subscription 0).state = .suspended ∧
        job_router (oneRouter fun _ _ => some "failure").routers suspending.records 0 (suspending.jobs.row 0) =
          .ok 0 ∧
        ¬ Effect suspending.records 0 (suspending.jobs.row 0) (after.outside 0).2 := by
  refine ⟨rfl, by decide, afterSuspension fun _ _ => some "failure", rfl, rfl, rfl, rfl, fun heffect => ?_⟩
  have hcutOff := heffect 0 rfl
  have hdisabled := hcutOff.1 _ rfl
  cases hdisabled

end getupnet.isp_captive_portal

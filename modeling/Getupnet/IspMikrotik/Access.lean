import Getupnet.IspCore.PlanChangeRequest
import Getupnet.IspMikrotik.ProvisioningJob
import Getupnet.Relational.Runs

open relational
open calendar
open getupnet.isp_core

namespace getupnet.isp_mikrotik

/-- A subscription and the router that serves it. -/
abbrev Provisioned : Type := IspSubscription × RouterTables

/-- The jobs that a subscription's buttons and scheduled passes queue. -/
def lifecycleJobs : List JobType :=
  [.activate_subscription, .suspend_subscription, .reconnect_subscription, .terminate_subscription, .change_plan]

inductive ServiceEvent where
  | job (job_type : JobType) (today : Date) (token_hex : String)
  | apply_plan (requested_plan_id : Nat) (token_hex : String)

/-- A job whose handler returns, or an applied plan change. -/
inductive ServiceStep (plans : Nat → IspServicePlan) : Provisioned → ServiceEvent → Provisioned → Prop where
  | job {before after : Provisioned} {job_type : JobType} {today : Date} {token_hex : String}
      {handler : Handler RouterTables Unit} (hlifecycle : job_type ∈ lifecycleJobs)
      (hhandler : subscription_handler (plans before.1.plan_id) today token_hex (.ok RouterTables.cmd) job_type =
        some handler)
      (hreturns : handler.exec before = (.ok (), after)) :
      ServiceStep plans before (.job job_type today token_hex) after
  | apply_plan {before : Provisioned} {sub : IspSubscription} {requested_plan_id : Nat} {token_hex : String}
      (happly : before.1.apply_plan plans requested_plan_id token_hex = .ok sub) :
      ServiceStep plans before (.apply_plan requested_plan_id token_hex) (sub, before.2)

def RouterTables.NoEnabledSecret (sub : IspSubscription) (self : RouterTables) : Prop :=
  ∀ secret, self.ppp_secrets.find sub.pppoe_username = some secret → secret.disabled = true

def RouterTables.NoEnabledLease (sub : IspSubscription) (self : RouterTables) : Prop :=
  ∀ lease, self.dhcp_leases.find sub.service_ip = some lease → lease.disabled = true

def RouterTables.NoEnabledQueue (sub : IspSubscription) (self : RouterTables) : Prop :=
  ∀ queue, self.simple_queues.find sub.name = some queue → queue.disabled = true

def RouterTables.EnabledSecret (sub : IspSubscription) (self : RouterTables) : Prop :=
  ∃ secret, self.ppp_secrets.find sub.pppoe_username = some secret ∧ secret.disabled = false

def Stopped (sub : IspSubscription) : Prop := sub.state = .suspended ∨ sub.state = .terminated

/-- A stopped customer has no way into the network. -/
def Blocked (state : Provisioned) : Prop :=
  Stopped state.1 → state.2.NoEnabledSecret state.1 ∧ state.2.NoEnabledLease state.1

/-- A job that stops the service finds no enabled lease, and no enabled secret
unless the plan is a PPPoE plan; a plan change job does not run for a stopped
customer on a PPPoE plan. -/
def LeavesBlocked (plans : Nat → IspServicePlan) (state : Provisioned) : ServiceEvent → Prop
  | .job .suspend_subscription _ _ | .job .terminate_subscription _ _ =>
    state.2.NoEnabledLease state.1 ∧
      ((plans state.1.plan_id).service_type ≠ .pppoe → state.2.NoEnabledSecret state.1)
  | .job .change_plan _ _ =>
    Stopped state.1 → (plans state.1.plan_id).service_type ≠ .pppoe
  | _ => True

section

variable {plan : IspServicePlan} {sub : IspSubscription} {tables : RouterTables}

@[simp] theorem RouterTables.ensureQueue_ppp_secrets :
    (tables.ensureQueue plan sub).ppp_secrets = tables.ppp_secrets := by
  unfold RouterTables.ensureQueue
  split <;> rfl

@[simp] theorem RouterTables.ensureQueue_dhcp_leases :
    (tables.ensureQueue plan sub).dhcp_leases = tables.dhcp_leases := by
  unfold RouterTables.ensureQueue
  split <;> rfl

/-- Disabling a secret blocks it whether or not there is one. -/
theorem RouterTables.flagSecret_noEnabledSecret : (tables.flagSecret true sub).NoEnabledSecret sub := by
  intro secret hfind
  rw [RouterTables.flagSecret, KeyedTable.adjust_find_self] at hfind
  obtain ⟨_, _, rfl⟩ := Option.map_eq_some_iff.mp hfind
  rfl

/-- Disabling a queue blocks it whether or not there is one. -/
theorem RouterTables.disableQueue_noEnabledQueue : (tables.disableQueue sub).NoEnabledQueue sub := by
  intro queue hfind
  rw [RouterTables.disableQueue, KeyedTable.adjust_find_self] at hfind
  obtain ⟨_, _, rfl⟩ := Option.map_eq_some_iff.mp hfind
  rfl

theorem RouterTables.removeQueue_noEnabledQueue : (tables.removeQueue sub).NoEnabledQueue sub := by
  intro queue hfind
  rw [RouterTables.removeQueue, KeyedTable.discard, KeyedTable.update_find_self] at hfind
  cases hfind

/-- Clearing the flag enables a secret that is there, and adds none. -/
theorem RouterTables.flagSecret_enabledSecret_iff :
    (tables.flagSecret false sub).EnabledSecret sub ↔
    (tables.ppp_secrets.find sub.pppoe_username).isSome = true := by
  rw [RouterTables.EnabledSecret, RouterTables.flagSecret, KeyedTable.adjust_find_self]
  cases tables.ppp_secrets.find sub.pppoe_username <;> simp

/-- Ensuring a secret enables it, whatever it was before. -/
theorem RouterTables.ensureSecret_enabled : ¬ (tables.ensureSecret plan sub).NoEnabledSecret sub := by
  intro h
  have hdisabled := h _ (KeyedTable.ensure_find_self _ _ _ _)
  cases hfind : tables.ppp_secrets.find sub.pppoe_username <;> rw [hfind] at hdisabled <;> cases hdisabled

/-- The secret helper runs for PPPoE plans only, the queue helper for all. -/
theorem switch_exec {secret queue : Client RouterTables → IspSubscription → Method RouterTables OdooError Unit}
    {onSecret onQueue : RouterTables → RouterTables} {result : RouterTables}
    (hsecret : ∀ before, (secret RouterTables.cmd sub).exec before = (.ok (), onSecret before))
    (hqueue : ∀ before, (queue RouterTables.cmd sub).exec before = (.ok (), onQueue before))
    (h : (do
      if plan.service_type = .pppoe then secret RouterTables.cmd sub
      queue RouterTables.cmd sub : Method RouterTables OdooError Unit).exec tables = (.ok (), result)) :
    result = onQueue (if plan.service_type = .pppoe then onSecret tables else tables) := by
  by_cases hpppoe : plan.service_type = .pppoe
  · rw [if_pos hpppoe, Method.exec_bind, hsecret] at h
    rw [if_pos hpppoe]
    exact (congrArg Prod.snd ((hqueue _).symm.trans h)).symm
  · rw [if_neg hpppoe] at h ⊢
    exact (congrArg Prod.snd ((hqueue _).symm.trans h)).symm

theorem handle_suspend_subscription_tables {after : Provisioned}
    (h : (handle_suspend_subscription plan (.ok RouterTables.cmd)).exec (sub, tables) = (.ok (), after)) :
    after.1.toSubscriptionValues = { sub.toSubscriptionValues with state := .suspended } ∧
      after.2 = (if plan.service_type = .pppoe then tables.flagSecret true sub else tables).disableQueue sub := by
  obtain ⟨client, hclient, hvalues, hsent⟩ := Handler.switch_returns h
  cases hclient
  exact ⟨hvalues, switch_exec (routeros_pppoe_disable_exec sub) (routeros_queue_disable_exec sub) hsent⟩

theorem handle_terminate_subscription_tables {after : Provisioned}
    (h : (handle_terminate_subscription plan (.ok RouterTables.cmd)).exec (sub, tables) = (.ok (), after)) :
    after.1.toSubscriptionValues = { sub.toSubscriptionValues with state := .terminated } ∧
      after.2 = (if plan.service_type = .pppoe then tables.flagSecret true sub else tables).removeQueue sub := by
  obtain ⟨client, hclient, hvalues, hsent⟩ := Handler.switch_returns h
  cases hclient
  exact ⟨hvalues, switch_exec (routeros_pppoe_disable_exec sub) (routeros_queue_remove_exec sub) hsent⟩

theorem handle_change_plan_tables {after : Provisioned}
    (h : (handle_change_plan plan (.ok RouterTables.cmd)).exec (sub, tables) = (.ok (), after)) :
    after.1 = sub ∧
      after.2 =
        (if plan.service_type = .pppoe then tables.ensureSecret plan sub else tables).ensureQueue plan sub := by
  obtain ⟨client, hclient, hsub, hsent⟩ := handle_change_plan_returns h
  cases hclient
  exact ⟨hsub, @switch_exec plan sub tables (fun client => routeros_pppoe_ensure_secret client plan)
    (fun client => routeros_queue_ensure client plan) _ _ _ (routeros_pppoe_ensure_secret_exec plan sub)
    (routeros_queue_ensure_exec plan sub) hsent⟩

/-- After a job that stops the service, the customer is blocked exactly if no
lease was enabled before and the secret was disabled or not enabled either. -/
theorem blocked_stop_iff {after : Provisioned} {state : SubscriptionState}
    (hstate : state = .suspended ∨ state = .terminated)
    (hvalues : after.1.toSubscriptionValues = { sub.toSubscriptionValues with state })
    (hsecrets : after.2.ppp_secrets =
      (if plan.service_type = .pppoe then tables.flagSecret true sub else tables).ppp_secrets)
    (hleases : after.2.dhcp_leases = tables.dhcp_leases) :
    Blocked after ↔
      tables.NoEnabledLease sub ∧ (plan.service_type ≠ .pppoe → tables.NoEnabledSecret sub) := by
  simp only [Blocked, Stopped, RouterTables.NoEnabledSecret, RouterTables.NoEnabledLease,
    hvalues, hsecrets, hleases]
  constructor
  · intro hblocked
    obtain ⟨hsecret, hlease⟩ := hblocked hstate
    refine ⟨hlease, fun hpppoe => ?_⟩
    rw [if_neg hpppoe] at hsecret
    exact hsecret
  · intro hcondition _
    refine ⟨?_, hcondition.1⟩
    by_cases hpppoe : plan.service_type = .pppoe
    · rw [if_pos hpppoe]
      exact RouterTables.flagSecret_noEnabledSecret
    · rw [if_neg hpppoe]
      exact hcondition.2 hpppoe

theorem ite_flagSecret_dhcp_leases {disabled : Bool} :
    (if plan.service_type = .pppoe then tables.flagSecret disabled sub else tables).dhcp_leases =
      tables.dhcp_leases := by
  split <;> rfl

/-- A plan change job leaves a blocked customer blocked unless it ensures the
secret of one that is stopped. -/
theorem blocked_change_plan_iff {after : Provisioned} (hblocked : Blocked (sub, tables))
    (h : (handle_change_plan plan (.ok RouterTables.cmd)).exec (sub, tables) = (.ok (), after)) :
    Blocked after ↔ (Stopped sub → plan.service_type ≠ .pppoe) := by
  obtain ⟨hsub, htables⟩ := handle_change_plan_tables h
  obtain ⟨after, router⟩ := after
  simp only at hsub htables
  subst hsub htables
  constructor
  · intro hafter hstopped hpppoe
    have hsecret := (hafter hstopped).1
    rw [if_pos hpppoe] at hsecret
    apply @RouterTables.ensureSecret_enabled plan after tables
    simpa only [RouterTables.NoEnabledSecret, RouterTables.ensureQueue_ppp_secrets] using hsecret
  · intro hcondition hstopped
    rw [if_neg (hcondition hstopped)]
    simpa only [RouterTables.NoEnabledSecret, RouterTables.NoEnabledLease, RouterTables.ensureQueue_ppp_secrets,
      RouterTables.ensureQueue_dhcp_leases] using hblocked hstopped

end

/-- One step from a blocked state leads to a blocked state exactly when it meets the
condition. From a state that is not blocked this would not hold, as a step may also block.
-/
theorem blocked_step_iff {plans : Nat → IspServicePlan} {before after : Provisioned} {event : ServiceEvent}
    (hblocked : Blocked before) (hstep : ServiceStep plans before event after) :
    Blocked after ↔ LeavesBlocked plans before event := by
  obtain ⟨sub, tables⟩ := before
  cases hstep with
  | @job _ job_type today token_hex handler hlifecycle hhandler hreturns =>
    have hactive : ∀ values : SubscriptionValues, after.1.toSubscriptionValues = values → values.state = .active →
        Blocked after := by
      intro values hvalues hstate hstopped
      rw [Stopped, hvalues, hstate] at hstopped
      rcases hstopped with hsuspended | hterminated
      · cases hsuspended
      · cases hterminated
    cases job_type with
    | activate_subscription =>
      cases hhandler
      obtain ⟨_, _, hvalues, _⟩ := handle_activate_subscription_returns hreturns
      exact iff_of_true (hactive _ hvalues rfl) trivial
    | reconnect_subscription =>
      cases hhandler
      obtain ⟨_, _, hvalues, _⟩ := Handler.switch_returns hreturns
      exact iff_of_true (hactive _ hvalues rfl) trivial
    | suspend_subscription =>
      cases hhandler
      obtain ⟨hvalues, htables⟩ := handle_suspend_subscription_tables hreturns
      apply blocked_stop_iff (Or.inl rfl) hvalues
      · rw [htables]
        rfl
      · rw [htables]
        exact ite_flagSecret_dhcp_leases
    | terminate_subscription =>
      cases hhandler
      obtain ⟨hvalues, htables⟩ := handle_terminate_subscription_tables hreturns
      apply blocked_stop_iff (Or.inr rfl) hvalues
      · rw [htables]
        rfl
      · rw [htables]
        exact ite_flagSecret_dhcp_leases
    | change_plan =>
      cases hhandler
      exact blocked_change_plan_iff hblocked hreturns
    | _ => simp [lifecycleJobs] at hlifecycle
  | @apply_plan moved requested_plan_id token_hex happly =>
    rw [IspSubscription.apply_plan_eq] at happly
    cases happly
    exact iff_of_true hblocked trivial

/-- From a router without entries for it, a subscription is blocked whenever it
is suspended or terminated, if and only if no job of the run stops it while it
still has an entry that the job does not disable, and no plan change job
enables its secret again. -/
theorem blocked_iff_leaves_blocked (plans : Nat → IspServicePlan) {sub : IspSubscription} {tables : RouterTables}
    (hsecret : tables.ppp_secrets.find sub.pppoe_username = none)
    (hlease : tables.dhcp_leases.find sub.service_ip = none) {taken : List (Provisioned × ServiceEvent)}
    {reached : Provisioned} (run : Run (ServiceStep plans) (sub, tables) taken reached) :
    (∀ state ∈ Run.visited taken reached, Blocked state) ↔
      ∀ entry ∈ taken, LeavesBlocked plans entry.1 entry.2 := by
  have hinitial : Blocked (sub, tables) := by
    intro _
    refine ⟨fun secret hfind => ?_, fun lease hfind => ?_⟩
    · cases hsecret.symm.trans hfind
    · cases hlease.symm.trans hfind
  exact @Run.property_iff_condition _ _ (ServiceStep plans) (sub, tables) Blocked Blocked (LeavesBlocked plans)
    hinitial (fun _ hblocked => hblocked)
    (fun _ _ _ hblocked hcondition hstep => (blocked_step_iff hblocked hstep).mpr hcondition)
    (fun _ _ _ hblocked hnot hstep hafter => hnot ((blocked_step_iff hblocked hstep).mp hafter))
    taken reached run

/-- Plan 0 is a DHCP plan, every other one a PPPoE plan. -/
def twoServices (id : Nat) : IspServicePlan :=
  if id = 0 then { name := "Basic", service_type := .dhcp } else { name := "Fiber", service_type := .pppoe }

def leasedCustomer : IspSubscription where
  name := "SUB0001"
  partner_id := 0
  plan_id := 0
  sector_id := 0
  gps_lat := 18
  gps_lng := 69
  service_ip := some "10.0.0.2"
  service_mac := some "AA:BB:CC:00:00:01"
  checked := rfl

theorem firstDay_isDay : IsDay 2026 1 1 := by decide

def firstDay : Date := .of firstDay_isDay

/-- What a returning job on a router of tables leaves. -/
def afterJob (job_type : JobType) (state : Provisioned) : Provisioned :=
  match subscription_handler (twoServices state.1.plan_id) firstDay "" (.ok RouterTables.cmd) job_type with
  | some handler => (handler.exec state).2
  | none => state

def fiberCustomer : IspSubscription where
  name := "SUB0002"
  partner_id := 0
  plan_id := 1
  sector_id := 0
  gps_lat := 18
  gps_lng := 69
  auth_method := .pppoe
  pppoe_username := some "SUB0002"
  pppoe_password := some "c0ffee"
  checked := rfl

theorem blocked_iff_leaves_blocked_suspension :
    ∃ taken reached, Run (ServiceStep twoServices) (fiberCustomer, RouterTables.empty) taken reached ∧
      reached.1.state = .suspended ∧ ∀ state ∈ Run.visited taken reached, Blocked state := by
  let activated := afterJob .activate_subscription (fiberCustomer, RouterTables.empty)
  let suspended := afterJob .suspend_subscription activated
  have hactivate : ServiceStep twoServices (fiberCustomer, RouterTables.empty)
      (.job .activate_subscription firstDay "") activated := .job (by decide) rfl rfl
  have hsuspend : ServiceStep twoServices activated (.job .suspend_subscription firstDay "") suspended :=
    .job (by decide) rfl rfl
  have run := Run.step (Run.step Run.start hactivate) hsuspend
  refine ⟨_, suspended, run, rfl, (blocked_iff_leaves_blocked twoServices rfl rfl run).mpr ?_⟩
  intro entry hentry
  rcases List.mem_cons.mp hentry with rfl | hrest
  · exact trivial
  · rw [List.mem_singleton.mp hrest]
    refine ⟨fun lease hfind => ?_, fun hservice => absurd rfl hservice⟩
    cases hfind

/-- Activation adds an enabled lease for a customer with an address on a DHCP
plan, and suspension leaves it enabled. -/
theorem suspended_customer_keeps_lease :
    RouterTables.empty.ppp_secrets.find leasedCustomer.pppoe_username = none ∧
      RouterTables.empty.dhcp_leases.find leasedCustomer.service_ip = none ∧
      ∃ taken reached, Run (ServiceStep twoServices) (leasedCustomer, RouterTables.empty) taken reached ∧
        ¬ ∀ state ∈ Run.visited taken reached, Blocked state := by
  let activated := afterJob .activate_subscription (leasedCustomer, RouterTables.empty)
  let suspended := afterJob .suspend_subscription activated
  have hactivate : ServiceStep twoServices (leasedCustomer, RouterTables.empty)
      (.job .activate_subscription firstDay "") activated := .job (by decide) rfl rfl
  have hsuspend : ServiceStep twoServices activated (.job .suspend_subscription firstDay "") suspended :=
    .job (by decide) rfl rfl
  refine ⟨rfl, rfl, _, suspended, .step (.step .start hactivate) hsuspend, fun hall => ?_⟩
  have hblocked := hall suspended (Run.reached_mem_visited _ _)
  have hdisabled := (hblocked (Or.inl rfl)).2 _ rfl
  cases hdisabled

end getupnet.isp_mikrotik

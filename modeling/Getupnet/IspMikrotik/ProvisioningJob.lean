import Getupnet.IspCore.Subscription
import Getupnet.IspCore.ProvisioningJob
import Getupnet.IspMikrotik.RouterOS

open relational
open calendar
open getupnet.isp_core

namespace getupnet.isp_mikrotik

variable {ρ : Type}

def routeros_pppoe_ensure_secret (client : Client ρ) (plan : IspServicePlan) (subscription : IspSubscription) :
    Method ρ OdooError Unit :=
  let profile := textOr plan.mikrotik_profile "default"
  exceptRouteros
    (client (.ppp_secret_add subscription.pppoe_username subscription.pppoe_password profile "pppoe"))
    (client (.ppp_secret_set subscription.pppoe_username (some subscription.pppoe_password) (some profile) false))

def routeros_pppoe_disable (client : Client ρ) (subscription : IspSubscription) : Method ρ OdooError Unit :=
  exceptRouteros (client (.ppp_secret_set subscription.pppoe_username none none true)) (pure ())

def routeros_pppoe_enable (client : Client ρ) (subscription : IspSubscription) : Method ρ OdooError Unit :=
  exceptRouteros (client (.ppp_secret_set subscription.pppoe_username none none false)) (pure ())

def routeros_dhcp_ensure_lease (client : Client ρ) (subscription : IspSubscription) :
    Method ρ OdooError Unit :=
  if truthy subscription.service_ip = false ∨ truthy subscription.service_mac = false then pure ()
  else
    exceptRouteros
      (client (.dhcp_lease_add subscription.service_ip subscription.service_mac subscription.name))
      (client (.dhcp_lease_set subscription.service_ip subscription.name false))

def routeros_queue_ensure (client : Client ρ) (plan : IspServicePlan) (subscription : IspSubscription) :
    Method ρ OdooError Unit :=
  if truthy subscription.service_ip = false then pure ()
  else
    let max_limit : MaxLimit := ⟨plan.down_mbps, plan.up_mbps⟩
    exceptRouteros
      (client (.simple_queue_add subscription.name (subscription.service_ip.getD "" ++ "/32") max_limit
        subscription.name))
      (client (.simple_queue_set subscription.name (some max_limit) false))

def routeros_queue_disable (client : Client ρ) (subscription : IspSubscription) : Method ρ OdooError Unit :=
  exceptRouteros (client (.simple_queue_set subscription.name none true)) (pure ())

def routeros_queue_remove (client : Client ρ) (subscription : IspSubscription) : Method ρ OdooError Unit :=
  exceptRouteros (client (.simple_queue_remove subscription.name)) (pure ())

/-- A handler once its subscription is known: it reads and writes the record
and acts on a router. -/
abbrev Handler (ρ α : Type) : Type := Method (IspSubscription × ρ) OdooError α

/-- Commands about the subscription as it stands. -/
def Handler.commands (send : IspSubscription → Method ρ OdooError Unit) : Handler ρ Unit :=
  Method.ofFun fun state => (((send state.1).exec state.2).1, state.1, ((send state.1).exec state.2).2)

/-- A write to the subscription, which its checks may refuse. -/
def Handler.write (change : SubscriptionValues → SubscriptionValues) : Handler ρ Unit :=
  Method.ofFun fun state =>
    match state.1.write change with
    | .ok sub => (.ok (), sub, state.2)
    | .error exception => (.error exception, state)

def Handler.ensure_pppoe_credentials (plan : IspServicePlan) (token_hex : String) : Handler ρ Unit :=
  Method.ofFun fun state =>
    match state.1.ensure_pppoe_credentials plan token_hex with
    | .ok sub => (.ok (), sub, state.2)
    | .error exception => (.error exception, state)

/-- A handler that finds its router, sends commands for the secret of a PPPoE
plan and for the queue, and stores a state. -/
def Handler.switch (plan : IspServicePlan) (connection : Except OdooError (Client ρ))
    (secret queue : Client ρ → IspSubscription → Method ρ OdooError Unit) (state : SubscriptionState) :
    Handler ρ Unit := do
  let client ← Method.ofExcept connection
  Handler.commands fun sub => do
    if plan.service_type = .pppoe then secret client sub
    queue client sub
  Handler.write fun values => { values with state }

/-- `connection` is the outcome of `_get_router` and `get_routeros_client`. -/
def handle_activate_subscription (plan : IspServicePlan) (today : Date) (token_hex : String)
    (connection : Except OdooError (Client ρ)) : Handler ρ Unit := do
  Handler.ensure_pppoe_credentials plan token_hex
  let client ← Method.ofExcept connection
  Handler.commands fun sub => do
    match plan.service_type with
    | .pppoe => routeros_pppoe_ensure_secret client plan sub
    | .dhcp => routeros_dhcp_ensure_lease client sub
    | .hotspot => pure ()
    routeros_queue_ensure client plan sub
  Handler.write fun values =>
    { values with state := .active, start_date := some (values.start_date.getD today) }

def handle_suspend_subscription (plan : IspServicePlan) (connection : Except OdooError (Client ρ)) :
    Handler ρ Unit :=
  Handler.switch plan connection routeros_pppoe_disable routeros_queue_disable .suspended

def handle_reconnect_subscription (plan : IspServicePlan) (connection : Except OdooError (Client ρ)) :
    Handler ρ Unit :=
  Handler.switch plan connection routeros_pppoe_enable (fun client => routeros_queue_ensure client plan) .active

def handle_terminate_subscription (plan : IspServicePlan) (connection : Except OdooError (Client ρ)) :
    Handler ρ Unit :=
  Handler.switch plan connection routeros_pppoe_disable routeros_queue_remove .terminated

def handle_change_plan (plan : IspServicePlan) (connection : Except OdooError (Client ρ)) : Handler ρ Unit := do
  let client ← Method.ofExcept connection
  Handler.commands fun sub => do
    if plan.service_type = .pppoe then routeros_pppoe_ensure_secret client plan sub
    routeros_queue_ensure client plan sub

def handle_disconnect_session (plan : IspServicePlan) (connection : Except OdooError (Client ρ)) :
    Handler ρ Unit := do
  let client ← Method.ofExcept connection
  Handler.commands fun sub =>
    if plan.service_type = .pppoe then client (.ppp_active_remove sub.pppoe_username)
    else client (.hotspot_active_remove sub.pppoe_username)

def handle_activate_pppoe (plan : IspServicePlan) (token_hex : String)
    (connection : Except OdooError (Client ρ)) : Handler ρ Unit := do
  Handler.ensure_pppoe_credentials plan token_hex
  let client ← Method.ofExcept connection
  Handler.commands (routeros_pppoe_ensure_secret client plan)

def handle_activate_dhcp (connection : Except OdooError (Client ρ)) : Handler ρ Unit := do
  let client ← Method.ofExcept connection
  Handler.commands (routeros_dhcp_ensure_lease client)

def handle_ensure_queue (plan : IspServicePlan) (connection : Except OdooError (Client ρ)) : Handler ρ Unit := do
  let client ← Method.ofExcept connection
  Handler.commands (routeros_queue_ensure client plan)

/-- The handlers that work on a subscription, by job type. -/
def subscription_handler (plan : IspServicePlan) (today : Date) (token_hex : String)
    (connection : Except OdooError (Client ρ)) : JobType → Option (Handler ρ Unit)
  | .activate_subscription => some (handle_activate_subscription plan today token_hex connection)
  | .suspend_subscription => some (handle_suspend_subscription plan connection)
  | .reconnect_subscription => some (handle_reconnect_subscription plan connection)
  | .terminate_subscription => some (handle_terminate_subscription plan connection)
  | .change_plan => some (handle_change_plan plan connection)
  | .disconnect_session => some (handle_disconnect_session plan connection)
  | .activate_pppoe => some (handle_activate_pppoe plan token_hex connection)
  | .activate_dhcp => some (handle_activate_dhcp connection)
  | .ensure_queue => some (handle_ensure_queue plan connection)
  | .mikrotik_healthcheck => none
  | .captive_user_create => none
  | .captive_user_disable => none
  | .walled_garden_apply => none
  | .export_config_snapshot => none

section

variable {plan : IspServicePlan} {today : Date} {token_hex : String} {connection : Except OdooError (Client ρ)}
  {sub : IspSubscription} {router : ρ} {after : IspSubscription × ρ}

@[simp] theorem Handler.exec_commands (send : IspSubscription → Method ρ OdooError Unit) (sub : IspSubscription)
    (router : ρ) :
    (Handler.commands send).exec (sub, router) =
      (((send sub).exec router).1, sub, ((send sub).exec router).2) := rfl

@[simp] theorem Handler.exec_ensure_pppoe_credentials (plan : IspServicePlan) (token_hex : String)
    (sub : IspSubscription) (router : ρ) :
    (Handler.ensure_pppoe_credentials plan token_hex).exec (sub, router) =
      (.ok (), sub.withProfile (sub.ensuredProfile plan), router) := by
  simp only [Handler.ensure_pppoe_credentials, Method.exec_ofFun, sub.ensure_pppoe_credentials_eq plan token_hex]

/-- A write that goes through stores what it was asked to, and sends nothing. -/
theorem Handler.write_returns {change : SubscriptionValues → SubscriptionValues}
    (h : (Handler.write change).exec (sub, router) = (.ok (), after)) :
    after.1.toSubscriptionValues = change sub.toSubscriptionValues ∧ after.2 = router := by
  simp only [Handler.write, Method.exec_ofFun] at h
  cases hwrite : sub.write change with
  | ok record =>
    rw [hwrite] at h
    cases h
    exact ⟨SubscriptionValues.store_eq_ok hwrite, rfl⟩
  | error exception =>
    rw [hwrite] at h
    cases h

theorem Handler.commands_returns {send : IspSubscription → Method ρ OdooError Unit}
    (h : (Handler.commands send).exec (sub, router) = (.ok (), after)) :
    after.1 = sub ∧ (send sub).exec router = (.ok (), after.2) := by
  rw [Handler.exec_commands] at h
  obtain ⟨hresult, hafter⟩ := Prod.mk.inj h
  subst hafter
  exact ⟨rfl, Prod.ext hresult rfl⟩

/-- When the commands and then a write went through, the commands returned, the
write stored what it was asked to, and the router is as the commands left it. -/
theorem Handler.commands_write_returns {send : IspSubscription → Method ρ OdooError Unit}
    {change : SubscriptionValues → SubscriptionValues}
    (h : (do Handler.commands send; Handler.write change : Handler ρ Unit).exec (sub, router) =
      (.ok (), after)) :
    after.1.toSubscriptionValues = change sub.toSubscriptionValues ∧
      (send sub).exec router = (.ok (), after.2) := by
  rw [Method.exec_bind, Handler.exec_commands] at h
  cases hsend : (send sub).exec router with
  | mk result sent =>
    rw [hsend] at h
    cases result with
    | ok value =>
      obtain ⟨hvalues, hrouter⟩ := Handler.write_returns h
      exact ⟨hvalues, by rw [hrouter]⟩
    | error exception => cases h

/-- What is outside after commands and a write is what the commands leave there, however
either ends. -/
theorem Handler.commands_write_outside {send : IspSubscription → Method ρ OdooError Unit}
    {change : SubscriptionValues → SubscriptionValues} (router : ρ) :
    ((do Handler.commands send; Handler.write change : Handler ρ Unit).exec (sub, router)).2.2 =
      ((send sub).exec router).2 := by
  rw [Method.exec_bind, Handler.exec_commands]
  cases hsend : (send sub).exec router with
  | mk result sent =>
    cases result with
    | error exception => rfl
    | ok value =>
      simp only [Handler.write, Method.exec_ofFun]
      cases sub.write change <;> rfl

theorem Handler.exec_connected (client : Client ρ) (next : Client ρ → Handler ρ Unit)
    (state : IspSubscription × ρ) :
    (Method.ofExcept (.ok client) >>= next : Handler ρ Unit).exec state = (next client).exec state := by
  rw [Method.exec_bind, Method.exec_ofExcept]

/-- A handler that begins with its connection has one when it returns. -/
theorem Handler.connected {next : Client ρ → Handler ρ Unit}
    (h : (Method.ofExcept connection >>= next : Handler ρ Unit).exec (sub, router) = (.ok (), after)) :
    ∃ client, connection = .ok client ∧ (next client).exec (sub, router) = (.ok (), after) := by
  rw [Method.exec_bind, Method.exec_ofExcept] at h
  cases connection with
  | ok client => exact ⟨client, rfl, h⟩
  | error exception => cases h

/-- Suspension, reconnection and termination change nothing of the record but
its state. -/
theorem Handler.switch_returns {secret queue : Client ρ → IspSubscription → Method ρ OdooError Unit}
    {state : SubscriptionState}
    (h : (Handler.switch plan connection secret queue state).exec (sub, router) = (.ok (), after)) :
    ∃ client, connection = .ok client ∧
      after.1.toSubscriptionValues = { sub.toSubscriptionValues with state } ∧
      (do
        if plan.service_type = .pppoe then secret client sub
        queue client sub : Method ρ OdooError Unit).exec router = (.ok (), after.2) := by
  obtain ⟨client, hclient, hrest⟩ := Handler.connected h
  obtain ⟨hvalues, hsent⟩ := Handler.commands_write_returns hrest
  exact ⟨client, hclient, hvalues, hsent⟩

theorem handle_activate_subscription_returns
    (h : (handle_activate_subscription plan today token_hex connection).exec (sub, router) = (.ok (), after)) :
    ∃ client, connection = .ok client ∧
      after.1.toSubscriptionValues =
        { sub.toSubscriptionValues with
          pppoe_profile := sub.ensuredProfile plan
          state := .active
          start_date := some (sub.start_date.getD today) } ∧
      (do
        match plan.service_type with
        | .pppoe => routeros_pppoe_ensure_secret client plan (sub.withProfile (sub.ensuredProfile plan))
        | .dhcp => routeros_dhcp_ensure_lease client (sub.withProfile (sub.ensuredProfile plan))
        | .hotspot => pure ()
        routeros_queue_ensure client plan (sub.withProfile (sub.ensuredProfile plan)) :
          Method ρ OdooError Unit).exec router = (.ok (), after.2) := by
  rw [handle_activate_subscription, Method.exec_bind, Handler.exec_ensure_pppoe_credentials] at h
  obtain ⟨client, hclient, hrest⟩ := Handler.connected h
  obtain ⟨hvalues, hsent⟩ := Handler.commands_write_returns hrest
  exact ⟨client, hclient, hvalues, hsent⟩

theorem handle_change_plan_returns
    (h : (handle_change_plan plan connection).exec (sub, router) = (.ok (), after)) :
    ∃ client, connection = .ok client ∧ after.1 = sub ∧
      (do
        if plan.service_type = .pppoe then routeros_pppoe_ensure_secret client plan sub
        routeros_queue_ensure client plan sub : Method ρ OdooError Unit).exec router = (.ok (), after.2) := by
  obtain ⟨client, hclient, hrest⟩ := Handler.connected h
  obtain ⟨hsub, hsent⟩ := Handler.commands_returns hrest
  exact ⟨client, hclient, hsub, hsent⟩

end

section

variable (plan : IspServicePlan) (sub : IspSubscription) (tables : RouterTables)

def RouterTables.ensureSecret (plan : IspServicePlan) (sub : IspSubscription) (self : RouterTables) :
    RouterTables :=
  let password := sub.pppoe_password
  let profile := textOr plan.mikrotik_profile "default"
  { self with
    ppp_secrets := self.ppp_secrets.ensure sub.pppoe_username
      { password, profile, service := "pppoe", disabled := false }
      fun secret => { secret with password, profile, disabled := false } }

def RouterTables.flagSecret (disabled : Bool) (sub : IspSubscription) (self : RouterTables) : RouterTables :=
  { self with
    ppp_secrets := self.ppp_secrets.adjust sub.pppoe_username fun secret => { secret with disabled } }

def RouterTables.ensureLease (sub : IspSubscription) (self : RouterTables) : RouterTables :=
  if truthy sub.service_ip = false ∨ truthy sub.service_mac = false then self
  else
    { self with
      dhcp_leases := self.dhcp_leases.ensure sub.service_ip
        { mac_address := sub.service_mac, comment := sub.name, disabled := false }
        fun lease => { lease with comment := sub.name, disabled := false } }

def RouterTables.ensureQueue (plan : IspServicePlan) (sub : IspSubscription) (self : RouterTables) :
    RouterTables :=
  if truthy sub.service_ip = false then self
  else
    let max_limit : MaxLimit := ⟨plan.down_mbps, plan.up_mbps⟩
    { self with
      simple_queues := self.simple_queues.ensure sub.name
        { target := sub.service_ip.getD "" ++ "/32", max_limit, comment := sub.name, disabled := false }
        fun queue => { queue with max_limit, disabled := false } }

def RouterTables.disableQueue (sub : IspSubscription) (self : RouterTables) : RouterTables :=
  { self with
    simple_queues := self.simple_queues.adjust sub.name fun queue => { queue with disabled := true } }

def RouterTables.removeQueue (sub : IspSubscription) (self : RouterTables) : RouterTables :=
  { self with simple_queues := self.simple_queues.discard sub.name }

theorem routeros_pppoe_ensure_secret_exec :
    (routeros_pppoe_ensure_secret RouterTables.cmd plan sub).exec tables =
      (.ok (), tables.ensureSecret plan sub) := by
  apply exceptRouteros_apply
  exact tables.ppp_secrets.add_or_set sub.pppoe_username _ _

theorem routeros_pppoe_disable_exec :
    (routeros_pppoe_disable RouterTables.cmd sub).exec tables = (.ok (), tables.flagSecret true sub) := by
  apply exceptRouteros_apply_ignored
  obtain haccepted | ⟨hrejected, hsame⟩ := tables.ppp_secrets.set_or_unchanged sub.pppoe_username
    fun secret => { secret with disabled := true }
  · exact Or.inl haccepted
  · exact Or.inr ⟨hrejected, by rw [hsame]⟩

theorem routeros_pppoe_enable_exec :
    (routeros_pppoe_enable RouterTables.cmd sub).exec tables = (.ok (), tables.flagSecret false sub) := by
  apply exceptRouteros_apply_ignored
  obtain haccepted | ⟨hrejected, hsame⟩ := tables.ppp_secrets.set_or_unchanged sub.pppoe_username
    fun secret => { secret with disabled := false }
  · exact Or.inl haccepted
  · exact Or.inr ⟨hrejected, by rw [hsame]⟩

theorem routeros_dhcp_ensure_lease_exec :
    (routeros_dhcp_ensure_lease RouterTables.cmd sub).exec tables = (.ok (), tables.ensureLease sub) := by
  unfold routeros_dhcp_ensure_lease RouterTables.ensureLease
  by_cases hskip : truthy sub.service_ip = false ∨ truthy sub.service_mac = false
  · rw [if_pos hskip, if_pos hskip]
    rfl
  · rw [if_neg hskip, if_neg hskip]
    apply exceptRouteros_apply
    exact tables.dhcp_leases.add_or_set sub.service_ip _ _

theorem routeros_queue_ensure_exec :
    (routeros_queue_ensure RouterTables.cmd plan sub).exec tables = (.ok (), tables.ensureQueue plan sub) := by
  unfold routeros_queue_ensure RouterTables.ensureQueue
  by_cases hskip : truthy sub.service_ip = false
  · rw [if_pos hskip, if_pos hskip]
    rfl
  · rw [if_neg hskip, if_neg hskip]
    apply exceptRouteros_apply
    exact tables.simple_queues.add_or_set sub.name _ _

theorem routeros_queue_disable_exec :
    (routeros_queue_disable RouterTables.cmd sub).exec tables = (.ok (), tables.disableQueue sub) := by
  apply exceptRouteros_apply_ignored
  obtain haccepted | ⟨hrejected, hsame⟩ := tables.simple_queues.set_or_unchanged sub.name
    fun queue => { queue with disabled := true }
  · exact Or.inl haccepted
  · exact Or.inr ⟨hrejected, by rw [hsame]⟩

theorem routeros_queue_remove_exec :
    (routeros_queue_remove RouterTables.cmd sub).exec tables = (.ok (), tables.removeQueue sub) := by
  apply exceptRouteros_apply_ignored
  obtain haccepted | ⟨hrejected, hsame⟩ := tables.simple_queues.remove_or_unchanged sub.name
  · exact Or.inl haccepted
  · exact Or.inr ⟨hrejected, by rw [hsame]⟩

end

end getupnet.isp_mikrotik

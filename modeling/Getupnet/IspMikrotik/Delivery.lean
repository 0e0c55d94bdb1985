import Getupnet.IspMikrotik.Isolation

open relational
open calendar
open getupnet.isp_core

namespace getupnet.isp_mikrotik

/-- The jobs of a subscription that may be delivered again: all but the one that
ends a session. -/
def repeatableJobs : List JobType :=
  [.activate_subscription, .suspend_subscription, .reconnect_subscription, .terminate_subscription, .change_plan,
    .activate_pppoe, .activate_dhcp, .ensure_queue]

/-- The record that the commands of a job are about: an activation fills in a
missing profile first. -/
def prepared (plan : IspServicePlan) (job_type : JobType) (sub : IspSubscription) : IspSubscription :=
  match job_type with
  | .activate_subscription | .activate_pppoe => sub.withProfile (sub.ensuredProfile plan)
  | _ => sub

/-- The values that a job stores after its commands. -/
def finished (today : Date) (job_type : JobType) (values : SubscriptionValues) : SubscriptionValues :=
  match job_type with
  | .activate_subscription => { values with state := .active, start_date := some (values.start_date.getD today) }
  | .suspend_subscription => { values with state := .suspended }
  | .reconnect_subscription => { values with state := .active }
  | .terminate_subscription => { values with state := .terminated }
  | _ => values

/-- The outcome of storing a job's values once its commands left a router. -/
def stored (tables : RouterTables) (sub : IspSubscription) (values : SubscriptionValues) :
    Except OdooError Unit × Provisioned :=
  match values.store with
  | .ok record => (.ok (), record, tables)
  | .error exception => (.error exception, sub, tables)

section

variable {plan : IspServicePlan} {today : Date} {token_hex : String} {job_type : JobType}
  {handler : Handler RouterTables Unit} {sub : IspSubscription} {tables : RouterTables}

theorem Handler.exec_commands_write {send : IspSubscription → Method RouterTables OdooError Unit}
    {change : SubscriptionValues → SubscriptionValues} {result : RouterTables}
    (hsend : (send sub).exec tables = (.ok (), result)) :
    (do Handler.commands send; Handler.write change : Handler RouterTables Unit).exec (sub, tables) =
      stored result sub (change sub.toSubscriptionValues) := by
  rw [Method.exec_bind, Handler.exec_commands, hsend]
  rfl

theorem stored_self : stored tables sub sub.toSubscriptionValues = (.ok (), sub, tables) := by
  rw [stored, sub.store_self]

/-- A handler that only sends commands stores its record as it is. -/
theorem Handler.exec_commands_stored {send : IspSubscription → Method RouterTables OdooError Unit}
    {result : RouterTables} (hsend : (send sub).exec tables = (.ok (), result)) :
    (Handler.commands send).exec (sub, tables) = stored result sub sub.toSubscriptionValues := by
  rw [Handler.exec_commands, hsend, stored_self]

/-- The commands of a job are about the address, the MAC, the name and the
credentials of its subscription only. -/
theorem serve_prepared (tables : RouterTables) (job_type : JobType) :
    tables.serve plan (prepared plan job_type sub) job_type = tables.serve plan sub job_type := by
  cases job_type <;> rfl

/-- What a job of a subscription does: its commands are accepted, and then its
values are stored if the record checks allow it. -/
theorem subscription_handler_exec (hjob : job_type ∈ repeatableJobs)
    (hhandler : subscription_handler plan today token_hex (.ok RouterTables.cmd) job_type = some handler) :
    handler.exec (sub, tables) =
      stored (tables.serve plan sub job_type) (prepared plan job_type sub)
        (finished today job_type (prepared plan job_type sub).toSubscriptionValues) := by
  have hdisconnect : job_type ≠ .disconnect_session := by
    rintro rfl
    exact absurd hjob (by decide)
  have hsent : ∀ tables, (job_commands RouterTables.cmd plan (prepared plan job_type sub) job_type).exec tables =
      (.ok (), tables.serve plan sub job_type) := by
    intro tables
    rw [job_commands_exec hdisconnect, serve_prepared]
  cases job_type <;> cases hhandler
  case activate_subscription =>
    rw [handle_activate_subscription, Method.exec_bind, Handler.exec_ensure_pppoe_credentials]
    exact (Handler.exec_connected _ _ _).trans (Handler.exec_commands_write (hsent tables))
  case suspend_subscription =>
    exact (Handler.exec_connected _ _ _).trans (Handler.exec_commands_write (hsent tables))
  case reconnect_subscription =>
    exact (Handler.exec_connected _ _ _).trans (Handler.exec_commands_write (hsent tables))
  case terminate_subscription =>
    exact (Handler.exec_connected _ _ _).trans (Handler.exec_commands_write (hsent tables))
  case change_plan => exact (Handler.exec_connected _ _ _).trans (Handler.exec_commands_stored (hsent tables))
  case disconnect_session => exact absurd rfl hdisconnect
  case activate_pppoe =>
    rw [handle_activate_pppoe, Method.exec_bind, Handler.exec_ensure_pppoe_credentials]
    exact (Handler.exec_connected _ _ _).trans (Handler.exec_commands_stored (hsent tables))
  case activate_dhcp => exact (Handler.exec_connected _ _ _).trans (Handler.exec_commands_stored (hsent tables))
  case ensure_queue => exact (Handler.exec_connected _ _ _).trans (Handler.exec_commands_stored (hsent tables))

end

/-- Both coordinates of an installation are set. -/
def SubscriptionValues.HasGps (self : SubscriptionValues) : Prop := self.gps_lat ≠ 0 ∧ self.gps_lng ≠ 0

instance (self : SubscriptionValues) : Decidable (SubscriptionValues.HasGps self) :=
  inferInstanceAs (Decidable (_ ∧ _))

/-- The jobs whose last write the coordinates check may refuse. -/
def locatedJobs : List JobType := [.activate_subscription, .suspend_subscription, .reconnect_subscription]

/-- Of the checks on a stored record, only the one on the coordinates can refuse the
values of a job. -/
theorem finished_valid_iff (plan : IspServicePlan) (today : Date) (job_type : JobType) (sub : IspSubscription) :
    (finished today job_type (prepared plan job_type sub).toSubscriptionValues).validate = .ok () ↔
      (job_type ∈ locatedJobs → SubscriptionValues.HasGps sub.toSubscriptionValues) := by
  have hchecked := (SubscriptionValues.validate_eq_ok_iff _).mp sub.checked
  rw [SubscriptionValues.validate_eq_ok_iff]
  obtain ⟨hcredentials, hip, hgps⟩ := hchecked
  cases job_type <;>
    simp only [finished, prepared, IspSubscription.withProfile, locatedJobs, SubscriptionValues.HasGps,
      SubscriptionValues.HasCredentials] at * <;>
    simp_all

theorem stored_of_valid {tables : RouterTables} {sub : IspSubscription} {values : SubscriptionValues}
    (h : values.validate = .ok ()) : stored tables sub values = (.ok (), ⟨values, h⟩, tables) := by
  rw [stored, SubscriptionValues.store_of_valid h]

theorem stored_of_refused {tables : RouterTables} {sub : IspSubscription} {values : SubscriptionValues}
    (h : values.validate ≠ .ok ()) : ∃ exception, stored tables sub values = (.error exception, sub, tables) := by
  unfold stored
  cases hstore : values.store with
  | ok record =>
    have hvalues := SubscriptionValues.store_eq_ok hstore
    exact absurd (hvalues ▸ record.checked) h
  | error exception => exact ⟨exception, rfl⟩

/-- Two states of a record that the commands of a job do not tell apart. -/
structure SameAccount (first second : IspSubscription) : Prop where
  name : first.name = second.name
  service_ip : first.service_ip = second.service_ip
  service_mac : first.service_mac = second.service_mac
  pppoe_username : first.pppoe_username = second.pppoe_username
  pppoe_password : first.pppoe_password = second.pppoe_password

section

variable {plan : IspServicePlan} {today : Date} {token_hex : String} {job_type : JobType}
  {handler : Handler RouterTables Unit} {sub after : IspSubscription} {tables : RouterTables}

theorem SameAccount.serve (h : SameAccount after sub) (tables : RouterTables) :
    tables.serve plan after job_type = tables.serve plan sub job_type := by
  simp only [RouterTables.serve, RouterTables.ensureSecret, RouterTables.ensureLease, RouterTables.ensureQueue,
    RouterTables.flagSecret, RouterTables.disableQueue, RouterTables.removeQueue, h.name, h.service_ip,
    h.service_mac,
    h.pppoe_username, h.pppoe_password]

/-- A job keeps what its commands read. -/
theorem sameAccount_of_finished
    (h : after.toSubscriptionValues = finished today job_type (prepared plan job_type sub).toSubscriptionValues) :
    SameAccount after sub := by
  constructor <;> rw [h] <;> cases job_type <;> rfl

theorem RouterTables.ensureSecret_ensureSecret :
    (tables.ensureSecret plan sub).ensureSecret plan sub = tables.ensureSecret plan sub := by
  unfold RouterTables.ensureSecret
  rw [RouterTables.mk.injEq]
  exact ⟨KeyedTable.ensure_ensure rfl fun _ => rfl, rfl, rfl, rfl, rfl⟩

/-- The last of two flags stands. -/
theorem RouterTables.flagSecret_flagSecret (first second : Bool) :
    (tables.flagSecret first sub).flagSecret second sub = tables.flagSecret second sub := by
  unfold RouterTables.flagSecret
  simp only [KeyedTable.adjust_adjust]

theorem RouterTables.ensureLease_ensureLease :
    (tables.ensureLease sub).ensureLease sub = tables.ensureLease sub := by
  unfold RouterTables.ensureLease
  split
  · rfl
  · rw [RouterTables.mk.injEq]
    exact ⟨rfl, KeyedTable.ensure_ensure rfl fun _ => rfl, rfl, rfl, rfl⟩

theorem RouterTables.ensureQueue_ensureQueue :
    (tables.ensureQueue plan sub).ensureQueue plan sub = tables.ensureQueue plan sub := by
  unfold RouterTables.ensureQueue
  split
  · rfl
  · rw [RouterTables.mk.injEq]
    exact ⟨rfl, rfl, KeyedTable.ensure_ensure rfl fun _ => rfl, rfl, rfl⟩

theorem RouterTables.disableQueue_disableQueue :
    (tables.disableQueue sub).disableQueue sub = tables.disableQueue sub := by
  unfold RouterTables.disableQueue
  simp only [KeyedTable.adjust_adjust]

theorem RouterTables.removeQueue_removeQueue :
    (tables.removeQueue sub).removeQueue sub = tables.removeQueue sub := by
  unfold RouterTables.removeQueue
  simp only [KeyedTable.discard_discard]

theorem RouterTables.ensureQueue_ensureSecret (tables : RouterTables) :
    (tables.ensureSecret plan sub).ensureQueue plan sub = (tables.ensureQueue plan sub).ensureSecret plan sub := by
  unfold RouterTables.ensureQueue
  split <;> rfl

theorem RouterTables.ensureQueue_ensureLease (tables : RouterTables) :
    (tables.ensureLease sub).ensureQueue plan sub = (tables.ensureQueue plan sub).ensureLease sub := by
  unfold RouterTables.ensureQueue RouterTables.ensureLease
  split <;> split <;> rfl

theorem RouterTables.ensureQueue_flagSecret (disabled : Bool) (tables : RouterTables) :
    (tables.flagSecret disabled sub).ensureQueue plan sub = (tables.ensureQueue plan sub).flagSecret disabled sub := by
  unfold RouterTables.ensureQueue
  split <;> rfl

/-- Two changes that do not meet are repeated as one when each is. -/
theorem repeat_both {first second : RouterTables → RouterTables}
    (hapart : ∀ tables, second (first tables) = first (second tables))
    (hfirst : ∀ tables, first (first tables) = first tables)
    (hsecond : ∀ tables, second (second tables) = second tables) (tables : RouterTables) :
    second (first (second (first tables))) = second (first tables) := by
  rw [← hapart (first tables), hfirst, hsecond]

/-- A change that only PPPoE plans make, and one that all plans make. -/
theorem repeat_switch {onSecret onQueue : RouterTables → RouterTables}
    (hapart : ∀ tables, onQueue (onSecret tables) = onSecret (onQueue tables))
    (hsecret : ∀ tables, onSecret (onSecret tables) = onSecret tables)
    (hqueue : ∀ tables, onQueue (onQueue tables) = onQueue tables) (tables : RouterTables) :
    onQueue (if plan.service_type = .pppoe
        then onSecret (onQueue (if plan.service_type = .pppoe then onSecret tables else tables))
        else onQueue (if plan.service_type = .pppoe then onSecret tables else tables)) =
      onQueue (if plan.service_type = .pppoe then onSecret tables else tables) := by
  by_cases hpppoe : plan.service_type = .pppoe
  · simp only [if_pos hpppoe]
    exact repeat_both hapart hsecret hqueue tables
  · simp only [if_neg hpppoe]
    exact hqueue tables

/-- A router that served a job is left as it is when it serves the job again. -/
theorem RouterTables.serve_serve (tables : RouterTables) (job_type : JobType) :
    (tables.serve plan sub job_type).serve plan sub job_type = tables.serve plan sub job_type := by
  cases job_type with
  | activate_subscription =>
    cases hservice : plan.service_type with
    | pppoe =>
      rw [RouterTables.serve_pppoe hservice]
      exact repeat_both RouterTables.ensureQueue_ensureSecret (fun _ => RouterTables.ensureSecret_ensureSecret)
        (fun _ => RouterTables.ensureQueue_ensureQueue) tables
    | dhcp =>
      rw [RouterTables.serve_dhcp hservice]
      exact repeat_both RouterTables.ensureQueue_ensureLease (fun _ => RouterTables.ensureLease_ensureLease)
        (fun _ => RouterTables.ensureQueue_ensureQueue) tables
    | hotspot =>
      rw [RouterTables.serve_hotspot hservice]
      exact RouterTables.ensureQueue_ensureQueue
  | suspend_subscription =>
    exact @repeat_switch plan (RouterTables.flagSecret true sub) (RouterTables.disableQueue sub) (fun _ => rfl)
      (fun _ => RouterTables.flagSecret_flagSecret true true) (fun _ => RouterTables.disableQueue_disableQueue) tables
  | reconnect_subscription =>
    exact repeat_switch (RouterTables.ensureQueue_flagSecret false)
      (fun _ => RouterTables.flagSecret_flagSecret false false) (fun _ => RouterTables.ensureQueue_ensureQueue) tables
  | terminate_subscription =>
    exact @repeat_switch plan (RouterTables.flagSecret true sub) (RouterTables.removeQueue sub) (fun _ => rfl)
      (fun _ => RouterTables.flagSecret_flagSecret true true) (fun _ => RouterTables.removeQueue_removeQueue) tables
  | change_plan =>
    exact repeat_switch RouterTables.ensureQueue_ensureSecret (fun _ => RouterTables.ensureSecret_ensureSecret)
      (fun _ => RouterTables.ensureQueue_ensureQueue) tables
  | activate_pppoe => exact RouterTables.ensureSecret_ensureSecret
  | activate_dhcp => exact RouterTables.ensureLease_ensureLease
  | ensure_queue => exact RouterTables.ensureQueue_ensureQueue
  | _ => rfl

/-- A profile that was filled in is not filled in again. -/
theorem ensuredProfile_of_ensured (hauth : after.auth_method = sub.auth_method)
    (hprofile : after.pppoe_profile = sub.ensuredProfile plan) :
    after.ensuredProfile plan = after.pppoe_profile := by
  rw [IspSubscription.ensuredProfile, hauth, hprofile]
  by_cases hmissing : sub.auth_method = .pppoe ∧ truthy sub.pppoe_profile = false
  · rw [IspSubscription.ensuredProfile, if_pos hmissing]
    unfold orElse
    by_cases hplan : truthy plan.mikrotik_profile = true <;> simp [hplan]
  · have hkept : sub.ensuredProfile plan = sub.pppoe_profile := if_neg hmissing
    rw [hkept, if_neg hmissing]

/-- The values that a job leaves are those that it would leave again. -/
theorem finished_again (again : Date)
    (h : after.toSubscriptionValues = finished today job_type (prepared plan job_type sub).toSubscriptionValues) :
    finished again job_type (prepared plan job_type after).toSubscriptionValues = after.toSubscriptionValues := by
  have hauth : after.auth_method = sub.auth_method := by
    rw [h]
    cases job_type <;> rfl
  have hkept : after.pppoe_profile = sub.ensuredProfile plan →
      after.withProfile (after.ensuredProfile plan) = after := by
    intro hensured
    rw [ensuredProfile_of_ensured hauth hensured]
    rfl
  have hprepared : prepared plan job_type after = after := by
    cases job_type with
    | activate_subscription => exact hkept (by rw [h]; rfl)
    | activate_pppoe => exact hkept (by rw [h]; rfl)
    | _ => rfl
  rw [hprepared, h]
  cases job_type <;> rfl

theorem stored_returns {values : SubscriptionValues} {state : Provisioned}
    (h : stored tables sub values = (.ok (), state)) :
    state.1.toSubscriptionValues = values ∧ state.2 = tables := by
  unfold stored at h
  cases hstore : values.store with
  | ok record =>
    rw [hstore] at h
    cases h
    exact ⟨SubscriptionValues.store_eq_ok hstore, rfl⟩
  | error exception =>
    rw [hstore] at h
    cases h

end

/-- A job of a subscription that went through on a router goes through again, on any
later day, and leaves the router and the record as they are. -/
theorem delivered_twice (plan : IspServicePlan) (job_type : JobType) (hjob : job_type ∈ repeatableJobs)
    (today again : Date) (token_hex other_token : String) (first second : Handler RouterTables Unit)
    (hfirst : subscription_handler plan today token_hex (.ok RouterTables.cmd) job_type = some first)
    (hsecond : subscription_handler plan again other_token (.ok RouterTables.cmd) job_type = some second)
    (before after : Provisioned) (h : first.exec before = (.ok (), after)) :
    second.exec after = (.ok (), after) := by
  obtain ⟨sub, tables⟩ := before
  obtain ⟨record, router⟩ := after
  rw [subscription_handler_exec hjob hfirst] at h
  obtain ⟨hvalues, htables⟩ := stored_returns h
  dsimp only at hvalues htables
  have hserved : router.serve plan record job_type = router := by
    rw [(sameAccount_of_finished hvalues).serve, htables, RouterTables.serve_serve]
  have hstored : ∀ sub, stored router sub record.toSubscriptionValues = (.ok (), record, router) := by
    intro sub
    rw [stored, record.store_self]
  rw [subscription_handler_exec hjob hsecond, hserved, finished_again again hvalues, hstored]

theorem nextDay_isDay : IsDay 2026 1 2 := by decide

def nextDay : Date := .of nextDay_isDay

/-- An activation delivered again the day after keeps the start date. -/
theorem delivered_twice_activation :
    (handle_activate_subscription (twoServices 1) nextDay "c0ffee" (.ok RouterTables.cmd)).exec
        (afterJob .activate_subscription (fiberCustomer, RouterTables.empty)) =
      (.ok (), afterJob .activate_subscription (fiberCustomer, RouterTables.empty)) :=
  delivered_twice (twoServices 1) .activate_subscription (by decide) firstDay nextDay "" "c0ffee" _ _ rfl rfl
    (fiberCustomer, RouterTables.empty) _ rfl

end getupnet.isp_mikrotik

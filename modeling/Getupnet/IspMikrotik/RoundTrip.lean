import Getupnet.IspMikrotik.Delivery

open relational
open calendar
open getupnet.isp_core

namespace getupnet.isp_mikrotik

/-- One job of a subscription, by its type, the day it runs and a fresh token. -/
structure Delivery where
  job_type : JobType
  today : Date
  token_hex : String

/-- A job of a subscription in its own transaction: an exception restores the record,
and not the router. -/
def delivered (plan : IspServicePlan) (state : Provisioned) (delivery : Delivery) : Provisioned :=
  match subscription_handler plan delivery.today delivery.token_hex (.ok RouterTables.cmd) delivery.job_type with
  | some handler => handler.commit (fun before after => (before.1, after.2)) state
  | none => state

/-- A router has no entry of a subscription. -/
def RouterTables.NoEntry (sub : IspSubscription) (self : RouterTables) : Prop :=
  ∀ key ∈ [EntryKey.secret sub.pppoe_username, EntryKey.lease sub.service_ip, EntryKey.queue sub.name],
    self.entry key = none

section

variable {plan : IspServicePlan} {delivery : Delivery} {sub : IspSubscription} {tables : RouterTables}

theorem subscription_handler_isSome {ρ : Type} {connection : Except OdooError (Client ρ)}
    (hjob : delivery.job_type ∈ repeatableJobs) :
    ∃ handler, subscription_handler plan delivery.today delivery.token_hex connection delivery.job_type =
      some handler := by
  cases htype : delivery.job_type <;> first | exact ⟨_, rfl⟩ | exact absurd (htype ▸ hjob) (by decide)

/-- A delivered job leaves on the router what its commands make of it. -/
theorem delivered_tables (hjob : delivery.job_type ∈ repeatableJobs) :
    (delivered plan (sub, tables) delivery).2 = tables.serve plan sub delivery.job_type := by
  obtain ⟨handler, hhandler⟩ := @subscription_handler_isSome plan delivery _ (.ok RouterTables.cmd) hjob
  have hexec := @subscription_handler_exec plan delivery.today delivery.token_hex _ handler sub tables hjob hhandler
  rw [delivered, hhandler]
  dsimp only
  rw [Method.commit, hexec, stored]
  split <;> rename_i heq <;> split at heq <;> cases heq <;> rfl

/-- With coordinates on the record, a delivered job stores its values. -/
theorem delivered_values (hjob : delivery.job_type ∈ repeatableJobs)
    (hgps : delivery.job_type ∈ locatedJobs → SubscriptionValues.HasGps sub.toSubscriptionValues) :
    (delivered plan (sub, tables) delivery).1.toSubscriptionValues =
      finished delivery.today delivery.job_type (prepared plan delivery.job_type sub).toSubscriptionValues := by
  obtain ⟨handler, hhandler⟩ := @subscription_handler_isSome plan delivery _ (.ok RouterTables.cmd) hjob
  have hexec := @subscription_handler_exec plan delivery.today delivery.token_hex _ handler sub tables hjob hhandler
  rw [stored_of_valid ((finished_valid_iff plan delivery.today delivery.job_type sub).mpr hgps)] at hexec
  rw [delivered, hhandler]
  dsimp only
  rw [Method.commit_of_ok hexec]

/-- Without them, a job that needs them leaves the record as it was. -/
theorem delivered_refused (hlocated : delivery.job_type ∈ locatedJobs)
    (hgps : ¬ SubscriptionValues.HasGps sub.toSubscriptionValues) :
    (delivered plan (sub, tables) delivery).1 = sub := by
  have hjob : delivery.job_type ∈ repeatableJobs := by
    simp only [locatedJobs, repeatableJobs, List.mem_cons, List.not_mem_nil, or_false] at hlocated ⊢
    tauto
  obtain ⟨handler, hhandler⟩ := @subscription_handler_isSome plan delivery _ (.ok RouterTables.cmd) hjob
  have hexec := @subscription_handler_exec plan delivery.today delivery.token_hex _ handler sub tables hjob hhandler
  obtain ⟨exception, herror⟩ := @stored_of_refused (tables.serve plan sub delivery.job_type)
    (prepared plan delivery.job_type sub) _ fun hvalid =>
      hgps ((finished_valid_iff plan delivery.today delivery.job_type sub).mp hvalid hlocated)
  rw [herror] at hexec
  rw [delivered, hhandler]
  dsimp only
  rw [Method.commit_of_error hexec]

theorem RouterTables.ensureQueue_of_no_ip (hip : truthy sub.service_ip = false) :
    tables.ensureQueue plan sub = tables := if_pos hip

/-- Without an address there is no queue to ensure, so none may be there to disable. -/
theorem RouterTables.ensureQueue_disableQueue
    (hqueue : truthy sub.service_ip = false → tables.simple_queues.find sub.name = none) :
    (tables.disableQueue sub).ensureQueue plan sub = tables.ensureQueue plan sub := by
  by_cases hip : truthy sub.service_ip = false
  · rw [RouterTables.ensureQueue_of_no_ip hip, RouterTables.ensureQueue_of_no_ip hip, RouterTables.disableQueue,
      KeyedTable.adjust_unchanged]
    intro queue hfind
    rw [hqueue hip] at hfind
    cases hfind
  · unfold RouterTables.ensureQueue RouterTables.disableQueue
    rw [if_neg hip, if_neg hip, RouterTables.mk.injEq]
    exact ⟨rfl, rfl, KeyedTable.ensure_adjust fun _ => rfl, rfl, rfl⟩

/-- An ensured secret is enabled already. -/
theorem RouterTables.flagSecret_ensureSecret :
    (tables.ensureSecret plan sub).flagSecret false sub = tables.ensureSecret plan sub := by
  rw [RouterTables.flagSecret, KeyedTable.adjust_unchanged]
  intro secret hfind
  rw [RouterTables.ensureSecret, KeyedTable.ensure_find_self, Option.some.injEq] at hfind
  subst hfind
  cases tables.ppp_secrets.find sub.pppoe_username <;> rfl

theorem RouterTables.ensureLease_simple_queues :
    (tables.ensureLease sub).simple_queues = tables.simple_queues := by
  unfold RouterTables.ensureLease
  split <;> rfl

theorem RouterTables.serve_suspend_reconnect
    (hqueue : truthy sub.service_ip = false → tables.simple_queues.find sub.name = none) :
    (tables.serve plan sub .suspend_subscription).serve plan sub .reconnect_subscription =
      tables.serve plan sub .reconnect_subscription := by
  simp only [RouterTables.serve]
  by_cases hpppoe : plan.service_type = .pppoe
  · simp only [if_pos hpppoe]
    have hflags : ((tables.flagSecret true sub).disableQueue sub).flagSecret false sub =
        (tables.flagSecret false sub).disableQueue sub := by
      have hflag := @RouterTables.flagSecret_flagSecret sub (tables.disableQueue sub) true false
      exact hflag
    rw [hflags]
    exact RouterTables.ensureQueue_disableQueue hqueue
  · simp only [if_neg hpppoe]
    exact RouterTables.ensureQueue_disableQueue hqueue

theorem RouterTables.serve_activate_reconnect :
    (tables.serve plan sub .activate_subscription).serve plan sub .reconnect_subscription =
      tables.serve plan sub .activate_subscription := by
  have hqueue : ∀ tables : RouterTables,
      (tables.ensureQueue plan sub).ensureQueue plan sub = tables.ensureQueue plan sub :=
    fun _ => RouterTables.ensureQueue_ensureQueue
  simp only [RouterTables.serve]
  cases hservice : plan.service_type with
  | pppoe =>
    simp only [if_true]
    calc (((tables.ensureSecret plan sub).ensureQueue plan sub).flagSecret false sub).ensureQueue plan sub
        = ((tables.ensureSecret plan sub).ensureQueue plan sub).flagSecret false sub := by
          rw [RouterTables.ensureQueue_flagSecret, hqueue]
      _ = (tables.ensureSecret plan sub).ensureQueue plan sub := by
          rw [← RouterTables.ensureQueue_flagSecret, RouterTables.flagSecret_ensureSecret]
  | dhcp => exact hqueue _
  | hotspot => exact hqueue _

/-- Without an address no job of the service adds a queue. -/
theorem RouterTables.serve_no_queue {job_type : JobType} (hjob : job_type ∈ locatedJobs)
    (hip : truthy sub.service_ip = false) (hqueue : tables.simple_queues.find sub.name = none) :
    (tables.serve plan sub job_type).simple_queues.find sub.name = none := by
  simp only [locatedJobs, List.mem_cons, List.not_mem_nil, or_false] at hjob
  obtain rfl | rfl | rfl := hjob
  · rw [RouterTables.serve, RouterTables.ensureQueue_of_no_ip hip]
    cases plan.service_type with
    | pppoe => exact hqueue
    | dhcp =>
      rw [RouterTables.ensureLease_simple_queues]
      exact hqueue
    | hotspot => exact hqueue
  · rw [RouterTables.serve, RouterTables.disableQueue, KeyedTable.adjust_find_self]
    split <;> exact congrArg _ hqueue
  · rw [RouterTables.serve, RouterTables.ensureQueue_of_no_ip hip]
    split <;> exact hqueue

end

/-- A state from which a reconnection gives back the state after the activation: only
the state of the record differs, and only if its writes go through. -/
structure Restorable (plan : IspServicePlan) (activated current : Provisioned) : Prop where
  values : ∃ state, current.1.toSubscriptionValues = { activated.1.toSubscriptionValues with state }
  active : SubscriptionValues.HasGps activated.1.toSubscriptionValues → activated.1.state = .active
  refused : ¬ SubscriptionValues.HasGps activated.1.toSubscriptionValues → current.1 = activated.1
  tables : current.2.serve plan activated.1 .reconnect_subscription = activated.2
  queue : truthy activated.1.service_ip = false → current.2.simple_queues.find activated.1.name = none

section

variable {plan : IspServicePlan} {delivery : Delivery} {activated current : Provisioned}

theorem Restorable.account (h : Restorable plan activated current) : SameAccount current.1 activated.1 := by
  obtain ⟨state, hvalues⟩ := h.values
  constructor <;> rw [hvalues]

/-- A suspension or a reconnection keeps the way back: what it changes of the router and
the record is what a later reconnection sets again. -/
theorem Restorable.step (h : Restorable plan activated current)
    (hjob : delivery.job_type = .suspend_subscription ∨ delivery.job_type = .reconnect_subscription) :
    Restorable plan activated (delivered plan current delivery) := by
  obtain ⟨sub, tables⟩ := current
  have hlocated : delivery.job_type ∈ locatedJobs := by
    rcases hjob with hjob | hjob <;> rw [hjob] <;> decide
  have hrepeatable : delivery.job_type ∈ repeatableJobs := by
    rcases hjob with hjob | hjob <;> rw [hjob] <;> decide
  have htables : (delivered plan (sub, tables) delivery).2 = tables.serve plan activated.1 delivery.job_type :=
    (delivered_tables hrepeatable).trans (h.account.serve tables)
  constructor
  case values =>
    by_cases hgps : SubscriptionValues.HasGps sub.toSubscriptionValues
    · obtain ⟨state, hvalues⟩ := h.values
      dsimp only at hvalues
      rw [delivered_values hrepeatable fun _ => hgps]
      rcases hjob with hjob | hjob <;> rw [hjob]
      · exact ⟨.suspended, by simp only [finished, prepared, hvalues]⟩
      · exact ⟨.active, by simp only [finished, prepared, hvalues]⟩
    · rw [delivered_refused hlocated hgps]
      exact h.values
  case active => exact h.active
  case refused =>
    intro hgps
    have hsub : sub = activated.1 := h.refused hgps
    rw [← hsub] at hgps
    exact (delivered_refused hlocated hgps).trans hsub
  case tables =>
    rw [htables]
    rcases hjob with hjob | hjob <;> rw [hjob]
    · exact (RouterTables.serve_suspend_reconnect h.queue).trans h.tables
    · exact (RouterTables.serve_serve tables _).trans h.tables
  case queue =>
    intro hip
    rw [htables]
    exact RouterTables.serve_no_queue hlocated hip (h.queue hip)

/-- A reconnection gives back the state after the activation. -/
theorem Restorable.reconnected (h : Restorable plan activated current)
    (hjob : delivery.job_type = .reconnect_subscription) : delivered plan current delivery = activated := by
  obtain ⟨sub, tables⟩ := current
  have htables : (delivered plan (sub, tables) delivery).2 = activated.2 := by
    rw [delivered_tables (by rw [hjob]; decide), h.account.serve, hjob]
    exact h.tables
  have hsame : SubscriptionValues.HasGps sub.toSubscriptionValues ↔
      SubscriptionValues.HasGps activated.1.toSubscriptionValues := by
    obtain ⟨state, hvalues⟩ := h.values
    dsimp only at hvalues
    rw [hvalues]
    exact Iff.rfl
  refine Prod.ext ?_ htables
  by_cases hgps : SubscriptionValues.HasGps activated.1.toSubscriptionValues
  · apply IspSubscription.eq_of_values
    obtain ⟨state, hvalues⟩ := h.values
    have hactive := h.active hgps
    dsimp only at hvalues
    rw [delivered_values (by rw [hjob]; decide) fun _ => hsame.mpr hgps, hjob]
    simp only [finished, prepared, hvalues]
    rw [← hactive]
  · have hsub : sub = activated.1 := h.refused hgps
    exact (delivered_refused (by rw [hjob]; decide) fun h => hgps (hsame.mp h)).trans hsub

/-- Right after an activation, whether it returned or raised, nothing is to be restored. -/
theorem restorable_activated {sub : IspSubscription} {tables : RouterTables}
    (hjob : delivery.job_type = .activate_subscription) (hfree : tables.NoEntry sub) :
    Restorable plan (delivered plan (sub, tables) delivery) (delivered plan (sub, tables) delivery) := by
  have hqueue : tables.simple_queues.find sub.name = none := by
    have hentry := hfree (.queue sub.name) (by simp)
    exact Option.map_eq_none_iff.mp hentry
  have haccount : SameAccount (delivered plan (sub, tables) delivery).1 sub := by
    by_cases hgps : SubscriptionValues.HasGps sub.toSubscriptionValues
    · exact sameAccount_of_finished (delivered_values (by rw [hjob]; decide) fun _ => hgps)
    · rw [delivered_refused (by rw [hjob]; decide) hgps]
      exact ⟨rfl, rfl, rfl, rfl, rfl⟩
  have htables : (delivered plan (sub, tables) delivery).2 = tables.serve plan sub .activate_subscription := by
    rw [delivered_tables (by rw [hjob]; decide), hjob]
  constructor
  case values => exact ⟨_, rfl⟩
  case active =>
    intro hgps
    by_cases hown : SubscriptionValues.HasGps sub.toSubscriptionValues
    · rw [delivered_values (by rw [hjob]; decide) fun _ => hown, hjob]
      rfl
    · rw [delivered_refused (by rw [hjob]; decide) hown] at hgps
      exact absurd hgps hown
  case refused => exact fun _ => rfl
  case tables =>
    rw [haccount.serve, htables]
    exact RouterTables.serve_activate_reconnect
  case queue =>
    intro hip
    rw [haccount.service_ip] at hip
    rw [htables, haccount.name]
    exact RouterTables.serve_no_queue (by decide) hip hqueue

end

/-- After an activation on a router without entries of the subscription, any suspensions
and reconnections that end with a reconnection leave the router and the record as right
after the activation. -/
theorem suspensions_undone (plan : IspServicePlan) (sub : IspSubscription) (tables : RouterTables)
    (hfree : tables.NoEntry sub) (today : Date) (token_hex : String) (jobs : List Delivery)
    (hjobs : ∀ job ∈ jobs, job.job_type = .suspend_subscription ∨ job.job_type = .reconnect_subscription)
    (hlast : ∃ job, jobs.getLast? = some job ∧ job.job_type = .reconnect_subscription) :
    jobs.foldl (delivered plan) (delivered plan (sub, tables) ⟨.activate_subscription, today, token_hex⟩) =
      delivered plan (sub, tables) ⟨.activate_subscription, today, token_hex⟩ := by
  obtain ⟨last, hlast, hreconnect⟩ := hlast
  obtain ⟨earlier, rfl⟩ := List.getLast?_eq_some_iff.mp hlast
  have hstart := @restorable_activated plan ⟨.activate_subscription, today, token_hex⟩ sub tables rfl hfree
  have hrun : ∀ (current : Provisioned) (run : List Delivery),
      (∀ job ∈ run, job.job_type = .suspend_subscription ∨ job.job_type = .reconnect_subscription) →
      Restorable plan (delivered plan (sub, tables) ⟨.activate_subscription, today, token_hex⟩) current →
      Restorable plan (delivered plan (sub, tables) ⟨.activate_subscription, today, token_hex⟩)
        (run.foldl (delivered plan) current) := by
    intro current run hrun hcurrent
    induction run generalizing current with
    | nil => exact hcurrent
    | cons job run ih =>
      exact ih _ (fun other hother => hrun other (List.mem_cons_of_mem _ hother))
        (hcurrent.step (hrun job List.mem_cons_self))
  rw [List.foldl_append, List.foldl_cons, List.foldl_nil]
  exact (hrun _ earlier (fun job hjob => hjobs job (List.mem_append_left _ hjob)) hstart).reconnected hreconnect

theorem RouterTables.empty_noEntry (sub : IspSubscription) : RouterTables.empty.NoEntry sub := by
  intro key _
  cases key <;> rfl

/-- A PPPoE customer is suspended twice and reconnected. -/
theorem suspensions_undone_twice :
    [⟨.suspend_subscription, firstDay, ""⟩, ⟨.suspend_subscription, nextDay, ""⟩,
        ⟨.reconnect_subscription, nextDay, ""⟩].foldl (delivered (twoServices 1))
        (delivered (twoServices 1) (fiberCustomer, RouterTables.empty) ⟨.activate_subscription, firstDay, ""⟩) =
      delivered (twoServices 1) (fiberCustomer, RouterTables.empty) ⟨.activate_subscription, firstDay, ""⟩ :=
  suspensions_undone (twoServices 1) fiberCustomer RouterTables.empty (RouterTables.empty_noEntry fiberCustomer)
    firstDay "" _ (by simp) ⟨_, rfl, rfl⟩

end getupnet.isp_mikrotik

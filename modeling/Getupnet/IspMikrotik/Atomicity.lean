import Getupnet.IspMikrotik.Delivery

open relational
open calendar
open getupnet.isp_core

namespace getupnet.isp_mikrotik

/-- What an activation ensures is on the router already, as it would be written. -/
structure RouterTables.Activated (plan : IspServicePlan) (sub : IspSubscription) (tables : RouterTables) :
    Prop where
  secret : plan.service_type = .pppoe → ∃ secret, tables.ppp_secrets.find sub.pppoe_username = some secret ∧
    secret.password = sub.pppoe_password ∧ secret.profile = textOr plan.mikrotik_profile "default" ∧
    secret.disabled = false
  lease : plan.service_type = .dhcp → truthy sub.service_ip = true → truthy sub.service_mac = true →
    ∃ lease, tables.dhcp_leases.find sub.service_ip = some lease ∧ lease.comment = sub.name ∧
      lease.disabled = false
  queue : truthy sub.service_ip = true → ∃ queue, tables.simple_queues.find sub.name = some queue ∧
    queue.max_limit = ⟨plan.down_mbps, plan.up_mbps⟩ ∧ queue.disabled = false

section

variable {plan : IspServicePlan} {sub : IspSubscription} {tables : RouterTables}

theorem RouterTables.ensureSecret_eq_self_iff :
    tables.ensureSecret plan sub = tables ↔
      ∃ secret, tables.ppp_secrets.find sub.pppoe_username = some secret ∧ secret.password = sub.pppoe_password ∧
        secret.profile = textOr plan.mikrotik_profile "default" ∧ secret.disabled = false := by
  have htable : tables.ensureSecret plan sub = tables ↔
      (tables.ensureSecret plan sub).ppp_secrets = tables.ppp_secrets :=
    ⟨congrArg RouterTables.ppp_secrets, congrArg fun ppp_secrets => { tables with ppp_secrets }⟩
  rw [htable]
  refine (tables.ppp_secrets.ensure_eq_self_iff sub.pppoe_username _ _).trans ?_
  refine exists_congr fun secret => and_congr_right fun _ => ?_
  cases secret
  simp [eq_comm]

theorem RouterTables.ensureLease_eq_self_iff :
    tables.ensureLease sub = tables ↔
      (truthy sub.service_ip = true → truthy sub.service_mac = true →
        ∃ lease, tables.dhcp_leases.find sub.service_ip = some lease ∧ lease.comment = sub.name ∧
          lease.disabled = false) := by
  unfold RouterTables.ensureLease
  by_cases hskip : truthy sub.service_ip = false ∨ truthy sub.service_mac = false
  · rw [if_pos hskip]
    refine iff_of_true rfl fun hip hmac => ?_
    rw [hip, hmac] at hskip
    simp at hskip
  · rw [if_neg hskip]
    rw [not_or, Bool.not_eq_false, Bool.not_eq_false] at hskip
    simp only [hskip.1, hskip.2, true_imp_iff]
    refine Iff.trans ⟨congrArg RouterTables.dhcp_leases, congrArg fun dhcp_leases => { tables with dhcp_leases }⟩ ?_
    refine (tables.dhcp_leases.ensure_eq_self_iff sub.service_ip _ _).trans ?_
    refine exists_congr fun lease => and_congr_right fun _ => ?_
    cases lease
    simp [eq_comm]

theorem RouterTables.ensureQueue_eq_self_iff :
    tables.ensureQueue plan sub = tables ↔
      (truthy sub.service_ip = true → ∃ queue, tables.simple_queues.find sub.name = some queue ∧
        queue.max_limit = ⟨plan.down_mbps, plan.up_mbps⟩ ∧ queue.disabled = false) := by
  unfold RouterTables.ensureQueue
  by_cases hip : truthy sub.service_ip = false
  · rw [if_pos hip]
    refine iff_of_true rfl fun hset => ?_
    rw [hip] at hset
    cases hset
  · rw [if_neg hip]
    rw [Bool.not_eq_false] at hip
    simp only [hip, true_imp_iff]
    refine Iff.trans
      ⟨congrArg RouterTables.simple_queues, congrArg fun simple_queues => { tables with simple_queues }⟩ ?_
    refine (tables.simple_queues.ensure_eq_self_iff sub.name _ _).trans ?_
    refine exists_congr fun queue => and_congr_right fun _ => ?_
    cases queue
    simp [eq_comm]

/-- Two changes leave a router as it is exactly when each does, if the first shows once
the second is made. -/
theorem both_eq_self_iff {first second : RouterTables → RouterTables}
    (hshows : second (first tables) = tables → first tables = tables) :
    second (first tables) = tables ↔ first tables = tables ∧ second tables = tables := by
  constructor
  · intro h
    have hfirst := hshows h
    rw [hfirst] at h
    exact ⟨hfirst, h⟩
  · rintro ⟨hfirst, hsecond⟩
    rw [hfirst, hsecond]

/-- An activation leaves a router as it is exactly when everything that it ensures is
there already. -/
theorem RouterTables.serve_activate_eq_self_iff :
    tables.serve plan sub .activate_subscription = tables ↔ tables.Activated plan sub := by
  have hactivated : tables.Activated plan sub ↔
      (plan.service_type = .pppoe → tables.ensureSecret plan sub = tables) ∧
        (plan.service_type = .dhcp → tables.ensureLease sub = tables) ∧ tables.ensureQueue plan sub = tables := by
    rw [RouterTables.ensureSecret_eq_self_iff, RouterTables.ensureLease_eq_self_iff,
      RouterTables.ensureQueue_eq_self_iff]
    exact ⟨fun h => ⟨h.secret, h.lease, h.queue⟩, fun h => ⟨h.1, h.2.1, h.2.2⟩⟩
  rw [hactivated]
  cases hservice : plan.service_type with
  | pppoe =>
    rw [RouterTables.serve_pppoe hservice]
    refine (both_eq_self_iff fun h => ?_).trans ?_
    · have hsecrets := congrArg RouterTables.ppp_secrets h
      rw [RouterTables.ensureQueue_ppp_secrets] at hsecrets
      exact congrArg (fun ppp_secrets => { tables with ppp_secrets }) hsecrets
    · simp
  | dhcp =>
    rw [RouterTables.serve_dhcp hservice]
    refine (both_eq_self_iff fun h => ?_).trans ?_
    · have hleases := congrArg RouterTables.dhcp_leases h
      rw [RouterTables.ensureQueue_dhcp_leases] at hleases
      unfold RouterTables.ensureLease at hleases ⊢
      split at hleases
      · rename_i hskip
        rw [if_pos hskip]
      · rename_i hsent
        rw [if_neg hsent]
        exact congrArg (fun dhcp_leases => { tables with dhcp_leases }) hleases
    · simp
  | hotspot =>
    rw [RouterTables.serve_hotspot hservice]
    simp

end

variable {μ : Type}

/-- An activation that raises leaves the router as it was, and one after which the
subscription is a draft has added no entry of it. -/
structure ActivationAtomic (surroundings : Surroundings RouterTables) (now id : Nat)
    (world : World (Records μ) RouterTables) : Prop where
  raised : ∀ exception after,
    (IspProvisioningJob.execute (dispatch surroundings) now id).exec world = (.error exception, after) →
    after.outside = world.outside
  draft : ∀ sub, (world.jobs.row id).subscription_id = some sub →
    (((IspProvisioningJob.execute (dispatch surroundings) now id).commit World.rollback world).subscription sub).state =
      .draft →
    ∀ key, world.outside.entry key = none →
      ((IspProvisioningJob.execute (dispatch surroundings) now id).commit World.rollback world).outside.entry key = none

/-- A runnable activation of a subscription that has a router finds coordinates on the
record, or everything that it ensures on the router already. -/
def ActivationReady (surroundings : Surroundings RouterTables) (id : Nat)
    (world : World (Records μ) RouterTables) :
    Prop :=
  (world.jobs.row id).Runnable → ∀ sub router, (world.jobs.row id).subscription_id = some sub →
    get_router surroundings.network (world.jobs.row id) (world.subscription sub) = .ok router →
    SubscriptionValues.HasGps (world.subscription sub).toSubscriptionValues ∨
      world.outside.Activated (world.planOf sub) (world.subscription sub)

section

variable {surroundings : Surroundings RouterTables} {now id sub router : Nat} {job : IspProvisioningJob}
  {world : World (Records μ) RouterTables} {records : Records μ} {tables : RouterTables}

theorem connection_of_router {sub : IspSubscription}
    (hclient : ∀ router, surroundings.network.get_routeros_client router = .ok RouterTables.cmd)
    (hrouter : get_router surroundings.network job sub = .ok router) :
    surroundings.connection job sub = .ok RouterTables.cmd := by
  rw [Surroundings.connection, hrouter]
  exact hclient router

/-- An activation job that finds its router makes its commands' changes, and raises
exactly when the record has no coordinates. -/
theorem dispatch_activation
    (hclient : ∀ router, surroundings.network.get_routeros_client router = .ok RouterTables.cmd)
    (htype : job.job_type = .activate_subscription) (hsub : job.subscription_id = some sub)
    (hrouter : get_router surroundings.network job (records.subscriptions.row sub) = .ok router) :
    ((dispatch surroundings id job).exec (records, tables)).2.2 =
        tables.serve (records.plans (records.subscriptions.row sub).plan_id) (records.subscriptions.row sub)
          .activate_subscription ∧
      (((dispatch surroundings id job).exec (records, tables)).1 = .ok () ↔
        SubscriptionValues.HasGps (records.subscriptions.row sub).toSubscriptionValues) := by
  have hexec := @subscription_handler_exec (records.plans (records.subscriptions.row sub).plan_id) surroundings.today
    surroundings.token_hex .activate_subscription _ (records.subscriptions.row sub) tables (by decide) rfl
  have hvalid := finished_valid_iff (records.plans (records.subscriptions.row sub).plan_id) surroundings.today
    .activate_subscription (records.subscriptions.row sub)
  have hlocated : JobType.activate_subscription ∈ locatedJobs := by decide
  simp only [hlocated, true_imp_iff] at hvalid
  have hdispatch : dispatch surroundings id job =
      (handle_subscription surroundings job : Method (Records μ × _) _ _) := by
    unfold dispatch
    rw [htype]
  rw [hdispatch, handle_subscription, hsub]
  simp only [Method.exec_bind, Method.exec_get, onSubscription, Method.exec_focus, connection_of_router hclient hrouter,
    htype, subscription_handler, Option.getD_some, hexec]
  by_cases hgps : SubscriptionValues.HasGps (records.subscriptions.row sub).toSubscriptionValues
  · rw [stored_of_valid (hvalid.mpr hgps)]
    exact ⟨rfl, iff_of_true rfl hgps⟩
  · obtain ⟨exception, herror⟩ := @stored_of_refused (tables.serve _ _ .activate_subscription) _ _
      fun hvalues => hgps (hvalid.mp hvalues)
    rw [herror]
    exact ⟨rfl, iff_of_false (fun h => by cases h) hgps⟩

/-- Without a router, or without a subscription, an activation job sends nothing. -/
theorem dispatch_activation_unconnected (htype : job.job_type = .activate_subscription)
    (hrouter : ∀ sub router, job.subscription_id = some sub →
      get_router surroundings.network job (records.subscriptions.row sub) ≠ .ok router) :
    ((dispatch surroundings id job).exec (records, tables)).2.2 = tables := by
  have hdispatch : dispatch surroundings id job =
      (handle_subscription surroundings job : Method (Records μ × _) _ _) := by
    unfold dispatch
    rw [htype]
  rw [hdispatch, handle_subscription]
  cases hsub : job.subscription_id with
  | none => rfl
  | some sub =>
    cases hfound : get_router surroundings.network job (records.subscriptions.row sub) with
    | ok router => exact absurd hfound (hrouter sub router hsub)
    | error exception =>
      have hconnection : surroundings.connection job (records.subscriptions.row sub) = .error exception := by
        rw [Surroundings.connection, hfound]
        rfl
      simp only [Method.exec_bind, Method.exec_get, onSubscription, Method.exec_focus, hconnection, htype,
        subscription_handler, Option.getD_some, handle_activate_subscription,
        Handler.exec_ensure_pppoe_credentials,
        Method.exec_ofExcept]

end

/-- For every activation job on a router that accepts well-formed commands: an
activation that raises leaves the router as it was, and one that leaves a draft has
added none of its entries, exactly when the record has coordinates or everything that
the activation ensures is on the router already. -/
theorem activation_atomic_iff (surroundings : Surroundings RouterTables)
    (hclient : ∀ router, surroundings.network.get_routeros_client router = .ok RouterTables.cmd) (now id : Nat)
    (world : World (Records μ) RouterTables) (htype : (world.jobs.row id).job_type = .activate_subscription) :
    ActivationAtomic surroundings now id world ↔ ActivationReady surroundings id world := by
  have hstarted : ((world.jobs.row id).started now).job_type = .activate_subscription := htype
  have hconnected : ∀ sub router, (world.jobs.row id).subscription_id = some sub →
      get_router surroundings.network (world.jobs.row id) (world.subscription sub) = .ok router → _ :=
    fun sub router hsub hrouter => @dispatch_activation μ surroundings id sub router
      ((world.jobs.row id).started now) world.records world.outside hclient hstarted hsub hrouter
  have hunconnected := fun hrouter => @dispatch_activation_unconnected μ surroundings id
    ((world.jobs.row id).started now) world.records world.outside hstarted hrouter
  cases hdispatch :
      (dispatch surroundings id ((world.jobs.row id).started now)).exec (world.records, world.outside) with
  | mk result rest =>
    rw [hdispatch] at hconnected hunconnected
    have hexec := IspProvisioningJob.execute_exec (dispatch surroundings) now id hdispatch
    constructor
    · intro hatomic hrunnable sub router hsub hrouter
      obtain ⟨hserved, hreturns⟩ := hconnected sub router hsub hrouter
      by_cases hgps : SubscriptionValues.HasGps (world.subscription sub).toSubscriptionValues
      · exact Or.inl hgps
      · right
        cases result with
        | ok value => exact absurd (hreturns.mp rfl) hgps
        | error exception =>
          rw [if_pos hrunnable, if_pos hrunnable] at hexec
          have hkept : rest.2 = world.outside := hatomic.raised exception _ hexec
          exact RouterTables.serve_activate_eq_self_iff.mp (hserved.symm.trans hkept)
    · intro hready
      have hraised : ∀ exception, (world.jobs.row id).Runnable → result = .error exception →
          rest.2 = world.outside := by
        rintro exception hrunnable rfl
        by_cases hrouter : ∃ sub router, (world.jobs.row id).subscription_id = some sub ∧
            get_router surroundings.network (world.jobs.row id) (world.subscription sub) = .ok router
        · obtain ⟨sub, router, hsub, hrouter⟩ := hrouter
          obtain ⟨hserved, hreturns⟩ := hconnected sub router hsub hrouter
          rcases hready hrunnable sub router hsub hrouter with hgps | hactivated
          · cases hreturns.mpr hgps
          · exact hserved.trans (RouterTables.serve_activate_eq_self_iff.mpr hactivated)
        · exact hunconnected fun sub router hsub hfound => hrouter ⟨sub, router, hsub, hfound⟩
      constructor
      case raised =>
        intro exception after hafter
        rw [hexec] at hafter
        obtain ⟨hresult, rfl⟩ := Prod.mk.inj hafter
        by_cases hrunnable : (world.jobs.row id).Runnable
        · rw [if_pos hrunnable] at hresult
          simp only [if_pos hrunnable]
          exact hraised exception hrunnable hresult
        · rw [if_neg hrunnable] at hresult
          cases hresult
      case draft =>
        intro sub hsub hdraft key hnone
        by_cases hrunnable : (world.jobs.row id).Runnable
        · rw [if_pos hrunnable, if_pos hrunnable] at hexec
          cases result with
          | ok value =>
            have hstate := execute_state hexec sub
            rw [Method.commit_of_ok hexec] at hdraft
            rw [hdraft, if_pos ⟨hrunnable, hsub⟩, htype] at hstate
            cases hstate
          | error exception =>
            rw [Method.commit_of_error hexec, World.rollback]
            dsimp only
            rw [hraised exception hrunnable rfl]
            exact hnone
        · rw [if_neg hrunnable, if_neg hrunnable] at hexec
          rw [Method.commit_of_ok hexec]
          exact hnone

/-- The installation of a draft whose coordinates nobody has entered yet. -/
def unlocatedCustomer : IspSubscription where
  toSubscriptionValues := { leasedCustomer.toSubscriptionValues with gps_lat := 0, gps_lng := 0 }
  checked := rfl

/-- A customer with coordinates. -/
theorem activation_atomic_iff_located :
    ActivationAtomic sharedRouter 0 0 (twoCustomers leasedCustomer fiberCustomer .activate_subscription) ↔
      ActivationReady sharedRouter 0 (twoCustomers leasedCustomer fiberCustomer .activate_subscription) :=
  activation_atomic_iff sharedRouter (fun _ => rfl) 0 0
    (twoCustomers leasedCustomer fiberCustomer .activate_subscription) rfl

/-- The activation of a draft without coordinates raises at its last write and leaves
a lease and a queue on the router. -/
theorem unlocated_draft_provisioned :
    ((twoCustomers unlocatedCustomer fiberCustomer .activate_subscription).subscription 0).state = .draft ∧
      ¬ ActivationAtomic sharedRouter 0 0 (twoCustomers unlocatedCustomer fiberCustomer .activate_subscription) := by
  refine ⟨rfl, fun h => ?_⟩
  have hlease := h.draft 0 rfl rfl (.lease (some "10.0.0.2")) rfl
  cases hlease

end getupnet.isp_mikrotik

import Mathlib.Data.List.MinMax
import Getupnet.Relational.Runs
import Getupnet.IspMikrotik.Access
import Getupnet.IspMikrotik.Router

open relational
open getupnet.isp_core

namespace getupnet.isp_mikrotik

variable {τ κ : Type}

/-- The database as it was last committed, and as the running transaction has
made it since. -/
structure Session (τ : Type) where
  stored : World (Records Registry) (List Sent × τ)
  current : World (Records Registry) (List Sent × τ)

/-- `action_healthcheck`: the jobs name the device of their router. -/
def IspMikrotikRouter.action_healthcheck (clock : Nat → Nat) (self : List Nat) :
    Odoo Registry (List Sent × τ) Unit :=
  Method.forEach (fun router => modify fun world => { world with
    jobs := world.jobs.create {
      job_type := .mikrotik_healthcheck
      device_id := some (world.records.extension.routers.row router).device_id
      sector_id := (world.records.extension.device router).sector_id
      requested_at := clock world.jobs.next_id } }) self

/-- What happens to routers, devices, subscriptions and their jobs, one call at a
time. Several calls may make up one transaction, which `commit` ends. -/
inductive RoutingEvent (τ : Type) where
  | action_activate (clock : Nat → Nat) (token_hex : Nat → String) (subs : List Nat)
  | action_suspend (clock : Nat → Nat) (subs : List Nat)
  | action_reconnect (clock : Nat → Nat) (subs : List Nat)
  | action_terminate (clock : Nat → Nat) (subs : List Nat)
  | action_change_plan (clock : Nat → Nat) (subs : List Nat)
  | create_request (request : IspPlanChangeRequest)
  | action_apply (clock : Nat → Nat) (token_hex : Nat → String) (requests : List Nat)
  | action_healthcheck (clock : Nat → Nat) (routers : List Nat)
  | write_subscription (id : Nat) (change : SubscriptionValues → SubscriptionValues)
  | create_device (device : IspDevice)
  | write_device (id : Nat) (change : IspDevice → IspDevice)
  | create_router (router : IspMikrotikRouter)
  | write_router (id : Nat) (change : IspMikrotikRouter → IspMikrotikRouter)
  | execute (site : Site τ) (now job : Nat)
  | commit

/-- The devices and routers as a call that goes through leaves them, but for what
a healthcheck notes on a router. -/
def RoutingEvent.registry (world : World (Records Registry) (List Sent × τ)) : RoutingEvent τ → Registry
  | .create_device device =>
    { world.records.extension with devices := world.records.extension.devices.create device }
  | .write_device id change =>
    { world.records.extension with devices := world.records.extension.devices.write id change }
  | .create_router router =>
    { world.records.extension with routers := world.records.extension.routers.create router }
  | .write_router id change => world.records.extension.writeRouter id change
  | .execute site _ job =>
    if (world.jobs.row job).Runnable then site.edited world.records (world.jobs.row job)
    else world.records.extension
  | _ => world.records.extension

def RoutingEvent.edit (self : RoutingEvent τ) : Odoo Registry (List Sent × τ) Unit :=
  modify fun world => { world with records := { world.records with extension := self.registry world } }

def RoutingEvent.method : RoutingEvent τ → Odoo Registry (List Sent × τ) Unit
  | .action_activate clock token_hex subs => IspSubscription.action_activate clock token_hex subs
  | .action_suspend clock subs => IspSubscription.action_suspend clock subs
  | .action_reconnect clock subs => IspSubscription.action_reconnect clock subs
  | .action_terminate clock subs => IspSubscription.action_terminate clock subs
  | .action_change_plan clock subs => IspSubscription.action_change_plan clock subs
  | .create_request request => modify fun world => { world with
      records := { world.records with
        plan_change_requests := world.records.plan_change_requests.create request } }
  | .action_apply clock token_hex requests => IspPlanChangeRequest.action_apply clock token_hex requests
  | .action_healthcheck clock routers => IspMikrotikRouter.action_healthcheck clock routers
  | .write_subscription id change => do
    let record ← Method.ofExcept (((← get).subscription id).write change)
    modify (World.writeSubscription · id record)
  | .create_device device => RoutingEvent.edit (.create_device device)
  | .write_device id change => RoutingEvent.edit (.write_device id change)
  | .create_router router => RoutingEvent.edit (.create_router router)
  | .write_router id change => RoutingEvent.edit (.write_router id change)
  | .execute site now job => IspProvisioningJob.execute (site.dispatch now) now job
  | .commit => pure ()

/-- A call, or the end of a transaction. An exception undoes what the transaction
has done to the database. -/
def RoutingEvent.run (event : RoutingEvent τ) (session : Session τ) : Session τ :=
  match event, event.method.exec session.current with
  | .commit, _ => ⟨session.current, session.current⟩
  | _, (.ok (), after) => { session with current := after }
  | _, (.error _, after) => { session with current := session.stored.rollback after }

/-- An executed job exists, and its router is searched by name. -/
def RoutingEvent.Possible [LE κ] (collate : String → κ) (world : World (Records Registry) (List Sent × τ)) :
    RoutingEvent τ → Prop
  | .execute site _ job => job ∈ world.jobs.ids ∧ site.search.Lawful collate
  | _ => True

def RoutingStep [LE κ] (collate : String → κ) (session : Session τ) (event : RoutingEvent τ)
    (after : Session τ) : Prop :=
  event.Possible collate session.current ∧ after = event.run session

/-- The call leaves the sector and the router of a subscription as they are. -/
def RoutingEvent.Unedited (sub : Nat) : RoutingEvent τ → Prop
  | .write_subscription id change => id = sub → ∀ values : SubscriptionValues,
    (change values).sector_id = values.sector_id ∧ (change values).router_id = values.router_id
  | _ => True

/-- The call runs the handler of an activation of a subscription. -/
def RoutingEvent.Activates (sub : Nat) (world : World (Records Registry) (List Sent × τ)) : RoutingEvent τ → Prop
  | .execute _ _ job => (world.jobs.row job).Runnable ∧ (world.jobs.row job).job_type = .activate_subscription ∧
    (world.jobs.row job).subscription_id = some sub
  | _ => False

/-- The subscription has a router of its own; or, if it is now activated, one
router leads its sector, and if it was activated before, the router that leads
its sector leads it still after the call. -/
def RoutingEvent.LeavesRouting [LT κ] (collate : String → κ) (sub : Nat)
    (world : World (Records Registry) (List Sent × τ)) (event : RoutingEvent τ) : Prop :=
  (world.subscription sub).router_id = none →
    (event.Activates sub world →
      ∃ leader, world.records.extension.Leads collate (world.subscription sub).sector_id leader) ∧
    ((world.records.extension.provisioned sub).isSome = true →
      ∀ leader, world.records.extension.Leads collate (world.subscription sub).sector_id leader →
        (event.registry world).Leads collate (world.subscription sub).sector_id leader)

/-- A subscription is settled, and its jobs name no device. -/
structure Routed [LT κ] (collate : String → κ) (sub : Nat) (world : World (Records Registry) (List Sent × τ)) :
    Prop where
  settled : Settled collate sub world.records
  unpinned : ∀ job ∈ world.jobs.ids, (world.jobs.row job).subscription_id = some sub →
    (world.jobs.row job).device_id = none

/-- Whatever was sent for a subscription since it was provisioned went to the
router that it was provisioned on. -/
def SentHome (sub : Nat) (sent : List Sent) : Prop :=
  ∀ entry ∈ sent, entry.subscription_id = sub → ∀ router, entry.provisioned = some router → entry.router = router

section

variable [LinearOrder κ] {collate : String → κ} {sub : Nat} {world after : World (Records Registry) (List Sent × τ)}
  {event : RoutingEvent τ}

theorem Routed.writeSubscription {id : Nat} {record : IspSubscription} (h : Routed collate sub world)
    (hrecord : id = sub → record.sector_id = (world.subscription sub).sector_id ∧
      record.router_id = (world.subscription sub).router_id) :
    Routed collate sub (world.writeSubscription id record) := by
  refine ⟨fun home hhome => ?_, h.unpinned⟩
  have hsettled := h.settled home hhome
  by_cases hsame : sub = id
  · subst hsame
    obtain ⟨hsector, hrouter⟩ := hrecord rfl
    have hrow : ((world.writeSubscription sub record).records.subscriptions.row sub) = record :=
      world.writeSubscription_self sub record
    rw [HomeOf, hrow, hsector, hrouter]
    exact hsettled
  · have hrow : (world.writeSubscription id record).records.subscriptions.row sub =
        world.records.subscriptions.row sub := world.writeSubscription_ne hsame record
    rw [HomeOf, hrow]
    exact hsettled

theorem Routed.createJob {job : IspProvisioningJob} (h : Routed collate sub world)
    (hjob : job.subscription_id = some sub → job.device_id = none) :
    Routed collate sub { world with jobs := world.jobs.create job } := by
  refine ⟨h.settled, fun id hid hsub => ?_⟩
  obtain hold | hnew := List.mem_append.mp hid
  · dsimp only at hsub ⊢
    rw [Store.create_row_of_lt _ (world.jobs.ids_fresh id hold)] at hsub ⊢
    exact h.unpinned id hold hsub
  · rw [List.mem_singleton.mp hnew] at hsub ⊢
    dsimp only at hsub ⊢
    rw [Store.create_row_new] at hsub ⊢
    exact hjob hsub

theorem Routed.queue_job {clock : Nat → Nat} {id : Nat} {job_type : JobType} (h : Routed collate sub world) :
    Routed collate sub (world.queue_job clock id job_type) := h.createJob fun _ => rfl

theorem Routed.writeRequest {id : Nat} {change : IspPlanChangeRequest → IspPlanChangeRequest}
    (h : Routed collate sub world) : Routed collate sub (world.writeRequest id change) := ⟨h.settled, h.unpinned⟩

theorem Routed.queue_each {clock : Nat → Nat} {job_type : JobType} {subs : List Nat}
    (h : Routed collate sub world)
    (hexec : (IspSubscription.queue_each clock job_type subs).exec world = (.ok (), after)) :
    Routed collate sub after := by
  refine Method.forEach_invariant (fun id _ state next hstate hnext => ?_) h hexec
  obtain ⟨_, rfl⟩ := Prod.mk.inj hnext
  exact hstate.queue_job

theorem Routed.action_activate {clock : Nat → Nat} {token_hex : Nat → String} {subs : List Nat}
    (h : Routed collate sub world)
    (hexec : (IspSubscription.action_activate clock token_hex subs).exec world = (.ok (), after)) :
    Routed collate sub after := by
  refine Method.forEach_invariant (fun id _ state next hstate hnext => ?_) h hexec
  rw [IspSubscription.activate_exec] at hnext
  obtain ⟨_, rfl⟩ := Prod.mk.inj hnext
  exact (hstate.writeSubscription fun hsame => by rw [← hsame]; exact ⟨rfl, rfl⟩).queue_job

theorem Routed.action_apply {clock : Nat → Nat} {token_hex : Nat → String} {requests : List Nat}
    (h : Routed collate sub world)
    (hexec : (IspPlanChangeRequest.action_apply clock token_hex requests).exec world = (.ok (), after)) :
    Routed collate sub after := by
  refine Method.forEach_invariant (fun id _ state next hstate hnext => ?_) h hexec
  rw [IspPlanChangeRequest.apply_exec] at hnext
  obtain ⟨_, rfl⟩ := Prod.mk.inj hnext
  exact (hstate.writeSubscription fun hsame => by rw [← hsame]; exact ⟨rfl, rfl⟩).queue_job.writeRequest

theorem Routed.action_healthcheck {clock : Nat → Nat} {routers : List Nat} (h : Routed collate sub world)
    (hexec : (IspMikrotikRouter.action_healthcheck clock routers).exec world = (.ok (), after)) :
    Routed collate sub after := by
  refine Method.forEach_invariant (fun router _ state next hstate hnext => ?_) h hexec
  obtain ⟨_, rfl⟩ := Prod.mk.inj hnext
  exact hstate.createJob fun hsub => nomatch hsub

/-- An edit of the devices or the routers that leaves the lead of the sector. -/
theorem Routed.edit (h : Routed collate sub world) (hleaves : event.LeavesRouting collate sub world)
    (hprovisioned : (event.registry world).provisioned = world.records.extension.provisioned)
    (hexec : event.edit.exec world = (.ok (), after)) : Routed collate sub after := by
  obtain ⟨_, rfl⟩ := Prod.mk.inj hexec
  refine ⟨fun home hhome => ?_, h.unpinned⟩
  have hbefore : world.records.extension.provisioned sub = some home := hprovisioned ▸ hhome
  obtain hown | ⟨hunset, hleads⟩ := h.settled home hbefore
  · exact Or.inl hown
  · exact Or.inr ⟨hunset, (hleaves hunset).2 (by rw [hbefore]; rfl) home hleads⟩

theorem Routed.execute {site : Site τ} {now job : Nat} (h : Routed collate sub world)
    (hjob : job ∈ world.jobs.ids)
    (hlawful : site.search.Lawful collate)
    (hleaves : (RoutingEvent.execute site now job).LeavesRouting collate sub world)
    (hexec : (IspProvisioningJob.execute (site.dispatch now) now job).exec world = (.ok (), after)) :
    Routed collate sub after := by
  obtain ⟨hjobs, hdispatched⟩ := IspProvisioningJob.execute_returns hexec
  have hunpinned : ∀ id ∈ after.jobs.ids, (after.jobs.row id).subscription_id = some sub →
      (after.jobs.row id).device_id = none := by
    intro id hid hsub
    rw [hjobs] at hid hsub ⊢
    by_cases hsame : id = job
    · subst hsame
      rw [Store.write_row_self] at hsub ⊢
      rw [(IspProvisioningJob.settled_target now _ _).2] at hsub
      rw [IspProvisioningJob.settled_device_id]
      exact h.unpinned id hid hsub
    · rw [Store.write_row_ne _ hsame] at hsub ⊢
      exact h.unpinned id hid hsub
  obtain ⟨hrunnable, hreturned⟩ | ⟨_, hrecords, _⟩ := hdispatched
  · have hdevice : ((world.jobs.row job).started now).subscription_id = some sub →
        ((world.jobs.row job).started now).device_id = none := h.unpinned job hjob
    have hlead : (world.records.subscriptions.row sub).router_id = none →
        ((world.jobs.row job).started now).job_type = .activate_subscription →
        ((world.jobs.row job).started now).subscription_id = some sub →
          ∃ leader, world.records.extension.Leads collate (world.records.subscriptions.row sub).sector_id leader :=
      fun hunset htype hsub => (hleaves hunset).1 ⟨hrunnable, htype, hsub⟩
    have hkeep : (world.records.subscriptions.row sub).router_id = none →
        (world.records.extension.provisioned sub).isSome = true →
        ∀ leader, world.records.extension.Leads collate (world.records.subscriptions.row sub).sector_id leader →
          (site.edited world.records ((world.jobs.row job).started now)).Leads collate
            (world.records.subscriptions.row sub).sector_id leader := by
      intro hunset hprovisioned leader hleads
      have hkept := (hleaves hunset).2 hprovisioned leader hleads
      rw [RoutingEvent.registry, if_pos hrunnable] at hkept
      exact hkept
    exact ⟨Site.dispatch_settled hlawful h.settled hdevice hlead hkeep hreturned, hunpinned⟩
  · refine ⟨?_, hunpinned⟩
    rw [hrecords]
    exact h.settled

/-- A call that goes through keeps a subscription routed. What could change its router are
edits of it, of the devices and of the routers, and the execution of jobs; the conditions
are about these. -/
theorem Routed.call (h : Routed collate sub world) (hunedited : event.Unedited sub)
    (hpossible : event.Possible collate world)
    (hleaves : event.LeavesRouting collate sub world) (hexec : event.method.exec world = (.ok (), after)) :
    Routed collate sub after := by
  cases event with
  | action_activate clock token_hex subs => exact h.action_activate hexec
  | action_suspend clock subs => exact h.queue_each hexec
  | action_reconnect clock subs => exact h.queue_each hexec
  | action_terminate clock subs => exact h.queue_each hexec
  | action_change_plan clock subs => exact h.queue_each hexec
  | create_request request =>
    obtain ⟨_, rfl⟩ := Prod.mk.inj hexec
    exact ⟨h.settled, h.unpinned⟩
  | action_apply clock token_hex requests => exact h.action_apply hexec
  | action_healthcheck clock routers => exact h.action_healthcheck hexec
  | write_subscription id change =>
    rw [RoutingEvent.method, Method.exec_get_bind] at hexec
    obtain ⟨record, hrecord, hwritten⟩ := Method.ofExcept_bind_returns hexec
    obtain ⟨_, rfl⟩ := Prod.mk.inj hwritten
    refine h.writeSubscription fun hsame => ?_
    rw [SubscriptionValues.store_eq_ok hrecord, ← hsame]
    exact hunedited hsame (world.subscription id).toSubscriptionValues
  | create_device device => exact h.edit hleaves rfl hexec
  | write_device id change => exact h.edit hleaves rfl hexec
  | create_router router => exact h.edit hleaves rfl hexec
  | write_router id change => exact h.edit hleaves rfl hexec
  | execute site now job =>
    obtain ⟨hmem, hlawful⟩ := hpossible
    exact h.execute hmem hlawful hleaves hexec
  | commit =>
    obtain ⟨_, rfl⟩ := Prod.mk.inj hexec
    exact h

/-- The calls that execute no job send nothing. -/
theorem RoutingEvent.method_outside (hnot : ∀ site now job, event ≠ .execute site now job) :
    Method.Keeps World.outside event.method := by
  have hloop : ∀ {α : Type} (body : α → Odoo Registry (List Sent × τ) Unit) (values : List α),
      (∀ value, (body value).Keeps World.outside) → (Method.forEach body values).Keeps World.outside := by
    intro α body values hbody
    induction values with
    | nil => exact Method.Keeps.pure
    | cons value rest ih => exact Method.Keeps.bind (hbody value) fun _ => ih
  cases event with
  | execute site now job => exact absurd rfl (hnot site now job)
  | action_activate clock token_hex subs =>
    refine hloop _ _ fun id => Method.Keeps.bind (fun _ => rfl) fun world => ?_
    exact Method.Keeps.bind Method.Keeps.ofExcept fun _ => Method.Keeps.bind (fun _ => rfl) fun _ _ => rfl
  | action_apply clock token_hex requests =>
    refine hloop _ _ fun id => Method.Keeps.bind (fun _ => rfl) fun world => ?_
    refine Method.Keeps.bind Method.Keeps.ofExcept fun _ => Method.Keeps.bind (fun _ => rfl) fun _ => ?_
    exact Method.Keeps.bind (fun _ => rfl) fun _ _ => rfl
  | write_subscription id change =>
    exact Method.Keeps.bind (fun _ => rfl) fun _ => Method.Keeps.bind Method.Keeps.ofExcept fun _ _ => rfl
  | action_suspend clock subs => exact hloop _ _ fun _ _ => rfl
  | action_reconnect clock subs => exact hloop _ _ fun _ _ => rfl
  | action_terminate clock subs => exact hloop _ _ fun _ _ => rfl
  | action_change_plan clock subs => exact hloop _ _ fun _ _ => rfl
  | action_healthcheck clock routers => exact hloop _ _ fun _ _ => rfl
  | _ => exact fun _ => rfl

/-- What a call sends for a settled subscription it sends home, also when it
raises afterwards. -/
theorem SentHome.call (hsent : SentHome sub world.outside.1) (h : Routed collate sub world)
    (hpossible : event.Possible collate world) :
    SentHome sub (event.method.exec world).2.outside.1 := by
  by_cases hexecute : ∃ site now job, event = .execute site now job
  · obtain ⟨site, now, job, rfl⟩ := hexecute
    obtain ⟨hmem, hlawful⟩ := hpossible
    obtain ⟨outcome, hdispatch⟩ : ∃ outcome, (site.dispatch now job ((world.jobs.row job).started now)).exec
      (world.records, world.outside) = outcome := ⟨_, rfl⟩
    rw [RoutingEvent.method, IspProvisioningJob.execute_exec _ now job hdispatch]
    by_cases hrunnable : (world.jobs.row job).Runnable
    · have hlog := @Site.dispatch_sent τ site world.records world.outside.1 world.outside.2
        ((world.jobs.row job).started now) now job
      dsimp only
      rw [if_pos hrunnable]
      rw [hdispatch] at hlog
      obtain hsame | ⟨own, router, hown, hrouter, hadded⟩ := hlog
      · rw [hsame]
        exact hsent
      · rw [hadded]
        intro entry hentry hentrySub home hhome
        obtain hold | hnew := List.mem_append.mp hentry
        · exact hsent entry hold hentrySub home hhome
        · rw [List.mem_singleton.mp hnew] at hentrySub hhome ⊢
          dsimp only at hentrySub hhome ⊢
          rw [hentrySub] at hown hhome
          have hhomeRouter := Site.job_router_of_home hlawful hown (h.unpinned job hmem hown) (h.settled home hhome)
          exact Except.ok.inj (hrouter.symm.trans hhomeRouter)
    · dsimp only
      rw [if_neg hrunnable]
      exact hsent
  · have hkeeps := @RoutingEvent.method_outside τ event fun site now job heq => hexecute ⟨site, now, job, heq⟩
    rw [hkeeps world]
    exact hsent

end

/-- A subscription of the initial state: nothing was sent for it yet, and the jobs
it has name no device. -/
structure Fresh (sub : Nat) (session : Session τ) : Prop where
  committed : session.stored = session.current
  unprovisioned : session.current.records.extension.provisioned sub = none
  unpinned : ∀ job ∈ session.current.jobs.ids, (session.current.jobs.row job).subscription_id = some sub →
    (session.current.jobs.row job).device_id = none
  unsent : ∀ entry ∈ session.current.outside.1, entry.subscription_id ≠ sub

structure Session.Routed [LT κ] (collate : String → κ) (sub : Nat) (session : Session τ) : Prop where
  current : isp_mikrotik.Routed collate sub session.current
  stored : isp_mikrotik.Routed collate sub session.stored
  sent : SentHome sub session.current.outside.1

section

variable [LinearOrder κ] {collate : String → κ} {sub : Nat} {initial session after reached : Session τ}
  {event : RoutingEvent τ} {taken : List (Session τ × RoutingEvent τ)}

theorem Fresh.routed (h : Fresh sub session) : session.Routed collate sub := by
  have hcurrent : isp_mikrotik.Routed collate sub session.current := by
    refine ⟨fun home hhome => ?_, h.unpinned⟩
    rw [h.unprovisioned] at hhome
    cases hhome
  exact ⟨hcurrent, h.committed ▸ hcurrent, fun entry hentry hsub => absurd hsub (h.unsent entry hentry)⟩

theorem Session.Routed.step (h : session.Routed collate sub) (hunedited : event.Unedited sub)
    (hleaves : event.LeavesRouting collate sub session.current)
    (hstep : RoutingStep collate session event after) :
    after.Routed collate sub := by
  obtain ⟨hpossible, rfl⟩ := hstep
  have hsent := h.sent.call h.current hpossible
  unfold RoutingEvent.run
  split
  · exact ⟨h.current, h.current, h.sent⟩
  · rename_i hexec
    rw [hexec] at hsent
    exact ⟨h.current.call hunedited hpossible hleaves hexec, h.stored, hsent⟩
  · rename_i hexec
    rw [hexec] at hsent
    exact ⟨⟨h.stored.settled, h.stored.unpinned⟩, h.stored, hsent⟩

/-- In a run that leaves the routing of a subscription, every job of it goes to the router
that its last activation went to. Calls that raise are undone in the database and not on
the routers, and what they have sent counts as well. -/
theorem jobs_sent_home (hfresh : Fresh sub initial) (run : Run (RoutingStep collate) initial taken reached)
    (hunedited : ∀ entry ∈ taken, entry.2.Unedited sub)
    (hleaves : ∀ entry ∈ taken, entry.2.LeavesRouting collate sub entry.1.current) :
    ∀ session ∈ Run.visited taken reached, SentHome sub session.current.outside.1 := by
  intro session hsession
  have hinvariant := @Run.invariant_of_condition _ _ (RoutingStep collate) initial (Session.Routed collate sub)
    (fun session event => event.Unedited sub ∧ event.LeavesRouting collate sub session.current) hfresh.routed
    (fun session event after hrouted hcondition hstep => hrouted.step hcondition.1 hcondition.2 hstep) taken reached
    run fun entry hentry => ⟨hunedited entry hentry, hleaves entry hentry⟩
  exact (hinvariant session hsession).sent

end

/-- Where one router leads the sector before a call and after it, the call leaves
the routing. -/
theorem RoutingEvent.leavesRouting_of_leads [LinearOrder κ] {collate : String → κ} {sub leader : Nat}
    {world : World (Records Registry) (List Sent × τ)} {event : RoutingEvent τ}
    (hbefore : world.records.extension.Leads collate (world.subscription sub).sector_id leader)
    (hafter : (event.registry world).Leads collate (world.subscription sub).sector_id leader) :
    event.LeavesRouting collate sub world := by
  refine fun _ => ⟨fun _ => ⟨leader, hbefore⟩, fun _ other hother => ?_⟩
  rw [hother.unique hbefore]
  exact hafter

/-- The search that takes the first of several routers of one name. -/
def Search.first [LinearOrder κ] (collate : String → κ) : Search := fun registry domain =>
  (registry.routers.ids.filter domain).argmin fun router => collate (registry.device router).name

theorem Search.first_lawful [LinearOrder κ] (collate : String → κ) : (Search.first collate).Lawful collate where
  found := by
    intro registry domain router hfound
    obtain ⟨hmem, hdomain⟩ := List.mem_filter.mp (List.argmin_mem hfound)
    refine ⟨hmem, hdomain, fun other hother hdomain => ?_⟩
    have hin : other ∈ registry.routers.ids.filter domain := List.mem_filter.mpr ⟨hother, hdomain⟩
    exact List.le_of_mem_argmin (f := fun router => collate (registry.device router).name) hin hfound
  missing := by
    intro registry domain hmissing router hrouter
    have hempty := List.argmin_eq_none.mp hmissing
    exact Bool.eq_false_iff.mpr fun hdomain =>
      List.not_mem_nil (hempty ▸ List.mem_filter.mpr ⟨hrouter, hdomain⟩)

/-- Routers that accept everything, and answer no healthcheck. -/
def quietSite : Site Unit where
  search := Search.first String.length
  connect := fun _ => .ok Client.dry_run
  replies := fun _ => ⟨.error (.other "timed out"), .error (.other "timed out")⟩
  today := firstDay
  token_hex := ""
  other_handler := fun _ => pure ()

/-- A customer that was never activated, in a sector with one router. -/
def oneRouter : World (Records Registry) (List Sent × Unit) where
  jobs := Store.empty { job_type := .change_plan, requested_at := 0 }
  records := {
    subscriptions := (Store.empty leasedCustomer).create leasedCustomer
    plans := twoServices
    plan_change_requests := Store.empty { subscription_id := 0, requested_plan_id := 0 }
    extension := {
      devices := (Store.empty ⟨"", none⟩).create ⟨"north-2", some 0⟩
      routers := (Store.empty { device_id := 0 }).create { device_id := 0 }
      provisioned := fun _ => none } }
  outside := ([], ())

def unservedCustomer : Session Unit := ⟨oneRouter, oneRouter⟩

theorem unservedCustomer_fresh : Fresh 0 unservedCustomer where
  committed := rfl
  unprovisioned := rfl
  unpinned := nofun
  unsent := nofun

def activation : List (RoutingEvent Unit) := [.action_activate id (fun _ => "") [0], .execute quietSite 0 0]

def suspension : List (RoutingEvent Unit) := [.action_suspend id [0], .execute quietSite 1 1]

theorem RoutingStep.run_of_trace [LE κ] {collate : String → κ} (events : List (RoutingEvent τ))
    (session : Session τ)
    (h : ∀ entry ∈ Run.trace RoutingEvent.run session events, entry.2.Possible collate entry.1.current) :
    Run (RoutingStep collate) session (Run.trace RoutingEvent.run session events)
      (Run.last RoutingEvent.run session events) :=
  Run.of_trace fun entry hentry => ⟨h entry hentry, rfl⟩

/-- A second router of the sector. -/
def addition (name : String) : List (RoutingEvent Unit) :=
  [.create_device ⟨name, some 0⟩, .create_router { device_id := 1 }]

/-- A second router is added to the sector between the two jobs, whose name comes
after that of the first one: both jobs are sent to the first one. -/
theorem jobs_sent_home_two_routers :
    SentHome 0 (Run.last RoutingEvent.run unservedCustomer
      (activation ++ addition "south-10" ++ suspension)).current.outside.1 := by
  have hlawful := Search.first_lawful String.length
  have hpossible : ∀ entry ∈ Run.trace RoutingEvent.run unservedCustomer
      (activation ++ addition "south-10" ++ suspension), entry.2.Possible String.length entry.1.current :=
    Run.forall_mem_trace.mpr ⟨trivial, Run.forall_mem_trace.mpr ⟨⟨by decide, hlawful⟩,
      Run.forall_mem_trace.mpr ⟨trivial, Run.forall_mem_trace.mpr ⟨trivial,
        Run.forall_mem_trace.mpr ⟨trivial, Run.forall_mem_trace.mpr ⟨⟨by decide, hlawful⟩,
        Run.forall_mem_trace_nil⟩⟩⟩⟩⟩⟩
  have hunedited : ∀ entry ∈ Run.trace RoutingEvent.run unservedCustomer
      (activation ++ addition "south-10" ++ suspension), entry.2.Unedited 0 :=
    Run.forall_mem_trace.mpr ⟨trivial, Run.forall_mem_trace.mpr ⟨trivial, Run.forall_mem_trace.mpr ⟨trivial,
      Run.forall_mem_trace.mpr ⟨trivial, Run.forall_mem_trace.mpr ⟨trivial,
        Run.forall_mem_trace.mpr ⟨trivial, Run.forall_mem_trace_nil⟩⟩⟩⟩⟩⟩
  have hleaves : ∀ entry ∈ Run.trace RoutingEvent.run unservedCustomer
      (activation ++ addition "south-10" ++ suspension), entry.2.LeavesRouting String.length 0 entry.1.current :=
    have hleads {world : World (Records Registry) (List Sent × Unit)} {event : RoutingEvent Unit} :=
      @RoutingEvent.leavesRouting_of_leads _ _ _ String.length 0 0 world event
    Run.forall_mem_trace.mpr ⟨hleads (by decide) (by decide), Run.forall_mem_trace.mpr
      ⟨hleads (by decide) (by decide), Run.forall_mem_trace.mpr ⟨hleads (by decide) (by decide),
        Run.forall_mem_trace.mpr ⟨hleads (by decide) (by decide), Run.forall_mem_trace.mpr
          ⟨hleads (by decide) (by decide), Run.forall_mem_trace.mpr
            ⟨hleads (by decide) (by decide), Run.forall_mem_trace_nil⟩⟩⟩⟩⟩⟩
  exact jobs_sent_home unservedCustomer_fresh (RoutingStep.run_of_trace _ _ hpossible) hunedited hleaves _
    (Run.reached_mem_visited _ _)

/-- The customer was activated on the first router and is suspended on the one
that was added to the sector since, whose name comes first. -/
theorem suspension_sent_elsewhere :
    ∃ taken reached, Run (RoutingStep String.length) unservedCustomer taken reached ∧ Fresh 0 unservedCustomer ∧
      (∀ entry ∈ taken, entry.2.Unedited 0) ∧ ∃ entry ∈ reached.current.outside.1, entry.subscription_id = 0 ∧
        entry.job_type = .suspend_subscription ∧ entry.provisioned = some 0 ∧ entry.router = 1 := by
  have hlawful := Search.first_lawful String.length
  have hpossible : ∀ entry ∈ Run.trace RoutingEvent.run unservedCustomer
      (activation ++ addition "core" ++ suspension),
      entry.2.Possible String.length entry.1.current :=
    Run.forall_mem_trace.mpr ⟨trivial, Run.forall_mem_trace.mpr ⟨⟨by decide, hlawful⟩,
      Run.forall_mem_trace.mpr ⟨trivial, Run.forall_mem_trace.mpr ⟨trivial,
        Run.forall_mem_trace.mpr ⟨trivial, Run.forall_mem_trace.mpr ⟨⟨by decide, hlawful⟩,
        Run.forall_mem_trace_nil⟩⟩⟩⟩⟩⟩
  refine ⟨_, _, RoutingStep.run_of_trace _ _ hpossible, unservedCustomer_fresh, ?_,
    ⟨0, .suspend_subscription, 1, some 0⟩, by decide, rfl, rfl, rfl, rfl⟩
  exact Run.forall_mem_trace.mpr ⟨trivial, Run.forall_mem_trace.mpr ⟨trivial, Run.forall_mem_trace.mpr ⟨trivial,
    Run.forall_mem_trace.mpr ⟨trivial, Run.forall_mem_trace.mpr ⟨trivial,
      Run.forall_mem_trace.mpr ⟨trivial, Run.forall_mem_trace_nil⟩⟩⟩⟩⟩⟩

end getupnet.isp_mikrotik

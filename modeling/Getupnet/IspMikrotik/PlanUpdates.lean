import Getupnet.Relational.Runs
import Getupnet.IspMikrotik.Isolation

open relational
open calendar
open getupnet.isp_core

namespace getupnet.isp_mikrotik

variable {μ : Type}

/-- The `max-limit` of a subscription's queue. -/
def RouterTables.max_limit (sub : IspSubscription) (self : RouterTables) : Option MaxLimit :=
  (self.simple_queues.find sub.name).map SimpleQueue.max_limit

/-- The profile of a subscription's secret. -/
def RouterTables.profile (sub : IspSubscription) (self : RouterTables) : Option String :=
  (self.ppp_secrets.find sub.pppoe_username).map PppSecret.profile

/-- The router limits a subscription as the plan says, and authenticates it under
the profile of a PPPoE plan. -/
structure RouterTables.Follows (plan : IspServicePlan) (sub : IspSubscription) (tables : RouterTables) :
    Prop where
  max_limit : tables.max_limit sub = some ⟨plan.down_mbps, plan.up_mbps⟩
  profile : plan.service_type = .pppoe → tables.profile sub = some (textOr plan.mikrotik_profile "default")

section

variable {plan : IspServicePlan} {sub : IspSubscription} {tables : RouterTables}

theorem RouterTables.ensureQueue_max_limit (hip : truthy sub.service_ip = true) :
    (tables.ensureQueue plan sub).max_limit sub = some ⟨plan.down_mbps, plan.up_mbps⟩ := by
  unfold RouterTables.ensureQueue RouterTables.max_limit
  rw [if_neg (by simp [hip])]
  dsimp only
  rw [KeyedTable.ensure_find_self]
  cases tables.simple_queues.find sub.name <;> rfl

theorem RouterTables.ensureQueue_profile : (tables.ensureQueue plan sub).profile sub = tables.profile sub := by
  unfold RouterTables.ensureQueue
  split <;> rfl

theorem RouterTables.ensureSecret_profile :
    (tables.ensureSecret plan sub).profile sub = some (textOr plan.mikrotik_profile "default") := by
  unfold RouterTables.ensureSecret RouterTables.profile
  dsimp only
  rw [KeyedTable.ensure_find_self]
  cases tables.ppp_secrets.find sub.pppoe_username <;> rfl

theorem RouterTables.flagSecret_profile {disabled : Bool} :
    (tables.flagSecret disabled sub).profile sub = tables.profile sub := by
  unfold RouterTables.flagSecret RouterTables.profile
  rw [KeyedTable.adjust_find_self]
  cases tables.ppp_secrets.find sub.pppoe_username <;> rfl

theorem RouterTables.disableQueue_max_limit : (tables.disableQueue sub).max_limit sub = tables.max_limit sub := by
  unfold RouterTables.disableQueue RouterTables.max_limit
  rw [KeyedTable.adjust_find_self]
  cases tables.simple_queues.find sub.name <;> rfl

/-- The queue helper and, for a PPPoE plan, the secret helper bring a router up to
date, whatever it had. -/
theorem RouterTables.Follows.ensured (hip : truthy sub.service_ip = true)
    (hsecret : plan.service_type = .pppoe → tables.profile sub = some (textOr plan.mikrotik_profile "default")) :
    (tables.ensureQueue plan sub).Follows plan sub where
  max_limit := RouterTables.ensureQueue_max_limit hip
  profile := fun hservice => RouterTables.ensureQueue_profile.trans (hsecret hservice)

/-- An activation and a plan change bring a router up to date. -/
theorem RouterTables.Follows.of_serve {job_type : JobType} (hip : truthy sub.service_ip = true)
    (htype : job_type = .activate_subscription ∨ job_type = .change_plan) :
    (tables.serve plan sub job_type).Follows plan sub := by
  obtain rfl | rfl := htype
  · refine RouterTables.Follows.ensured hip fun hservice => ?_
    simp only [hservice]
    exact RouterTables.ensureSecret_profile
  · refine RouterTables.Follows.ensured hip fun hservice => ?_
    rw [if_pos hservice]
    exact RouterTables.ensureSecret_profile

/-- A suspension and a reconnection leave it up to date. -/
theorem RouterTables.Follows.serve {job_type : JobType} (h : tables.Follows plan sub)
    (hip : truthy sub.service_ip = true)
    (htype : job_type = .suspend_subscription ∨ job_type = .reconnect_subscription) :
    (tables.serve plan sub job_type).Follows plan sub := by
  have hflagged : ∀ disabled, RouterTables.profile sub
      (if plan.service_type = .pppoe then tables.flagSecret disabled sub else tables) = tables.profile sub := by
    intro disabled
    split
    · exact RouterTables.flagSecret_profile
    · rfl
  obtain rfl | rfl := htype
  · have hlimit : ∀ disabled, RouterTables.max_limit sub
        (if plan.service_type = .pppoe then tables.flagSecret disabled sub else tables) = tables.max_limit sub := by
      intro disabled
      split <;> rfl
    exact ⟨RouterTables.disableQueue_max_limit.trans ((hlimit true).trans h.max_limit),
      fun hservice => (hflagged true).trans (h.profile hservice)⟩
  · exact RouterTables.Follows.ensured hip fun hservice => (hflagged false).trans (h.profile hservice)

/-- Entries that did not change are as up to date as before. -/
theorem RouterTables.Follows.of_entries {later : RouterTables} (h : tables.Follows plan sub)
    (hqueue : later.entry (.queue sub.name) = tables.entry (.queue sub.name))
    (hsecret : later.entry (.secret sub.pppoe_username) = tables.entry (.secret sub.pppoe_username)) :
    later.Follows plan sub := by
  have hqueues : later.simple_queues.find sub.name = tables.simple_queues.find sub.name :=
    Option.map_injective (fun _ _ => Entry.queue.inj) hqueue
  have hsecrets : later.ppp_secrets.find sub.pppoe_username = tables.ppp_secrets.find sub.pppoe_username :=
    Option.map_injective (fun _ _ => Entry.secret.inj) hsecret
  exact ⟨(congrArg (Option.map SimpleQueue.max_limit) hqueues).trans h.max_limit,
    fun hservice => (congrArg (Option.map PppSecret.profile) hsecrets).trans (h.profile hservice)⟩

end

/-- What queues jobs, what changes plans, and what executes jobs. -/
inductive PlanEvent where
  | action_activate (clock : Nat → Nat) (token_hex : Nat → String) (subs : List Nat)
  | action_suspend (clock : Nat → Nat) (subs : List Nat)
  | action_reconnect (clock : Nat → Nat) (subs : List Nat)
  | action_change_plan (clock : Nat → Nat) (subs : List Nat)
  | create_request (request : IspPlanChangeRequest)
  | action_apply (clock : Nat → Nat) (token_hex : Nat → String) (requests : List Nat)
  | execute (surroundings : Surroundings RouterTables) (now job : Nat)

def PlanEvent.method : PlanEvent → Odoo μ RouterTables Unit
  | .action_activate clock token_hex subs => IspSubscription.action_activate clock token_hex subs
  | .action_suspend clock subs => IspSubscription.action_suspend clock subs
  | .action_reconnect clock subs => IspSubscription.action_reconnect clock subs
  | .action_change_plan clock subs => IspSubscription.action_change_plan clock subs
  | .create_request request => modify fun world => { world with
      records := { world.records with
        plan_change_requests := world.records.plan_change_requests.create request } }
  | .action_apply clock token_hex requests => IspPlanChangeRequest.action_apply clock token_hex requests
  | .execute surroundings now job => IspProvisioningJob.execute (dispatch surroundings) now job

/-- The jobs that plan changes meet. -/
def planJobs : List JobType :=
  [.activate_subscription, .suspend_subscription, .reconnect_subscription, .change_plan]

/-- A job is about neither the queue nor the secret of a subscription. -/
def Elsewhere (sub own : Nat) (job_type : JobType) (world : World (Records μ) RouterTables) : Prop :=
  .queue (world.subscription sub).name ∉ jobKeys (world.planOf own) (world.subscription own) job_type ∧
    .secret (world.subscription sub).pppoe_username ∉ jobKeys (world.planOf own) (world.subscription own) job_type

/-- An executed job is one of those, is sent to the one router, and is a job of the
subscription or is about other entries. -/
def PlanEvent.Possible (sub : Nat) (world : World (Records μ) RouterTables) : PlanEvent → Prop
  | .execute surroundings _ job => job ∈ world.jobs.ids ∧ (world.jobs.row job).job_type ∈ planJobs ∧
    ∃ own, (world.jobs.row job).subscription_id = some own ∧
      surroundings.connection (world.jobs.row job) (world.subscription own) = .ok RouterTables.cmd ∧
      (own = sub ∨ Elsewhere sub own (world.jobs.row job).job_type world)
  | _ => True

/-- A call that returns. -/
def PlanStep (sub : Nat) (world : World (Records μ) RouterTables) (event : PlanEvent)
    (after : World (Records μ) RouterTables) : Prop :=
  event.Possible sub world ∧ event.method.exec world = (.ok (), after)

/-- The call runs the handler of an activation of the subscription. -/
def PlanEvent.Activates (sub : Nat) (world : World (Records μ) RouterTables) : PlanEvent → Prop
  | .execute _ _ job => (world.jobs.row job).Runnable ∧ (world.jobs.row job).job_type = .activate_subscription ∧
    (world.jobs.row job).subscription_id = some sub
  | _ => False

/-- The router follows the subscription's current plan. -/
def UpToDate (sub : Nat) (world : World (Records μ) RouterTables) : Prop :=
  world.outside.Follows (world.planOf sub) (world.subscription sub)

/-- A plan change job of the subscription will still be executed. -/
def ChangePending (sub : Nat) (world : World (Records μ) RouterTables) : Prop :=
  ∃ job ∈ world.jobs.ids, (world.jobs.row job).Runnable ∧ (world.jobs.row job).subscription_id = some sub ∧
    (world.jobs.row job).job_type = .change_plan

/-- The router is up to date, or a pending job will bring it up to date. -/
def Current (sub : Nat) (world : World (Records μ) RouterTables) : Prop :=
  ChangePending sub world ∨ UpToDate sub world

/-- The words that commands for a subscription carry, and its plan, are as before. -/
structure SameService (sub : Nat) (before after : World (Records μ) RouterTables) : Prop where
  plans : after.records.plans = before.records.plans
  name : (after.subscription sub).name = (before.subscription sub).name
  service_ip : (after.subscription sub).service_ip = (before.subscription sub).service_ip
  pppoe_username : (after.subscription sub).pppoe_username = (before.subscription sub).pppoe_username

/-- What a call does that executes nothing: jobs are added, and a plan is changed
only together with a job that will send it. -/
structure PlanEdit (sub : Nat) (before after : World (Records μ) RouterTables) : Prop extends
    SameService sub before after where
  outside : after.outside = before.outside
  jobs : ∀ job ∈ before.jobs.ids, job ∈ after.jobs.ids ∧ after.jobs.row job = before.jobs.row job
  plan_id : (after.subscription sub).plan_id = (before.subscription sub).plan_id ∨ ChangePending sub after

section

variable {sub : Nat} {world after : World (Records μ) RouterTables} {event : PlanEvent}

theorem SameService.follows {plan : IspServicePlan} {tables : RouterTables} (h : SameService sub world after)
    (hfollows : tables.Follows plan (world.subscription sub)) : tables.Follows plan (after.subscription sub) := by
  obtain ⟨hlimit, hprofile⟩ := hfollows
  constructor
  · rw [RouterTables.max_limit, h.name]
    exact hlimit
  · rw [RouterTables.profile, h.pppoe_username]
    exact hprofile

theorem ChangePending.kept (h : ChangePending sub world)
    (hjobs : ∀ job ∈ world.jobs.ids, job ∈ after.jobs.ids ∧ after.jobs.row job = world.jobs.row job) :
    ChangePending sub after := by
  obtain ⟨job, hmem, hjob⟩ := h
  obtain ⟨hafter, hrow⟩ := hjobs job hmem
  exact ⟨job, hafter, hrow ▸ hjob⟩

theorem PlanEdit.refl (sub : Nat) (world : World (Records μ) RouterTables) : PlanEdit sub world world where
  plans := rfl
  name := rfl
  service_ip := rfl
  pppoe_username := rfl
  outside := rfl
  jobs := fun _ hmem => ⟨hmem, rfl⟩
  plan_id := Or.inl rfl

theorem PlanEdit.trans {first second third : World (Records μ) RouterTables} (hfirst : PlanEdit sub first second)
    (hsecond : PlanEdit sub second third) : PlanEdit sub first third where
  plans := hsecond.plans.trans hfirst.plans
  name := hsecond.name.trans hfirst.name
  service_ip := hsecond.service_ip.trans hfirst.service_ip
  pppoe_username := hsecond.pppoe_username.trans hfirst.pppoe_username
  outside := hsecond.outside.trans hfirst.outside
  jobs := by
    intro job hmem
    obtain ⟨hmiddle, hrow⟩ := hfirst.jobs job hmem
    obtain ⟨hafter, hlater⟩ := hsecond.jobs job hmiddle
    exact ⟨hafter, hlater.trans hrow⟩
  plan_id := by
    obtain hplan | hpending := hfirst.plan_id
    · exact hsecond.plan_id.imp_left fun hlater => hlater.trans hplan
    · exact Or.inr (hpending.kept hsecond.jobs)

/-- Queueing a job for any subscription. -/
theorem PlanEdit.queue_job (clock : Nat → Nat) (id : Nat) (job_type : JobType) :
    PlanEdit sub world (world.queue_job clock id job_type) where
  plans := rfl
  name := rfl
  service_ip := rfl
  pppoe_username := rfl
  outside := rfl
  jobs := fun _ hmem =>
    ⟨List.mem_append_left _ hmem, world.jobs.create_row_of_lt (world.jobs.ids_fresh _ hmem) _⟩
  plan_id := Or.inl rfl

/-- A write that leaves the words of the commands and the plan as they are. -/
theorem PlanEdit.writeProfile (id : Nat) (profile : CharField) :
    PlanEdit sub world (world.writeSubscription id ((world.subscription id).withProfile profile)) := by
  by_cases hsame : sub = id
  · subst hsame
    have hrow := world.writeSubscription_self sub ((world.subscription sub).withProfile profile)
    exact ⟨⟨rfl, by rw [hrow]; rfl, by rw [hrow]; rfl, by rw [hrow]; rfl⟩, rfl, fun _ hmem => ⟨hmem, rfl⟩,
      Or.inl (by rw [hrow]; rfl)⟩
  · have hrow := world.writeSubscription_ne hsame ((world.subscription id).withProfile profile)
    exact ⟨⟨rfl, by rw [hrow], by rw [hrow], by rw [hrow]⟩, rfl, fun _ hmem => ⟨hmem, rfl⟩, Or.inl (by rw [hrow])⟩

/-- Applying a request changes a plan and queues the job that sends it. -/
theorem PlanEdit.applied (clock : Nat → Nat) (id : Nat) : PlanEdit sub world (world.applied clock id) := by
  have hjobs : ∀ job ∈ world.jobs.ids,
      job ∈ (world.applied clock id).jobs.ids ∧ (world.applied clock id).jobs.row job = world.jobs.row job :=
    fun _ hmem => ⟨List.mem_append_left _ hmem, world.jobs.create_row_of_lt (world.jobs.ids_fresh _ hmem) _⟩
  by_cases hsame : (world.records.plan_change_requests.row id).subscription_id = sub
  · have hrow := world.applied_subscription_self clock id
    rw [hsame] at hrow
    refine ⟨⟨rfl, by rw [hrow]; rfl, by rw [hrow]; rfl, by rw [hrow]; rfl⟩, rfl, hjobs, Or.inr ?_⟩
    refine ⟨world.jobs.next_id, List.mem_append_right _ (List.mem_singleton_self _), ?_⟩
    have hnew : (world.applied clock id).jobs.row world.jobs.next_id = _ := world.jobs.create_row_new _
    rw [hnew]
    exact ⟨⟨rfl, Nat.zero_lt_succ 2⟩, congrArg some hsame, rfl⟩
  · have hrow := world.applied_subscription_ne clock fun heq => hsame heq.symm
    exact ⟨⟨rfl, by rw [hrow], by rw [hrow], by rw [hrow]⟩, rfl, hjobs, Or.inl (by rw [hrow])⟩

/-- A call that executes no job. -/
theorem PlanEdit.of_method (hexec : event.method.exec world = (.ok (), after))
    (hnot : ∀ surroundings now job, event ≠ .execute surroundings now job) : PlanEdit sub world after := by
  have hqueue : ∀ {clock : Nat → Nat} {job_type : JobType} {subs : List Nat},
      (IspSubscription.queue_each clock job_type subs).exec world = (.ok (), after) →
      PlanEdit sub world after := by
    intro clock job_type subs h
    refine Method.forEach_relates (PlanEdit.refl sub) (fun _ _ _ => PlanEdit.trans) (fun id _ state next hnext => ?_) h
    obtain ⟨_, rfl⟩ := Prod.mk.inj hnext
    exact .queue_job clock id job_type
  cases event with
  | action_activate clock token_hex subs =>
    refine Method.forEach_relates (PlanEdit.refl sub) (fun _ _ _ => PlanEdit.trans)
      (fun id _ state next hnext => ?_) hexec
    rw [IspSubscription.activate_exec] at hnext
    obtain ⟨_, rfl⟩ := Prod.mk.inj hnext
    exact (PlanEdit.writeProfile id _).trans (.queue_job clock id .activate_subscription)
  | action_suspend clock subs => exact hqueue hexec
  | action_reconnect clock subs => exact hqueue hexec
  | action_change_plan clock subs => exact hqueue hexec
  | create_request request =>
    obtain ⟨_, rfl⟩ := Prod.mk.inj hexec
    exact ⟨⟨rfl, rfl, rfl, rfl⟩, rfl, fun _ hmem => ⟨hmem, rfl⟩, Or.inl rfl⟩
  | action_apply clock token_hex requests =>
    refine Method.forEach_relates (PlanEdit.refl sub) (fun _ _ _ => PlanEdit.trans)
      (fun id _ state next hnext => ?_) hexec
    rw [IspPlanChangeRequest.apply_exec] at hnext
    obtain ⟨_, rfl⟩ := Prod.mk.inj hnext
    exact .applied clock id
  | execute surroundings now job => exact absurd rfl (hnot surroundings now job)

theorem Current.edit (h : Current sub world) (hedit : PlanEdit sub world after) : Current sub after := by
  obtain hpending | hfollows := h
  · exact Or.inl (hpending.kept hedit.jobs)
  · obtain hplan | hpending := hedit.plan_id
    · right
      rw [UpToDate, hedit.outside, World.planOf, hedit.plans, hplan]
      exact hedit.follows hfollows
    · exact Or.inl hpending

/-- The words of the commands and the plan survive an execution, and so does a
pending job that is not executed. -/
theorem execute_sameService {surroundings : Surroundings RouterTables} {now id : Nat}
    (h : (IspProvisioningJob.execute (dispatch surroundings) now id).exec world = (.ok (), after)) :
    SameService sub world after ∧ (after.subscription sub).plan_id = (world.subscription sub).plan_id := by
  obtain ⟨_, ⟨_, hprovisions⟩ | ⟨_, hsame⟩⟩ := execute_provisions h
  · obtain ⟨_, _, hvalues⟩ := hprovisions.row sub
    have hrow : (after.subscription sub).toSubscriptionValues = _ := hvalues
    exact ⟨⟨hprovisions.plans, by rw [hrow]; rfl, by rw [hrow]; rfl, by rw [hrow]; rfl⟩, by rw [hrow]; rfl⟩
  · rw [World.subscription, hsame]
    exact ⟨⟨by rw [hsame], by rw [World.subscription, hsame]; rfl, by rw [World.subscription, hsame]; rfl,
      by rw [World.subscription, hsame]; rfl⟩, rfl⟩

/-- A pending change survives the execution of another job. -/
theorem ChangePending.execute {surroundings : Surroundings RouterTables} {now id : Nat}
    (h : ChangePending sub world)
    (hexec : (IspProvisioningJob.execute (dispatch surroundings) now id).exec world = (.ok (), after))
    (hother : (world.jobs.row id).Runnable → (world.jobs.row id).subscription_id = some sub →
      (world.jobs.row id).job_type ≠ .change_plan) :
    ChangePending sub after := by
  obtain ⟨job, hmem, hrunnable, hsub, htype⟩ := h
  have hne : job ≠ id := by
    rintro rfl
    exact hother hrunnable hsub htype
  refine ⟨job, ?_, ?_⟩
  · rw [(execute_provisions hexec).1]
    exact hmem
  · rw [(execute_provisions hexec).1, Store.write_row_ne _ hne]
    exact ⟨hrunnable, hsub, htype⟩

section

variable {surroundings : Surroundings RouterTables} {now id own : Nat}

theorem not_disconnect_of_mem_planJobs {job_type : JobType} (h : job_type ∈ planJobs) :
    job_type ∈ subscriptionJobs ∧ job_type ≠ .disconnect_session := by
  simp only [planJobs, List.mem_cons, List.not_mem_nil, or_false] at h
  obtain rfl | rfl | rfl | rfl := h <;> simp [subscriptionJobs]

/-- The router after one of these jobs. -/
theorem execute_serves (hown : (world.jobs.row id).subscription_id = some own)
    (htype : (world.jobs.row id).job_type ∈ planJobs) (hrunnable : (world.jobs.row id).Runnable)
    (hconnection : surroundings.connection (world.jobs.row id) (world.subscription own) = .ok RouterTables.cmd)
    (hexec : (IspProvisioningJob.execute (dispatch surroundings) now id).exec world = (.ok (), after)) :
    after.outside = world.outside.serve (world.planOf own) (world.subscription own) (world.jobs.row id).job_type := by
  obtain ⟨hsubscription, hdisconnect⟩ := not_disconnect_of_mem_planJobs htype
  have houtside := @execute_outside μ surroundings now id own world hown hsubscription hrunnable hconnection
  rw [hexec, job_outcome_serve hdisconnect] at houtside
  exact houtside

/-- An activation or a plan change of the subscription brings the router up to date. -/
theorem UpToDate.of_execute (hip : truthy (world.subscription sub).service_ip = true)
    (hown : (world.jobs.row id).subscription_id = some sub) (hrunnable : (world.jobs.row id).Runnable)
    (htype : (world.jobs.row id).job_type = .activate_subscription ∨ (world.jobs.row id).job_type = .change_plan)
    (hconnection : surroundings.connection (world.jobs.row id) (world.subscription sub) = .ok RouterTables.cmd)
    (hexec : (IspProvisioningJob.execute (dispatch surroundings) now id).exec world = (.ok (), after)) :
    UpToDate sub after := by
  obtain ⟨hservice, hplan⟩ : SameService sub world after ∧ _ := execute_sameService hexec
  have hjob : (world.jobs.row id).job_type ∈ planJobs := by
    obtain h | h := htype <;> rw [h] <;> simp [planJobs]
  rw [UpToDate, execute_serves hown hjob hrunnable hconnection hexec, World.planOf, hservice.plans, hplan]
  exact hservice.follows (RouterTables.Follows.of_serve hip htype)

theorem Current.execute (h : Current sub world) (hip : truthy (world.subscription sub).service_ip = true)
    (hpossible : (PlanEvent.execute surroundings now id).Possible sub world)
    (hexec : (IspProvisioningJob.execute (dispatch surroundings) now id).exec world = (.ok (), after)) :
    Current sub after := by
  obtain ⟨_, htype, own, hown, hconnection, hwhere⟩ := hpossible
  obtain ⟨hservice, hplan⟩ : SameService sub world after ∧ _ := execute_sameService hexec
  by_cases hrunnable : (world.jobs.row id).Runnable
  · have houtside := execute_serves hown htype hrunnable hconnection hexec
    by_cases hsame : own = sub
    · subst hsame
      by_cases hbrings : (world.jobs.row id).job_type = .activate_subscription ∨
          (world.jobs.row id).job_type = .change_plan
      · exact Or.inr (UpToDate.of_execute hip hown hrunnable hbrings hconnection hexec)
      · obtain hpending | hfollows := h
        · exact Or.inl (hpending.execute hexec fun _ _ hchange => hbrings (Or.inr hchange))
        · right
          have hswitch : (world.jobs.row id).job_type = .suspend_subscription ∨
              (world.jobs.row id).job_type = .reconnect_subscription := by
            simp only [planJobs, List.mem_cons, List.not_mem_nil, or_false] at htype
            tauto
          rw [UpToDate, houtside, World.planOf, hservice.plans, hplan]
          exact hservice.follows (hfollows.serve hip hswitch)
    · obtain hpending | hfollows := h
      · exact Or.inl (hpending.execute hexec fun _ hsub => absurd (Option.some.inj (hown.symm.trans hsub)) hsame)
      · right
        obtain ⟨hqueue, hsecret⟩ := hwhere.resolve_left hsame
        obtain ⟨_, hdisconnect⟩ := not_disconnect_of_mem_planJobs htype
        have hserve : job_outcome (world.planOf own) (world.subscription own) surroundings.today ""
            (world.jobs.row id).job_type world.outside = _ := job_outcome_serve hdisconnect
        rw [UpToDate, houtside, ← hserve, World.planOf, hservice.plans, hplan]
        exact hservice.follows (hfollows.of_entries (job_outcome_entry hqueue) (job_outcome_entry hsecret))
  · obtain hpending | hfollows := h
    · exact Or.inl (hpending.execute hexec fun hran => absurd hran hrunnable)
    · right
      obtain ⟨_, ⟨hran, _⟩ | ⟨_, _, houtside⟩⟩ := IspProvisioningJob.execute_returns hexec
      · exact absurd hran hrunnable
      · rw [UpToDate, houtside, World.planOf, hservice.plans, hplan]
        exact hservice.follows hfollows

end

theorem PlanStep.service_ip (hstep : PlanStep sub world event after) :
    (after.subscription sub).service_ip = (world.subscription sub).service_ip := by
  obtain ⟨_, hexec⟩ := hstep
  by_cases hexecute : ∃ surroundings now job, event = .execute surroundings now job
  · obtain ⟨surroundings, now, job, rfl⟩ := hexecute
    exact (execute_sameService hexec).1.service_ip
  · exact (PlanEdit.of_method hexec fun surroundings now job heq => hexecute ⟨surroundings, now, job, heq⟩).service_ip

theorem Current.step (h : Current sub world) (hip : truthy (world.subscription sub).service_ip = true)
    (hstep : PlanStep sub world event after) : Current sub after := by
  obtain ⟨hpossible, hexec⟩ := hstep
  by_cases hexecute : ∃ surroundings now job, event = .execute surroundings now job
  · obtain ⟨surroundings, now, job, rfl⟩ := hexecute
    exact h.execute hip hpossible hexec
  · exact h.edit (PlanEdit.of_method hexec fun surroundings now job heq => hexecute ⟨surroundings, now, job, heq⟩)

theorem UpToDate.of_activation (hip : truthy (world.subscription sub).service_ip = true)
    (hactivates : event.Activates sub world) (hstep : PlanStep sub world event after) : UpToDate sub after := by
  obtain ⟨hpossible, hexec⟩ := hstep
  cases event with
  | execute surroundings now job =>
    obtain ⟨hrunnable, htype, hsub⟩ := hactivates
    obtain ⟨_, _, own, hown, hconnection, _⟩ := hpossible
    cases hown.symm.trans hsub
    exact UpToDate.of_execute hip hsub hrunnable (Or.inl htype) hconnection hexec
  | _ => exact absurd hactivates id

/-- After the first activation of a subscription with an address that was executed, the
router follows the subscription's plan whenever no plan change job of it is queued. A job
carries out the plan that the record has at its execution, so that of several changes none
is lost. -/
theorem plan_updates_not_lost {initial reached : World (Records μ) RouterTables}
    {taken : List (World (Records μ) RouterTables × PlanEvent)}
    (hip : truthy (initial.subscription sub).service_ip = true) (run : Run (PlanStep sub) initial taken reached)
    (hactivated : ∃ entry ∈ taken, entry.2.Activates sub entry.1)
    (hqueue : ∀ job ∈ reached.jobs.ids, (reached.jobs.row job).subscription_id = some sub →
      (reached.jobs.row job).job_type = .change_plan → (reached.jobs.row job).state ≠ .queued) :
    UpToDate sub reached := by
  have hinvariant : truthy (reached.subscription sub).service_ip = true ∧
      ((∃ entry ∈ taken, entry.2.Activates sub entry.1) → Current sub reached) := by
    clear hactivated hqueue
    induction run with
    | start => exact ⟨hip, fun ⟨_, hentry, _⟩ => absurd hentry List.not_mem_nil⟩
    | @step taken state after event before hstep ih =>
      obtain ⟨hipState, hcurrent⟩ := ih
      have hipAfter : truthy (after.subscription sub).service_ip = true := by
        rw [hstep.service_ip]
        exact hipState
      refine ⟨hipAfter, fun ⟨entry, hentry, hactivates⟩ => ?_⟩
      obtain hold | hnew := List.mem_append.mp hentry
      · exact (hcurrent ⟨entry, hold, hactivates⟩).step hipState hstep
      · rw [List.mem_singleton.mp hnew] at hactivates
        exact Or.inr (UpToDate.of_activation hipState hactivates hstep)
  obtain ⟨job, hmem, hrunnable, hsub, htype⟩ | hfollows := hinvariant.2 hactivated
  · exact absurd hrunnable.1 (hqueue job hmem hsub htype)
  · exact hfollows

end

/-- Plan 1 is the slower one of two PPPoE plans. -/
def fiberPlans (id : Nat) : IspServicePlan :=
  if id = 1 then { name := "Fiber", service_type := .pppoe, down_mbps := 10, up_mbps := 5 }
  else { name := "Fiber Plus", service_type := .pppoe, down_mbps := 50, up_mbps := 20, mikrotik_profile := some "plus" }

def addressedCustomer : IspSubscription where
  toSubscriptionValues := { fiberCustomer.toSubscriptionValues with service_ip := some "10.0.0.9" }
  checked := rfl

/-- A customer of the slower plan who has asked for the faster one. -/
def upgradeRequested : World (Records Unit) RouterTables where
  jobs := Store.empty { job_type := .change_plan, requested_at := 0 }
  records := {
    subscriptions := (Store.empty addressedCustomer).create addressedCustomer
    plans := fiberPlans
    plan_change_requests := (Store.empty { subscription_id := 0, requested_plan_id := 0 }).create
      { subscription_id := 0, requested_plan_id := 2 }
    extension := () }
  outside := RouterTables.empty

def upgraded : List PlanEvent :=
  [.action_activate id (fun _ => "") [0], .execute sharedRouter 1 0, .action_apply id (fun _ => "") [0],
    .action_suspend id [0], .execute sharedRouter 2 2, .execute sharedRouter 3 1]

theorem sharedRouter_connection (job : IspProvisioningJob) (sub : IspSubscription) :
    sharedRouter.connection job sub = .ok RouterTables.cmd := by
  unfold Surroundings.connection get_router
  have hnone : job.device_id.bind sharedRouter.network.router_of_device = none := by cases job.device_id <;> rfl
  rw [hnone]
  cases sub.router_id <;> rfl

theorem PlanStep.of_execute {world : World (Records Unit) RouterTables} {now job : Nat}
    (hmem : job ∈ world.jobs.ids)
    (htype : (world.jobs.row job).job_type ∈ planJobs) (hsub : (world.jobs.row job).subscription_id = some 0)
    (hresult : ((PlanEvent.execute sharedRouter now job).method.exec world).1.isOk = true) :
    PlanStep 0 world (.execute sharedRouter now job)
      ((PlanEvent.execute sharedRouter now job).method.exec world).2 := by
  refine ⟨⟨hmem, htype, 0, hsub, sharedRouter_connection _ _, Or.inl rfl⟩, Prod.ext ?_ rfl⟩
  cases hexec : ((PlanEvent.execute sharedRouter now job).method.exec world).1 with
  | ok value => rfl
  | error exception =>
    rw [hexec] at hresult
    cases hresult

/-- The suspension is executed between the plan change and the job that sends it. -/
theorem plan_updates_not_lost_upgraded :
    UpToDate 0 (Run.last (fun event (world : World (Records Unit) RouterTables) => (event.method.exec world).2)
      upgradeRequested upgraded) := by
  let next := fun (event : PlanEvent) (world : World (Records Unit) RouterTables) => (event.method.exec world).2
  have hstep : ∀ entry ∈ Run.trace next upgradeRequested upgraded,
      PlanStep 0 entry.1 entry.2 (next entry.2 entry.1) :=
    Run.forall_mem_trace.mpr ⟨⟨trivial, rfl⟩,
      Run.forall_mem_trace.mpr ⟨.of_execute (by decide) (by decide) (by decide) (by decide),
        Run.forall_mem_trace.mpr ⟨⟨trivial, rfl⟩, Run.forall_mem_trace.mpr ⟨⟨trivial, rfl⟩,
          Run.forall_mem_trace.mpr ⟨.of_execute (by decide) (by decide) (by decide) (by decide),
            Run.forall_mem_trace.mpr ⟨.of_execute (by decide) (by decide) (by decide) (by decide),
              Run.forall_mem_trace_nil⟩⟩⟩⟩⟩⟩
  have hactivates : (PlanEvent.execute sharedRouter 1 0).Activates 0
      (next (.action_activate id (fun _ => "") [0]) upgradeRequested) := ⟨by decide, rfl, rfl⟩
  exact plan_updates_not_lost (by decide) (Run.of_trace hstep)
    ⟨_, List.mem_cons_of_mem _ List.mem_cons_self, hactivates⟩ (by decide)

end getupnet.isp_mikrotik

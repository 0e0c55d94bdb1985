import Getupnet.Server.Edits

open relational
open calendar
open getupnet.isp_core
open getupnet.isp_mikrotik
open getupnet.isp_billing

namespace getupnet.server

variable {ρ : Type} {sub job : Nat}

/-- A job for the subscription that takes it out of the terminated state. -/
def Revives (sub : Nat) (job : IspProvisioningJob) : Prop :=
  job.subscription_id = some sub ∧ job.job_type.stateAfter .terminated ≠ .terminated

/-- No job that may still be executed revives the subscription. -/
def NoneRevives (sub : Nat) (world : Billing ρ) : Prop :=
  ∀ job ∈ world.jobs.ids, (world.jobs.row job).Runnable → ¬ Revives sub (world.jobs.row job)

/-- No operator queues a job for the subscription by this call. Applying a plan
change, which queues one that leaves the state alone, is not excluded. -/
def ServerEvent.LeavesAlone (sub : Nat) : ServerEvent ρ → Prop
  | .action_activate _ _ subs | .action_suspend _ subs | .action_reconnect _ subs | .action_terminate _ subs
  | .action_change_plan _ subs => sub ∉ subs
  | _ => True

/-- A termination job of the subscription that may still be executed. -/
def Ends (sub : Nat) (world : Billing ρ) (job : Nat) : Prop :=
  (world.jobs.row job).Runnable ∧ (world.jobs.row job).subscription_id = some sub ∧
    (world.jobs.row job).job_type = .terminate_subscription

/-- Executing the listed jobs in order leaves no job that revives the
subscription, and executes a termination job after the last one that does. -/
def EndsTerminated (sub : Nat) (world : Billing ρ) (jobs : List Nat) : Prop :=
  ∀ other ∈ world.jobs.ids, (world.jobs.row other).Runnable → Revives sub (world.jobs.row other) →
    ∃ last ∈ jobs, Ends sub world last ∧ other ∈ jobs.takeWhile fun id => decide (id ≠ last)

/-- When the call is about to execute the termination job, every job that would
revive the subscription is executed in the same call, before that job or before
another termination job. -/
def ServerEvent.TerminatesLast (sub job : Nat) (world : Billing ρ) (event : ServerEvent ρ) : Prop :=
  job ∈ event.executed → (world.jobs.row job).Runnable → EndsTerminated sub world event.executed

/-- The subscription is terminated, and nothing in the queue changes that. -/
structure Final (sub : Nat) (world : Billing ρ) : Prop where
  sub_exists : sub ∈ world.records.subscriptions.ids
  state : (world.subscription sub).state = .terminated
  quiet : NoneRevives sub world

/-- A termination job of an existing subscription, queued or executed. -/
structure TerminationJob (sub job : Nat) (world : Billing ρ) : Prop where
  sub_exists : sub ∈ world.records.subscriptions.ids
  job_exists : job ∈ world.jobs.ids
  job_type : (world.jobs.row job).job_type = .terminate_subscription
  subscription_id : (world.jobs.row job).subscription_id = some sub

/-- The same, and once it has succeeded, the termination is final. -/
structure Terminates (sub job : Nat) (world : Billing ρ) : Prop extends TerminationJob sub job world where
  final : (world.jobs.row job).state = .success → Final sub world

/-- The subscription keeps its state, and jobs are only added, none of them
reviving it once it is terminated. -/
structure Adds (sub : Nat) (before after : Billing ρ) : Prop where
  sub_exists : sub ∈ before.records.subscriptions.ids → sub ∈ after.records.subscriptions.ids
  state : (after.subscription sub).state = (before.subscription sub).state
  jobs : ∃ added, after.jobs = before.jobs.createAll added ∧
    ∀ job ∈ added, Revives sub job → (before.subscription sub).state ≠ .terminated

/-- A call that adds no job at all. -/
theorem Adds.of_same_jobs {before after : Billing ρ}
    (hexists : sub ∈ before.records.subscriptions.ids → sub ∈ after.records.subscriptions.ids)
    (hstate : (after.subscription sub).state = (before.subscription sub).state)
    (hjobs : after.jobs = before.jobs) : Adds sub before after where
  sub_exists := hexists
  state := hstate
  jobs := ⟨[], hjobs, fun _ hmem => absurd hmem List.not_mem_nil⟩

theorem Adds.refl (sub : Nat) (world : Billing ρ) : Adds sub world world :=
  Adds.of_same_jobs id rfl rfl

theorem Adds.trans {first second third : Billing ρ} (hfirst : Adds sub first second)
    (hsecond : Adds sub second third) : Adds sub first third := by
  obtain ⟨added, hadded, hrevives⟩ := hfirst.jobs
  obtain ⟨more, hmore, hmoreRevives⟩ := hsecond.jobs
  refine ⟨hsecond.sub_exists ∘ hfirst.sub_exists, hsecond.state.trans hfirst.state, added ++ more, ?_, ?_⟩
  · rw [hmore, hadded, Store.createAll_append]
  · intro job hjob hrevived
    obtain hold | hnew := List.mem_append.mp hjob
    · exact hrevives job hold hrevived
    · rw [← hfirst.state]
      exact hmoreRevives job hnew hrevived

theorem Adds.writeSubscription {id : Nat} {record : IspSubscription} {world : Billing ρ}
    (h : record.state = (world.subscription id).state) : Adds sub world (world.writeSubscription id record) := by
  refine Adds.of_same_jobs (fun hexists => hexists) ?_ rfl
  by_cases hsame : sub = id
  · rw [hsame, World.writeSubscription_self, h]
  · rw [World.writeSubscription_ne _ hsame]

/-- A job that revives the subscription is queued by an operator, or when it is
not terminated. -/
theorem ServerEvent.Queues.not_terminated {event : ServerEvent ρ} {world : Billing ρ} {job_type : JobType}
    (h : event.Queues world sub job_type) (hquiet : event.LeavesAlone sub)
    (hrevives : job_type.stateAfter .terminated ≠ .terminated) :
    (world.subscription sub).state ≠ .terminated := by
  cases event
  case action_activate | action_suspend | action_reconnect | action_terminate | action_change_plan =>
    exact absurd h.1 hquiet
  case cron_suspend_overdue | cron_reconnect_on_payment =>
    rw [h.1]
    nofun
  case action_apply | cron_apply_plan_changes =>
    have hplan : job_type = .change_plan := h
    exact absurd (hplan ▸ rfl) hrevives
  all_goals cases h

theorem Edit.adds {event : ServerEvent ρ} {world after : Billing ρ} (h : Edit event world after)
    (hsub : sub ∈ world.records.subscriptions.ids) (hquiet : event.LeavesAlone sub) : Adds sub world after := by
  cases h with
  | @create _ _ records hcreate =>
    refine Adds.of_same_jobs (fun hexists => ?_) ?_ rfl
    · exact world.records.subscriptions.mem_createAll_ids_of_mem records hexists
    · exact congrArg (fun record => record.state) (world.records.subscriptions.createAll_row_of_mem records hsub)
  | provision id plan_id profile => exact Adds.writeSubscription rfl
  | @queue_job clock id job_type hqueues =>
    refine ⟨fun hexists => hexists, rfl, [(world.subscription id).job id job_type (clock world.jobs.next_id)], rfl, ?_⟩
    intro new hnew hrevives
    rw [List.mem_singleton.mp hnew] at hrevives
    obtain ⟨hsame, hstate⟩ := hrevives
    cases hsame
    exact hqueues.not_terminated hquiet hstate
  | @invoice today action_post id _ =>
    refine Adds.of_same_jobs (fun hexists => hexists) ?_ rfl
    by_cases hsame : sub = id
    · rw [hsame, world.invoiced_subscription_self]
      rfl
    · rw [world.invoiced_subscription_ne today action_post hsame]
  | requests plan_change_requests => exact Adds.of_same_jobs (fun hexists => hexists) rfl rfl
  | payment move payment_state amount_residual => exact Adds.of_same_jobs (fun hexists => hexists) rfl rfl
  | outside outside => exact Adds.of_same_jobs (fun hexists => hexists) rfl rfl

/-- Edits that no operator makes to the subscription only add jobs. -/
theorem Edits.adds {event : ServerEvent ρ} {world after : Billing ρ} (h : Edits event world after)
    (hsub : sub ∈ world.records.subscriptions.ids) (hquiet : event.LeavesAlone sub) : Adds sub world after := by
  induction h with
  | refl => exact Adds.refl sub world
  | tail _ hedit ih => exact ih.trans (hedit.adds (ih.sub_exists hsub) hquiet)

/-- Adding jobs never reopens a terminated subscription. -/
theorem Final.adds {before after : Billing ρ} (h : Final sub before) (hadds : Adds sub before after) :
    Final sub after := by
  obtain ⟨added, hjobs, hrevives⟩ := hadds.jobs
  refine ⟨hadds.sub_exists h.sub_exists, hadds.state.trans h.state, fun other hother hrunnable hrevived => ?_⟩
  rw [hjobs] at hother hrunnable hrevived
  obtain hold | ⟨_, hnew⟩ := before.jobs.mem_createAll_ids added hother
  · rw [before.jobs.createAll_row_of_mem added hold] at hrunnable hrevived
    exact h.quiet other hold hrunnable hrevived
  · exact hrevives _ hnew hrevived h.state

theorem Terminates.adds {before after : Billing ρ} (h : Terminates sub job before)
    (hadds : Adds sub before after) :
    Terminates sub job after := by
  obtain ⟨added, hjobs, _⟩ := hadds.jobs
  have hrow : after.jobs.row job = before.jobs.row job := by
    rw [hjobs, before.jobs.createAll_row_of_mem added h.job_exists]
  refine ⟨⟨hadds.sub_exists h.sub_exists, ?_, ?_, ?_⟩, fun hsuccess => ?_⟩
  · rw [hjobs]
    exact before.jobs.mem_createAll_ids_of_mem added h.job_exists
  · rw [hrow, h.job_type]
  · rw [hrow, h.subscription_id]
  · rw [hrow] at hsuccess
    exact (h.final hsuccess).adds hadds

/-- A job revives a terminated subscription, or terminates it, or leaves its state
alone. -/
theorem stateAfter_cases (job_type : JobType) :
    job_type.stateAfter .terminated ≠ .terminated ∨ job_type = .terminate_subscription ∨
      ∀ state, job_type.stateAfter state = state := by
  cases job_type
  case activate_subscription => exact Or.inl nofun
  case suspend_subscription => exact Or.inl nofun
  case reconnect_subscription => exact Or.inl nofun
  case terminate_subscription => exact Or.inr (Or.inl rfl)
  all_goals exact Or.inr (Or.inr fun _ => rfl)

section

variable {surroundings : Surroundings ρ} {now id : Nat} {rest : List Nat} {world after : Billing ρ}

/-- A final termination survives the execution of any job: one that would revive
the subscription is not there. -/
theorem Final.execute (h : Final sub world) (hid : id ∈ world.jobs.ids)
    (hexec : (IspProvisioningJob.execute (dispatch surroundings) now id).exec world = (.ok (), after)) :
    Final sub after := by
  refine ⟨?_, ?_, fun other hother hrunnable hrevives => ?_⟩
  · rw [execute_subscription_ids hexec]
    exact h.sub_exists
  · rw [execute_state hexec, h.state]
    by_cases hboth : (world.jobs.row id).Runnable ∧ (world.jobs.row id).subscription_id = some sub
    · rw [if_pos hboth]
      by_contra hnot
      exact h.quiet id hid hboth.1 ⟨hboth.2, hnot⟩
    · rw [if_neg hboth]
  · rw [(execute_provisions hexec).1] at hother hrunnable hrevives
    obtain ⟨_, hrow⟩ := IspProvisioningJob.runnable_after_settling hrunnable
    rw [hrow] at hrunnable hrevives
    exact h.quiet other hother hrunnable hrevives

/-- Another job is no less a termination job after an execution. -/
theorem Ends.execute {last : Nat} (h : Ends sub world last) (hne : last ≠ id)
    (hexec : (IspProvisioningJob.execute (dispatch surroundings) now id).exec world = (.ok (), after)) :
    Ends sub after last := by
  have hrow : after.jobs.row last = world.jobs.row last := by
    rw [(execute_provisions hexec).1, Store.write_row_ne _ hne]
  rw [Ends, hrow]
  exact h

/-- What ends terminated still does after its first job. -/
theorem EndsTerminated.execute (h : EndsTerminated sub world (id :: rest))
    (hexec : (IspProvisioningJob.execute (dispatch surroundings) now id).exec world = (.ok (), after)) :
    EndsTerminated sub after rest := by
  intro other hother hrunnable hrevives
  rw [(execute_provisions hexec).1] at hother hrunnable hrevives
  obtain ⟨hne, hrow⟩ := IspProvisioningJob.runnable_after_settling hrunnable
  rw [hrow] at hrunnable hrevives
  obtain ⟨last, hlast, hends, hbefore⟩ := h other hother hrunnable hrevives
  have hlast_ne : last ≠ id := by
    rintro rfl
    simp at hbefore
  rw [List.takeWhile_cons, if_pos (decide_eq_true (Ne.symm hlast_ne))] at hbefore
  exact ⟨last, (List.mem_cons.mp hlast).resolve_left hlast_ne, hends.execute hlast_ne hexec,
    (List.mem_cons.mp hbefore).resolve_left hne⟩

/-- A subscription that is terminated now or by a job to come is so after the
next job, too, unless that revives it with no termination job to follow. -/
theorem terminated_or_ends_execute (hid : id ∈ world.jobs.ids) (h : EndsTerminated sub world (id :: rest))
    (hterminated : (world.subscription sub).state = .terminated ∨ ∃ last ∈ id :: rest, Ends sub world last)
    (hexec : (IspProvisioningJob.execute (dispatch surroundings) now id).exec world = (.ok (), after)) :
    (after.subscription sub).state = .terminated ∨ ∃ last ∈ rest, Ends sub after last := by
  have hlater : ∀ last ∈ id :: rest, last ≠ id → Ends sub world last → ∃ last ∈ rest, Ends sub after last :=
    fun last hlast hne hends =>
      ⟨last, (List.mem_cons.mp hlast).resolve_left hne, hends.execute hne hexec⟩
  rw [execute_state hexec]
  by_cases hboth : (world.jobs.row id).Runnable ∧ (world.jobs.row id).subscription_id = some sub
  · rw [if_pos hboth]
    obtain hrevives | hterminates | hneutral := stateAfter_cases (world.jobs.row id).job_type
    · obtain ⟨last, hlast, hends, hbefore⟩ := h id hid hboth.1 ⟨hboth.2, hrevives⟩
      refine Or.inr (hlater last hlast ?_ hends)
      rintro rfl
      simp at hbefore
    · rw [hterminates]
      exact Or.inl rfl
    · rw [hneutral]
      refine hterminated.imp_right ?_
      rintro ⟨last, hlast, hends⟩
      refine hlater last hlast ?_ hends
      rintro rfl
      have hactive := hneutral .active
      rw [hends.2.2] at hactive
      cases hactive
  · rw [if_neg hboth]
    refine hterminated.imp_right ?_
    rintro ⟨last, hlast, hends⟩
    refine hlater last hlast ?_ hends
    rintro rfl
    exact hboth ⟨hends.1, hends.2.1⟩

end

/-- A property that executing an existing job keeps is kept by executing several. -/
theorem execute_jobs_keeps {surroundings : Surroundings ρ} {now : Nat} {property : Billing ρ → Prop}
    (hkeep : ∀ id world after, property world → id ∈ world.jobs.ids →
      (IspProvisioningJob.execute (dispatch surroundings) now id).exec world = (.ok (), after) → property after)
    {jobs : List Nat} {world after : Billing ρ} (h : property world) (hids : ∀ id ∈ jobs, id ∈ world.jobs.ids)
    (hexec : (Method.forEach (IspProvisioningJob.execute (dispatch surroundings) now) jobs).exec world =
      (.ok (), after)) :
    property after := by
  induction jobs generalizing world with
  | nil =>
    obtain ⟨_, rfl⟩ := Prod.mk.inj hexec
    exact h
  | cons id rest ih =>
    obtain ⟨middle, hfirst, hrest⟩ := Method.forEach_cons_returns hexec
    refine ih (hkeep id world middle h (hids id List.mem_cons_self) hfirst) (fun other hother => ?_) hrest
    rw [(execute_provisions hfirst).1]
    exact hids other (List.mem_cons_of_mem _ hother)

theorem TerminationJob.execute {surroundings : Surroundings ρ} {now id : Nat} {world after : Billing ρ}
    (h : TerminationJob sub job world)
    (hexec : (IspProvisioningJob.execute (dispatch surroundings) now id).exec world = (.ok (), after)) :
    TerminationJob sub job after := by
  have htarget : (after.jobs.row job).job_type = (world.jobs.row job).job_type ∧
      (after.jobs.row job).subscription_id = (world.jobs.row job).subscription_id := by
    rw [(execute_provisions hexec).1, Store.write_row]
    by_cases hsame : job = id
    · rw [if_pos hsame, ← hsame]
      exact IspProvisioningJob.settled_target now _ _
    · rw [if_neg hsame]
      exact ⟨rfl, rfl⟩
  refine ⟨?_, ?_, htarget.1.trans h.job_type, htarget.2.trans h.subscription_id⟩
  · rw [execute_subscription_ids hexec]
    exact h.sub_exists
  · rw [(execute_provisions hexec).1, Store.write_ids]
    exact h.job_exists

/-- Where a call stands that has some jobs left to execute. -/
structure Terminating (sub job : Nat) (rest : List Nat) (world : Billing ρ) : Prop
    extends TerminationJob sub job world where
  ahead : job ∈ rest → (world.jobs.row job).Runnable → EndsTerminated sub world rest
  succeeded : (world.jobs.row job).state = .success →
    ((world.subscription sub).state = .terminated ∨ ∃ last ∈ rest, Ends sub world last) ∧
      EndsTerminated sub world rest

theorem Terminating.execute {surroundings : Surroundings ρ} {now id : Nat} {rest : List Nat}
    {world after : Billing ρ} (h : Terminating sub job (id :: rest) world) (hid : id ∈ world.jobs.ids)
    (hexec : (IspProvisioningJob.execute (dispatch surroundings) now id).exec world = (.ok (), after)) :
    Terminating sub job rest after := by
  have hjobs := (execute_provisions hexec).1
  refine ⟨h.toTerminationJob.execute hexec, fun hmem hrunnable => ?_, fun hsuccess => ?_⟩
  · rw [hjobs] at hrunnable
    obtain ⟨_, hsame⟩ := IspProvisioningJob.runnable_after_settling hrunnable
    rw [hsame] at hrunnable
    exact (h.ahead (List.mem_cons_of_mem _ hmem) hrunnable).execute hexec
  · have hbefore : (world.jobs.row job).state = .success ∨ job = id ∧ (world.jobs.row job).Runnable := by
      rw [hjobs, Store.write_row] at hsuccess
      by_cases hsame : job = id
      · rw [if_pos hsame, ← hsame] at hsuccess
        exact (IspProvisioningJob.settled_success hsuccess).imp_right fun hrunnable => ⟨hsame, hrunnable⟩
      · rw [if_neg hsame] at hsuccess
        exact Or.inl hsuccess
    obtain hold | ⟨rfl, hrunnable⟩ := hbefore
    · obtain ⟨hterminated, hends⟩ := h.succeeded hold
      exact ⟨terminated_or_ends_execute hid hends hterminated hexec, hends.execute hexec⟩
    · have hends := h.ahead List.mem_cons_self hrunnable
      exact ⟨terminated_or_ends_execute hid hends
        (Or.inr ⟨job, List.mem_cons_self, hrunnable, h.subscription_id, h.job_type⟩) hexec, hends.execute hexec⟩

/-- The jobs of a call, one after the other. -/
theorem Terminating.run {surroundings : Surroundings ρ} {now : Nat} {jobs : List Nat} {world after : Billing ρ}
    (h : Terminating sub job jobs world) (hids : ∀ id ∈ jobs, id ∈ world.jobs.ids)
    (hexec : (Method.forEach (IspProvisioningJob.execute (dispatch surroundings) now) jobs).exec world =
      (.ok (), after)) :
    Terminating sub job [] after := by
  induction jobs generalizing world with
  | nil =>
    obtain ⟨_, rfl⟩ := Prod.mk.inj hexec
    exact h
  | cons id rest ih =>
    obtain ⟨middle, hfirst, hrest⟩ := Method.forEach_cons_returns hexec
    refine ih (h.execute (hids id List.mem_cons_self) hfirst) (fun other hother => ?_) hrest
    rw [(execute_provisions hfirst).1]
    exact hids other (List.mem_cons_of_mem _ hother)

/-- A call that executes jobs keeps a termination final, or makes it so. -/
theorem Terminates.run {surroundings : Surroundings ρ} {now : Nat} {jobs : List Nat} {world after : Billing ρ}
    (h : Terminates sub job world) (hids : ∀ id ∈ jobs, id ∈ world.jobs.ids)
    (hlast : job ∈ jobs → (world.jobs.row job).Runnable → EndsTerminated sub world jobs)
    (hexec : (Method.forEach (IspProvisioningJob.execute (dispatch surroundings) now) jobs).exec world =
      (.ok (), after)) :
    Terminates sub job after := by
  have hstart : Terminating sub job jobs world :=
    ⟨h.toTerminationJob, hlast, fun hsuccess =>
      ⟨Or.inl (h.final hsuccess).state, fun other hother hrunnable hrevives =>
        absurd hrevives ((h.final hsuccess).quiet other hother hrunnable)⟩⟩
  have hdone := hstart.run hids hexec
  refine ⟨hdone.toTerminationJob, fun hsuccess => ?_⟩
  obtain ⟨hterminated, hends⟩ := hdone.succeeded hsuccess
  refine ⟨hdone.sub_exists, ?_, fun other hother hrunnable hrevives => ?_⟩
  · obtain hstate | ⟨_, hmem, _⟩ := hterminated
    · exact hstate
    · cases hmem
  · obtain ⟨_, hmem, _⟩ := hends other hother hrunnable hrevives
    cases hmem

theorem Final.step {world after : Billing ρ} {event : ServerEvent ρ} (h : Final sub world)
    (hquiet : event.LeavesAlone sub) (hstep : ServerStep world event after) : Final sub after := by
  obtain hedits | ⟨surroundings, now, hexec⟩ := hstep.cases
  · exact h.adds (hedits.adds h.sub_exists hquiet)
  · exact execute_jobs_keeps (fun _ _ _ hbefore => hbefore.execute) h (ServerEvent.executed_mem_ids hstep.1) hexec

theorem Terminates.step {world after : Billing ρ} {event : ServerEvent ρ} (h : Terminates sub job world)
    (hquiet : event.LeavesAlone sub) (hlast : event.TerminatesLast sub job world)
    (hstep : ServerStep world event after) : Terminates sub job after := by
  obtain hedits | ⟨surroundings, now, hexec⟩ := hstep.cases
  · exact h.adds (hedits.adds h.sub_exists hquiet)
  · exact h.run (ServerEvent.executed_mem_ids hstep.1) hlast hexec

/-- Queueing the termination job of an existing subscription. -/
theorem Terminates.of_action_terminate {clock : Nat → Nat} {before initial : Billing ρ}
    (h : ServerStep before (.action_terminate clock [sub]) initial) :
    Terminates sub before.jobs.next_id initial := by
  obtain ⟨hexists, rfl⟩ := h
  have hexec := @IspSubscription.queue_each_exec Accounting ρ clock .terminate_subscription [sub] before
  rw [ServerEvent.call, ServerEvent.method, IspSubscription.action_terminate, Method.commit_of_ok hexec]
  have hrow : (before.queueAll clock .terminate_subscription [sub]).jobs.row before.jobs.next_id =
      (before.subscription sub).job sub .terminate_subscription (clock before.jobs.next_id) :=
    before.jobs.create_row_new _
  refine ⟨⟨hexists sub (List.mem_singleton_self _), ?_, ?_, ?_⟩, fun hsuccess => ?_⟩
  · exact List.mem_append_right _ (List.mem_singleton_self _)
  · rw [hrow]
    rfl
  · rw [hrow]
    rfl
  · rw [hrow] at hsuccess
    cases hsuccess

/-- After an operator's termination job was queued: if no reviving job of the
subscription is left for later when that job is executed, then from the state in
which it has succeeded the subscription is never active or suspended again,
whatever the server is called for. -/
theorem terminated_for_good {clock : Nat → Nat} {before initial executed reached : Billing ρ}
    {taken later : List (Billing ρ × ServerEvent ρ)}
    (hterminate : ServerStep before (.action_terminate clock [sub]) initial)
    (run : Run ServerStep initial taken executed) (rest : Run ServerStep executed later reached)
    (hquiet : ∀ entry ∈ taken ++ later, entry.2.LeavesAlone sub)
    (hlast : ∀ entry ∈ taken, entry.2.TerminatesLast sub before.jobs.next_id entry.1)
    (hsuccess : (executed.jobs.row before.jobs.next_id).state = .success) :
    ∀ world ∈ Run.visited later reached,
      (world.subscription sub).state ≠ .active ∧ (world.subscription sub).state ≠ .suspended := by
  have hterminates := @Run.invariant_of_condition (Billing ρ) (ServerEvent ρ) ServerStep initial
    (Terminates sub before.jobs.next_id)
    (fun world event => event.LeavesAlone sub ∧ event.TerminatesLast sub before.jobs.next_id world)
    (Terminates.of_action_terminate hterminate)
    (fun world event after hworld hcondition hstep => hworld.step hcondition.1 hcondition.2 hstep) taken executed run
    (fun entry hentry => ⟨hquiet entry (List.mem_append_left _ hentry), hlast entry hentry⟩)
  have hexecuted := (hterminates executed (Run.reached_mem_visited _ _)).final hsuccess
  have hfinal := @Run.invariant_of_condition (Billing ρ) (ServerEvent ρ) ServerStep executed (Final sub)
    (fun _ event => event.LeavesAlone sub) hexecuted
    (fun world event after hworld hcondition hstep => hworld.step hcondition hstep) later reached rest
    (fun entry hentry => hquiet entry (List.mem_append_right _ hentry))
  intro world hworld
  rw [(hfinal world hworld).state]
  exact ⟨nofun, nofun⟩

/-- A customer with an overdue invoice, whose service an operator terminates. -/
def terminationQueued : Billing Unit := (ServerEvent.action_terminate id [0]).call (unpaid [unpaidInvoice])

def terminationExecuted : Billing Unit := (ServerEvent.cron_run_pending_jobs dryRun 1 [0]).call terminationQueued

theorem terminationQueued_step :
    ServerStep (unpaid [unpaidInvoice]) (.action_terminate id [0]) terminationQueued :=
  ⟨fun _ hsub => hsub, rfl⟩

def overduePass : ServerEvent Unit := .cron_suspend_overdue id februaryFirst [0]

/-- The overdue pass that follows the termination finds the invoice and queues
nothing. -/
theorem terminated_for_good_overdue :
    ((overduePass.call terminationExecuted).subscription 0).state ≠ .active ∧
      ((overduePass.call terminationExecuted).subscription 0).state ≠ .suspended := by
  have hexecute : ServerStep terminationQueued (.cron_run_pending_jobs dryRun 1 [0]) terminationExecuted :=
    ⟨⟨[0], List.Perm.refl _, by decide, rfl⟩, rfl⟩
  have hoverdue : ServerStep terminationExecuted overduePass (overduePass.call terminationExecuted) :=
    ⟨List.Perm.refl [0], rfl⟩
  refine terminated_for_good terminationQueued_step (.step .start hexecute) (.step .start hoverdue) ?_ ?_ rfl _
    (Run.reached_mem_visited _ _)
  · intro entry hentry
    obtain rfl | hrest := List.mem_cons.mp hentry
    · trivial
    · rw [List.mem_singleton.mp hrest]
      trivial
  · intro entry hentry
    rw [List.mem_singleton.mp hentry]
    intro _ _ other hother _ hrevives
    rw [List.mem_singleton.mp hother] at hrevives
    exact absurd rfl hrevives.2

/-- The overdue pass runs between the request for the termination and its
execution: the next pass terminates the subscription and then suspends it. -/
theorem terminated_customer_suspended :
    ∃ taken reached, Run ServerStep terminationQueued taken reached ∧
      (∀ entry ∈ taken, entry.2.LeavesAlone 0 ∧ (entry.2.method.exec entry.1).1 = .ok ()) ∧
      (reached.jobs.row (unpaid [unpaidInvoice]).jobs.next_id).state = .success ∧
      (reached.subscription 0).state = .suspended := by
  let suspensionQueued := overduePass.call terminationQueued
  let executed := (ServerEvent.cron_run_pending_jobs dryRun 2 [0, 1]).call suspensionQueued
  have hoverdue : ServerStep terminationQueued overduePass suspensionQueued := ⟨List.Perm.refl [0], rfl⟩
  have hexecute : ServerStep suspensionQueued (.cron_run_pending_jobs dryRun 2 [0, 1]) executed :=
    ⟨⟨[0, 1], List.Perm.refl _, by decide, rfl⟩, rfl⟩
  refine ⟨_, executed, .step (.step .start hoverdue) hexecute, ?_, by decide, by decide⟩
  intro entry hentry
  obtain rfl | hrest := List.mem_cons.mp hentry
  · exact ⟨trivial, rfl⟩
  · rw [List.mem_singleton.mp hrest]
    exact ⟨trivial, rfl⟩

end getupnet.server

import Getupnet.Relational.Draining
import Getupnet.Relational.LastWriter
import Getupnet.Relational.Runs
import Getupnet.IspCore.Records
import Getupnet.IspCore.ProvisioningJob.Batch

open relational

namespace getupnet.isp_core

/-- The state that a lifecycle job writes on its subscription. -/
def JobType.written : JobType → Option SubscriptionState
  | .activate_subscription => some .active
  | .suspend_subscription => some .suspended
  | .reconnect_subscription => some .active
  | .terminate_subscription => some .terminated
  | _ => none

theorem JobType.stateAfter_eq (job_type : JobType) (state : SubscriptionState) :
    job_type.stateAfter state = job_type.written.getD state := by
  cases job_type <;> rfl

/-- Handlers that, when they return, have written the state of a lifecycle job on its
subscription and no other state. -/
def WritesState {σ ρ : Type} (states : σ → Nat → SubscriptionState) (dispatch : Dispatch σ ρ) : Prop :=
  ∀ id job records outside after, (dispatch id job).exec (records, outside) = (.ok (), after) → ∀ sub,
    states after.1 sub =
      if job.subscription_id = some sub then job.job_type.stateAfter (states records sub) else states records sub

/-- A pass of the cron, with the jobs that its search finds. -/
structure CronPass (σ ρ : Type) where
  dispatch : Dispatch σ ρ
  now : Nat
  found : List Nat

/-- A pass in which all handlers succeed. -/
structure CronStep {σ ρ : Type} (states : σ → Nat → SubscriptionState) (before : World σ ρ) (pass : CronPass σ ρ)
    (after : World σ ρ) : Prop where
  writes : WritesState states pass.dispatch
  pending : before.Pending pass.found
  returned :
    (IspProvisioningJob.cron_run_pending_jobs pass.dispatch pass.now pass.found).exec before = (.ok (), after)

/-- The jobs that the passes have executed, in their order. -/
def executed {σ ρ : Type} (taken : List (World σ ρ × CronPass σ ρ)) : List Nat :=
  taken.flatMap fun entry => entry.2.found

def ofSubscription (jobs : Store IspProvisioningJob) (sub id : Nat) : Bool :=
  decide ((jobs.row id).subscription_id = some sub)

/-- The queued jobs, in the order in which they were created. -/
def queued (jobs : Store IspProvisioningJob) : List Nat := jobs.search fun job => decide (job.state = .queued)

/-- The queued jobs of a subscription, in the order in which they were created. -/
def queuedFor (jobs : Store IspProvisioningJob) (sub : Nat) : List Nat :=
  (queued jobs).filter (ofSubscription jobs sub)

/-- An execution of the job writes the state of its subscription. -/
def WritesOnce (jobs : Store IspProvisioningJob) (id : Nat) : Bool :=
  decide (jobs.row id).Runnable && (jobs.row id).job_type.written.isSome

/-- The jobs of each subscription have been executed in the order in which they were
created. Where none is left, the last one created that writes a state has left it. -/
structure InCreationOrder {σ ρ : Type} (states : σ → Nat → SubscriptionState) (queue : Store IspProvisioningJob)
    (taken : List (World σ ρ × CronPass σ ρ)) (reached : World σ ρ) : Prop where
  order : ∀ sub, List.IsPrefix ((executed taken).filter (ofSubscription queue sub)) (queuedFor queue sub)
  last : ∀ sub, queuedFor reached.jobs sub = [] → ∀ job,
    IsLast (· < ·) ((queuedFor queue sub).filter (WritesOnce queue)) job →
      (queue.row job).job_type.written = some (states reached.records sub)

/-- Of two queued jobs of a subscription the one created first was requested in an
earlier second. -/
def RequestedApart (queue : Store IspProvisioningJob) : Prop :=
  ∀ sub, (queuedFor queue sub).Pairwise fun first second =>
    (queue.row first).requested_at < (queue.row second).requested_at

section

variable {σ ρ : Type} {states : σ → Nat → SubscriptionState} {dispatch : Dispatch σ ρ} {now : Nat}
  {jobs queue : Store IspProvisioningJob} {sub : Nat} {world after reached : World σ ρ}

/-- What executing a job makes of the state of a subscription. -/
def stateStep (jobs : Store IspProvisioningJob) (sub : Nat) (state : SubscriptionState) (id : Nat) :
    SubscriptionState :=
  if (jobs.row id).Runnable ∧ (jobs.row id).subscription_id = some sub then (jobs.row id).job_type.stateAfter state
  else state

/-- What executing the jobs of a list makes of it, one after the other. -/
def stateFrom (jobs : Store IspProvisioningJob) (sub : Nat) (state : SubscriptionState) (ids : List Nat) :
    SubscriptionState :=
  ids.foldl (stateStep jobs sub) state

theorem stateStep_of_writesOnce {id : Nat} (hwrites : WritesOnce jobs id = true)
    (hsub : ofSubscription jobs sub id = true) (state : SubscriptionState) :
    (jobs.row id).job_type.written = some (stateStep jobs sub state id) := by
  rw [WritesOnce, Bool.and_eq_true, decide_eq_true_eq] at hwrites
  obtain ⟨written, hwritten⟩ := Option.isSome_iff_exists.mp hwrites.2
  rw [stateStep, if_pos ⟨hwrites.1, of_decide_eq_true hsub⟩, JobType.stateAfter_eq, hwritten, Option.getD_some]

theorem stateStep_of_not_writesOnce {id : Nat} (h : WritesOnce jobs id = false) (state : SubscriptionState) :
    stateStep jobs sub state id = state := by
  unfold stateStep
  split
  · rename_i hexecuted
    rw [WritesOnce, decide_eq_true hexecuted.1, Bool.true_and, Option.isSome_eq_false_iff,
      Option.isNone_iff_eq_none] at h
    rw [JobType.stateAfter_eq, h, Option.getD_none]
  · rfl

/-- Only the jobs of the subscription matter. -/
theorem stateFrom_filter (state : SubscriptionState) (ids : List Nat) :
    stateFrom jobs sub state (ids.filter (ofSubscription jobs sub)) = stateFrom jobs sub state ids := by
  rw [stateFrom, stateFrom, List.foldl_filter]
  refine List.foldl_ext _ _ _ fun state id _ => ?_
  cases hsub : ofSubscription jobs sub id with
  | true => rfl
  | false =>
    have hother : ¬ (jobs.row id).subscription_id = some sub := of_decide_eq_false hsub
    exact (if_neg fun h => hother h.2).symm

theorem stateFrom_congr {others : Store IspProvisioningJob} {ids : List Nat}
    (h : ∀ id ∈ ids, others.row id = jobs.row id) (state : SubscriptionState) :
    stateFrom others sub state ids = stateFrom jobs sub state ids := by
  refine List.foldl_ext _ _ _ fun state id hid => ?_
  rw [stateStep, stateStep, h id hid]

/-- Of jobs that are executed in ascending order, the last one that writes a state
leaves it. -/
theorem stateFrom_of_isLast {ids : List Nat} (hascending : ids.Pairwise (· < ·))
    (hsub : ∀ id ∈ ids, ofSubscription jobs sub id = true) {job : Nat}
    (hlast : IsLast (· < ·) (ids.filter (WritesOnce jobs)) job) (state : SubscriptionState) :
    (jobs.row job).job_type.written = some (stateFrom jobs sub state ids) := by
  obtain ⟨hmem, hwrites⟩ := List.mem_filter.mp hlast.1
  obtain ⟨earlier, later, rfl⟩ := List.append_of_mem hmem
  have hlater : ∀ id ∈ later, WritesOnce jobs id = false := by
    intro id hid
    have hafter : job < id := (List.pairwise_cons.mp (List.pairwise_append.mp hascending).2.1).1 id hid
    rw [Bool.eq_false_iff]
    intro hother
    have hmember : id ∈ (earlier ++ job :: later).filter (WritesOnce jobs) :=
      List.mem_filter.mpr ⟨List.mem_append_right _ (List.mem_cons_of_mem _ hid), hother⟩
    exact absurd (hlast.2 id hmember (Nat.ne_of_gt hafter)) (Nat.lt_asymm hafter)
  have hkept : ∀ state, stateFrom jobs sub state later = state := by
    intro state
    have hsteps : stateFrom jobs sub state later = later.foldl (fun state _ => state) state :=
      List.foldl_ext _ _ _ fun state id hid => stateStep_of_not_writesOnce (hlater id hid) state
    rw [hsteps, List.foldl_const]
    exact Function.iterate_id _ ▸ rfl
  have hsplit : stateFrom jobs sub state (earlier ++ job :: later) =
      stateFrom jobs sub (stateStep jobs sub (stateFrom jobs sub state earlier) job) later := by
    rw [stateFrom, List.foldl_append, List.foldl_cons]
    rfl
  rw [hsplit, hkept]
  exact stateStep_of_writesOnce hwrites (hsub job hmem) _

/-- The state after an execution that returns. -/
theorem execute_writes {id : Nat} (hwrites : WritesState states dispatch)
    (h : (IspProvisioningJob.execute dispatch now id).exec world = (.ok (), after)) (sub : Nat) :
    states after.records sub = stateStep world.jobs sub (states world.records sub) id := by
  obtain ⟨_, ⟨hrunnable, hdispatch⟩ | ⟨hnot, hrecords, _⟩⟩ := IspProvisioningJob.execute_returns h
  · have hstate := hwrites id _ _ _ _ hdispatch sub
    simp only [stateStep, hrunnable, true_and]
    exact hstate
  · rw [stateStep, if_neg fun h => hnot h.1, hrecords]

/-- What a pass that returns leaves: its jobs out of the queue and the others as they
were, and the states as its jobs write them in turn. -/
theorem cron_run_pending_jobs_returns {found : List Nat} (hwrites : WritesState states dispatch)
    (hnodup : found.Nodup)
    (h : (IspProvisioningJob.cron_run_pending_jobs dispatch now found).exec world = (.ok (), after)) :
    after.jobs.ids = world.jobs.ids ∧ (∀ id, id ∉ found → after.jobs.row id = world.jobs.row id) ∧
      (∀ id ∈ found, (after.jobs.row id).state ≠ .queued) ∧
      ∀ sub, states after.records sub = stateFrom world.jobs sub (states world.records sub) found := by
  unfold IspProvisioningJob.cron_run_pending_jobs at h
  induction found generalizing world with
  | nil =>
    cases h
    exact ⟨rfl, fun _ _ => rfl, fun id hid => absurd hid List.not_mem_nil, fun _ => rfl⟩
  | cons first rest ih =>
    obtain ⟨hfirst, hrest⟩ := List.nodup_cons.mp hnodup
    obtain ⟨middle, hexec, hlater⟩ := Method.forEach_cons_returns h
    have hjobs := (IspProvisioningJob.execute_returns hexec).1
    obtain ⟨hids, hothers, hdone, hstates⟩ := ih hrest hlater
    refine ⟨?_, fun id hid => ?_, fun id hid => ?_, fun sub => ?_⟩
    · rw [hids, hjobs, Store.write_ids]
    · rw [List.mem_cons, not_or] at hid
      rw [hothers id hid.2, hjobs, Store.write_row_ne _ hid.1]
    · obtain rfl | hin := List.mem_cons.mp hid
      · rw [hothers id hfirst, hjobs, Store.write_row_self]
        exact IspProvisioningJob.settled_state_ne_queued _ _ _
      · exact hdone id hin
    · have hsame : ∀ id ∈ rest, middle.jobs.row id = world.jobs.row id := by
        intro id hid
        rw [hjobs, Store.write_row_ne]
        rintro rfl
        exact hfirst hid
      rw [hstates sub, execute_writes hwrites hexec, stateFrom_congr hsame]
      rfl

/-- How far the passes have come. -/
structure Progress (states : σ → Nat → SubscriptionState) (queue : Store IspProvisioningJob) (records : σ)
    (done : List Nat) (world : World σ ρ) : Prop where
  ids : world.jobs.ids = queue.ids
  settled : ∀ id ∈ done, (world.jobs.row id).state ≠ .queued
  left : ∀ id, id ∉ done → world.jobs.row id = queue.row id
  drained : Drained (queued queue) (fun id => (queue.row id).requested_at) 20 done
  state : ∀ sub, states world.records sub = stateFrom queue sub (states records sub) done

/-- What is queued is what is left of the queue. -/
theorem Progress.queued_eq {records : σ} {done : List Nat} (h : Progress states queue records done world) :
    queued world.jobs = (queued queue).filter fun id => decide (id ∉ done) := by
  rw [queued, queued, Store.search, Store.search, List.filter_filter, h.ids]
  refine List.filter_congr fun id _ => ?_
  by_cases hdone : id ∈ done
  · simp [hdone, h.settled id hdone]
  · simp [hdone, h.left id hdone]

theorem Progress.left_requested_at {records : σ} {done : List Nat}
    (h : Progress states queue records done world) :
    ∀ id ∈ (queued queue).filter (fun id => decide (id ∉ done)),
      (world.jobs.row id).requested_at = (queue.row id).requested_at := by
  intro id hid
  rw [h.left id (of_decide_eq_true (List.mem_filter.mp hid).2)]

/-- A pass drains a batch. -/
theorem Progress.step {records : σ} {done : List Nat} {pass : CronPass σ ρ}
    (h : Progress states queue records done world) (hstep : CronStep states world pass after) :
    Progress states queue records (done ++ pass.found) after := by
  have hnodup := hstep.pending.nodup
  obtain ⟨listing, hfinds, hsorted, hfound⟩ := hstep.pending
  obtain ⟨hids, hothers, hdone, hstates⟩ := cron_run_pending_jobs_returns hstep.writes hnodup hstep.returned
  have hperm : listing.Perm ((queued queue).filter fun id => decide (id ∉ done)) := h.queued_eq ▸ hfinds
  have hleft : ∀ id ∈ pass.found, id ∉ done := by
    intro id hid
    rw [hfound] at hid
    exact of_decide_eq_true (List.mem_filter.mp (hperm.mem_iff.mp (List.mem_of_mem_take hid))).2
  refine ⟨hids.trans h.ids, fun id hid => ?_, fun id hid => ?_, ?_, fun sub => ?_⟩
  · by_cases hnew : id ∈ pass.found
    · exact hdone id hnew
    · rw [hothers id hnew]
      exact h.settled id ((List.mem_append.mp hid).resolve_right hnew)
  · rw [List.mem_append, not_or] at hid
    rw [hothers id hid.2, h.left id hid.1]
  · rw [hfound]
    refine .batch h.drained hperm (hsorted.imp_of_mem fun {first second} hfirst hsecond hle => ?_)
    dsimp only at hle ⊢
    rwa [h.left_requested_at first (hperm.mem_iff.mp hfirst),
      h.left_requested_at second (hperm.mem_iff.mp hsecond)] at hle
  · have hsame : ∀ id ∈ pass.found, world.jobs.row id = queue.row id := fun id hid => h.left id (hleft id hid)
    rw [hstates sub, stateFrom_congr hsame, h.state sub, stateFrom, stateFrom, stateFrom, List.foldl_append]

theorem executed_append (taken : List (World σ ρ × CronPass σ ρ)) (before : World σ ρ) (pass : CronPass σ ρ) :
    executed (taken ++ [(before, pass)]) = executed taken ++ pass.found := by
  simp [executed]

/-- Any number of passes drains the queue by batches. -/
theorem Progress.of_run {records : σ} {outside : ρ} {taken : List (World σ ρ × CronPass σ ρ)}
    (run : Run (CronStep states) ⟨queue, records, outside⟩ taken reached) :
    Progress states queue records (executed taken) reached := by
  induction run with
  | start =>
    exact ⟨rfl, fun id hid => absurd hid List.not_mem_nil, fun _ _ => rfl, .start, fun _ => rfl⟩
  | step before hstep ih =>
    rw [executed_append]
    exact ih.step hstep

theorem queued_ascending (jobs : Store IspProvisioningJob) : (queued jobs).Pairwise (· < ·) :=
  jobs.ids_ascending.filter _

/-- Where nothing is left of the queue of a subscription, all of it has been executed. -/
theorem Progress.executed_all {records : σ} {done : List Nat} (h : Progress states queue records done world)
    (hbegins : List.IsPrefix (done.filter (ofSubscription queue sub)) (queuedFor queue sub))
    (hempty : queuedFor world.jobs sub = []) : done.filter (ofSubscription queue sub) = queuedFor queue sub := by
  obtain ⟨rest, hrest⟩ := hbegins
  cases rest with
  | nil => rw [← hrest, List.append_nil]
  | cons id later =>
    have hmem : id ∈ queuedFor queue sub := hrest ▸ List.mem_append_right _ List.mem_cons_self
    obtain ⟨hqueued, hsub⟩ := List.mem_filter.mp hmem
    have hnodup : (queuedFor queue sub).Nodup := (queue.search_nodup _).filter _
    have hnot : id ∉ done := by
      intro hdone
      rw [← hrest] at hnodup
      exact List.disjoint_of_nodup_append hnodup (List.mem_filter.mpr ⟨hdone, hsub⟩) List.mem_cons_self
    have hstill : id ∈ queuedFor world.jobs sub := by
      refine List.mem_filter.mpr ⟨?_, ?_⟩
      · rw [h.queued_eq]
        exact List.mem_filter.mpr ⟨hqueued, decide_eq_true hnot⟩
      · rw [ofSubscription, h.left id hnot]
        exact hsub
    rw [hempty] at hstill
    exact absurd hstill List.not_mem_nil

/-- Passes over a queue whose jobs were requested apart keep the order of creation. -/
theorem RequestedApart.inCreationOrder (h : RequestedApart queue) {records : σ} {outside : ρ}
    {taken : List (World σ ρ × CronPass σ ρ)}
    (run : Run (CronStep states) ⟨queue, records, outside⟩ taken reached) :
    InCreationOrder states queue taken reached := by
  have hprogress := Progress.of_run run
  have horder : ∀ sub, List.IsPrefix ((executed taken).filter (ofSubscription queue sub)) (queuedFor queue sub) :=
    fun sub => hprogress.drained.prefix_of_ascending (queue.search_nodup _) (h sub)
  refine ⟨horder, fun sub hempty job hlast => ?_⟩
  have hall := hprogress.executed_all (horder sub) hempty
  rw [hprogress.state sub, ← stateFrom_filter, hall]
  exact stateFrom_of_isLast ((queued_ascending queue).filter _) (fun id hid => (List.mem_filter.mp hid).2) hlast _

end

/-- Handlers that only write the states. -/
def stateHandlers : Dispatch (Nat → SubscriptionState) Unit :=
  scripted (fun _ => .ok ()) fun _ job rest =>
    (fun sub => if job.subscription_id = some sub then job.job_type.stateAfter (rest.1 sub) else rest.1 sub, rest.2)

theorem stateHandlers_writes : WritesState id stateHandlers := by
  intro id job records outside after hdispatch sub
  cases hdispatch
  rfl

/-- Whatever can be drained by batches is drained by passes in which all handlers
succeed. -/
theorem exists_run_of_drained {queue : Store IspProvisioningJob} {done : List Nat}
    (records : Nat → SubscriptionState)
    (h : Drained (queued queue) (fun id => (queue.row id).requested_at) 20 done) :
    ∃ taken reached, Run (CronStep id) (⟨queue, records, ()⟩ : World (Nat → SubscriptionState) Unit) taken reached ∧
      executed taken = done := by
  induction h with
  | start => exact ⟨[], _, .start, rfl⟩
  | @batch done listing before hlisting hsorted ih =>
    obtain ⟨taken, world, run, rfl⟩ := ih
    have hprogress := Progress.of_run run
    have hpending : world.Pending (listing.take 20) := by
      refine ⟨listing, hlisting.trans (.of_eq hprogress.queued_eq.symm),
        hsorted.imp_of_mem fun {first second} hfirst hsecond hle => ?_, rfl⟩
      dsimp only
      rwa [hprogress.left_requested_at first (hlisting.mem_iff.mp hfirst),
        hprogress.left_requested_at second (hlisting.mem_iff.mp hsecond)]
    have hreturns : ¬ world.Raises (fun _ => .ok ()) (listing.take 20) := fun ⟨_, _, _, hraises⟩ => hraises rfl
    obtain ⟨after, hexec, _⟩ := IspProvisioningJob.run_scripted_of_not_raises _ _ 0 _ world hreturns
    have hstep : CronStep id world ⟨stateHandlers, 0, listing.take 20⟩ after :=
      ⟨stateHandlers_writes, hpending, hexec⟩
    exact ⟨_, after, .step run hstep, executed_append taken world _⟩

/-- Every number of passes with succeeding handlers executes the jobs of each
subscription in the order in which they were created, and so leaves it the state of the
last one, exactly when no two of them were requested in one second, or in reverse. -/
theorem creation_order_iff (queue : Store IspProvisioningJob) :
    (∀ (σ ρ : Type) (states : σ → Nat → SubscriptionState) (records : σ) (outside : ρ)
        (taken : List (World σ ρ × CronPass σ ρ)) (reached : World σ ρ),
        Run (CronStep states) ⟨queue, records, outside⟩ taken reached →
          InCreationOrder states queue taken reached) ↔
      RequestedApart queue := by
  refine ⟨fun hordered sub => ?_, fun h σ ρ states records outside taken reached run => h.inCreationOrder run⟩
  refine (drained_in_order_iff (queue.search_nodup _) (by decide : 0 < 20)).mp fun done hdrained => ?_
  obtain ⟨taken, reached, run, rfl⟩ := exists_run_of_drained (fun _ => .draft) hdrained
  exact (hordered _ _ id (fun _ => .draft) () taken reached run).order sub

/-- A suspension and a reconnection of one subscription, requested in one second. -/
def suspendedAndReconnected : Store IspProvisioningJob :=
  (queueOf [{ job_type := .suspend_subscription, subscription_id := some 0, requested_at := 0 },
    { job_type := .reconnect_subscription, subscription_id := some 0, requested_at := 0 }]).jobs

end getupnet.isp_core

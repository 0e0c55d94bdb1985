import Getupnet.IspCore.ProvisioningJob

open relational

namespace getupnet.isp_core

variable {σ ρ : Type}

/-- Handlers with assigned outcomes and arbitrary effects on everything but the
job table. -/
def scripted (outcome : Nat → Except OdooError Unit) (effect : Nat → IspProvisioningJob → σ × ρ → σ × ρ) :
    Dispatch σ ρ :=
  fun id job => Method.ofFun fun rest => (outcome id, effect id job rest)

/-- What one execution makes of a job's record when its handler has the given outcome. -/
def IspProvisioningJob.settled (now : Nat) (result : Except OdooError Unit) (self : IspProvisioningJob) :
    IspProvisioningJob :=
  if self.state ≠ .queued then self
  else if self.max_attempts ≤ self.attempts then self.exhausted
  else (self.started now).closed result

theorem IspProvisioningJob.settled_of_runnable {now : Nat} {result : Except OdooError Unit}
    {self : IspProvisioningJob} (h : self.Runnable) :
    self.settled now result = (self.started now).closed result := by
  have hattempts := Nat.not_le.mpr h.2
  simp [IspProvisioningJob.settled, h.1, hattempts]

theorem IspProvisioningJob.settled_of_not_queued {now : Nat} {result : Except OdooError Unit}
    {self : IspProvisioningJob} (h : self.state ≠ .queued) : self.settled now result = self := by
  simp [IspProvisioningJob.settled, h]

theorem IspProvisioningJob.closed_state_ne_queued (result : Except OdooError Unit) (self : IspProvisioningJob) :
    (self.closed result).state ≠ .queued := by
  cases result <;> simp [IspProvisioningJob.closed]

/-- Whatever the outcome, an executed job leaves the queue. -/
theorem IspProvisioningJob.settled_state_ne_queued (now : Nat) (result : Except OdooError Unit)
    (self : IspProvisioningJob) : (self.settled now result).state ≠ .queued := by
  unfold IspProvisioningJob.settled
  split
  · assumption
  · split
    · simp [IspProvisioningJob.exhausted]
    · exact IspProvisioningJob.closed_state_ne_queued _ _

theorem IspProvisioningJob.settled_target (now : Nat) (result : Except OdooError Unit)
    (self : IspProvisioningJob) :
    (self.settled now result).job_type = self.job_type ∧
      (self.settled now result).subscription_id = self.subscription_id := by
  unfold IspProvisioningJob.settled
  split
  · exact ⟨rfl, rfl⟩
  · split
    · exact ⟨rfl, rfl⟩
    · cases result <;> exact ⟨rfl, rfl⟩

theorem IspProvisioningJob.settled_device_id (now : Nat) (result : Except OdooError Unit)
    (self : IspProvisioningJob) : (self.settled now result).device_id = self.device_id := by
  unfold IspProvisioningJob.settled
  split
  · rfl
  · split
    · rfl
    · cases result <;> rfl

/-- A job that succeeds by its execution was runnable, unless it had succeeded
before. -/
theorem IspProvisioningJob.settled_success {now : Nat} {self : IspProvisioningJob}
    (h : (self.settled now (.ok ())).state = .success) : self.state = .success ∨ self.Runnable := by
  by_cases hqueued : self.state = .queued
  · by_cases hattempts : self.max_attempts ≤ self.attempts
    · simp [IspProvisioningJob.settled, hqueued, hattempts, IspProvisioningJob.exhausted] at h
    · exact Or.inr ⟨hqueued, Nat.not_le.mp hattempts⟩
  · rw [IspProvisioningJob.settled_of_not_queued hqueued] at h
    exact Or.inl h

/-- What may still be executed after an execution is another job, as it was
before. -/
theorem IspProvisioningJob.runnable_after_settling {jobs : Store IspProvisioningJob} {now id other : Nat}
    {result : Except OdooError Unit}
    (h : ((jobs.write id (IspProvisioningJob.settled now result)).row other).Runnable) :
    other ≠ id ∧ (jobs.write id (IspProvisioningJob.settled now result)).row other = jobs.row other := by
  have hne : other ≠ id := by
    rintro rfl
    rw [Store.write_row_self] at h
    exact IspProvisioningJob.settled_state_ne_queued _ _ _ h.1
  exact ⟨hne, jobs.write_row_ne hne _⟩

/-- Some job of the list would raise, were its turn to come. -/
def World.Raises (self : World σ ρ) (outcome : Nat → Except OdooError Unit) (jobs : List Nat) : Prop :=
  ∃ id ∈ jobs, (self.jobs.row id).Runnable ∧ outcome id ≠ .ok ()

/-- What one execution makes of everything but the job table. -/
def World.affected (effect : Nat → IspProvisioningJob → σ × ρ → σ × ρ) (now id : Nat) (self : World σ ρ) :
    σ × ρ :=
  if (self.jobs.row id).Runnable then
    effect id ((self.jobs.row id).started now) (self.records, self.outside)
  else (self.records, self.outside)

/-- The world after one execution under a script. -/
def World.afterExecution (outcome : Nat → Except OdooError Unit)
    (effect : Nat → IspProvisioningJob → σ × ρ → σ × ρ) (now id : Nat) (self : World σ ρ) : World σ ρ where
  jobs := self.jobs.write id (IspProvisioningJob.settled now (outcome id))
  records := (self.affected effect now id).1
  outside := (self.affected effect now id).2

/-- One execution settles the job's record by what its handler returns or
raises, and ends as the handler does; a job that is not runnable has no handler
called. -/
theorem IspProvisioningJob.execute_exec (dispatch : Dispatch σ ρ) (now id : Nat) {world : World σ ρ}
    {result : Except OdooError Unit} {rest : σ × ρ}
    (hdispatch : (dispatch id ((world.jobs.row id).started now)).exec (world.records, world.outside) =
      (result, rest)) :
    (IspProvisioningJob.execute dispatch now id).exec world =
      (if (world.jobs.row id).Runnable then result else .ok (),
        { jobs := world.jobs.write id (IspProvisioningJob.settled now result)
          records := (if (world.jobs.row id).Runnable then rest else (world.records, world.outside)).1
          outside := (if (world.jobs.row id).Runnable then rest else (world.records, world.outside)).2 }) := by
  by_cases hqueued : (world.jobs.row id).state = .queued
  · by_cases hattempts : (world.jobs.row id).max_attempts ≤ (world.jobs.row id).attempts
    · have hnot : ¬ (world.jobs.row id).Runnable := fun h => Nat.not_le.mpr h.2 hattempts
      have hwrite : world.jobs.write id IspProvisioningJob.exhausted =
          world.jobs.write id (IspProvisioningJob.settled now result) :=
        world.jobs.write_congr (by simp [IspProvisioningJob.settled, hqueued, hattempts])
      rw [IspProvisioningJob.execute_of_exhausted _ now id hqueued hattempts, if_neg hnot, if_neg hnot,
        World.writeJob, hwrite]
    · have hrunnable : (world.jobs.row id).Runnable := ⟨hqueued, Nat.not_le.mp hattempts⟩
      have hwrite : world.jobs.write id (fun job => (job.started now).closed result) =
          world.jobs.write id (IspProvisioningJob.settled now result) :=
        world.jobs.write_congr (IspProvisioningJob.settled_of_runnable hrunnable).symm
      rw [IspProvisioningJob.execute_of_runnable _ now id hrunnable hdispatch, if_pos hrunnable, if_pos hrunnable,
        hwrite]
  · have hnot : ¬ (world.jobs.row id).Runnable := fun h => hqueued h.1
    have hwrite : world.jobs.write id (IspProvisioningJob.settled now result) = world.jobs :=
      world.jobs.write_unchanged (IspProvisioningJob.settled_of_not_queued hqueued)
    rw [IspProvisioningJob.execute_of_not_queued _ now id hqueued, if_neg hnot, if_neg hnot, hwrite]

/-- An execution that returns has settled its job as returned, and either
called a handler that returned, too, or called none. -/
theorem IspProvisioningJob.execute_returns {dispatch : Dispatch σ ρ} {now id : Nat} {world after : World σ ρ}
    (h : (IspProvisioningJob.execute dispatch now id).exec world = (.ok (), after)) :
    after.jobs = world.jobs.write id (IspProvisioningJob.settled now (.ok ())) ∧
      (((world.jobs.row id).Runnable ∧
          (dispatch id ((world.jobs.row id).started now)).exec (world.records, world.outside) =
            (.ok (), after.records, after.outside)) ∨
        ¬ (world.jobs.row id).Runnable ∧ after.records = world.records ∧ after.outside = world.outside) := by
  cases hdispatch : (dispatch id ((world.jobs.row id).started now)).exec (world.records, world.outside) with
  | mk result rest =>
    rw [IspProvisioningJob.execute_exec dispatch now id hdispatch] at h
    obtain ⟨hresult, rfl⟩ := Prod.mk.inj h
    by_cases hrunnable : (world.jobs.row id).Runnable
    · rw [if_pos hrunnable] at hresult
      subst hresult
      simp only [if_pos hrunnable]
      exact ⟨trivial, Or.inl ⟨hrunnable, trivial⟩⟩
    · have hsettled : world.jobs.write id (IspProvisioningJob.settled now result) =
          world.jobs.write id (IspProvisioningJob.settled now (.ok ())) := by
        apply world.jobs.write_congr
        unfold IspProvisioningJob.settled
        split
        · rfl
        · rename_i hqueued
          rw [if_pos, if_pos]
          all_goals exact Nat.not_lt.mp fun hlt => hrunnable ⟨not_not.mp hqueued, hlt⟩
      simp only [if_neg hrunnable]
      exact ⟨hsettled, Or.inr ⟨hrunnable, trivial, trivial⟩⟩

/-- Under a script an execution settles the job's record and returns, unless the
job is runnable and its handler raises. -/
theorem IspProvisioningJob.execute_scripted (outcome : Nat → Except OdooError Unit)
    (effect : Nat → IspProvisioningJob → σ × ρ → σ × ρ) (now id : Nat) (world : World σ ρ) :
    (IspProvisioningJob.execute (scripted outcome effect) now id).exec world =
      (if (world.jobs.row id).Runnable then outcome id else .ok (),
        world.afterExecution outcome effect now id) :=
  IspProvisioningJob.execute_exec (scripted outcome effect) now id rfl

/-- After its own execution a job cannot raise any more; before it, it raises
or not as it did, whichever jobs came first. -/
theorem World.raises_cons_iff (outcome : Nat → Except OdooError Unit)
    (effect : Nat → IspProvisioningJob → σ × ρ → σ × ρ) (now id : Nat) (rest : List Nat) (world : World σ ρ) :
    world.Raises outcome (id :: rest) ↔
      ((world.jobs.row id).Runnable ∧ outcome id ≠ .ok ()) ∨
        (world.afterExecution outcome effect now id).Raises outcome rest := by
  have hsettled : ¬ ((world.afterExecution outcome effect now id).jobs.row id).Runnable := by
    simp only [World.afterExecution, Store.write_row_self]
    exact fun h => IspProvisioningJob.settled_state_ne_queued _ _ _ h.1
  have hother : ∀ other, other ≠ id →
      (world.afterExecution outcome effect now id).jobs.row other = world.jobs.row other :=
    fun other hne => Store.write_row_ne _ hne _
  constructor
  · rintro ⟨other, hmem, hraises⟩
    by_cases hsame : other = id
    · exact Or.inl (hsame ▸ hraises)
    · rcases List.mem_cons.mp hmem with heq | htail
      · exact absurd heq hsame
      · exact Or.inr ⟨other, htail, by rwa [hother other hsame]⟩
  · rintro (hraises | ⟨other, hmem, hraises⟩)
    · exact ⟨id, List.mem_cons_self, hraises⟩
    · have hne : other ≠ id := fun heq => hsettled (heq ▸ hraises.1)
      exact ⟨other, List.mem_cons_of_mem _ hmem, by rwa [hother other hne] at hraises⟩

/-- A batch in which no job raises returns and settles each of its jobs, once. -/
theorem IspProvisioningJob.run_scripted_of_not_raises (outcome : Nat → Except OdooError Unit)
    (effect : Nat → IspProvisioningJob → σ × ρ → σ × ρ) (now : Nat) (jobs : List Nat) (world : World σ ρ)
    (h : ¬ world.Raises outcome jobs) :
    ∃ after, (Method.forEach (IspProvisioningJob.execute (scripted outcome effect) now) jobs).exec world =
        (.ok (), after) ∧
      ∀ id, after.jobs.row id =
        if id ∈ jobs then (world.jobs.row id).settled now (outcome id) else world.jobs.row id := by
  induction jobs generalizing world with
  | nil => exact ⟨world, rfl, by simp⟩
  | cons first rest ih =>
    rw [World.raises_cons_iff outcome effect now] at h
    have hreturns : (if (world.jobs.row first).Runnable then outcome first else .ok ()) = .ok () := by
      split
      · by_contra hnot
        exact h (Or.inl ⟨‹_›, hnot⟩)
      · rfl
    obtain ⟨after, hrest, hrows⟩ := ih _ (fun hraises => h (Or.inr hraises))
    refine ⟨after, ?_, fun id => ?_⟩
    · rw [Method.exec_forEach_cons, IspProvisioningJob.execute_scripted, hreturns]
      exact hrest
    · rw [hrows id]
      by_cases hfirst : id = first
      · subst hfirst
        have hdone := IspProvisioningJob.settled_state_ne_queued now (outcome id) (world.jobs.row id)
        simp [World.afterExecution, IspProvisioningJob.settled_of_not_queued hdone]
      · simp [World.afterExecution, Store.write_row_ne _ hfirst, hfirst]

/-- A batch in which some job raises lets an exception escape. -/
theorem IspProvisioningJob.run_scripted_of_raises (outcome : Nat → Except OdooError Unit)
    (effect : Nat → IspProvisioningJob → σ × ρ → σ × ρ) (now : Nat) (jobs : List Nat) (world : World σ ρ)
    (h : world.Raises outcome jobs) :
    ∃ exception after,
      (Method.forEach (IspProvisioningJob.execute (scripted outcome effect) now) jobs).exec world =
        (.error exception, after) := by
  induction jobs generalizing world with
  | nil =>
    obtain ⟨id, hmem, _⟩ := h
    cases hmem
  | cons first rest ih =>
    rw [World.raises_cons_iff outcome effect now] at h
    rw [Method.exec_forEach_cons, IspProvisioningJob.execute_scripted]
    by_cases hfirst : (world.jobs.row first).Runnable ∧ outcome first ≠ .ok ()
    · rw [if_pos hfirst.1]
      cases houtcome : outcome first with
      | ok value => exact absurd houtcome hfirst.2
      | error exception => exact ⟨_, _, rfl⟩
    · have hreturns : (if (world.jobs.row first).Runnable then outcome first else .ok ()) = .ok () := by
        split
        · by_contra hnot
          exact hfirst ⟨‹_›, hnot⟩
        · rfl
      rw [hreturns]
      exact ih _ (h.resolve_left hfirst)

/-- Each picked job ends as its own handler dictates, or failed if it has no
attempt left, and no other job changes. -/
structure HandledAlone (outcome : Nat → Except OdooError Unit) (jobs : List Nat)
    (before after : Store IspProvisioningJob) : Prop where
  returned : ∀ id ∈ jobs, (before.row id).Runnable → outcome id = .ok () → (after.row id).state = .success
  raised : ∀ id ∈ jobs, (before.row id).Runnable → ∀ exception, outcome id = .error exception →
    (after.row id).state = .failed ∧ (after.row id).error_message = some exception.str ∧
      (after.row id).attempts = (before.row id).attempts + 1
  exhausted : ∀ id ∈ jobs, ¬ (before.row id).Runnable →
    (after.row id).state = .failed ∧ (after.row id).attempts = (before.row id).attempts
  untouched : ∀ id, id ∉ jobs → after.row id = before.row id

/-- A cron pass handles each picked job alone exactly when none of those it
dispatches raises: one exception restores the whole batch, the record of the
job that raised it included. -/
theorem IspProvisioningJob.cron_run_pending_jobs_handles_alone_iff
    (outcome : Nat → Except OdooError Unit) (effect : Nat → IspProvisioningJob → σ × ρ → σ × ρ) (now : Nat)
    (world : World σ ρ) (jobs : List Nat) (hpending : world.Pending jobs) :
    HandledAlone outcome jobs world.jobs
        ((IspProvisioningJob.cron_run_pending_jobs (scripted outcome effect) now jobs).commit
          World.rollback world).jobs ↔
      ∀ id ∈ jobs, (world.jobs.row id).attempts < (world.jobs.row id).max_attempts → outcome id = .ok () := by
  have hqueued : ∀ id ∈ jobs, (world.jobs.row id).state = .queued :=
    fun id hid => of_decide_eq_true (hpending.mem hid).2
  unfold IspProvisioningJob.cron_run_pending_jobs
  constructor
  · intro halone id hid hattempts
    by_contra hnot
    have hrunnable : (world.jobs.row id).Runnable := ⟨hqueued id hid, hattempts⟩
    obtain ⟨_, _, hexec⟩ := IspProvisioningJob.run_scripted_of_raises outcome effect now jobs world
      ⟨id, hid, hrunnable, hnot⟩
    rw [Method.commit_of_error hexec] at halone
    cases houtcome : outcome id with
    | ok value => exact hnot houtcome
    | error exception =>
      have hfailed := (halone.raised id hid hrunnable exception houtcome).1
      simp only [World.rollback] at hfailed
      rw [hqueued id hid] at hfailed
      cases hfailed
  · intro hreturns
    have hnot : ¬ world.Raises outcome jobs := by
      rintro ⟨id, hid, hrunnable, hraises⟩
      exact hraises (hreturns id hid hrunnable.2)
    obtain ⟨after, hexec, hrows⟩ :=
      IspProvisioningJob.run_scripted_of_not_raises outcome effect now jobs world hnot
    rw [Method.commit_of_ok hexec]
    constructor
    · intro id hid hrunnable houtcome
      rw [hrows id, if_pos hid, IspProvisioningJob.settled_of_runnable hrunnable, houtcome]
      rfl
    · intro id hid hrunnable exception houtcome
      rw [hreturns id hid hrunnable.2] at houtcome
      cases houtcome
    · intro id hid hrunnable
      have hattempts : (world.jobs.row id).max_attempts ≤ (world.jobs.row id).attempts :=
        Nat.not_lt.mp fun h => hrunnable ⟨hqueued id hid, h⟩
      rw [hrows id, if_pos hid]
      simp [IspProvisioningJob.settled, hqueued id hid, hattempts, IspProvisioningJob.exhausted]
    · intro id hid
      rw [hrows id, if_neg hid]

/-- A database with nothing but a queue of new jobs. -/
def queueOf (jobs : List IspProvisioningJob) : World Unit Unit where
  jobs := (Store.empty { job_type := .change_plan, requested_at := 0 }).createAll jobs
  records := ()
  outside := ()

/-- Two queued suspensions, requested one second after the other. -/
def twoSuspensions : World Unit Unit :=
  queueOf [{ job_type := .suspend_subscription, subscription_id := some 0, requested_at := 0 },
    { job_type := .suspend_subscription, subscription_id := some 1, requested_at := 1 }]

theorem twoSuspensions_pending : twoSuspensions.Pending [0, 1] :=
  ⟨[0, 1], List.Perm.refl _, by decide, rfl⟩

theorem IspProvisioningJob.cron_run_pending_jobs_handles_alone_iff_two :
    HandledAlone (fun _ => .ok ()) [0, 1] twoSuspensions.jobs
        ((IspProvisioningJob.cron_run_pending_jobs (scripted (fun _ => .ok ()) fun _ _ rest => rest) 9 [0, 1]).commit
          World.rollback twoSuspensions).jobs ↔
      ∀ id ∈ [0, 1], (twoSuspensions.jobs.row id).attempts < (twoSuspensions.jobs.row id).max_attempts →
        (Except.ok () : Except OdooError Unit) = .ok () :=
  IspProvisioningJob.cron_run_pending_jobs_handles_alone_iff _ _ 9 twoSuspensions [0, 1] twoSuspensions_pending

/-- The first suspension returns and the second raises: the first is queued
again after the pass, and so is the second. -/
theorem IspProvisioningJob.cron_run_pending_jobs_loses_returned :
    twoSuspensions.Pending [0, 1] ∧
      ¬ HandledAlone (fun id => if id = 1 then .error (.user "No MikroTik router found for this job.") else .ok ())
        [0, 1] twoSuspensions.jobs
        ((IspProvisioningJob.cron_run_pending_jobs
            (scripted (fun id => if id = 1 then .error (.user "No MikroTik router found for this job.") else .ok ())
              fun _ _ rest => rest) 9 [0, 1]).commit World.rollback twoSuspensions).jobs := by
  refine ⟨twoSuspensions_pending, fun halone => ?_⟩
  have hsuccess := halone.returned 0 (by decide) (by decide) rfl
  revert hsuccess
  decide

end getupnet.isp_core

import Getupnet.IspCore.ProvisioningJob.Order

open relational

namespace getupnet.isp_core

variable {σ ρ : Type}

/-- A pass of the cron in a transaction of its own, which an escaping exception undoes. -/
structure CronTurn (before : World σ ρ) (pass : CronPass σ ρ) (after : World σ ρ) : Prop where
  pending : before.Pending pass.found
  ended : after =
    (IspProvisioningJob.cron_run_pending_jobs pass.dispatch pass.now pass.found).commit World.rollback before

/-- Whether no exception escapes from a pass. -/
def CronPass.commits (self : CronPass σ ρ) (world : World σ ρ) : Bool :=
  ((IspProvisioningJob.cron_run_pending_jobs self.dispatch self.now self.found).exec world).1.toBool

/-- The passes of a run that committed. -/
def committed (taken : List (World σ ρ × CronPass σ ρ)) : List (World σ ρ × CronPass σ ρ) :=
  taken.filter fun entry => entry.2.commits entry.1

/-- What a run of passes has made of a queue. -/
structure Drains (queue : Store IspProvisioningJob) (taken : List (World σ ρ × CronPass σ ρ))
    (reached : World σ ρ) : Prop where
  once : (executed (committed taken)).Nodup
  count : (executed (committed taken)).length = min (20 * (committed taken).length) (queued queue).length
  rest : queued reached.jobs = (queued queue).filter fun id => decide (id ∉ executed (committed taken))
  oldest : ∀ first ∈ executed (committed taken), ∀ other ∈ queued reached.jobs,
    (queue.row first).requested_at ≤ (queue.row other).requested_at
  settled : ∀ id ∈ executed (committed taken), ∃ now, reached.jobs.row id = (queue.row id).settled now (.ok ())
  left : ∀ id, id ∉ executed (committed taken) → reached.jobs.row id = queue.row id

section

variable {queue : Store IspProvisioningJob} {taken : List (World σ ρ × CronPass σ ρ)} {pass : CronPass σ ρ}
  {world after reached : World σ ρ}

/-- A pass either returns, or leaves the database as it was. -/
theorem CronTurn.cases (h : CronTurn world pass after) :
    (pass.commits world = true ∧
        (IspProvisioningJob.cron_run_pending_jobs pass.dispatch pass.now pass.found).exec world = (.ok (), after)) ∨
      pass.commits world = false ∧ after.jobs = world.jobs ∧ after.records = world.records := by
  have hended := h.ended
  unfold CronPass.commits
  cases hexec : (IspProvisioningJob.cron_run_pending_jobs pass.dispatch pass.now pass.found).exec world with
  | mk result last =>
    cases result with
    | ok value =>
      rw [Method.commit_of_ok hexec] at hended
      exact Or.inl ⟨rfl, hended ▸ rfl⟩
    | error exception =>
      rw [Method.commit_of_error hexec] at hended
      rw [hended]
      exact Or.inr ⟨rfl, rfl, rfl⟩

theorem committed_append_of_commits (hcommits : pass.commits world = true) :
    committed (taken ++ [(world, pass)]) = committed taken ++ [(world, pass)] := by
  simp [committed, hcommits]

theorem committed_append_of_fails (hfails : pass.commits world = false) :
    committed (taken ++ [(world, pass)]) = committed taken := by
  simp [committed, hfails]

/-- The jobs of a pass that returns are settled by it and the others are as before. -/
theorem cron_run_pending_jobs_settles {dispatch : Dispatch σ ρ} {now : Nat} {found : List Nat}
    (hnodup : found.Nodup)
    (h : (IspProvisioningJob.cron_run_pending_jobs dispatch now found).exec world = (.ok (), after)) :
    after.jobs.ids = world.jobs.ids ∧ (∀ id, id ∉ found → after.jobs.row id = world.jobs.row id) ∧
      ∀ id ∈ found, after.jobs.row id = (world.jobs.row id).settled now (.ok ()) := by
  unfold IspProvisioningJob.cron_run_pending_jobs at h
  induction found generalizing world with
  | nil =>
    cases h
    exact ⟨rfl, fun _ _ => rfl, fun id hid => absurd hid List.not_mem_nil⟩
  | cons first rest ih =>
    obtain ⟨hfirst, hrest⟩ := List.nodup_cons.mp hnodup
    obtain ⟨middle, hexec, hlater⟩ := Method.forEach_cons_returns h
    have hjobs := (IspProvisioningJob.execute_returns hexec).1
    obtain ⟨hids, hothers, hsettled⟩ := ih hrest hlater
    refine ⟨?_, fun id hid => ?_, fun id hid => ?_⟩
    · rw [hids, hjobs, Store.write_ids]
    · rw [List.mem_cons, not_or] at hid
      rw [hothers id hid.2, hjobs, Store.write_row_ne _ hid.1]
    · by_cases hsame : id = first
      · rw [hsame, hothers first hfirst, hjobs, Store.write_row_self]
      · have hin : id ∈ rest := List.mem_of_ne_of_mem hsame hid
        rw [hsettled id hin, hjobs, Store.write_row_ne _ hsame]

/-- How far the passes have come with the queue, of which some may have been undone. -/
structure Advance (queue : Store IspProvisioningJob) (done : List Nat) (count : Nat) (world : World σ ρ) :
    Prop where
  ids : world.jobs.ids = queue.ids
  left : ∀ id, id ∉ done → world.jobs.row id = queue.row id
  settled : ∀ id ∈ done, ∃ now, world.jobs.row id = (queue.row id).settled now (.ok ())
  drained : Drained (queued queue) (fun id => (queue.row id).requested_at) 20 done
  length : done.length = min (20 * count) (queued queue).length

theorem Advance.queued_eq {done : List Nat} {count : Nat} (h : Advance queue done count world) :
    queued world.jobs = (queued queue).filter fun id => decide (id ∉ done) := by
  rw [queued, queued, Store.search, Store.search, List.filter_filter, h.ids]
  refine List.filter_congr fun id _ => ?_
  by_cases hdone : id ∈ done
  · obtain ⟨now, hrow⟩ := h.settled id hdone
    have hstate := IspProvisioningJob.settled_state_ne_queued now (.ok ()) (queue.row id)
    simp [hdone, hrow, hstate]
  · simp [hdone, h.left id hdone]

/-- A pass that commits takes a full batch, or all that is left. -/
theorem Advance.step {done : List Nat} {count : Nat} (h : Advance queue done count world)
    (hpending : world.Pending pass.found)
    (hreturned : (IspProvisioningJob.cron_run_pending_jobs pass.dispatch pass.now pass.found).exec world =
      (.ok (), after)) : Advance queue (done ++ pass.found) (count + 1) after := by
  obtain ⟨hids, hothers, hsettled⟩ := cron_run_pending_jobs_settles hpending.nodup hreturned
  obtain ⟨listing, hfinds, hsorted, hfound⟩ := hpending
  have hqueue : (queued queue).Nodup := queue.search_nodup _
  have hperm : listing.Perm ((queued queue).filter fun id => decide (id ∉ done)) := h.queued_eq ▸ hfinds
  have hlisted : ∀ id ∈ listing, id ∉ done := fun id hid =>
    of_decide_eq_true (List.mem_filter.mp (hperm.mem_iff.mp hid)).2
  have hsame : ∀ id ∈ listing, world.jobs.row id = queue.row id := fun id hid => h.left id (hlisted id hid)
  have hkeys : listing.Pairwise fun first second =>
      (queue.row first).requested_at ≤ (queue.row second).requested_at := by
    refine hsorted.imp_of_mem fun {first second} hfirst hsecond hle => ?_
    rwa [hsame first hfirst, hsame second hsecond] at hle
  have hlength := h.drained.batch_length hqueue hperm
  refine ⟨hids.trans h.ids, fun id hid => ?_, fun id hid => ?_, ?_, ?_⟩
  · rw [List.mem_append, not_or] at hid
    rw [hothers id hid.2, h.left id hid.1]
  · by_cases hnew : id ∈ pass.found
    · refine ⟨pass.now, ?_⟩
      rw [hsettled id hnew, hsame id (List.mem_of_mem_take (hfound ▸ hnew))]
    · obtain ⟨now, hrow⟩ := h.settled id ((List.mem_append.mp hid).resolve_right hnew)
      exact ⟨now, (hothers id hnew).trans hrow⟩
  · rw [hfound]
    exact .batch h.drained hperm hkeys
  · rw [List.length_append, hfound, hlength, h.length]
    omega

theorem Advance.of_run {start : World σ ρ} (run : Run CronTurn start taken reached) :
    Advance start.jobs (executed (committed taken)) (committed taken).length reached := by
  induction run with
  | start =>
    refine ⟨rfl, fun _ _ => rfl, fun id hid => absurd hid List.not_mem_nil, .start, ?_⟩
    rw [committed, List.filter_nil, List.length_nil, Nat.mul_zero, Nat.zero_min]
    rfl
  | @step taken world after pass before hstep ih =>
    obtain ⟨hcommits, hreturned⟩ | ⟨hfails, hjobs, _⟩ := hstep.cases
    · rw [committed_append_of_commits hcommits, executed_append, List.length_append]
      exact ih.step hstep.pending hreturned
    · rw [committed_append_of_fails hfails]
      refine ⟨hjobs ▸ ih.ids, ?_, ?_, ih.drained, ih.length⟩
      · rw [hjobs]
        exact ih.left
      · rw [hjobs]
        exact ih.settled

/-- Whatever the handlers do, each pass that commits takes the twenty oldest jobs that
are left, or all of them, executes none of them again and leaves the others alone; a
pass that does not commit takes none. -/
theorem passes_drain {start : World σ ρ} (run : Run CronTurn start taken reached) :
    Drains start.jobs taken reached := by
  have hadvance := Advance.of_run run
  have hqueue : (queued start.jobs).Nodup := start.jobs.search_nodup _
  refine ⟨(hadvance.drained.nodup_subset hqueue).1, hadvance.length, hadvance.queued_eq, ?_, hadvance.settled,
    hadvance.left⟩
  intro first hfirst other hother
  rw [hadvance.queued_eq] at hother
  obtain ⟨hqueued, hleft⟩ := List.mem_filter.mp hother
  exact hadvance.drained.key_le first hfirst other hqueued (of_decide_eq_true hleft)

/-- The queued jobs that a pass cannot put behind the given one. -/
def upTo (jobs : Store IspProvisioningJob) (id : Nat) : List Nat :=
  (queued jobs).filter fun other => decide ((jobs.row other).requested_at ≤ (jobs.row id).requested_at)

/-- The handler of a job raises whenever a pass calls it. -/
def CronPass.RaisesAt (self : CronPass σ ρ) (job : IspProvisioningJob) (id : Nat) : Prop :=
  ∀ rest, ((self.dispatch id (job.started self.now)).exec rest).1.toBool = false

/-- No listing of the queue leaves such a job out of the pass. -/
theorem mem_found_of_upTo {id : Nat} {found : List Nat} (hid : id ∈ queued world.jobs)
    (hfew : (upTo world.jobs id).length ≤ 20) (hpending : world.Pending found) : id ∈ found := by
  obtain ⟨listing, hfinds, hsorted, rfl⟩ := hpending
  refine mem_take_of_countP_le (hfinds.mem_iff id |>.mpr ((Store.mem_search _ _ _).mp hid)) hsorted ?_
  rw [List.Perm.countP_eq _ hfinds, List.countP_eq_length_filter]
  exact hfew

/-- A pass does not return when a job that it has found raises. -/
theorem not_commits_of_raisesAt {id : Nat} (hfound : id ∈ pass.found)
    (hrunnable : (world.jobs.row id).Runnable) (hraises : pass.RaisesAt (world.jobs.row id) id) :
    pass.commits world = false := by
  obtain ⟨dispatch, now, found⟩ := pass
  unfold CronPass.commits IspProvisioningJob.cron_run_pending_jobs
  induction found generalizing world with
  | nil => cases hfound
  | cons first rest ih =>
    rw [Method.exec_forEach_cons]
    cases hexec : (IspProvisioningJob.execute dispatch now first).exec world with
    | mk result middle =>
      cases result with
      | error exception => rfl
      | ok value =>
        obtain ⟨hjobs, hhandled⟩ := IspProvisioningJob.execute_returns hexec
        by_cases hsame : id = first
        · subst hsame
          obtain ⟨_, hreturned⟩ | ⟨hnot, _⟩ := hhandled
          · have hraised := hraises (world.records, world.outside)
            rw [hreturned] at hraised
            cases hraised
          · exact absurd hrunnable hnot
        · have hrow : middle.jobs.row id = world.jobs.row id := by rw [hjobs, Store.write_row_ne _ hsame]
          refine ih ?_ (List.mem_of_ne_of_mem hsame hfound) ?_
          · rw [hrow]
            exact hrunnable
          · rw [hrow]
            exact hraises

/-- A job whose handler raises in every pass, with at most nineteen others requested no
later, stops the queue: no pass commits, and the database stays as it is for good. -/
theorem raising_job_stops_queue {start : World σ ρ} {id : Nat} (run : Run CronTurn start taken reached)
    (hid : id ∈ queued start.jobs) (hrunnable : (start.jobs.row id).Runnable)
    (hfew : (upTo start.jobs id).length ≤ 20)
    (hraises : ∀ entry ∈ taken, entry.2.RaisesAt (start.jobs.row id) id) :
    committed taken = [] ∧ reached.jobs = start.jobs ∧ reached.records = start.records := by
  induction run with
  | start => exact ⟨rfl, rfl, rfl⟩
  | @step taken world after pass before hstep ih =>
    obtain ⟨hnone, hjobs, hrecords⟩ := ih fun entry hentry => hraises entry (List.mem_append_left _ hentry)
    have hlast := hraises (world, pass) (List.mem_append_right _ List.mem_cons_self)
    have hfound : id ∈ pass.found := by
      rw [← hjobs] at hid hfew
      exact mem_found_of_upTo hid hfew hstep.pending
    rw [← hjobs] at hrunnable hlast
    have hfails := not_commits_of_raisesAt hfound hrunnable hlast
    obtain ⟨hcommits, _⟩ | ⟨_, hsameJobs, hsameRecords⟩ := hstep.cases
    · rw [hfails] at hcommits
      cases hcommits
    · exact ⟨(committed_append_of_fails hfails).trans hnone, hsameJobs.trans hjobs, hsameRecords.trans hrecords⟩

end

/-- A pass over both suspensions, of which the second may raise. -/
def passOverTwo (second : Except OdooError Unit) : CronPass Unit Unit where
  dispatch := scripted (fun id => if id = 1 then second else .ok ()) fun _ _ rest => rest
  now := 9
  found := [0, 1]

theorem passes_drain_two :
    ∃ reached, Drains twoSuspensions.jobs [(twoSuspensions, passOverTwo (.ok ()))] reached :=
  ⟨_, passes_drain (.step .start ⟨twoSuspensions_pending, rfl⟩)⟩

theorem raising_job_stops_queue_two :
    ∃ reached : World Unit Unit,
      committed [(twoSuspensions, passOverTwo (.error (.user "No MikroTik router found for this job.")))] = [] ∧
        reached.jobs = twoSuspensions.jobs ∧ reached.records = twoSuspensions.records := by
  let pass := passOverTwo (.error (.user "No MikroTik router found for this job."))
  have hraises : ∀ entry ∈ [(twoSuspensions, pass)], entry.2.RaisesAt (twoSuspensions.jobs.row 1) 1 := by
    intro entry hentry rest
    rw [List.mem_singleton.mp hentry]
    rfl
  exact ⟨_, raising_job_stops_queue (.step .start ⟨twoSuspensions_pending, rfl⟩) (show 1 ∈ _ by decide) (by decide)
    (by decide) hraises⟩

end getupnet.isp_core

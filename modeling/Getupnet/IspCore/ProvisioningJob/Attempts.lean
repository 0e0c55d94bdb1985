import Getupnet.IspCore.ProvisioningJob.Batch
import Getupnet.Relational.Runs

open relational

namespace getupnet.isp_core

variable {σ ρ : Type}

/-- The dispatches made so far, each with whether its handler returned. What a
handler did to a router is as lasting as its entry here. -/
abbrev DispatchLog : Type := List (Nat × Bool)

def DispatchLog.count (self : DispatchLog) (id : Nat) : Nat := List.countP (fun entry => entry.1 == id) self

@[simp] theorem DispatchLog.count_append_self (self : DispatchLog) (id : Nat) (returned : Bool) :
    DispatchLog.count (self ++ [(id, returned)]) id = self.count id + 1 := by
  simp [DispatchLog.count]

theorem DispatchLog.count_append_ne (self : DispatchLog) {id other : Nat} (h : other ≠ id) (returned : Bool) :
    DispatchLog.count (self ++ [(id, returned)]) other = self.count other := by
  simp [DispatchLog.count, h.symm]

/-- Scripted handlers that leave a log entry outside the database. -/
def recorded (outcome : Nat → Except OdooError Unit) (effect : Nat → IspProvisioningJob → σ × ρ → σ × ρ) :
    Nat → IspProvisioningJob → σ × DispatchLog × ρ → σ × DispatchLog × ρ :=
  fun id job rest =>
    ((effect id job (rest.1, rest.2.2)).1, rest.2.1 ++ [(id, (outcome id).toBool)],
      (effect id job (rest.1, rest.2.2)).2)

def World.log (self : World σ (DispatchLog × ρ)) : DispatchLog := self.outside.1

/-- The stored counters tell the truth about the dispatches made: none beyond
the maximum, a failed job once the maximum is used up in vain, and no dispatch
of a job that has returned. -/
structure Accounted (world : World σ (DispatchLog × ρ)) : Prop where
  bounded : ∀ id ∈ world.jobs.ids, world.log.count id ≤ (world.jobs.row id).max_attempts
  counted : ∀ id ∈ world.jobs.ids, (world.jobs.row id).attempts = world.log.count id
  exhausted : ∀ id ∈ world.jobs.ids, 0 < world.log.count id →
    world.log.count id = (world.jobs.row id).max_attempts → (id, true) ∉ world.log →
    (world.jobs.row id).state = .failed
  final : world.log.Pairwise fun earlier later => earlier.2 = true → later.1 ≠ earlier.1

/-- The accounts are right and every job that has returned has left the queue. -/
structure Settled (world : World σ (DispatchLog × ρ)) : Prop extends Accounted world where
  returned : ∀ id ∈ world.jobs.ids, (id, true) ∈ world.log → (world.jobs.row id).state ≠ .queued

/-- Any queue of jobs that were never dispatched is a settled one to start from. -/
theorem Settled.of_undispatched {self : World σ (DispatchLog × ρ)} (hlog : self.log = [])
    (hattempts : ∀ id ∈ self.jobs.ids, (self.jobs.row id).attempts = 0) : Settled self where
  bounded := by simp [hlog, DispatchLog.count]
  counted := by
    intro id hid
    simp [hlog, DispatchLog.count, hattempts id hid]
  exhausted := by simp [hlog, DispatchLog.count]
  final := by simp [hlog]
  returned := by simp [hlog]

/-- An execution whose handler is not called leaves the log alone. -/
theorem World.log_afterExecution_of_not_runnable (outcome : Nat → Except OdooError Unit)
    (effect : Nat → IspProvisioningJob → σ × ρ → σ × ρ) (now id : Nat) {world : World σ (DispatchLog × ρ)}
    (h : ¬ (world.jobs.row id).Runnable) :
    (world.afterExecution outcome (recorded outcome effect) now id).log = world.log := by
  simp [World.log, World.afterExecution, World.affected, h]

theorem World.log_afterExecution_of_runnable (outcome : Nat → Except OdooError Unit)
    (effect : Nat → IspProvisioningJob → σ × ρ → σ × ρ) (now id : Nat) {world : World σ (DispatchLog × ρ)}
    (h : (world.jobs.row id).Runnable) :
    (world.afterExecution outcome (recorded outcome effect) now id).log =
      world.log ++ [(id, (outcome id).toBool)] := by
  simp [World.log, World.afterExecution, World.affected, h, recorded]

/-- No execution takes a dispatch back. -/
theorem World.count_le_afterExecution (outcome : Nat → Except OdooError Unit)
    (effect : Nat → IspProvisioningJob → σ × ρ → σ × ρ) (now id other : Nat) (world : World σ (DispatchLog × ρ)) :
    world.log.count other ≤ (world.afterExecution outcome (recorded outcome effect) now id).log.count other := by
  by_cases hrunnable : (world.jobs.row id).Runnable
  · rw [World.log_afterExecution_of_runnable outcome effect now id hrunnable]
    by_cases hsame : other = id
    · rw [hsame, DispatchLog.count_append_self]
      exact Nat.le_succ _
    · rw [DispatchLog.count_append_ne _ hsame]
  · rw [World.log_afterExecution_of_not_runnable outcome effect now id hrunnable]

/-- A job that returns when it is executed keeps the accounts right: it is dispatched once
more and counts one attempt more, and it has ended in success. -/
theorem Settled.execute_runnable {outcome : Nat → Except OdooError Unit}
    {effect : Nat → IspProvisioningJob → σ × ρ → σ × ρ} {now id : Nat} {world : World σ (DispatchLog × ρ)}
    (h : Settled world) (hid : id ∈ world.jobs.ids) (hrunnable : (world.jobs.row id).Runnable)
    (houtcome : outcome id = .ok ()) :
    Settled (world.afterExecution outcome (recorded outcome effect) now id) := by
  have hlog := World.log_afterExecution_of_runnable outcome effect now id hrunnable
  rw [houtcome] at hlog
  have hself : (world.afterExecution outcome (recorded outcome effect) now id).jobs.row id =
      ((world.jobs.row id).started now).closed (.ok ()) := by
    simp only [World.afterExecution, Store.write_row_self,
      IspProvisioningJob.settled_of_runnable hrunnable, houtcome]
  have hother : ∀ other, other ≠ id →
      (world.afterExecution outcome (recorded outcome effect) now id).jobs.row other = world.jobs.row other :=
    fun other hne => Store.write_row_ne _ hne _
  have hfresh : (id, true) ∉ world.log := fun hmem => h.returned id hid hmem hrunnable.1
  have hattempts := h.counted id hid
  constructor
  · constructor
    · intro other hmem
      by_cases hsame : other = id
      · subst hsame
        have hlimit := hrunnable.2
        rw [hlog, DispatchLog.count_append_self, hself]
        simp only [IspProvisioningJob.closed, IspProvisioningJob.started]
        omega
      · rw [hlog, DispatchLog.count_append_ne _ hsame, hother other hsame]
        exact h.bounded other hmem
    · intro other hmem
      by_cases hsame : other = id
      · subst hsame
        rw [hlog, DispatchLog.count_append_self, hself]
        simp only [IspProvisioningJob.closed, IspProvisioningJob.started]
        omega
      · rw [hlog, DispatchLog.count_append_ne _ hsame, hother other hsame]
        exact h.counted other hmem
    · intro other hmem
      by_cases hsame : other = id
      · subst hsame
        rw [hlog]
        exact fun _ _ hnever => absurd (List.mem_append_right _ (List.mem_singleton_self _)) hnever
      · rw [hlog, DispatchLog.count_append_ne _ hsame, hother other hsame]
        exact fun hpositive hmax hnever =>
          h.exhausted other hmem hpositive hmax (fun hold => hnever (List.mem_append_left _ hold))
    · rw [hlog, List.pairwise_append]
      refine ⟨h.final, List.pairwise_singleton _ _, fun earlier hearlier later hlater hreturned hsame => ?_⟩
      rw [List.mem_singleton.mp hlater] at hsame
      have hentry : earlier = (id, true) := Prod.ext hsame.symm hreturned
      exact hfresh (hentry ▸ hearlier)
  · intro other hmem hreturned
    by_cases hsame : other = id
    · subst hsame
      rw [hself]
      exact IspProvisioningJob.closed_state_ne_queued _ _
    · rw [hother other hsame]
      rw [hlog, List.mem_append, List.mem_singleton, Prod.mk.injEq] at hreturned
      exact h.returned other hmem (hreturned.resolve_right fun heq => hsame heq.1)

/-- A job that is executed without being dispatched keeps the accounts right. It is either
not queued or has no attempt left, and its counter stays as it is. -/
theorem Settled.execute_not_runnable {outcome : Nat → Except OdooError Unit}
    {effect : Nat → IspProvisioningJob → σ × ρ → σ × ρ} {now id : Nat} {world : World σ (DispatchLog × ρ)}
    (h : Settled world) (hrunnable : ¬ (world.jobs.row id).Runnable) :
    Settled (world.afterExecution outcome (recorded outcome effect) now id) := by
  have hlog := World.log_afterExecution_of_not_runnable outcome effect now id hrunnable
  have hrow : ∀ other,
      (world.afterExecution outcome (recorded outcome effect) now id).jobs.row other = world.jobs.row other ∨
        (world.afterExecution outcome (recorded outcome effect) now id).jobs.row other =
          (world.jobs.row other).exhausted := by
    intro other
    by_cases hsame : other = id
    · subst hsame
      simp only [World.afterExecution, Store.write_row_self, IspProvisioningJob.settled]
      split
      · exact Or.inl rfl
      · rename_i hqueued
        rw [if_pos (Nat.not_lt.mp fun hlt => hrunnable ⟨not_not.mp hqueued, hlt⟩)]
        exact Or.inr rfl
    · exact Or.inl (Store.write_row_ne _ hsame _)
  constructor
  · constructor
    · intro other hmem
      rw [hlog]
      rcases hrow other with heq | heq <;> rw [heq] <;> exact h.bounded other hmem
    · intro other hmem
      rw [hlog]
      rcases hrow other with heq | heq <;> rw [heq] <;> exact h.counted other hmem
    · intro other hmem hpositive hmax hnever
      rw [hlog] at hpositive hmax hnever
      rcases hrow other with heq | heq
      · rw [heq] at hmax ⊢
        exact h.exhausted other hmem hpositive hmax hnever
      · rw [heq]
        rfl
    · rw [hlog]
      exact h.final
  · intro other hmem hreturned
    rw [hlog] at hreturned
    rcases hrow other with heq | heq
    · rw [heq]
      exact h.returned other hmem hreturned
    · rw [heq]
      simp [IspProvisioningJob.exhausted]

/-- A call in which no job raises keeps the accounts right. -/
theorem Settled.run_of_not_raises {outcome : Nat → Except OdooError Unit}
    {effect : Nat → IspProvisioningJob → σ × ρ → σ × ρ} {now : Nat} {jobs : List Nat}
    {world : World σ (DispatchLog × ρ)} (h : Settled world) (hids : ∀ id ∈ jobs, id ∈ world.jobs.ids)
    (hraises : ¬ world.Raises outcome jobs) :
    ∃ after, (Method.forEach (IspProvisioningJob.execute (scripted outcome (recorded outcome effect)) now) jobs).exec
        world = (.ok (), after) ∧ Settled after := by
  induction jobs generalizing world with
  | nil => exact ⟨world, rfl, h⟩
  | cons first rest ih =>
    rw [World.raises_cons_iff outcome (recorded outcome effect) now] at hraises
    have hfirst : (world.jobs.row first).Runnable → outcome first = .ok () := by
      intro hrunnable
      by_contra hnot
      exact hraises (Or.inl ⟨hrunnable, hnot⟩)
    have hreturns : (if (world.jobs.row first).Runnable then outcome first else .ok ()) = .ok () := by
      split
      · exact hfirst ‹_›
      · rfl
    have hsettled : Settled (world.afterExecution outcome (recorded outcome effect) now first) := by
      by_cases hrunnable : (world.jobs.row first).Runnable
      · exact h.execute_runnable (hids first List.mem_cons_self) hrunnable (hfirst hrunnable)
      · exact h.execute_not_runnable hrunnable
    obtain ⟨after, hexec, hafter⟩ := ih hsettled (fun id hid => hids id (List.mem_cons_of_mem _ hid))
      (fun hrest => hraises (Or.inr hrest))
    refine ⟨after, ?_, hafter⟩
    rw [Method.exec_forEach_cons, IspProvisioningJob.execute_scripted, hreturns]
    exact hexec

/-- A call that lets an exception escape has dispatched some job once more. -/
theorem World.count_lt_of_raises {outcome : Nat → Except OdooError Unit}
    {effect : Nat → IspProvisioningJob → σ × ρ → σ × ρ} {now : Nat} {jobs : List Nat}
    {world : World σ (DispatchLog × ρ)} (hraises : world.Raises outcome jobs) :
    ∃ exception after,
      (Method.forEach (IspProvisioningJob.execute (scripted outcome (recorded outcome effect)) now) jobs).exec world =
        (.error exception, after) ∧ ∃ id ∈ jobs, world.log.count id < after.log.count id := by
  induction jobs generalizing world with
  | nil =>
    obtain ⟨id, hmem, _⟩ := hraises
    cases hmem
  | cons first rest ih =>
    rw [World.raises_cons_iff outcome (recorded outcome effect) now] at hraises
    rw [Method.exec_forEach_cons, IspProvisioningJob.execute_scripted]
    by_cases hfirst : (world.jobs.row first).Runnable ∧ outcome first ≠ .ok ()
    · rw [if_pos hfirst.1]
      cases houtcome : outcome first with
      | ok value => exact absurd houtcome hfirst.2
      | error exception =>
        refine ⟨exception, _, rfl, first, List.mem_cons_self, ?_⟩
        rw [World.log_afterExecution_of_runnable outcome effect now first hfirst.1,
          DispatchLog.count_append_self]
        exact Nat.lt_succ_self _
    · have hreturns : (if (world.jobs.row first).Runnable then outcome first else .ok ()) = .ok () := by
        split
        · by_contra hnot
          exact hfirst ⟨‹_›, hnot⟩
        · rfl
      obtain ⟨exception, after, hexec, id, hid, hcount⟩ := ih (hraises.resolve_left hfirst)
      rw [hreturns]
      exact ⟨exception, after, hexec, id, List.mem_cons_of_mem _ hid,
        (world.count_le_afterExecution outcome effect now first id).trans_lt hcount⟩

/-- A call of the queue: a cron pass or `action_run`, with the outcome each
handler would have in it and what it would do elsewhere. -/
structure QueueCall (σ ρ : Type) where
  cron : Bool
  now : Nat
  outcome : Nat → Except OdooError Unit
  effect : Nat → IspProvisioningJob → σ × ρ → σ × ρ
  jobs : List Nat

/-- A cron pass takes the jobs its search finds, `action_run` any records. Each
call commits, or is rolled back when an exception escapes it. -/
inductive QueueStep : World σ (DispatchLog × ρ) → QueueCall σ ρ → World σ (DispatchLog × ρ) → Prop where
  | cron {world : World σ (DispatchLog × ρ)} {call : QueueCall σ ρ} (hcron : call.cron = true)
      (hpending : world.Pending call.jobs) :
      QueueStep world call
        ((IspProvisioningJob.cron_run_pending_jobs (scripted call.outcome (recorded call.outcome call.effect))
          call.now call.jobs).commit World.rollback world)
  | action_run {world : World σ (DispatchLog × ρ)} {call : QueueCall σ ρ} (hcron : call.cron = false)
      (hrecords : ∀ id ∈ call.jobs, id ∈ world.jobs.ids) :
      QueueStep world call
        ((IspProvisioningJob.action_run (scripted call.outcome (recorded call.outcome call.effect))
          call.now call.jobs).commit World.rollback world)

/-- The handlers that a call dispatches all return. -/
def QueueCall.Returns (self : QueueCall σ ρ) (world : World σ (DispatchLog × ρ)) : Prop :=
  ∀ id ∈ self.jobs, (world.jobs.row id).Runnable → self.outcome id = .ok ()

theorem QueueStep.inversion {world after : World σ (DispatchLog × ρ)} {call : QueueCall σ ρ}
    (h : QueueStep world call after) :
    (∀ id ∈ call.jobs, id ∈ world.jobs.ids) ∧
      after = (Method.forEach
        (IspProvisioningJob.execute (scripted call.outcome (recorded call.outcome call.effect)) call.now)
        call.jobs).commit World.rollback world := by
  cases h with
  | cron hcron hpending => exact ⟨fun id hid => (hpending.mem hid).1, rfl⟩
  | action_run hcron hrecords => exact ⟨hrecords, rfl⟩

/-- Over any run of calls the accounts stay right exactly as long as every
handler dispatched returns. One that raises is dispatched, but the counter that
should tell is restored along with the rest of its call. -/
theorem IspProvisioningJob.accounted_iff_returns {initial reached : World σ (DispatchLog × ρ)}
    {taken : List (World σ (DispatchLog × ρ) × QueueCall σ ρ)} (hinitial : Settled initial)
    (run : Run QueueStep initial taken reached) :
    (∀ world ∈ Run.visited taken reached, Accounted world) ↔ ∀ entry ∈ taken, entry.2.Returns entry.1 := by
  refine @Run.property_iff_condition _ _ QueueStep initial Settled Accounted (fun world call => call.Returns world)
    hinitial (fun world h => h.toAccounted) ?_ ?_ taken reached run
  · intro world call after hsettled hreturns hstep
    obtain ⟨hids, rfl⟩ := hstep.inversion
    have hraises : ¬ world.Raises call.outcome call.jobs := by
      rintro ⟨id, hid, hrunnable, hnot⟩
      exact hnot (hreturns id hid hrunnable)
    obtain ⟨after, hexec, hafter⟩ := hsettled.run_of_not_raises hids hraises
    rw [Method.commit_of_ok hexec]
    exact hafter
  · intro world call after hsettled hreturns hstep haccounted
    obtain ⟨hids, rfl⟩ := hstep.inversion
    have hraises : world.Raises call.outcome call.jobs := by
      by_contra hnot
      apply hreturns
      intro id hid hrunnable
      by_contra houtcome
      exact hnot ⟨id, hid, hrunnable, houtcome⟩
    obtain ⟨exception, after, hexec, id, hid, hcount⟩ := World.count_lt_of_raises hraises
    rw [Method.commit_of_error hexec] at haccounted
    have hbefore := hsettled.counted id (hids id hid)
    have hafter := haccounted.counted id (hids id hid)
    simp only [World.rollback, World.log] at hbefore hafter hcount
    omega

/-- One new job and nothing dispatched yet. -/
def oneSuspension : World Unit (DispatchLog × Unit) where
  jobs := (queueOf [{ job_type := .suspend_subscription, subscription_id := some 0, requested_at := 0 }]).jobs
  records := ()
  outside := ([], ())

theorem oneSuspension_settled : Settled oneSuspension := Settled.of_undispatched rfl (by decide)

/-- A cron pass in which the only handler returns or raises as given. -/
def onePass (result : Except OdooError Unit) : QueueCall Unit Unit where
  cron := true
  now := 60
  outcome := fun _ => result
  effect := fun _ _ rest => rest
  jobs := [0]

def IspProvisioningJob.afterPass (result : Except OdooError Unit) (world : World Unit (DispatchLog × Unit)) :
    World Unit (DispatchLog × Unit) :=
  (IspProvisioningJob.cron_run_pending_jobs
    (scripted (onePass result).outcome (recorded (onePass result).outcome (onePass result).effect))
    (onePass result).now (onePass result).jobs).commit World.rollback world

theorem IspProvisioningJob.accounted_iff_returns_once :
    (∀ world ∈ Run.visited [(oneSuspension, onePass (.ok ()))] (IspProvisioningJob.afterPass (.ok ()) oneSuspension),
        Accounted world) ↔
      ∀ entry ∈ [(oneSuspension, onePass (.ok ()))], entry.2.Returns entry.1 :=
  IspProvisioningJob.accounted_iff_returns oneSuspension_settled
    (.step .start (.cron rfl ⟨[0], List.Perm.refl _, by decide, rfl⟩))

/-- Four passes dispatch a job whose handler always raises four times, one more
than its maximum, and leave it queued with no attempt counted. -/
theorem IspProvisioningJob.raising_job_dispatched_forever :
    Settled oneSuspension ∧ ∃ taken reached, Run QueueStep oneSuspension taken reached ∧
      reached.log.count 0 = 4 ∧ (reached.jobs.row 0).max_attempts = 3 ∧ (reached.jobs.row 0).attempts = 0 ∧
      (reached.jobs.row 0).state = .queued ∧ ¬ Accounted reached := by
  let raises : Except OdooError Unit := .error (.user "No MikroTik router found for this job.")
  have hstep : ∀ world : World Unit (DispatchLog × Unit), world.jobs = oneSuspension.jobs →
      QueueStep world (onePass raises) (IspProvisioningJob.afterPass raises world) ∧
        (IspProvisioningJob.afterPass raises world).jobs = oneSuspension.jobs := by
    rintro ⟨jobs, records, outside⟩ rfl
    exact ⟨.cron rfl ⟨[0], List.Perm.refl _, List.pairwise_singleton _ _, rfl⟩, rfl⟩
  obtain ⟨hfirst, hjobs⟩ := hstep oneSuspension rfl
  obtain ⟨hsecond, hjobs⟩ := hstep _ hjobs
  obtain ⟨hthird, hjobs⟩ := hstep _ hjobs
  obtain ⟨hfourth, hjobs⟩ := hstep _ hjobs
  refine ⟨oneSuspension_settled, _, _, .step (.step (.step (.step .start hfirst) hsecond) hthird) hfourth,
    rfl, rfl, rfl, rfl, fun haccounted => ?_⟩
  have hbounded := haccounted.bounded 0 (by decide)
  revert hbounded
  decide

end getupnet.isp_core

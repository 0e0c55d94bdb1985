import Getupnet.Relational.Runs
import Getupnet.IspMikrotik.Dispatch
import Getupnet.IspBilling.Reconnection
import Getupnet.IspBilling.Suspension
import Getupnet.Server

open relational
open calendar
open getupnet.isp_core
open getupnet.isp_mikrotik
open getupnet.isp_billing

namespace getupnet.server

variable {ρ : Type}

/-- The passes that run by themselves. A pass over the queue is its search and
then one execution after the other. -/
inductive CronEvent (ρ : Type) where
  | cron_suspend_overdue (clock : Nat → Nat) (today : Date) (moves : List Nat)
  | cron_reconnect_on_payment (clock : Nat → Nat)
  | search_pending (jobs : List Nat)
  | execute (surroundings : Surroundings ρ) (now : Nat)

/-- The database, and what is left of the pass over the queue. -/
structure CronState (ρ : Type) where
  world : Billing ρ
  jobs : List Nat

/-- One step of a pass. Every handler succeeds. -/
inductive CronStep : CronState ρ → CronEvent ρ → CronState ρ → Prop where
  | cron_suspend_overdue {world after : Billing ρ} {jobs moves : List Nat} {clock : Nat → Nat} {today : Date}
      (hmoves : world.Dunned moves)
      (hexec : (IspSubscription.cron_suspend_overdue clock today moves).exec world = (.ok (), after)) :
      CronStep ⟨world, jobs⟩ (.cron_suspend_overdue clock today moves) ⟨after, jobs⟩
  | cron_reconnect_on_payment {world after : Billing ρ} {jobs : List Nat} {clock : Nat → Nat}
      (hexec : (IspSubscription.cron_reconnect_on_payment clock).exec world = (.ok (), after)) :
      CronStep ⟨world, jobs⟩ (.cron_reconnect_on_payment clock) ⟨after, jobs⟩
  | search_pending {world : Billing ρ} {jobs : List Nat} (hpending : world.Pending jobs) :
      CronStep ⟨world, []⟩ (.search_pending jobs) ⟨world, jobs⟩
  | execute {world after : Billing ρ} {job : Nat} {jobs : List Nat} {surroundings : Surroundings ρ} {now : Nat}
      (hexec : (IspProvisioningJob.execute (dispatch surroundings) now job).exec world = (.ok (), after)) :
      CronStep ⟨world, job :: jobs⟩ (.execute surroundings now) ⟨after, jobs⟩

/-- Some posted move of the subscription is neither paid nor in payment. -/
def Billing.HasOpenMove (self : Billing ρ) (sub : Nat) : Prop :=
  ∃ move ∈ self.moves.ids, (self.moves.row move).isp_subscription_id = some sub ∧
    (self.moves.row move).isOpen = true

/-- The passes may queue jobs of one type only for a subscription: suspensions
while it has an open move, reconnections while it has none. Those queued are of
that type. -/
structure Headed (sub : Nat) (job_type : JobType) (state : CronState ρ) : Prop where
  direction : job_type = .suspend_subscription ∧ Billing.HasOpenMove state.world sub ∨
    job_type = .reconnect_subscription ∧ ¬ Billing.HasOpenMove state.world sub
  queued : ∀ job ∈ state.world.jobs.ids, (state.world.jobs.row job).subscription_id = some sub →
    (state.world.jobs.row job).state = .queued → (state.world.jobs.row job).job_type = job_type
  pass : ∀ job ∈ state.jobs, job ∈ state.world.jobs.ids

section

variable {sub : Nat} {job_type : JobType} {world after : Billing ρ} {jobs : List Nat}

/-- A pass that queues jobs of the one type at most for the subscription. -/
theorem Headed.queueAll {clock : Nat → Nat} {queued_type : JobType} {subs : List Nat}
    (h : Headed sub job_type ⟨world, jobs⟩) (hsubs : sub ∈ subs → queued_type = job_type) :
    Headed sub job_type ⟨world.queueAll clock queued_type subs, jobs⟩ := by
  rw [World.queueAll_eq]
  refine ⟨h.direction, fun job hjob hsub hqueued => ?_, fun job hjob => ?_⟩
  · by_cases hold : job ∈ world.jobs.ids
    · have hrow := world.jobs.createAll_row_of_mem (world.newJobs clock queued_type subs) hold
      dsimp only at hsub hqueued ⊢
      rw [hrow] at hsub hqueued ⊢
      exact h.queued job hold hsub hqueued
    · obtain hmem | ⟨_, hnew⟩ := Store.mem_createAll_ids _ _ hjob
      · exact absurd hmem hold
      · have hpair := List.mem_map_of_mem (f := fun job : IspProvisioningJob => (job.job_type, job.subscription_id)) hnew
        rw [World.newJobs_subscriptions] at hpair
        obtain ⟨id, hid, heq⟩ := List.mem_map.mp hpair
        obtain ⟨htype, htarget⟩ := Prod.mk.inj heq
        dsimp only at hsub ⊢
        rw [hsub] at htarget
        rw [← htype]
        exact hsubs (Option.some.inj htarget ▸ hid)
  · exact world.jobs.mem_createAll_ids_of_mem _ (h.pass job hjob)

/-- An execution takes a job off the queue and leaves the moves alone. The state of the
subscription stays, or it is the one that its queued jobs are headed for. -/
theorem Headed.execute {surroundings : Surroundings ρ} {now job : Nat}
    (h : Headed sub job_type ⟨world, job :: jobs⟩)
    (hexec : (IspProvisioningJob.execute (dispatch surroundings) now job).exec world = (.ok (), after)) :
    Headed sub job_type ⟨after, jobs⟩ ∧ ((after.subscription sub).state = (world.subscription sub).state ∨
      (after.subscription sub).state = job_type.stateAfter .draft) := by
  obtain ⟨hjobs, hrecords⟩ := execute_provisions hexec
  have hextension : after.records.extension = world.records.extension := by
    obtain ⟨_, hprovisions⟩ | ⟨_, hsame⟩ := hrecords
    · exact hprovisions.extension
    · rw [hsame]
  have hmoves : Billing.moves after = Billing.moves world := congrArg Accounting.moves hextension
  refine ⟨⟨?_, fun other hother hsub hqueued => ?_, fun other hother => ?_⟩, ?_⟩
  · have hopen : Billing.HasOpenMove after sub ↔ Billing.HasOpenMove world sub := by
      unfold Billing.HasOpenMove
      rw [hmoves]
    rw [hopen]
    exact h.direction
  · dsimp only at hother hsub hqueued ⊢
    rw [hjobs] at hother hsub hqueued ⊢
    by_cases hsame : other = job
    · subst hsame
      rw [Store.write_row_self] at hqueued
      exact absurd hqueued (IspProvisioningJob.settled_state_ne_queued _ _ _)
    · rw [Store.write_row_ne _ hsame] at hsub hqueued ⊢
      exact h.queued other hother hsub hqueued
  · dsimp only
    rw [hjobs]
    exact h.pass other (List.mem_cons_of_mem _ hother)
  · rw [execute_state hexec sub]
    split
    · rename_i hrun
      right
      have htype := h.queued job (h.pass job List.mem_cons_self) hrun.2 hrun.1.1
      dsimp only at htype
      rw [htype]
      obtain ⟨rfl, _⟩ | ⟨rfl, _⟩ := h.direction
      · rfl
      · rfl
    · exact Or.inl rfl

/-- One step keeps the direction, and takes the subscription nowhere else. -/
theorem Headed.step {state later : CronState ρ} {event : CronEvent ρ} (h : Headed sub job_type state)
    (hstep : CronStep state event later) :
    Headed sub job_type later ∧ ((later.world.subscription sub).state = (state.world.subscription sub).state ∨
      (later.world.subscription sub).state = job_type.stateAfter .draft) := by
  cases hstep with
  | @cron_suspend_overdue world after jobs moves clock today hmoves hexec =>
    obtain ⟨_, rfl⟩ := IspSubscription.cron_suspend_overdue_returns hexec
    refine ⟨h.queueAll fun hsub => ?_, Or.inl (by rw [World.queueAll_eq]; rfl)⟩
    obtain ⟨move, hmove, hoverdue⟩ := List.mem_filterMap.mp hsub
    obtain ⟨hmem, hsearched⟩ := (hmoves.mem_iff move).mp hmove
    obtain ⟨_, hopen⟩ := (Bool.and_eq_true _ _).mp hsearched
    obtain ⟨htype, _⟩ | ⟨_, hnone⟩ := h.direction
    · exact htype.symm
    · have hlinked := ((world.suspendedFor_eq_some_iff today _ sub).mp hoverdue).1
      exact absurd ⟨move, hmem, hlinked, hopen⟩ hnone
  | @cron_reconnect_on_payment world after jobs clock hexec =>
    rw [IspSubscription.cron_reconnect_on_payment_exec] at hexec
    obtain ⟨_, rfl⟩ := Prod.mk.inj hexec
    refine ⟨h.queueAll fun hsub => ?_, Or.inl (by rw [World.queueAll_eq]; rfl)⟩
    have hclosed := (Billing.open_count_eq_zero_iff world sub).mp (of_decide_eq_true (List.mem_filter.mp hsub).2)
    obtain ⟨_, move, hmove, hlinked, hopen⟩ | ⟨htype, _⟩ := h.direction
    · rw [hclosed move hmove hlinked] at hopen
      cases hopen
    · exact htype.symm
  | @search_pending world jobs hpending =>
    exact ⟨⟨h.direction, h.queued, fun job hjob => (hpending.mem hjob).1⟩, Or.inl rfl⟩
  | execute hexec => exact h.execute hexec

end

/-- A job of the type is queued for the subscription. -/
def Billing.Holds (self : Billing ρ) (sub : Nat) (job_type : JobType) : Prop :=
  ∃ job ∈ self.jobs.ids, (self.jobs.row job).subscription_id = some sub ∧ (self.jobs.row job).state = .queued ∧
    (self.jobs.row job).job_type = job_type

theorem Headed.of_empty_queue {sub : Nat} {world : Billing ρ}
    (h : ∀ job ∈ world.jobs.ids, (world.jobs.row job).subscription_id = some sub →
      (world.jobs.row job).state ≠ .queued) :
    ∃ job_type, Headed sub job_type ⟨world, []⟩ := by
  by_cases hopen : Billing.HasOpenMove world sub
  · exact ⟨.suspend_subscription, Or.inl ⟨rfl, hopen⟩, fun job hjob hsub hqueued => absurd hqueued (h job hjob hsub),
      fun job hjob => absurd hjob List.not_mem_nil⟩
  · exact ⟨.reconnect_subscription, Or.inr ⟨rfl, hopen⟩, fun job hjob hsub hqueued => absurd hqueued (h job hjob hsub),
      fun job hjob => absurd hjob List.not_mem_nil⟩

/-- Beginning with no job of a subscription in the queue, passes alone never queue both a
suspension and a reconnection of it, and its state changes at most once. The executions of
a batch may come between the passes one by one. -/
theorem passes_never_flap {sub : Nat} {initial : Billing ρ} {taken : List (CronState ρ × CronEvent ρ)}
    {reached : CronState ρ}
    (hinitial : ∀ job ∈ initial.jobs.ids, (initial.jobs.row job).subscription_id = some sub →
      (initial.jobs.row job).state ≠ .queued)
    (run : Run CronStep ⟨initial, []⟩ taken reached) :
    (∀ state ∈ Run.visited taken reached, ¬ (Billing.Holds state.world sub .suspend_subscription ∧
        Billing.Holds state.world sub .reconnect_subscription)) ∧
      changes ((Run.visited taken reached).map fun state => (state.world.subscription sub).state) ≤ 1 := by
  obtain ⟨job_type, hheaded⟩ := Headed.of_empty_queue hinitial
  have hvisited := @Run.invariant_of_condition _ _ CronStep _ (Headed sub job_type) (fun _ _ => True) hheaded
    (fun _ _ _ hstate _ hstep => (hstate.step hstep).1) taken reached run (fun _ _ => trivial)
  constructor
  · rintro state hstate ⟨⟨first, hfirst, hsub, hqueued, hsuspend⟩, second, hsecond, hsub', hqueued', hreconnect⟩
    have hqueue := (hvisited state hstate).queued
    have hsame := (hqueue first hfirst hsub hqueued).trans (hqueue second hsecond hsub' hqueued').symm
    rw [hsuspend, hreconnect] at hsame
    cases hsame
  · have hpairs : (Run.visited taken reached).Pairwise fun first second =>
        (second.world.subscription sub).state = (first.world.subscription sub).state ∨
          (second.world.subscription sub).state = job_type.stateAfter .draft := by
      refine run.visited_pairwise (fun first second third hfirst hsecond => ?_) fun entry hentry after hstep => ?_
      · obtain hkept | htarget := hsecond
        · rw [hkept]
          exact hfirst
        · exact Or.inr htarget
      · have hmem : entry.1 ∈ Run.visited taken reached := List.mem_append_left _ (List.mem_map_of_mem hentry)
        exact ((hvisited entry.1 hmem).step hstep).2
    exact changes_le_one (List.pairwise_map.mpr hpairs)

/-- The overdue pass finds one late customer twice, the queue is worked off, and
a payment pass follows. -/
theorem passes_never_flap_overdue :
    let queued := (ServerEvent.cron_suspend_overdue id februaryFirst [0, 1]).call (unpaid [unpaidInvoice, unpaidInvoice])
    let suspended := ((IspProvisioningJob.execute (dispatch dryRun) 1 0).exec queued).2
    let reached : CronState Unit := ⟨(ServerEvent.cron_reconnect_on_payment id).call suspended, [1]⟩
    (reached.world.subscription 0).state = .suspended ∧ ∃ taken,
      Run CronStep ⟨unpaid [unpaidInvoice, unpaidInvoice], []⟩ taken reached ∧
        changes ((Run.visited taken reached).map fun state => (state.world.subscription 0).state) ≤ 1 := by
  intro queued suspended reached
  have hoverdue : CronStep ⟨unpaid [unpaidInvoice, unpaidInvoice], []⟩
      (.cron_suspend_overdue id februaryFirst [0, 1]) ⟨queued, []⟩ := .cron_suspend_overdue (List.Perm.refl _) rfl
  have hsearch : CronStep ⟨queued, []⟩ (.search_pending [0, 1]) ⟨queued, [0, 1]⟩ :=
    .search_pending ⟨[0, 1], List.Perm.refl _, by decide, rfl⟩
  have hexecute : CronStep ⟨queued, [0, 1]⟩ (.execute dryRun 1) ⟨suspended, [1]⟩ := .execute rfl
  have hreconnect : CronStep ⟨suspended, [1]⟩ (.cron_reconnect_on_payment id) reached :=
    .cron_reconnect_on_payment rfl
  have run := Run.step (Run.step (Run.step (Run.step .start hoverdue) hsearch) hexecute) hreconnect
  exact ⟨by decide, _, run, (passes_never_flap (fun job hjob => absurd hjob List.not_mem_nil) run).2⟩

end getupnet.server

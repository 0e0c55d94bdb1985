import Getupnet.IspCore.ProvisioningJob.Order
import Getupnet.IspBilling.Reconnection
import Getupnet.IspBilling.Suspension

open relational
open calendar
open getupnet.isp_core

namespace getupnet.isp_billing

variable {ρ : Type}

/-- What dunning makes of the state of a subscription: an active one with a late move is
suspended, and a suspended one without an open move is active again. -/
def Billing.dunned (self : Billing ρ) (today : Date) (sub : Nat) : SubscriptionState → SubscriptionState
  | .active => if (self.moves.search (self.late today sub)).isEmpty then .active else .suspended
  | .suspended => if self.open_count sub = 0 then .active else .suspended
  | state => state

/-- The state in which dunning leaves a subscription. -/
def Billing.target (self : Billing ρ) (today : Date) (sub : Nat) : SubscriptionState :=
  self.dunned today sub (self.subscription sub).state

/-- The moves, and all else that tells what is late, are the same. -/
structure SameAccounts (before after : Billing ρ) : Prop where
  extension : after.records.extension = before.records.extension
  plans : after.records.plans = before.records.plans
  ids : after.records.subscriptions.ids = before.records.subscriptions.ids
  plan_id : ∀ sub, (after.subscription sub).plan_id = (before.subscription sub).plan_id

/-- A job that an execution dispatches, and that writes the state of the subscription. -/
structure Writes (job : IspProvisioningJob) (sub : Nat) (state : SubscriptionState) : Prop where
  runnable : job.Runnable
  subscription_id : job.subscription_id = some sub
  written : job.job_type.written = some state

/-- Dunning is under way: the accounts are as they were, each subscription is in its
first state or its last, and a job in the queue that writes a state writes the last. -/
structure Dunning (today : Date) (initial world : Billing ρ) : Prop where
  accounts : SameAccounts initial world
  states : ∀ sub, (world.subscription sub).state = (initial.subscription sub).state ∨
    (world.subscription sub).state = initial.target today sub
  queue : ∀ job ∈ queued world.jobs, (world.jobs.row job).job_type.written = none ∨
    ∃ sub, Writes (world.jobs.row job) sub (initial.target today sub)

/-- A subscription is in its last state, or a job in the queue writes it. -/
def Underway (today : Date) (initial world : Billing ρ) (sub : Nat) : Prop :=
  (world.subscription sub).state = initial.target today sub ∨
    ∃ job ∈ queued world.jobs, Writes (world.jobs.row job) sub (initial.target today sub)

/-- No job in the queue writes the state of a subscription. -/
def Quiet (jobs : Store IspProvisioningJob) : Prop :=
  ∀ job ∈ queued jobs, (jobs.row job).job_type.written = none

/-- What a day's dunning has come to. -/
structure Converged (today : Date) (initial reached : Billing ρ) : Prop where
  states : ∀ sub ∈ initial.records.subscriptions.ids,
    (reached.subscription sub).state = initial.target today sub
  suspended : ∀ clock moves, reached.Dunned moves → reached.afterSuspension clock today moves = reached
  reconnected : ∀ clock, reached.afterReconnection clock = reached

section

variable {today : Date} {initial world after : Billing ρ} {sub : Nat}

theorem SameAccounts.late (h : SameAccounts world after) (today : Date) (sub : Nat) :
    after.late today sub = world.late today sub := by
  have hdays : after.days sub = world.days sub := by
    unfold Billing.days World.planOf
    rw [h.plan_id sub, h.plans, h.extension]
  funext move
  unfold Billing.late Billing.pastDue
  rw [hdays]

theorem SameAccounts.moves (h : SameAccounts world after) : after.moves = world.moves := by
  unfold Billing.moves
  rw [h.extension]

theorem SameAccounts.open_count (h : SameAccounts world after) (sub : Nat) :
    after.open_count sub = world.open_count sub := by
  unfold Billing.open_count
  rw [h.moves]

theorem SameAccounts.dunned (h : SameAccounts world after) (today : Date) (sub : Nat) :
    after.dunned today sub = world.dunned today sub := by
  funext state
  unfold Billing.dunned
  rw [h.late today sub, h.open_count, h.moves]

theorem SameAccounts.refl (world : Billing ρ) : SameAccounts world world := ⟨rfl, rfl, rfl, fun _ => rfl⟩

theorem SameAccounts.trans {middle : Billing ρ} (h : SameAccounts world middle)
    (hafter : SameAccounts middle after) : SameAccounts world after :=
  ⟨hafter.extension.trans h.extension, hafter.plans.trans h.plans, hafter.ids.trans h.ids,
    fun sub => (hafter.plan_id sub).trans (h.plan_id sub)⟩

/-- What is late is open. -/
theorem Billing.open_count_ne_zero (self : Billing ρ) {move : Nat} (hmove : move ∈ self.moves.ids)
    (hlate : self.late today sub (self.moves.row move) = true) : self.open_count sub ≠ 0 := by
  obtain ⟨hlinked, hopen, _⟩ := (self.late_iff today sub _).mp hlate
  intro hnone
  rw [(self.open_count_eq_zero_iff sub).mp hnone move hmove hlinked] at hopen
  cases hopen

theorem Billing.search_late_isEmpty (self : Billing ρ) (today : Date) (hnone : self.open_count sub = 0) :
    (self.moves.search (self.late today sub)).isEmpty = true := by
  rw [List.isEmpty_iff, List.eq_nil_iff_forall_not_mem]
  intro move hmove
  obtain ⟨hmem, hlate⟩ := (Store.mem_search _ _ _).mp hmove
  exact self.open_count_ne_zero hmem hlate hnone

/-- Dunning leaves alone what it has left. -/
theorem Billing.dunned_dunned (self : Billing ρ) (today : Date) (sub : Nat) (state : SubscriptionState) :
    self.dunned today sub (self.dunned today sub state) = self.dunned today sub state := by
  cases state with
  | active =>
    by_cases hlate : (self.moves.search (self.late today sub)).isEmpty
    · simp [Billing.dunned, hlate]
    · have hopen : self.open_count sub ≠ 0 := fun hnone => hlate (self.search_late_isEmpty today hnone)
      simp [Billing.dunned, hlate, hopen]
  | suspended =>
    by_cases hnone : self.open_count sub = 0
    · simp [Billing.dunned, hnone, self.search_late_isEmpty today hnone]
    · simp [Billing.dunned, hnone]
  | draft => rfl
  | terminated => rfl

theorem Billing.dunned_active_of_late (self : Billing ρ) {move : Nat} (hmove : move ∈ self.moves.ids)
    (hlate : self.late today sub (self.moves.row move) = true) : self.dunned today sub .active = .suspended := by
  have hmem : move ∈ self.moves.search (self.late today sub) := (Store.mem_search _ _ _).mpr ⟨hmove, hlate⟩
  exact if_neg fun hempty => List.ne_nil_of_mem hmem (List.isEmpty_iff.mp hempty)

theorem Billing.dunned_active (self : Billing ρ) (today : Date) (sub : Nat) :
    self.dunned today sub .active = .active ∨ self.dunned today sub .active = .suspended := by
  unfold Billing.dunned
  by_cases hlate : (self.moves.search (self.late today sub)).isEmpty
  · exact Or.inl (if_pos hlate)
  · exact Or.inr (if_neg hlate)

theorem Billing.dunned_suspended (self : Billing ρ) (today : Date) (sub : Nat) :
    self.dunned today sub .suspended = .suspended ∨ self.dunned today sub .suspended = .active := by
  unfold Billing.dunned
  by_cases hnone : self.open_count sub = 0
  · exact Or.inr (if_pos hnone)
  · exact Or.inl (if_neg hnone)

/-- The subscriptions that the suspension pass queues are active, and dunned. -/
theorem mem_overdue_iff {moves : List Nat} (hdunned : world.Dunned moves) :
    sub ∈ moves.filterMap (fun move => world.suspendedFor today (world.moves.row move)) ↔
      (world.subscription sub).state = .active ∧ world.dunned today sub .active = .suspended := by
  rw [List.mem_filterMap]
  constructor
  · rintro ⟨move, hmove, hoverdue⟩
    obtain ⟨hmem, hsearched⟩ := (hdunned.mem_iff move).mp hmove
    obtain ⟨_, hopen⟩ := (Bool.and_eq_true _ _).mp hsearched
    obtain ⟨hlinked, hactive, hpast⟩ := (world.suspendedFor_eq_some_iff today _ sub).mp hoverdue
    exact ⟨hactive, world.dunned_active_of_late hmem ((world.late_iff today sub _).mpr ⟨hlinked, hopen, hpast⟩)⟩
  · rintro ⟨hactive, hsuspended⟩
    have hlate : ¬ (world.moves.search (world.late today sub)).isEmpty = true := by
      intro hempty
      rw [Billing.dunned, if_pos hempty] at hsuspended
      cases hsuspended
    obtain ⟨move, hmove⟩ := List.exists_mem_of_ne_nil _ fun hnil => hlate (List.isEmpty_iff.mpr hnil)
    obtain ⟨hmem, hlate⟩ := (Store.mem_search _ _ _).mp hmove
    obtain ⟨hlinked, hopen, hpast⟩ := (world.late_iff today sub _).mp hlate
    refine ⟨move, (hdunned.mem_iff move).mpr ⟨hmem, ?_⟩, ?_⟩
    · rw [hlinked, hopen]
      rfl
    · exact (world.suspendedFor_eq_some_iff today _ sub).mpr ⟨hlinked, hactive, hpast⟩

/-- The subscriptions that the reconnection pass queues are suspended, and dunned. -/
theorem mem_settled_iff (today : Date) :
    sub ∈ (world.records.subscriptions.searchDesc fun sub => decide (sub.state = .suspended)).filter
        (fun sub => decide (world.open_count sub = 0)) ↔
      sub ∈ world.records.subscriptions.ids ∧ (world.subscription sub).state = .suspended ∧
        world.dunned today sub .suspended = .active := by
  rw [List.mem_filter, Store.mem_searchDesc, decide_eq_true_eq, decide_eq_true_eq, and_assoc]
  refine and_congr_right fun _ => and_congr_right fun _ => ?_
  by_cases hnone : world.open_count sub = 0
  · simp [Billing.dunned, hnone]
  · simp [Billing.dunned, hnone]

theorem mem_queued_queueAll {clock : Nat → Nat} {job_type : JobType} {subs : List Nat} {job : Nat}
    (hjob : job ∈ queued (world.queueAll clock job_type subs).jobs) :
    (job ∈ queued world.jobs ∧ (world.queueAll clock job_type subs).jobs.row job = world.jobs.row job) ∨
      ∃ sub ∈ subs, ∃ at_time, (world.queueAll clock job_type subs).jobs.row job =
        (world.subscription sub).job sub job_type at_time := by
  rw [World.queueAll_eq] at hjob ⊢
  obtain ⟨hmem, hqueued⟩ := (Store.mem_search _ _ _).mp hjob
  obtain hold | ⟨_, hnew⟩ := Store.mem_createAll_ids _ _ hmem
  · have hrow := world.jobs.createAll_row_of_mem (world.newJobs clock job_type subs) hold
    rw [hrow] at hqueued
    exact Or.inl ⟨(Store.mem_search _ _ _).mpr ⟨hold, hqueued⟩, hrow⟩
  · right
    obtain ⟨⟨sub, number⟩, hpair, heq⟩ := List.mem_map.mp hnew
    exact ⟨sub, List.fst_mem_of_mem_zipIdx hpair, clock number, heq.symm⟩

theorem mem_queued_queueAll_of_mem (clock : Nat → Nat) (job_type : JobType) (subs : List Nat) {job : Nat}
    (hjob : job ∈ queued world.jobs) :
    job ∈ queued (world.queueAll clock job_type subs).jobs ∧
      (world.queueAll clock job_type subs).jobs.row job = world.jobs.row job := by
  rw [World.queueAll_eq]
  obtain ⟨hmem, hqueued⟩ := (Store.mem_search _ _ _).mp hjob
  have hrow := world.jobs.createAll_row_of_mem (world.newJobs clock job_type subs) hmem
  refine ⟨(Store.mem_search _ _ _).mpr ⟨world.jobs.mem_createAll_ids_of_mem _ hmem, ?_⟩, hrow⟩
  rw [hrow]
  exact hqueued

theorem exists_queued_of_mem (world : Billing ρ) (clock : Nat → Nat) (job_type : JobType) {subs : List Nat}
    (hsub : sub ∈ subs) :
    ∃ job ∈ queued (world.queueAll clock job_type subs).jobs, ∃ at_time,
      (world.queueAll clock job_type subs).jobs.row job = (world.subscription sub).job sub job_type at_time := by
  rw [World.queueAll_eq]
  obtain ⟨i, hi, hget⟩ := List.mem_iff_getElem.mp hsub
  have hrecord : (world.newJobs clock job_type subs)[i]? =
      some ((world.subscription sub).job sub job_type (clock (world.jobs.next_id + i))) := by
    rw [World.newJobs, List.getElem?_map, List.getElem?_zipIdx, List.getElem?_eq_getElem hi, hget]
    rfl
  have hrow := world.jobs.createAll_row_new hrecord
  have hmem : world.jobs.next_id + i ∈ (world.jobs.createAll (world.newJobs clock job_type subs)).ids := by
    rw [Store.createAll_ids]
    exact List.mem_append_right _ ((Store.mem_batch_iff _).mpr ⟨i, _, hrecord, rfl⟩)
  refine ⟨_, (Store.mem_search _ _ _).mpr ⟨hmem, ?_⟩, _, hrow⟩
  rw [hrow]
  rfl

/-- A pass that queues jobs to write the last state keeps dunning under way. -/
theorem Dunning.queueAll {clock : Nat → Nat} {job_type : JobType} {subs : List Nat}
    (h : Dunning today initial world)
    (hsubs : ∀ sub ∈ subs, job_type.written = some (initial.target today sub)) :
    Dunning today initial (world.queueAll clock job_type subs) := by
  have hrecords : (world.queueAll clock job_type subs).records = world.records := by rw [World.queueAll_eq]
  refine ⟨⟨?_, ?_, ?_, fun sub => ?_⟩, fun sub => ?_, fun job hjob => ?_⟩
  · rw [hrecords]
    exact h.accounts.extension
  · rw [hrecords]
    exact h.accounts.plans
  · rw [hrecords]
    exact h.accounts.ids
  · rw [World.subscription, hrecords]
    exact h.accounts.plan_id sub
  · rw [World.subscription, hrecords]
    exact h.states sub
  · obtain ⟨hold, hrow⟩ | ⟨sub, hsub, at_time, hrow⟩ := mem_queued_queueAll hjob
    · rw [hrow]
      exact h.queue job hold
    · rw [hrow]
      exact Or.inr ⟨sub, ⟨rfl, Nat.zero_lt_succ 2⟩, rfl, hsubs sub hsub⟩

theorem Underway.queueAll {clock : Nat → Nat} {job_type : JobType} {subs : List Nat}
    (h : Underway today initial world sub) : Underway today initial (world.queueAll clock job_type subs) sub := by
  obtain hdone | ⟨job, hjob, hwrites⟩ := h
  · left
    rw [World.queueAll_eq]
    exact hdone
  · obtain ⟨hqueued, hrow⟩ := mem_queued_queueAll_of_mem clock job_type subs hjob
    exact Or.inr ⟨job, hqueued, hrow ▸ hwrites⟩

/-- A subscription that a pass has queued is under way. -/
theorem Underway.of_mem {clock : Nat → Nat} {job_type : JobType} {subs : List Nat} (hsub : sub ∈ subs)
    (hwritten : job_type.written = some (initial.target today sub)) :
    Underway today initial (world.queueAll clock job_type subs) sub := by
  obtain ⟨job, hjob, at_time, hrow⟩ := exists_queued_of_mem world clock job_type hsub
  refine Or.inr ⟨job, hjob, ?_⟩
  rw [hrow]
  exact ⟨⟨rfl, Nat.zero_lt_succ 2⟩, rfl, hwritten⟩

/-- A suspension pass queues the last state of each subscription that it queues, and
all active ones are under way after it if it goes through. -/
theorem Dunning.suspension {clock : Nat → Nat} {moves : List Nat} (h : Dunning today initial world)
    (hdunned : world.Dunned moves) :
    Dunning today initial (world.afterSuspension clock today moves) ∧
      (∀ sub, Underway today initial world sub →
        Underway today initial (world.afterSuspension clock today moves) sub) ∧
      (world.DeadlinesExist → ∀ sub, (initial.subscription sub).state = .active →
        Underway today initial (world.afterSuspension clock today moves) sub) := by
  by_cases hexist : world.DeadlinesExist
  swap
  · rw [Billing.afterSuspension_of_not_exist clock today hdunned hexist]
    exact ⟨h, fun _ hsub => hsub, fun hall => absurd hall hexist⟩
  rw [Billing.afterSuspension_of_exist clock today hdunned hexist]
  have htarget : ∀ sub ∈ moves.filterMap (fun move => world.suspendedFor today (world.moves.row move)),
      initial.target today sub = .suspended := by
    intro sub hsub
    obtain ⟨hactive, hsuspended⟩ := (mem_overdue_iff hdunned).mp hsub
    rw [h.accounts.dunned] at hsuspended
    obtain hfirst | hlast := h.states sub
    · rw [Billing.target, ← hfirst, hactive]
      exact hsuspended
    · have hfixed := initial.dunned_dunned today sub (initial.subscription sub).state
      rw [← Billing.target, ← hlast, hactive, hsuspended] at hfixed
      cases hfixed
  refine ⟨h.queueAll fun sub hsub => ?_, fun sub hsub => hsub.queueAll, fun _ sub hactive => ?_⟩
  · rw [htarget sub hsub]
    rfl
  · by_cases hmem : sub ∈ moves.filterMap fun move => world.suspendedFor today (world.moves.row move)
    · refine .of_mem hmem ?_
      rw [htarget sub hmem]
      rfl
    · refine Underway.queueAll (Or.inl ?_)
      obtain hfirst | hlast := h.states sub
      · rw [mem_overdue_iff hdunned, hfirst, hactive, h.accounts.dunned] at hmem
        rw [hfirst, Billing.target, hactive]
        have hkept := (initial.dunned_active today sub).resolve_right fun hsuspended => hmem ⟨rfl, hsuspended⟩
        exact hkept.symm
      · exact hlast

/-- A reconnection pass does the same with the suspended ones. -/
theorem Dunning.reconnection {clock : Nat → Nat} (h : Dunning today initial world) :
    Dunning today initial (world.afterReconnection clock) ∧
      (∀ sub, Underway today initial world sub → Underway today initial (world.afterReconnection clock) sub) ∧
      ∀ sub ∈ initial.records.subscriptions.ids, (initial.subscription sub).state = .suspended →
        Underway today initial (world.afterReconnection clock) sub := by
  rw [Billing.afterReconnection, Method.commit_of_ok (IspSubscription.cron_reconnect_on_payment_exec clock world)]
  have htarget : ∀ sub ∈ (world.records.subscriptions.searchDesc fun sub => decide (sub.state = .suspended)).filter
      (fun sub => decide (world.open_count sub = 0)), initial.target today sub = .active := by
    intro sub hsub
    obtain ⟨_, hsuspended, hactive⟩ := (mem_settled_iff today).mp hsub
    rw [h.accounts.dunned] at hactive
    obtain hfirst | hlast := h.states sub
    · rw [Billing.target, ← hfirst, hsuspended]
      exact hactive
    · have hfixed := initial.dunned_dunned today sub (initial.subscription sub).state
      rw [← Billing.target, ← hlast, hsuspended, hactive] at hfixed
      cases hfixed
  refine ⟨h.queueAll fun sub hsub => ?_, fun sub hsub => hsub.queueAll, fun sub hid hsuspended => ?_⟩
  · rw [htarget sub hsub]
    rfl
  · by_cases hmem : sub ∈ (world.records.subscriptions.searchDesc fun sub => decide (sub.state = .suspended)).filter
        fun sub => decide (world.open_count sub = 0)
    · refine .of_mem hmem ?_
      rw [htarget sub hmem]
      rfl
    · refine Underway.queueAll (Or.inl ?_)
      obtain hfirst | hlast := h.states sub
      · rw [mem_settled_iff today, hfirst, hsuspended, h.accounts.dunned, h.accounts.ids] at hmem
        rw [hfirst, Billing.target, hsuspended]
        have hkept := (initial.dunned_suspended today sub).resolve_right fun hactive => hmem ⟨hid, rfl, hactive⟩
        exact hkept.symm
      · exact hlast

theorem Dunning.of_quiet (hquiet : Quiet initial.jobs) : Dunning today initial initial :=
  ⟨SameAccounts.refl initial, fun _ => Or.inl rfl, fun job hjob => Or.inl (hquiet job hjob)⟩

/-- A subscription that neither pass concerns is in its last state from the first. -/
theorem target_of_other (today : Date) (hactive : (initial.subscription sub).state ≠ .active)
    (hsuspended : (initial.subscription sub).state ≠ .suspended) :
    initial.target today sub = (initial.subscription sub).state := by
  unfold Billing.target
  cases hstate : (initial.subscription sub).state with
  | active => exact absurd hstate hactive
  | suspended => exact absurd hstate hsuspended
  | draft => rfl
  | terminated => rfl

/-- What is under way has arrived once the queue is quiet. -/
theorem Underway.arrived (h : Underway today initial world sub) (hquiet : Quiet world.jobs) :
    (world.subscription sub).state = initial.target today sub := by
  obtain hdone | ⟨job, hjob, hwrites⟩ := h
  · exact hdone
  · have hwritten := hwrites.written
    rw [hquiet job hjob] at hwritten
    cases hwritten

/-- Where dunning has arrived, its passes find nothing to do: every subscription is in the
state that the accounts call for, so that neither pass queues a job for it or changes its
state. -/
theorem Dunning.converged (h : Dunning today initial world)
    (hactive : ∀ sub, (initial.subscription sub).state = .active →
      (world.subscription sub).state = initial.target today sub)
    (hstates : ∀ sub ∈ initial.records.subscriptions.ids,
      (world.subscription sub).state = initial.target today sub) :
    Converged today initial world := by
  have hfixed : ∀ sub, (world.subscription sub).state = initial.target today sub →
      world.dunned today sub (world.subscription sub).state = (world.subscription sub).state := by
    intro sub hstate
    rw [hstate, h.accounts.dunned]
    exact initial.dunned_dunned today sub _
  refine ⟨hstates, fun clock moves hdunned => ?_, fun clock => ?_⟩
  · have hnone : moves.filterMap (fun move => world.suspendedFor today (world.moves.row move)) = [] := by
      rw [List.eq_nil_iff_forall_not_mem]
      intro sub hsub
      obtain ⟨hstate, hsuspended⟩ := (mem_overdue_iff hdunned).mp hsub
      have harrived : (world.subscription sub).state = initial.target today sub := by
        obtain hfirst | hlast := h.states sub
        · exact hactive sub (hfirst ▸ hstate)
        · exact hlast
      have hsame := hfixed sub harrived
      rw [hstate, hsuspended] at hsame
      cases hsame
    by_cases hexist : world.DeadlinesExist
    · rw [Billing.afterSuspension_of_exist clock today hdunned hexist, hnone]
      rfl
    · exact Billing.afterSuspension_of_not_exist clock today hdunned hexist
  · have hnone : (world.records.subscriptions.searchDesc fun sub => decide (sub.state = .suspended)).filter
        (fun sub => decide (world.open_count sub = 0)) = [] := by
      rw [List.eq_nil_iff_forall_not_mem]
      intro sub hsub
      obtain ⟨hid, hsuspended, hstate⟩ := (mem_settled_iff today).mp hsub
      have hsame := hfixed sub (hstates sub (h.accounts.ids ▸ hid))
      rw [hsuspended, hstate] at hsame
      cases hsame
    rw [Billing.afterReconnection,
      Method.commit_of_ok (IspSubscription.cron_reconnect_on_payment_exec clock world), hnone]
    rfl

end

end getupnet.isp_billing

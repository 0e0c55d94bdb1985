import Getupnet.Server
import Getupnet.IspBilling.Reconnection
import Getupnet.IspBilling.Suspension

open relational
open calendar
open getupnet.isp_core
open getupnet.isp_mikrotik
open getupnet.isp_billing

namespace getupnet.server

variable {ρ : Type}

/-- Who queued a job: a pass of `_cron_suspend_overdue`, or anything else. -/
inductive Origin where
  | overdue_pass
  | other
  deriving DecidableEq

/-- What the database does not keep: who queued each job, which job suspended each
subscription last, and, for each reconnection that a payment pass has queued, who
had queued the suspension that it was to end. -/
structure History where
  origin : Nat → Origin
  suspended_by : Nat → Option Nat
  reconnected : List (Nat × Option Origin)

/-- Who queued the job that a subscription was suspended by last. -/
def History.suspension (self : History) (sub : Nat) : Option Origin := (self.suspended_by sub).map self.origin

def ServerEvent.origin : ServerEvent ρ → Origin
  | .cron_suspend_overdue _ _ _ => .overdue_pass
  | _ => .other

/-- The note of who queued the jobs that a call has added. -/
def History.queued (event : ServerEvent ρ) (before after : Billing ρ) (self : History) : History :=
  { self with
    origin := fun job =>
      if before.jobs.next_id ≤ job ∧ job < after.jobs.next_id then event.origin else self.origin job }

/-- The note of a job that is executed and returns. -/
def History.executed (world : Billing ρ) (job : Nat) (self : History) : History :=
  match (world.jobs.row job).subscription_id, (world.jobs.row job).job_type with
  | some sub, .suspend_subscription =>
    if (world.jobs.row job).Runnable then
      { self with suspended_by := Function.update self.suspended_by sub (some job) }
    else self
  | _, _ => self

/-- The notes of jobs that are executed in turn and all return. -/
def History.executedAll (surroundings : Surroundings ρ) (now : Nat) : List Nat → Billing ρ → History → History
  | [], _, self => self
  | job :: jobs, world, self =>
    History.executedAll surroundings now jobs
      ((IspProvisioningJob.execute (dispatch surroundings) now job).exec world).2 (self.executed world job)

/-- The note of the reconnections that a payment pass has queued. -/
def History.reconnects (before after : Billing ρ) (self : History) : History :=
  { self with
    reconnected := self.reconnected ++
      ((Store.added before.jobs after.jobs).filterMap IspProvisioningJob.subscription_id).map
        fun sub => (sub, self.suspension sub) }

/-- The history after a call. A call that raises leaves none. -/
def History.after (event : ServerEvent ρ) (world : Billing ρ) (self : History) : History :=
  match event.method.exec world with
  | (.error _, _) => self
  | (.ok (), after) =>
    match event with
    | .action_run surroundings now jobs => self.executedAll surroundings now jobs world
    | .cron_run_pending_jobs surroundings now jobs => self.executedAll surroundings now jobs world
    | .cron_reconnect_on_payment _ => (self.reconnects world after).queued event world after
    | _ => self.queued event world after

/-- A call on the database, beside its history. -/
def ServerEvent.next (event : ServerEvent ρ) (state : Billing ρ × History) : Billing ρ × History :=
  (event.call state.1, state.2.after event state.1)

def HistoryStep (before : Billing ρ × History) (event : ServerEvent ρ) (after : Billing ρ × History) : Prop :=
  event.Possible before.1 ∧ after = event.next before

/-- Whatever payment passes have queued a reconnection for had been suspended by
a job of an overdue pass. -/
def PaymentReconnectsOverdue (state : Billing ρ × History) : Prop :=
  ∀ entry ∈ state.2.reconnected, entry.2 = some .overdue_pass

/-- When a payment pass runs, every suspended subscription that no overdue pass
had suspended has an open move. -/
def ServerEvent.OthersOwe (state : Billing ρ × History) : ServerEvent ρ → Prop
  | .cron_reconnect_on_payment _ =>
    ∀ sub ∈ state.1.records.subscriptions.ids, (state.1.subscription sub).state = .suspended →
      state.2.suspension sub ≠ some .overdue_pass →
        ∃ move ∈ state.1.moves.ids, (state.1.moves.row move).isp_subscription_id = some sub ∧
          (state.1.moves.row move).isOpen = true
  | _ => True

section

variable {surroundings : Surroundings ρ} {now : Nat} {state after : Billing ρ × History} {event : ServerEvent ρ}

theorem History.executedAll_reconnected (jobs : List Nat) (world : Billing ρ) (history : History) :
    (history.executedAll surroundings now jobs world).reconnected = history.reconnected := by
  induction jobs generalizing world history with
  | nil => rfl
  | cons job jobs ih =>
    rw [History.executedAll, ih]
    unfold History.executed
    split
    · split <;> rfl
    · rfl

/-- Only a payment pass adds to the list of reconnections. -/
theorem History.after_reconnected (world : Billing ρ) (history : History)
    (h : ∀ clock, event ≠ .cron_reconnect_on_payment clock) :
    (history.after event world).reconnected = history.reconnected := by
  unfold History.after
  split
  · rfl
  · split
    · exact History.executedAll_reconnected _ _ _
    · exact History.executedAll_reconnected _ _ _
    · rename_i clock _
      exact absurd rfl (h clock)
    · rfl

/-- The subscriptions that a payment pass reconnects. -/
theorem History.after_cron_reconnect_on_payment (clock : Nat → Nat) (world : Billing ρ) (history : History) :
    (history.after (.cron_reconnect_on_payment clock) world).reconnected =
      history.reconnected ++
        ((world.records.subscriptions.searchDesc fun sub => decide (sub.state = .suspended)).filter
          fun sub => decide (world.open_count sub = 0)).map fun sub => (sub, history.suspension sub) := by
  have hsubs : ∀ subs : List Nat,
      (Store.added world.jobs (world.queueAll clock .reconnect_subscription subs).jobs).filterMap
        IspProvisioningJob.subscription_id = subs := by
    intro subs
    have hpairs := congrArg (List.filterMap Prod.snd)
      (World.newJobs_subscriptions clock .reconnect_subscription subs world)
    rw [List.filterMap_map, List.filterMap_map] at hpairs
    rw [World.queueAll_eq, Store.added_createAll]
    exact hpairs.trans List.filterMap_some
  unfold History.after
  rw [ServerEvent.method, IspSubscription.cron_reconnect_on_payment_exec]
  dsimp only [History.queued, History.reconnects]
  rw [hsubs]

/-- A step whose payment pass finds only customers of overdue passes that owe
nothing adds only such. -/
theorem PaymentReconnectsOverdue.step (h : PaymentReconnectsOverdue state) (howe : event.OthersOwe state)
    (hstep : HistoryStep state event after) : PaymentReconnectsOverdue after := by
  obtain ⟨_, rfl⟩ := hstep
  unfold PaymentReconnectsOverdue ServerEvent.next
  by_cases hpass : ∃ clock, event = .cron_reconnect_on_payment clock
  · obtain ⟨clock, rfl⟩ := hpass
    rw [History.after_cron_reconnect_on_payment]
    intro entry hentry
    obtain hold | hnew := List.mem_append.mp hentry
    · exact h entry hold
    · obtain ⟨sub, hsub, rfl⟩ := List.mem_map.mp hnew
      obtain ⟨hfound, hnone⟩ := List.mem_filter.mp hsub
      obtain ⟨hmem, hsuspended⟩ := (Store.mem_searchDesc _ _ _).mp hfound
      by_contra hother
      obtain ⟨move, hmove, hlinked, hopen⟩ := howe sub hmem (of_decide_eq_true hsuspended) hother
      have hclosed := (Billing.open_count_eq_zero_iff state.1 sub).mp (of_decide_eq_true hnone) move hmove hlinked
      rw [hclosed] at hopen
      cases hopen
  · rw [History.after_reconnected _ _ fun clock hclock => hpass ⟨clock, hclock⟩]
    exact h

/-- A payment pass that finds another customer who owes nothing reconnects them. -/
theorem PaymentReconnectsOverdue.broken (hnot : ¬ event.OthersOwe state) (hstep : HistoryStep state event after) :
    ¬ PaymentReconnectsOverdue after := by
  obtain ⟨_, rfl⟩ := hstep
  intro hafter
  apply hnot
  cases event with
  | cron_reconnect_on_payment clock =>
    intro sub hmem hsuspended hother
    by_contra hnone
    unfold PaymentReconnectsOverdue ServerEvent.next at hafter
    rw [History.after_cron_reconnect_on_payment] at hafter
    have hclosed : state.1.open_count sub = 0 := by
      rw [Billing.open_count_eq_zero_iff]
      intro move hmove hlinked
      by_contra hopen
      exact hnone ⟨move, hmove, hlinked, Bool.eq_true_of_not_eq_false hopen⟩
    have hfound : sub ∈ (state.1.records.subscriptions.searchDesc fun sub => decide (sub.state = .suspended)).filter
        fun sub => decide (state.1.open_count sub = 0) :=
      List.mem_filter.mpr ⟨(Store.mem_searchDesc _ _ _).mpr ⟨hmem, decide_eq_true hsuspended⟩, decide_eq_true hclosed⟩
    exact hother (hafter _ (List.mem_append_right _ (List.mem_map_of_mem hfound)))
  | _ => trivial

/-- Payment passes reconnect only what overdue passes have suspended, throughout a run,
exactly when each of them finds an open move of every other suspended subscription. The
pass itself does not ask why a subscription was suspended. -/
theorem reconnections_end_overdue_suspensions_iff {world : Billing ρ} {history : History}
    {reached : Billing ρ × History} {taken : List ((Billing ρ × History) × ServerEvent ρ)}
    (hnone : history.reconnected = [])
    (run : Run HistoryStep (world, history) taken reached) :
    (∀ state ∈ Run.visited taken reached, PaymentReconnectsOverdue state) ↔
      ∀ entry ∈ taken, entry.2.OthersOwe entry.1 := by
  have hinitial : PaymentReconnectsOverdue (world, history) := by
    intro entry hentry
    rw [hnone] at hentry
    exact absurd hentry List.not_mem_nil
  exact @Run.property_iff_condition (Billing ρ × History) (ServerEvent ρ) HistoryStep (world, history)
    PaymentReconnectsOverdue PaymentReconnectsOverdue (fun state event => event.OthersOwe state) hinitial
    (fun _ h => h) (fun _ _ _ h howe hstep => h.step howe hstep)
    (fun _ _ _ _ hnot hstep => PaymentReconnectsOverdue.broken hnot hstep) taken reached run

end

/-- A history that begins. -/
def noHistory : History where
  origin := fun _ => .other
  suspended_by := fun _ => none
  reconnected := []

theorem HistoryStep.run_of_trace (events : List (ServerEvent ρ)) (state : Billing ρ × History)
    (h : ∀ entry ∈ Run.trace ServerEvent.next state events, entry.2.Possible entry.1.1) :
    Run HistoryStep state (Run.trace ServerEvent.next state events) (Run.last ServerEvent.next state events) :=
  Run.of_trace fun entry hentry => ⟨h entry hentry, rfl⟩

/-- The customer's overdue invoice is found, the suspension is executed, the
invoice is paid, and the customer is reconnected. -/
def dunnedAndPaid : List (ServerEvent Unit) :=
  [.cron_suspend_overdue id februaryFirst [0], .cron_run_pending_jobs dryRun 1 [0], .payment 0 .paid 0,
    .cron_reconnect_on_payment id]

theorem reconnections_end_overdue_suspensions_iff_dunned :
    let reached := Run.last ServerEvent.next (unpaid [unpaidInvoice], noHistory) dunnedAndPaid
    reached.2.reconnected = [(0, some .overdue_pass)] ∧ PaymentReconnectsOverdue reached := by
  intro reached
  have hpossible : ∀ entry ∈ Run.trace ServerEvent.next (unpaid [unpaidInvoice], noHistory) dunnedAndPaid,
      entry.2.Possible entry.1.1 :=
    Run.forall_mem_trace.mpr ⟨List.Perm.refl [0],
      Run.forall_mem_trace.mpr ⟨⟨[0], List.Perm.refl _, by decide, rfl⟩,
        Run.forall_mem_trace.mpr ⟨trivial, Run.forall_mem_trace.mpr ⟨trivial, Run.forall_mem_trace_nil⟩⟩⟩⟩
  have hiff := reconnections_end_overdue_suspensions_iff rfl (HistoryStep.run_of_trace _ _ hpossible)
  refine ⟨by decide, hiff.mpr ?_ reached (Run.reached_mem_visited _ _)⟩
  refine Run.forall_mem_trace.mpr ⟨trivial, Run.forall_mem_trace.mpr ⟨trivial, Run.forall_mem_trace.mpr ⟨trivial,
    Run.forall_mem_trace.mpr ⟨fun sub hsub _ hother => ?_, Run.forall_mem_trace_nil⟩⟩⟩⟩
  rw [List.mem_singleton.mp hsub] at hother
  exact absurd rfl hother

/-- A customer who owes nothing, whom an operator suspends. -/
def suspendedByHand : List (ServerEvent Unit) :=
  [.action_suspend id [0], .cron_run_pending_jobs dryRun 1 [0], .cron_reconnect_on_payment id]

/-- The next payment pass reconnects a customer whom an operator has suspended. -/
theorem operator_suspension_undone :
    ∃ taken reached, Run HistoryStep (unpaid [], noHistory) taken reached ∧
      ¬ PaymentReconnectsOverdue reached := by
  have hpossible : ∀ entry ∈ Run.trace ServerEvent.next (unpaid [], noHistory) suspendedByHand,
      entry.2.Possible entry.1.1 :=
    Run.forall_mem_trace.mpr ⟨fun _ hsub => hsub,
      Run.forall_mem_trace.mpr ⟨⟨[0], List.Perm.refl _, by decide, rfl⟩,
        Run.forall_mem_trace.mpr ⟨trivial, Run.forall_mem_trace_nil⟩⟩⟩
  refine ⟨_, _, HistoryStep.run_of_trace _ _ hpossible, fun hoverdue => ?_⟩
  have hentry := hoverdue (0, some .other) (by decide)
  cases hentry

end getupnet.server

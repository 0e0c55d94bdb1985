import Getupnet.IspBilling.Dunning
import Getupnet.Server

open relational
open calendar
open getupnet.isp_core
open getupnet.isp_mikrotik
open getupnet.isp_billing

namespace getupnet.server

variable {ρ : Type}

/-- The calls of a day's dunning: its two passes, and the executions of jobs. -/
def ServerEvent.OfDunning (today : Date) : ServerEvent ρ → Prop
  | .cron_suspend_overdue _ day _ => day = today
  | .cron_reconnect_on_payment _ | .action_run _ _ _ | .cron_run_pending_jobs _ _ _ => True
  | _ => False

/-- A suspension pass that does not raise. -/
def ServerEvent.Suspends (world : Billing ρ) : ServerEvent ρ → Prop
  | .cron_suspend_overdue clock today moves =>
    ((IspSubscription.cron_suspend_overdue clock today moves).exec world).1 = .ok ()
  | _ => False

def ServerEvent.isReconnection : ServerEvent ρ → Bool
  | .cron_reconnect_on_payment _ => true
  | _ => false

section

variable {today : Date} {initial world after : Billing ρ} {sub : Nat}

/-- Where the jobs executed are those of the queue, dunning stays under way, and so does
each subscription: the state that the job writes is the one that the accounts call for. -/
theorem dunning_execute {surroundings : Surroundings ρ} {now id : Nat} (h : Dunning today initial world)
    (hid : id ∈ world.jobs.ids)
    (hexec : (IspProvisioningJob.execute (dispatch surroundings) now id).exec world = (.ok (), after)) :
    Dunning today initial after ∧ ∀ sub, Underway today initial world sub → Underway today initial after sub := by
  obtain ⟨hjobs, hrecords⟩ := execute_provisions hexec
  have hstate := execute_state hexec
  have haccounts : SameAccounts world after := by
    obtain ⟨_, hprovisions⟩ | ⟨_, hsame⟩ := hrecords
    · refine ⟨hprovisions.extension, hprovisions.plans, hprovisions.ids, fun sub => ?_⟩
      obtain ⟨profile, start, hvalues⟩ := hprovisions.row sub
      rw [World.subscription, hvalues]
      rfl
    · exact ⟨by rw [hsame], by rw [hsame], by rw [hsame], fun sub => by rw [World.subscription, hsame]; rfl⟩
  -- the job executed writes the last state of its subscription, or none
  have htarget : ∀ sub, (world.jobs.row id).Runnable → (world.jobs.row id).subscription_id = some sub →
      (after.subscription sub).state = (world.subscription sub).state ∨
        (after.subscription sub).state = initial.target today sub := by
    intro sub hrunnable hsub
    have hwritten := hstate sub
    rw [if_pos ⟨hrunnable, hsub⟩, JobType.stateAfter_eq] at hwritten
    have hqueued : id ∈ queued world.jobs := (Store.mem_search _ _ _).mpr ⟨hid, decide_eq_true hrunnable.1⟩
    obtain hnone | ⟨other, hwrites⟩ := h.queue id hqueued
    · rw [hnone] at hwritten
      exact Or.inl hwritten
    · have hsame : other = sub := Option.some.inj (hwrites.subscription_id.symm.trans hsub)
      rw [hwrites.written, hsame] at hwritten
      exact Or.inr hwritten
  have hmoved : ∀ sub, (after.subscription sub).state = (world.subscription sub).state ∨
      (after.subscription sub).state = initial.target today sub := by
    intro sub
    by_cases hrun : (world.jobs.row id).Runnable ∧ (world.jobs.row id).subscription_id = some sub
    · exact htarget sub hrun.1 hrun.2
    · have hkept := hstate sub
      rw [if_neg hrun] at hkept
      exact Or.inl hkept
  refine ⟨⟨h.accounts.trans haccounts, fun sub => ?_, fun job hjob => ?_⟩, fun sub hsub => ?_⟩
  · obtain hkept | hlast := hmoved sub
    · rw [hkept]
      exact h.states sub
    · exact Or.inr hlast
  · rw [hjobs] at hjob ⊢
    obtain ⟨hmem, hqueued⟩ := (Store.mem_search _ _ _).mp hjob
    by_cases hsame : job = id
    · rw [hsame, Store.write_row_self, decide_eq_true_eq] at hqueued
      exact absurd hqueued (IspProvisioningJob.settled_state_ne_queued _ _ _)
    · rw [Store.write_row_ne _ hsame] at hqueued ⊢
      exact h.queue job ((Store.mem_search _ _ _).mpr ⟨hmem, hqueued⟩)
  · obtain hdone | ⟨job, hjob, hwrites⟩ := hsub
    · obtain hkept | hlast := hmoved sub
      · exact Or.inl (hkept.trans hdone)
      · exact Or.inl hlast
    · by_cases hsame : job = id
      · have hwritten := hstate sub
        rw [if_pos ⟨hsame ▸ hwrites.runnable, hsame ▸ hwrites.subscription_id⟩, JobType.stateAfter_eq, ← hsame,
          hwrites.written] at hwritten
        exact Or.inl hwritten
      · obtain ⟨hmem, hqueued⟩ := (Store.mem_search _ _ _).mp hjob
        have hrow : after.jobs.row job = world.jobs.row job := by rw [hjobs, Store.write_row_ne _ hsame]
        refine Or.inr ⟨job, (Store.mem_search _ _ _).mpr ⟨?_, hrow ▸ hqueued⟩, hrow ▸ hwrites⟩
        rw [hjobs, Store.write_ids]
        exact hmem

/-- Jobs executed one after the other keep dunning under way. -/
theorem dunning_executeAll {surroundings : Surroundings ρ} {now : Nat} {found : List Nat}
    (h : Dunning today initial world) (hfound : ∀ id ∈ found, id ∈ world.jobs.ids)
    (hexec : (Method.forEach (IspProvisioningJob.execute (dispatch surroundings) now) found).exec world =
      (.ok (), after)) :
    Dunning today initial after ∧ ∀ sub, Underway today initial world sub → Underway today initial after sub := by
  have hkept := @Method.forEach_invariant _ _ _ _
    (fun state : Billing ρ => state.jobs.ids = world.jobs.ids ∧ Dunning today initial state ∧
      ∀ sub, Underway today initial world sub → Underway today initial state sub) found
    (fun id hid state next hinv hstep => ?_) world after ⟨rfl, h, fun _ hsub => hsub⟩ hexec
  · exact hkept.2
  · obtain ⟨hids, hdunning, hunderway⟩ := hinv
    obtain ⟨hnext, hmoved⟩ := dunning_execute hdunning (hids ▸ hfound id hid) hstep
    refine ⟨?_, hnext, fun sub hsub => hmoved sub (hunderway sub hsub)⟩
    rw [(execute_provisions hstep).1, Store.write_ids]
    exact hids

/-- One call of the day, failing or not: dunning stays under way, and after each of the
two passes so does every subscription that the pass is for. -/
theorem dunning_step {event : ServerEvent ρ} (h : Dunning today initial world) (hevent : event.OfDunning today)
    (hstep : ServerStep world event after) :
    Dunning today initial after ∧
      (∀ sub, Underway today initial world sub → Underway today initial after sub) ∧
      (event.Suspends world → ∀ sub, (initial.subscription sub).state = .active →
        Underway today initial after sub) ∧
      (event.isReconnection = true → ∀ sub ∈ initial.records.subscriptions.ids,
        (initial.subscription sub).state = .suspended → Underway today initial after sub) := by
  obtain ⟨hpossible, rfl⟩ := hstep
  have hexecuted : ∀ surroundings now found, (∀ id ∈ found, id ∈ world.jobs.ids) →
      let next := (Method.forEach (IspProvisioningJob.execute (dispatch surroundings) now) found).commit
        World.rollback world
      Dunning today initial next ∧ ∀ sub, Underway today initial world sub → Underway today initial next sub := by
    intro surroundings now found hfound
    refine @Method.commit_relates _ _ _ World.rollback _ (fun state next : Billing ρ => Dunning today initial next ∧
      ∀ sub, Underway today initial state sub → Underway today initial next sub) world
      (fun _ next hexec => dunning_executeAll h hfound hexec) fun undone => ?_
    exact ⟨⟨h.accounts.trans ⟨rfl, rfl, rfl, fun _ => rfl⟩, h.states, h.queue⟩, fun sub hsub => hsub⟩
  cases event
  case cron_suspend_overdue clock day moves =>
    obtain rfl : day = today := hevent
    obtain ⟨hnext, hmoved, hactive⟩ := h.suspension hpossible
    refine ⟨hnext, hmoved, fun hreturns => hactive ?_, fun hnot => absurd hnot Bool.false_ne_true⟩
    exact hpossible.dated_iff.mp (IspSubscription.cron_suspend_overdue_returns (Prod.ext hreturns rfl)).1
  case cron_reconnect_on_payment clock =>
    obtain ⟨hnext, hmoved, hsuspended⟩ := h.reconnection
    exact ⟨hnext, hmoved, fun hnot => absurd hnot not_false, fun _ => hsuspended⟩
  case action_run surroundings now jobs =>
    obtain ⟨hnext, hmoved⟩ := hexecuted surroundings now jobs hpossible
    exact ⟨hnext, hmoved, fun hnot => absurd hnot not_false, fun hnot => absurd hnot Bool.false_ne_true⟩
  case cron_run_pending_jobs surroundings now jobs =>
    obtain ⟨hnext, hmoved⟩ := hexecuted surroundings now jobs fun id hid => (hpossible.mem hid).1
    exact ⟨hnext, hmoved, fun hnot => absurd hnot not_false, fun hnot => absurd hnot Bool.false_ne_true⟩
  all_goals exact absurd hevent not_false

/-- What the calls of the day so far have come to. -/
theorem dunning_run {taken : List (Billing ρ × ServerEvent ρ)} {reached : Billing ρ} (hquiet : Quiet initial.jobs)
    (run : Run ServerStep initial taken reached) (hevents : ∀ entry ∈ taken, entry.2.OfDunning today) :
    Dunning today initial reached ∧
      ((∃ entry ∈ taken, entry.2.Suspends entry.1) → ∀ sub, (initial.subscription sub).state = .active →
        Underway today initial reached sub) ∧
      ((∃ entry ∈ taken, entry.2.isReconnection = true) → ∀ sub ∈ initial.records.subscriptions.ids,
        (initial.subscription sub).state = .suspended → Underway today initial reached sub) := by
  induction run with
  | start =>
    refine ⟨Dunning.of_quiet hquiet, ?_, ?_⟩
    · rintro ⟨entry, hentry, _⟩
      exact absurd hentry List.not_mem_nil
    · rintro ⟨entry, hentry, _⟩
      exact absurd hentry List.not_mem_nil
  | @step taken world after event before hstep ih =>
    obtain ⟨hdunning, hactive, hsuspended⟩ := ih fun entry hentry => hevents entry (List.mem_append_left _ hentry)
    have hevent := hevents (world, event) (List.mem_append_right _ List.mem_cons_self)
    obtain ⟨hnext, hmoved, hsuspends, hreconnects⟩ := dunning_step hdunning hevent hstep
    refine ⟨hnext, ?_, ?_⟩
    · rintro ⟨entry, hentry, hsuspension⟩ sub hstate
      obtain hold | hlast := List.mem_append.mp hentry
      · exact hmoved sub (hactive ⟨entry, hold, hsuspension⟩ sub hstate)
      · rw [List.mem_singleton.mp hlast] at hsuspension
        exact hsuspends hsuspension sub hstate
    · rintro ⟨entry, hentry, hreconnection⟩ sub hid hstate
      obtain hold | hlast := List.mem_append.mp hentry
      · exact hmoved sub (hsuspended ⟨entry, hold, hreconnection⟩ sub hid hstate)
      · rw [List.mem_singleton.mp hlast] at hreconnection
        exact hreconnects hreconnection sub hid hstate

end

/-- A day's dunning converges: in whatever order and however often its two passes and the
executions of jobs are called, failing or not, every subscription is in its first state or
in the one that the accounts call for, and once both passes have gone through and the
queue holds no more jobs for it, it is in the latter, and another round of passes changes
nothing. -/
theorem dunning_converges {today : Date} {initial reached : Billing ρ} {taken : List (Billing ρ × ServerEvent ρ)}
    (hquiet : Quiet initial.jobs) (run : Run ServerStep initial taken reached)
    (hevents : ∀ entry ∈ taken, entry.2.OfDunning today) :
    (∀ world ∈ Run.visited taken reached, Dunning today initial world) ∧
      ((∃ entry ∈ taken, entry.2.Suspends entry.1) → (∃ entry ∈ taken, entry.2.isReconnection = true) →
        Quiet reached.jobs → Converged today initial reached) := by
  refine ⟨Run.invariant_of_condition (Dunning.of_quiet hquiet)
    (fun _ _ _ hdunning hevent hstep => (dunning_step hdunning hevent hstep).1) run hevents, ?_⟩
  intro hsuspension hreconnection hsettled
  obtain ⟨hdunning, hactive, hsuspended⟩ := dunning_run hquiet run hevents
  refine hdunning.converged (fun sub hstate => (hactive hsuspension sub hstate).arrived hsettled) fun sub hsub => ?_
  by_cases hwasActive : (initial.subscription sub).state = .active
  · exact (hactive hsuspension sub hwasActive).arrived hsettled
  · by_cases hwasSuspended : (initial.subscription sub).state = .suspended
    · exact (hsuspended hreconnection sub hsub hwasSuspended).arrived hsettled
    · obtain hfirst | hlast := hdunning.states sub
      · rw [hfirst, target_of_other today hwasActive hwasSuspended]
      · exact hlast

/-- A customer who owes for January is suspended in the course of the first of February. -/
theorem dunning_converges_overdue :
    let initial := unpaid [unpaidInvoice]
    let queued := (ServerEvent.cron_suspend_overdue id februaryFirst [0]).call initial
    let searched := (ServerEvent.cron_reconnect_on_payment id).call queued
    let reached := (ServerEvent.cron_run_pending_jobs dryRun 1 [0]).call searched
    (reached.subscription 0).state = .suspended ∧ Converged februaryFirst initial reached := by
  intro initial queued searched reached
  have hoverdue : ServerStep initial (.cron_suspend_overdue id februaryFirst [0]) queued :=
    ⟨List.Perm.refl _, rfl⟩
  have hsearch : ServerStep queued (.cron_reconnect_on_payment id) searched := ⟨trivial, rfl⟩
  have hexecute : ServerStep searched (.cron_run_pending_jobs dryRun 1 [0]) reached :=
    ⟨⟨[0], List.Perm.refl _, by decide, rfl⟩, rfl⟩
  have run := Run.step (Run.step (Run.step .start hoverdue) hsearch) hexecute
  have hquiet : Quiet initial.jobs := fun job hjob => absurd hjob List.not_mem_nil
  have hevents : ∀ entry ∈ [] ++ [(initial, ServerEvent.cron_suspend_overdue id februaryFirst [0])] ++
      [(queued, .cron_reconnect_on_payment id)] ++ [(searched, .cron_run_pending_jobs dryRun 1 [0])],
      entry.2.OfDunning februaryFirst := by
    intro entry hentry
    simp only [List.nil_append, List.cons_append, List.mem_cons, List.not_mem_nil, or_false] at hentry
    obtain rfl | rfl | rfl := hentry
    · rfl
    · trivial
    · trivial
  refine ⟨by decide, (dunning_converges hquiet run hevents).2 ⟨_, List.mem_cons_self, rfl⟩
    ⟨_, List.mem_cons_of_mem _ List.mem_cons_self, rfl⟩ ?_⟩
  have hempty : isp_core.queued reached.jobs = [] := by decide
  intro job hjob
  exact absurd hjob (hempty ▸ List.not_mem_nil)

end getupnet.server

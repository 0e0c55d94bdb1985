import Getupnet.IspBilling.BillingCycle

open relational
open calendar
open getupnet.isp_core

namespace getupnet.isp_billing

variable {ρ : Type}

/-- The first day after another one on which a subscription is billed, given the next. -/
def FirstBillingAfter (next day billing : Date) : Prop :=
  day < billing ∧ ∃ k, billing = next.stepMonths k ∧ ∀ j < k, next.stepMonths j ≤ day

/-- A switch of the plan comes no earlier than the first billing date after each approval
of the request, and not in the middle of a month that was invoiced at another plan
than the new one. -/
structure SwitchedInTime (before : List (BillingDay ρ × CycleEvent)) (day : BillingDay ρ) (event : CycleEvent)
    (request : Nat) : Prop where
  awaited : ∀ entry ∈ before ++ [(day, event)], entry.2.Approves request → ∀ next,
    (entry.1.ledger.subscription (day.ledger.request request).subscription_id).next_invoice_date = some next →
      ∃ billing, FirstBillingAfter next entry.1.today billing ∧ billing ≤ day.today
  uninvoiced : ∀ entry ∈ before, entry.2.Bills entry.1 (day.ledger.request request).subscription_id → ∀ start,
    (entry.1.ledger.subscription (day.ledger.request request).subscription_id).next_invoice_date = some start →
      (entry.1.ledger.subscription (day.ledger.request request).subscription_id).plan_id ≠
          (day.ledger.request request).requested_plan_id →
        ¬ (start < day.today ∧ day.today < start.addMonths 1)

/-- Every switch of the plan by way of the request is in time. -/
def SwitchesInTime (request : Nat) (taken : List (BillingDay ρ × CycleEvent)) : Prop :=
  Run.Each (fun before day event => event.Applies day request → SwitchedInTime before day event request) taken

/-- A request for the next cycle whose effective date is left to the code. -/
def LeftToCode (request : IspPlanChangeRequest) : Prop :=
  request.effective_date_mode = .next_cycle ∧ request.effective_date = none

/-- If the event creates the request, then as one for the next cycle without a date. -/
def CycleEvent.LeavesDate (request : Nat) (day : BillingDay ρ) (event : CycleEvent) : Prop :=
  request ∈ (event.call day).ledger.records.plan_change_requests.ids → ∀ vals_list, event = .create vals_list →
    ∀ i vals, vals_list[i]? = some vals → request = day.ledger.records.plan_change_requests.next_id + i →
      LeftToCode vals

/-- An approval of the request comes before its effective date, unless the subscription is
never billed. A pass that applies it comes a whole number of months after the effective
date, or before the invoice of the running month. -/
def CycleEvent.Punctual (request : Nat) (day : BillingDay ρ) : CycleEvent → Prop
  | .action_approve _ _ _ requests => request ∈ requests →
    ∀ next, day.ledger.workflow.next_invoice_date request = some next →
      ¬ day.ledger.workflow.FallsDue day.today request
  | .cron_apply_plan_changes _ _ _ => (day.ledger.request request).isDue day.today = true →
    ∀ next effective_date, day.ledger.workflow.next_invoice_date request = some next →
      (day.ledger.request request).effective_date = some effective_date →
        next ≤ day.today ∨ ∃ k, day.today = effective_date.stepMonths k
  | _ => True

/-- Since each step the invoice dates have gone on by whole months, and by at least one
since an invoice. -/
def BillingDay.Follows (taken : List (BillingDay ρ × CycleEvent)) (day : BillingDay ρ) : Prop :=
  ∀ entry ∈ taken, ∀ sub, ∃ k, (day.ledger.subscription sub).next_invoice_date =
    (entry.1.ledger.subscription sub).next_invoice_date.map (fun date => date.stepMonths k) ∧
      (entry.2.Bills entry.1 sub → k ≠ 0)

section

variable {taken : List (BillingDay ρ × CycleEvent)} {day : BillingDay ρ} {event : CycleEvent}

theorem CycleEvent.Effect.months (h : event.Effect day) (sub : Nat) :
    ∃ k, ((event.call day).ledger.subscription sub).next_invoice_date =
      (day.ledger.subscription sub).next_invoice_date.map (fun date => date.stepMonths k) ∧
        (event.Bills day sub ↔ k ≠ 0) := by
  by_cases hbills : event.Bills day sub
  · exact ⟨1, h.billed sub hbills, iff_of_true hbills Nat.one_ne_zero⟩
  · refine ⟨0, ?_, iff_of_false hbills (not_not_intro rfl)⟩
    rw [h.unbilled sub hbills]
    exact Option.map_id'.symm

theorem BillingDay.Follows.step (h : day.Follows taken) :
    (event.call day).Follows (taken ++ [(day, event)]) := by
  intro entry hentry sub
  obtain ⟨later, hlater, hbills⟩ := (CycleEvent.effect day event).months sub
  obtain hold | hnew := List.mem_append.mp hentry
  · obtain ⟨k, hk, hbilled⟩ := h entry hold sub
    refine ⟨k + later, ?_, fun hb => Nat.ne_of_gt (Nat.add_pos_left (Nat.pos_of_ne_zero (hbilled hb)) later)⟩
    rw [hlater, hk, Option.map_map]
    congr 1
    funext date
    exact (date.stepMonths_add k later).symm
  · rw [List.mem_singleton.mp hnew]
    exact ⟨later, hlater, hbills.mp⟩

/-- How the steps so far lie about the effective date of a request for a subscription with
this next invoice date: the billing dates go on from the effective date by whole months,
every approval came before it, and every invoice was for a month that starts a whole
number of months before or after it. -/
structure Dated (taken : List (BillingDay ρ × CycleEvent)) (today : Date) (next_invoice_date : Option Date)
    (sub request : Nat) (effective_date : Date) : Prop where
  next : ∀ next, next_invoice_date = some next →
    ∃ k, next = effective_date.stepMonths k ∧ (k ≠ 0 → effective_date ≤ today)
  approvals : ∀ entry ∈ taken, entry.2.Approves request → ∀ next,
    (entry.1.ledger.subscription sub).next_invoice_date = some next →
      next = effective_date ∧ entry.1.today < effective_date
  invoices : ∀ entry ∈ taken, entry.2.Bills entry.1 sub → ∀ start,
    (entry.1.ledger.subscription sub).next_invoice_date = some start →
      (∃ k, start = effective_date.stepMonths k) ∨ ∃ k, k ≠ 0 ∧ effective_date = start.stepMonths k

variable {sub request : Nat} {effective_date : Date}

/-- The date that the code gives a request is the next invoice date. -/
theorem BillingDay.Follows.dated (h : day.Follows taken)
    (hunapproved : ∀ entry ∈ taken, ¬ entry.2.Approves request)
    (hnext : ∀ next, (day.ledger.subscription sub).next_invoice_date = some next → next = effective_date) :
    Dated taken day.today (day.ledger.subscription sub).next_invoice_date sub request effective_date where
  next := fun next h => ⟨0, hnext next h, fun hne => absurd rfl hne⟩
  approvals := fun entry hentry happroves => absurd happroves (hunapproved entry hentry)
  invoices := by
    intro entry hentry hbills start hstart
    obtain ⟨k, hk, hbilled⟩ := h entry hentry sub
    rw [hstart] at hk
    exact Or.inr ⟨k, hbilled hbills, (hnext _ hk).symm⟩

theorem CycleEvent.today_le_day_after (event : CycleEvent) (today : Date) : today ≤ event.day_after today := by
  cases event with
  | tomorrow => exact Date.le_tomorrow_iff.mpr (Or.inl (le_refl today))
  | _ => exact le_refl today

theorem CycleEvent.le_today_of_bills (h : event.Bills day sub) {next : Date}
    (hnext : (day.ledger.subscription sub).next_invoice_date = some next) : next ≤ day.today := by
  cases event with
  | cron_generate_invoices action_post =>
    obtain ⟨_, other, hother, hle⟩ := (IspSubscription.isBilled_iff _ _).mp h.2
    rw [hnext] at hother
    cases hother
    exact hle
  | _ => exact h.elim

/-- An event keeps the dates as they should lie about the effective date, provided that it
approves the request, if at all, before that date. Invoices move the next date on by whole
months, and the other events leave the dates alone. -/
theorem Dated.step
    (h : Dated taken day.today (day.ledger.subscription sub).next_invoice_date sub request effective_date)
    (happroves : event.Approves request → ∀ next, (day.ledger.subscription sub).next_invoice_date = some next →
      day.today < effective_date) :
    Dated (taken ++ [(day, event)]) (event.call day).today
      ((event.call day).ledger.subscription sub).next_invoice_date sub request effective_date where
  next := by
    intro next hnext
    obtain ⟨later, hlater, hbills⟩ := (CycleEvent.effect day event).months sub
    rw [hlater] at hnext
    obtain ⟨old, hold, rfl⟩ := Option.map_eq_some_iff.mp hnext
    obtain ⟨k, rfl, hk⟩ := h.next old hold
    refine ⟨k + later, (effective_date.stepMonths_add k later).symm, fun hne => ?_⟩
    have hday := event.today_le_day_after day.today
    by_cases hzero : k = 0
    · subst hzero
      rw [Nat.zero_add] at hne
      exact le_trans (CycleEvent.le_today_of_bills (hbills.mpr hne) hold) hday
    · exact le_trans (hk hzero) hday
  approvals := by
    intro entry hentry hentryApproves next hnext
    obtain hold | hnew := List.mem_append.mp hentry
    · exact h.approvals entry hold hentryApproves next hnext
    · rw [List.mem_singleton.mp hnew] at hentryApproves hnext ⊢
      have hbefore := happroves hentryApproves next hnext
      obtain ⟨k, rfl, hk⟩ := h.next next hnext
      have hzero : k = 0 := by
        by_contra hne
        exact absurd hbefore (not_lt_of_ge (hk hne))
      subst hzero
      exact ⟨rfl, hbefore⟩
  invoices := by
    intro entry hentry hbills start hstart
    obtain hold | hnew := List.mem_append.mp hentry
    · exact h.invoices entry hold hbills start hstart
    · rw [List.mem_singleton.mp hnew] at hstart
      obtain ⟨k, hk, _⟩ := h.next start hstart
      exact Or.inl ⟨k, hk⟩

/-- What holds after each step of a run whose steps are punctual. -/
structure OnSchedule (request : Nat) (taken : List (BillingDay ρ × CycleEvent)) (day : BillingDay ρ) : Prop where
  follows : day.Follows taken
  unapproved : (request ∈ day.ledger.records.plan_change_requests.ids →
    (day.ledger.request request).effective_date = none) → ∀ entry ∈ taken, ¬ entry.2.Approves request
  mode : request ∈ day.ledger.records.plan_change_requests.ids →
    (day.ledger.request request).effective_date_mode = .next_cycle
  dated : request ∈ day.ledger.records.plan_change_requests.ids → ∀ effective_date,
    (day.ledger.request request).effective_date = some effective_date →
      Dated taken day.today (day.ledger.workflow.next_invoice_date request)
        (day.ledger.request request).subscription_id request effective_date

theorem LeftToCode.dateOn {self : IspPlanChangeRequest} (h : LeftToCode self) (today : Date)
    (next_invoice_date : Option Date) :
    self.dateOn today next_invoice_date = some (next_invoice_date.getD (today.addMonths 1)) := by
  rw [IspPlanChangeRequest.dateOn, h.2, h.1]

theorem CycleEvent.Punctual.not_fallsDue (h : event.Punctual request day) (happroves : event.Approves request)
    {next : Date} (hnext : day.ledger.workflow.next_invoice_date request = some next) :
    ¬ day.ledger.workflow.FallsDue day.today request := by
  cases event with
  | action_approve user clock token_hex requests => exact h happroves next hnext
  | _ => exact happroves.elim

theorem CycleEvent.Possible.mem (h : event.Possible day) (happroves : event.Approves request) :
    request ∈ day.ledger.records.plan_change_requests.ids := by
  cases event with
  | action_approve user clock token_hex requests => exact h request happroves
  | _ => exact happroves.elim

/-- A request that is there before an event is on schedule after it. -/
theorem OnSchedule.dated_kept (h : OnSchedule request taken day) (hpunctual : event.Punctual request day)
    (hold : request ∈ day.ledger.records.plan_change_requests.ids)
    (hdate : ((event.call day).ledger.request request).effective_date = some effective_date) :
    Dated (taken ++ [(day, event)]) (event.call day).today ((event.call day).ledger.workflow.next_invoice_date request)
      ((event.call day).ledger.request request).subscription_id request effective_date := by
  obtain ⟨_, hkept⟩ := (CycleEvent.effect day event).kept request hold
  have hdated : Dated taken day.today (day.ledger.workflow.next_invoice_date request)
      (day.ledger.request request).subscription_id request effective_date := by
    cases heffective : (day.ledger.request request).effective_date with
    | some old =>
      rw [hkept.dated heffective] at hdate
      cases hdate
      exact h.dated hold effective_date heffective
    | none =>
      have hfilled : (day.ledger.request request).dateOn day.today (day.ledger.workflow.next_invoice_date request) =
          some effective_date := by
        obtain hsame | hsame := hkept.date
        · rw [hdate, heffective] at hsame
          cases hsame
        · exact hsame.symm.trans hdate
      have hleft : LeftToCode (day.ledger.request request) := ⟨h.mode hold, heffective⟩
      rw [hleft.dateOn] at hfilled
      refine h.follows.dated (h.unapproved fun _ => heffective) fun next hnext => ?_
      have hworkflow : day.ledger.workflow.next_invoice_date request = some next := hnext
      rw [hworkflow] at hfilled
      exact Option.some.inj hfilled
  have hsub : (event.call day).ledger.workflow.next_invoice_date request =
      ((event.call day).ledger.subscription (day.ledger.request request).subscription_id).next_invoice_date :=
    congrArg (fun sub => ((event.call day).ledger.subscription sub).next_invoice_date) hkept.subscription
  rw [hsub, hkept.subscription]
  refine hdated.step fun happroves next hnext => ?_
  have hdue := hpunctual.not_fallsDue happroves hnext
  rw [Workflow.fallsDue_iff_dateOn] at hdue
  have happroved := (CycleEvent.effect day event).approved request happroves
  exact lt_of_not_ge fun hle => hdue ⟨effective_date, happroved.symm.trans hdate, hle⟩

/-- A request that an event creates is on schedule. -/
theorem OnSchedule.dated_created (h : OnSchedule request taken day) (hcreates : event.LeavesDate request day)
    (hnew : request ∉ day.ledger.records.plan_change_requests.ids)
    (hcreated : request ∈ (event.call day).ledger.records.plan_change_requests.ids)
    (hdate : ((event.call day).ledger.request request).effective_date = some effective_date) :
    Dated (taken ++ [(day, event)]) (event.call day).today ((event.call day).ledger.workflow.next_invoice_date request)
      ((event.call day).ledger.request request).subscription_id request effective_date := by
  obtain ⟨vals_list, i, vals, rfl, hvals, hid, hrow⟩ :=
    (CycleEvent.effect day event).created request hcreated hnew
  have hleft := hcreates hcreated vals_list rfl i vals hvals hid
  have hsub : (((CycleEvent.create vals_list).call day).ledger.request request).subscription_id = vals.subscription_id := by
    rw [hrow]
    exact (vals.ensure_effective_date_kept _).1
  have hnext : ((CycleEvent.create vals_list).call day).ledger.workflow.next_invoice_date request =
      (((CycleEvent.create vals_list).call day).ledger.subscription vals.subscription_id).next_invoice_date :=
    congrArg (fun sub => (((CycleEvent.create vals_list).call day).ledger.subscription sub).next_invoice_date) hsub
  rw [hrow, IspPlanChangeRequest.ensure_effective_date_eq_dateOn, hleft.dateOn] at hdate
  rw [hsub, hnext]
  refine Dated.step (h.follows.dated (h.unapproved fun hold => absurd hold hnew) fun next hbilled => ?_) False.elim
  rw [hbilled] at hdate
  exact Option.some.inj hdate

theorem OnSchedule.step (h : OnSchedule request taken day) (hpossible : event.Possible day)
    (hcreates : event.LeavesDate request day) (hpunctual : event.Punctual request day) :
    OnSchedule request (taken ++ [(day, event)]) (event.call day) where
  follows := h.follows.step
  unapproved := by
    intro hnone entry hentry happroves
    obtain hold | hnew := List.mem_append.mp hentry
    · refine h.unapproved (fun hmem => ?_) entry hold happroves
      obtain ⟨hafter, hkept⟩ := (CycleEvent.effect day event).kept request hmem
      cases heffective : (day.ledger.request request).effective_date with
      | none => rfl
      | some effective_date =>
        have hdated := hkept.dated heffective
        rw [hnone hafter] at hdated
        cases hdated
    · rw [List.mem_singleton.mp hnew] at happroves
      have hmem := hpossible.mem happroves
      obtain ⟨hafter, _⟩ := (CycleEvent.effect day event).kept request hmem
      have happroved := (CycleEvent.effect day event).approved request happroves
      rw [hnone hafter, IspPlanChangeRequest.dateOn, h.mode hmem] at happroved
      cases heffective : (day.ledger.request request).effective_date with
      | none =>
        rw [heffective] at happroved
        cases happroved
      | some effective_date =>
        rw [heffective] at happroved
        cases happroved
  mode := by
    intro hmem
    by_cases hold : request ∈ day.ledger.records.plan_change_requests.ids
    · obtain ⟨_, hkept⟩ := (CycleEvent.effect day event).kept request hold
      exact hkept.mode.trans (h.mode hold)
    · obtain ⟨vals_list, i, vals, hevent, hvals, hid, hrow⟩ :=
        (CycleEvent.effect day event).created request hmem hold
      rw [hrow, (vals.ensure_effective_date_kept _).2.2.1]
      exact (hcreates hmem vals_list hevent i vals hvals hid).1
  dated := by
    intro hmem effective_date hdate
    by_cases hold : request ∈ day.ledger.records.plan_change_requests.ids
    · exact h.dated_kept hpunctual hold hdate
    · exact h.dated_created hcreates hold hmem hdate

/-- A month that starts at one of these dates has none of the others in its middle. -/
theorem not_in_month (date : Date) (first other : Nat) :
    ¬ (date.stepMonths first < date.stepMonths other ∧
      date.stepMonths other < (date.stepMonths first).addMonths 1) := by
  rintro ⟨hafter, hbefore⟩
  rw [← date.stepMonths_succ] at hbefore
  have hlt := date.stepMonths_lt_iff.mp hafter
  have hgt := date.stepMonths_lt_iff.mp hbefore
  omega

/-- A pass that comes in time switches in time. -/
theorem OnSchedule.pass_inTime (h : OnSchedule request taken day)
    (hmem : request ∈ day.ledger.records.plan_change_requests.ids)
    (hdue : (day.ledger.request request).isDue day.today = true)
    (hunapproved : ¬ event.Approves request)
    (hpunctual : ∀ next effective_date, day.ledger.workflow.next_invoice_date request = some next →
      (day.ledger.request request).effective_date = some effective_date →
        next ≤ day.today ∨ ∃ k, day.today = effective_date.stepMonths k) :
    SwitchedInTime taken day event request := by
  obtain ⟨_, effective_date, hdate, hle⟩ := IspPlanChangeRequest.isDue_iff.mp hdue
  have hdated := h.dated hmem effective_date hdate
  constructor
  · intro entry hentry happroves next hnext
    obtain hold | hnew := List.mem_append.mp hentry
    · obtain ⟨rfl, hbefore⟩ := hdated.approvals entry hold happroves next hnext
      exact ⟨next, ⟨hbefore, 0, rfl, fun j hj => absurd hj (Nat.not_lt_zero j)⟩, hle⟩
    · rw [List.mem_singleton.mp hnew] at happroves
      exact absurd happroves hunapproved
  · intro entry hentry hbills start hstart _
    obtain ⟨k, hk, hbilled⟩ := h.follows entry hentry (day.ledger.request request).subscription_id
    rw [hstart, Option.map_some] at hk
    obtain hnext | ⟨months, htoday⟩ := hpunctual _ effective_date hk hdate
    · rintro ⟨_, hbefore⟩
      have hmonth := start.stepMonths_le (Nat.one_le_iff_ne_zero.mpr (hbilled hbills))
      rw [start.stepMonths_succ, start.stepMonths_zero] at hmonth
      exact absurd hbefore (not_lt_of_ge (le_trans hmonth hnext))
    · rw [htoday]
      obtain ⟨other, rfl⟩ | ⟨other, hother, rfl⟩ := hdated.invoices entry hentry hbills start hstart
      · exact not_in_month effective_date other months
      · rw [← start.stepMonths_add]
        exact not_in_month start 0 (other + months)

theorem OnSchedule.inTime (h : OnSchedule request taken day) (hpunctual : event.Punctual request day)
    (happlies : event.Applies day request) : SwitchedInTime taken day event request := by
  obtain ⟨hmem, hdue, user, clock, token_hex, rfl⟩ | ⟨happroves, hdue⟩ :=
    (CycleEvent.effect day event).applied request happlies
  · exact h.pass_inTime hmem hdue id (hpunctual hdue)
  · -- an approval that applies the request finds a subscription that is never billed
    have hnever : (day.ledger.subscription (day.ledger.request request).subscription_id).next_invoice_date = none := by
      cases hnext : (day.ledger.subscription (day.ledger.request request).subscription_id).next_invoice_date with
      | none => rfl
      | some next => exact absurd hdue (hpunctual.not_fallsDue happroves hnext)
    have hearlier : ∀ entry ∈ taken ++ [(day, event)],
        (entry.1.ledger.subscription (day.ledger.request request).subscription_id).next_invoice_date = none := by
      intro entry hentry
      obtain hold | hnew := List.mem_append.mp hentry
      · obtain ⟨k, hk, _⟩ := h.follows entry hold (day.ledger.request request).subscription_id
        rw [hnever] at hk
        exact Option.map_eq_none_iff.mp hk.symm
      · rw [List.mem_singleton.mp hnew]
        exact hnever
    constructor
    · intro entry hentry _ next hnext
      rw [hearlier entry hentry] at hnext
      cases hnext
    · intro entry hentry _ start hstart
      rw [hearlier entry (List.mem_append_left _ hentry)] at hstart
      cases hstart

/-- An approval on or after the effective date switches the plan at once, before the
next day on which the subscription is billed. -/
theorem late_approval_not_inTime {user : User} {clock : Nat → Nat} {token_hex : Nat → String}
    {requests : List Nat}
    (hmem : request ∈ requests) (hdue : day.ledger.workflow.FallsDue day.today request) {next : Date}
    (hnext : day.ledger.workflow.next_invoice_date request = some next) :
    (CycleEvent.action_approve user clock token_hex requests).Applies day request ∧
      ¬ SwitchedInTime taken day (.action_approve user clock token_hex requests) request := by
  constructor
  · cases hexec : (IspPlanChangeRequest.action_approve user clock token_hex day.today requests).exec
        day.ledger.workflow with
    | mk result after =>
      cases result with
      | error exception => exact absurd hexec IspPlanChangeRequest.action_approve_not_raises
      | ok value =>
        have hcall : ((CycleEvent.action_approve user clock token_hex requests).call day).ledger =
            day.ledger.setWorkflow after := workflow_commit_of_ok hexec
        unfold CycleEvent.Applies
        rw [hcall]
        exact IspPlanChangeRequest.action_approve_applies hexec hmem hdue
  · intro h
    obtain ⟨billing, ⟨hafter, _⟩, hbefore⟩ :=
      h.awaited _ (List.mem_append_right _ (List.mem_singleton_self _)) hmem next hnext
    exact absurd hafter (not_lt_of_ge hbefore)

end

/-- In a run whose steps are punctual for a request whose effective date is left to the
code, every switch of the plan by way of the request is in time. -/
theorem next_cycle_switches_in_time {initial reached : BillingDay ρ} {taken : List (BillingDay ρ × CycleEvent)}
    (run : Run CycleStep initial taken reached) (request : Nat)
    (hinitial : request ∈ initial.ledger.records.plan_change_requests.ids →
      LeftToCode (initial.ledger.request request))
    (hleft : ∀ entry ∈ taken, entry.2.LeavesDate request entry.1)
    (hpunctual : ∀ entry ∈ taken, entry.2.Punctual request entry.1) : SwitchesInTime request taken := by
  refine (@Run.each_of_history _ _ CycleStep initial
    (fun day event => event.LeavesDate request day ∧ event.Punctual request day) (OnSchedule request) _ ?_ ?_ taken
    reached run fun entry hentry => ⟨hleft entry hentry, hpunctual entry hentry⟩).1
  · refine ⟨fun _ h => absurd h List.not_mem_nil, fun _ _ h => absurd h List.not_mem_nil,
      fun hmem => (hinitial hmem).1, fun hmem effective_date hdate => ?_⟩
    rw [(hinitial hmem).2] at hdate
    cases hdate
  · rintro taken day event _ hschedule ⟨hleaves, hpunctual⟩ ⟨hpossible, rfl⟩
    exact ⟨hschedule.inTime hpunctual, hschedule.step hpossible hleaves hpunctual⟩

theorem leavesDate_of_forall {vals_list : List IspPlanChangeRequest} (h : ∀ vals ∈ vals_list, LeftToCode vals)
    (request : Nat) (day : BillingDay ρ) : (CycleEvent.create vals_list).LeavesDate request day := by
  rintro _ _ ⟨⟩ i vals hvals _
  exact h vals (List.mem_of_getElem? hvals)

/-- New year, with a customer who is billed on the next day. -/
def billedTomorrow : BillingDay Unit where
  today := newYear
  ledger := withExtension ({ moves := Store.empty noMove, suspend_after_days := 10 }, [])
    (databaseOf (fun _ => { name := "Plan", service_type := .dhcp }) [activeCustomer (some newYear.tomorrow)] [] [])

/-- The customer asks for another plan. -/
def plan_asked : List CycleEvent :=
  [.create [{ subscription_id := 0, requested_plan_id := 1 }], .action_submit { id := 8, isp_noc := true } [0]]

def invoicing : CycleEvent :=
  .cron_generate_invoices fun _ _ => .ok { payment_state := .not_paid, amount_residual := 25 }

def approval : CycleEvent := .action_approve { id := 7, isp_noc := true } (fun _ => 0) (fun _ => "") [0]

/-- The request is approved on the same day. -/
def approvedAtOnce : List CycleEvent :=
  plan_asked ++ [approval, .tomorrow, invoicing, .cron_apply_plan_changes { id := 1 } (fun _ => 0) fun _ => ""]

/-- The request is approved a day after the invoice. -/
def approvedLate : List CycleEvent := plan_asked ++ [.tomorrow, invoicing, .tomorrow, approval]

theorem approved_at_once_switches_in_time :
    SwitchesInTime 0 (Run.trace CycleEvent.call billedTomorrow approvedAtOnce) := by
  have hstep : ∀ entry ∈ Run.trace CycleEvent.call billedTomorrow approvedAtOnce,
      CycleStep entry.1 entry.2 (entry.2.call entry.1) :=
    Run.forall_mem_trace.mpr ⟨⟨trivial, rfl⟩, Run.forall_mem_trace.mpr ⟨⟨fun _ h => h, rfl⟩,
      Run.forall_mem_trace.mpr ⟨⟨fun _ h => h, rfl⟩, Run.forall_mem_trace.mpr ⟨⟨trivial, rfl⟩,
        Run.forall_mem_trace.mpr ⟨⟨trivial, rfl⟩, Run.forall_mem_trace.mpr ⟨⟨trivial, rfl⟩,
          Run.forall_mem_trace_nil⟩⟩⟩⟩⟩⟩
  have hleft : ∀ entry ∈ Run.trace CycleEvent.call billedTomorrow approvedAtOnce,
      entry.2.LeavesDate 0 entry.1 :=
    Run.forall_mem_trace.mpr ⟨leavesDate_of_forall (by simp [LeftToCode]) _ _,
      Run.forall_mem_trace.mpr ⟨nofun, Run.forall_mem_trace.mpr ⟨nofun, Run.forall_mem_trace.mpr ⟨nofun,
        Run.forall_mem_trace.mpr ⟨nofun, Run.forall_mem_trace.mpr ⟨nofun, Run.forall_mem_trace_nil⟩⟩⟩⟩⟩⟩
  have hpunctual : ∀ entry ∈ Run.trace CycleEvent.call billedTomorrow approvedAtOnce,
      entry.2.Punctual 0 entry.1 := by
    refine Run.forall_mem_trace.mpr ⟨trivial, Run.forall_mem_trace.mpr ⟨trivial, Run.forall_mem_trace.mpr ⟨?_,
      Run.forall_mem_trace.mpr ⟨trivial, Run.forall_mem_trace.mpr ⟨trivial, Run.forall_mem_trace.mpr ⟨?_,
        Run.forall_mem_trace_nil⟩⟩⟩⟩⟩⟩
    · intro _ next _ hdue
      have hday : newYear.tomorrow ≤ newYear := hdue
      revert hday
      decide
    · intro _ next effective_date _ hdate
      obtain rfl : newYear.tomorrow = effective_date := Option.some.inj hdate
      exact Or.inr ⟨0, rfl⟩
  exact next_cycle_switches_in_time (Run.of_trace hstep) 0 (fun hmem => absurd hmem List.not_mem_nil) hleft hpunctual

/-- The approval comes two days into a month that is already invoiced at the old plan,
and switches to the new one at once. -/
theorem approved_late_switches_at_once :
    Run CycleStep billedTomorrow (Run.trace CycleEvent.call billedTomorrow approvedLate)
        (Run.last CycleEvent.call billedTomorrow approvedLate) ∧
      (∀ entry ∈ Run.trace CycleEvent.call billedTomorrow approvedLate, entry.2.LeavesDate 0 entry.1) ∧
      ((Run.last CycleEvent.call billedTomorrow approvedLate).ledger.subscription 0).plan_id = 1 ∧
      ((Run.last CycleEvent.call billedTomorrow approvedLate).ledger.subscription 0).next_invoice_date =
        some (newYear.tomorrow.addMonths 1) ∧
      ¬ SwitchesInTime 0 (Run.trace CycleEvent.call billedTomorrow approvedLate) := by
  refine ⟨Run.of_trace ?_, ?_, rfl, rfl, fun h => ?_⟩
  · exact Run.forall_mem_trace.mpr ⟨⟨trivial, rfl⟩, Run.forall_mem_trace.mpr ⟨⟨fun _ h => h, rfl⟩,
      Run.forall_mem_trace.mpr ⟨⟨trivial, rfl⟩, Run.forall_mem_trace.mpr ⟨⟨trivial, rfl⟩,
        Run.forall_mem_trace.mpr ⟨⟨trivial, rfl⟩, Run.forall_mem_trace.mpr ⟨⟨fun _ h => h, rfl⟩,
          Run.forall_mem_trace_nil⟩⟩⟩⟩⟩⟩
  · exact Run.forall_mem_trace.mpr ⟨leavesDate_of_forall (by simp [LeftToCode]) _ _,
      Run.forall_mem_trace.mpr ⟨nofun, Run.forall_mem_trace.mpr ⟨nofun, Run.forall_mem_trace.mpr ⟨nofun,
        Run.forall_mem_trace.mpr ⟨nofun, Run.forall_mem_trace.mpr ⟨nofun, Run.forall_mem_trace_nil⟩⟩⟩⟩⟩⟩
  · let day := Run.last CycleEvent.call billedTomorrow (plan_asked ++ [.tomorrow, invoicing, .tomorrow])
    have hdue : day.ledger.workflow.FallsDue day.today 0 := by
      change newYear.tomorrow ≤ newYear.tomorrow.tomorrow
      decide
    have hnext : day.ledger.workflow.next_invoice_date 0 = some (newYear.tomorrow.addMonths 1) := rfl
    obtain ⟨happlies, hnot⟩ := @late_approval_not_inTime _
      (Run.trace CycleEvent.call billedTomorrow (plan_asked ++ [.tomorrow, invoicing, .tomorrow])) day 0
      { id := 7, isp_noc := true } (fun _ => 0) (fun _ => "") [0] (List.mem_singleton_self 0) hdue _ hnext
    exact hnot (h _ day _ [] rfl happlies)

end getupnet.isp_billing

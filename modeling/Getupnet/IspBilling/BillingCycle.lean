import Getupnet.IspBilling.Subscription
import Getupnet.IspCore.PlanChangeRequest.Due
import Getupnet.Relational.Runs

open relational
open calendar
open getupnet.isp_core

namespace getupnet.isp_billing

variable {ρ : Type}

/-- A database that keeps the accounting and the audit log of the plan changes. -/
abbrev Ledger (ρ : Type) : Type := World (Records (Accounting × List PlanChangeEntry)) ρ

/-- A database whose other addons keep something else. -/
def withExtension {μ ν : Type} (extension : ν) (self : World (Records μ) ρ) : World (Records ν) ρ :=
  { self with records := { self.records with extension } }

def Ledger.billing (self : Ledger ρ) : Billing ρ := withExtension self.records.extension.1 self

def Ledger.workflow (self : Ledger ρ) : Workflow ρ := withExtension self.records.extension.2 self

def Ledger.setBilling (billing : Billing ρ) (self : Ledger ρ) : Ledger ρ :=
  withExtension (billing.records.extension, self.records.extension.2) billing

def Ledger.setWorkflow (workflow : Workflow ρ) (self : Ledger ρ) : Ledger ρ :=
  withExtension (self.records.extension.1, workflow.records.extension) workflow

def Ledger.log (self : Ledger ρ) : List PlanChangeEntry := self.records.extension.2

def Ledger.request (self : Ledger ρ) (id : Nat) : IspPlanChangeRequest := self.records.plan_change_requests.row id

/-- The database on a day. -/
structure BillingDay (ρ : Type) where
  today : Date
  ledger : Ledger ρ

/-- The next day, or a call: the methods of the plan changes, and the scheduled passes
of the invoices and of the plan changes. -/
inductive CycleEvent where
  | tomorrow
  | create (vals_list : List IspPlanChangeRequest)
  | action_submit (user : User) (requests : List Nat)
  | action_approve (user : User) (clock : Nat → Nat) (token_hex : Nat → String) (requests : List Nat)
  | cron_generate_invoices (action_post : Nat → AccountMove → Except OdooError Posting)
  | cron_apply_plan_changes (user : User) (clock : Nat → Nat) (token_hex : Nat → String)

def CycleEvent.method (today : Date) : CycleEvent → Odoo (Accounting × List PlanChangeEntry) ρ Unit
  | .tomorrow => pure ()
  | .create vals_list =>
    Method.focus Ledger.workflow Ledger.setWorkflow (IspPlanChangeRequest.create_records today vals_list)
  | .action_submit user requests =>
    Method.focus Ledger.workflow Ledger.setWorkflow (IspPlanChangeRequest.action_submit user today requests)
  | .action_approve user clock token_hex requests =>
    Method.focus Ledger.workflow Ledger.setWorkflow
      (IspPlanChangeRequest.action_approve user clock token_hex today requests)
  | .cron_generate_invoices action_post =>
    Method.focus Ledger.billing Ledger.setBilling (IspSubscription.cron_generate_invoices today action_post)
  | .cron_apply_plan_changes user clock token_hex =>
    Method.focus Ledger.workflow Ledger.setWorkflow
      (IspPlanChangeRequest.cron_apply_plan_changes_logged user clock token_hex today)

def CycleEvent.day_after (today : Date) : CycleEvent → Date
  | .tomorrow => today.tomorrow
  | _ => today

/-- The database and the day after an event. A call runs in a transaction of its own. -/
def CycleEvent.call (event : CycleEvent) (day : BillingDay ρ) : BillingDay ρ where
  today := event.day_after day.today
  ledger := (event.method day.today).commit World.rollback day.ledger

/-- A call is made on existing requests. -/
def CycleEvent.Possible (day : BillingDay ρ) : CycleEvent → Prop
  | .action_submit _ requests | .action_approve _ _ _ requests =>
    ∀ request ∈ requests, request ∈ day.ledger.records.plan_change_requests.ids
  | _ => True

def CycleStep (day : BillingDay ρ) (event : CycleEvent) (after : BillingDay ρ) : Prop :=
  event.Possible day ∧ after = event.call day

def CycleEvent.Approves (request : Nat) : CycleEvent → Prop
  | .action_approve _ _ _ requests => request ∈ requests
  | _ => False

/-- The event is an invoicing pass that selects the subscription. -/
def CycleEvent.Bills (day : BillingDay ρ) (sub : Nat) : CycleEvent → Prop
  | .cron_generate_invoices _ => sub ∈ day.ledger.records.subscriptions.ids ∧
      IspSubscription.isBilled day.today (day.ledger.subscription sub) = true
  | _ => False

/-- The event switches the plan by way of the request: the audit log has a new entry for it. -/
def CycleEvent.Applies (day : BillingDay ρ) (request : Nat) (event : CycleEvent) : Prop :=
  ∃ entry ∈ (event.call day).ledger.log.drop day.ledger.log.length,
    entry.action = .plan_change_applied ∧ entry.request = request

/-- What an event does to the invoice dates and to the requests, and which requests it
may apply. -/
structure CycleEvent.Effect (day : BillingDay ρ) (event : CycleEvent) : Prop where
  billed : ∀ sub, event.Bills day sub → ((event.call day).ledger.subscription sub).next_invoice_date =
    (day.ledger.subscription sub).next_invoice_date.map fun date => date.addMonths 1
  unbilled : ∀ sub, ¬ event.Bills day sub →
    ((event.call day).ledger.subscription sub).next_invoice_date = (day.ledger.subscription sub).next_invoice_date
  kept : ∀ id ∈ day.ledger.records.plan_change_requests.ids,
    id ∈ (event.call day).ledger.records.plan_change_requests.ids ∧
      (day.ledger.request id).Kept day.today (day.ledger.workflow.next_invoice_date id)
        ((event.call day).ledger.request id)
  created : ∀ id ∈ (event.call day).ledger.records.plan_change_requests.ids,
    id ∉ day.ledger.records.plan_change_requests.ids →
    ∃ (vals_list : List IspPlanChangeRequest) (i : Nat) (vals : IspPlanChangeRequest),
      event = .create vals_list ∧ vals_list[i]? = some vals ∧
        id = day.ledger.records.plan_change_requests.next_id + i ∧
        (event.call day).ledger.request id =
          vals.ensure_effective_date day.today (day.ledger.subscription vals.subscription_id)
  approved : ∀ id, event.Approves id → ((event.call day).ledger.request id).effective_date =
    (day.ledger.request id).dateOn day.today (day.ledger.workflow.next_invoice_date id)
  applied : ∀ id, event.Applies day id →
    (id ∈ day.ledger.records.plan_change_requests.ids ∧ (day.ledger.request id).isDue day.today = true ∧
      ∃ user clock token_hex, event = .cron_apply_plan_changes user clock token_hex) ∨
      event.Approves id ∧ day.ledger.workflow.FallsDue day.today id

section

variable {day : BillingDay ρ} {event : CycleEvent}

theorem CycleEvent.not_applies (hlog : (event.call day).ledger.log = day.ledger.log) (id : Nat) :
    ¬ event.Applies day id := by
  rintro ⟨entry, hentry, _⟩
  rw [hlog, List.drop_length] at hentry
  exact List.not_mem_nil hentry

/-- No records are changed. -/
theorem CycleEvent.effect_of_unchanged (hrecords : (event.call day).ledger.records = day.ledger.records)
    (hbills : ∀ sub, ¬ event.Bills day sub) (happroves : ∀ id, ¬ event.Approves id) : event.Effect day where
  billed := fun sub h => absurd h (hbills sub)
  unbilled := by
    intro sub _
    rw [World.subscription, hrecords]
    rfl
  kept := by
    intro id hid
    have hrow : (event.call day).ledger.request id = day.ledger.request id :=
      congrArg (fun records => records.plan_change_requests.row id) hrecords
    rw [hrow, hrecords]
    exact ⟨hid, rfl, rfl, rfl, Or.inl rfl⟩
  created := by
    intro id hid hnew
    rw [hrecords] at hid
    exact absurd hid hnew
  approved := fun id h => absurd h (happroves id)
  applied := fun id h =>
    absurd h (CycleEvent.not_applies (congrArg (fun records => records.extension.2) hrecords) id)

/-- The requests are kept, and the new entries of the log are applications of these only. -/
theorem CycleEvent.effect_of_handled {may : Nat → Prop} {workflow : Workflow ρ}
    (hcall : (event.call day).ledger = day.ledger.setWorkflow workflow)
    (hhandled : day.ledger.workflow.Handled day.today workflow) (hlogs : day.ledger.workflow.Logs may workflow)
    (hbills : ∀ sub, ¬ event.Bills day sub)
    (happroved : ∀ id, event.Approves id → (workflow.request id).effective_date =
      (day.ledger.request id).dateOn day.today (day.ledger.workflow.next_invoice_date id))
    (hmay : ∀ id, may id →
      (id ∈ day.ledger.records.plan_change_requests.ids ∧ (day.ledger.request id).isDue day.today = true ∧
        ∃ user clock token_hex, event = .cron_apply_plan_changes user clock token_hex) ∨
        event.Approves id ∧ day.ledger.workflow.FallsDue day.today id) : event.Effect day where
  billed := fun sub h => absurd h (hbills sub)
  unbilled := by
    intro sub _
    rw [hcall]
    exact hhandled.next sub
  kept := by
    intro id hid
    rw [hcall]
    exact ⟨hhandled.ids.symm ▸ hid, hhandled.kept id⟩
  created := by
    intro id hid hnew
    rw [hcall] at hid
    exact absurd (hhandled.ids ▸ hid) hnew
  approved := by
    intro id h
    rw [hcall]
    exact happroved id h
  applied := by
    rintro id ⟨entry, hentry, happlied, rfl⟩
    obtain ⟨entries, hentries, hnew⟩ := hlogs
    have hlog : (event.call day).ledger.log = day.ledger.log ++ entries := by
      rw [hcall]
      exact hentries
    rw [hlog, List.drop_left] at hentry
    exact hmay _ (hnew entry hentry happlied)

/-- A call of the plan changes that returns leaves their part of the database. -/
theorem workflow_commit_of_ok {method : Odoo (List PlanChangeEntry) ρ Unit} {ledger : Ledger ρ}
    {after : Workflow ρ}
    (h : method.exec ledger.workflow = (.ok (), after)) :
    (Method.focus Ledger.workflow Ledger.setWorkflow method).commit World.rollback ledger = ledger.setWorkflow after := by
  have hreturned : (Method.focus Ledger.workflow Ledger.setWorkflow method).exec ledger =
      (.ok (), ledger.setWorkflow after) := by
    rw [Method.exec_focus, h]
  exact Method.commit_of_ok hreturned

theorem workflow_commit_of_error {method : Odoo (List PlanChangeEntry) ρ Unit} {ledger : Ledger ρ}
    {after : Workflow ρ} {exception : OdooError} (h : method.exec ledger.workflow = (.error exception, after)) :
    ((Method.focus Ledger.workflow Ledger.setWorkflow method).commit World.rollback ledger).records =
      ledger.records := by
  have hraised : (Method.focus Ledger.workflow Ledger.setWorkflow method).exec ledger =
      (.error exception, ledger.setWorkflow after) := by
    rw [Method.exec_focus, h]
  rw [Method.commit_of_error hraised]
  rfl

theorem CycleEvent.create_effect (vals_list : List IspPlanChangeRequest) : (create vals_list).Effect day := by
  cases hexec : (IspPlanChangeRequest.create_records day.today vals_list).exec day.ledger.workflow with
  | mk result after =>
    cases result with
    | error exception =>
      exact CycleEvent.effect_of_unchanged (workflow_commit_of_error hexec) (fun _ => id) fun _ => id
    | ok value =>
      obtain ⟨_, rfl⟩ := IspPlanChangeRequest.create_records_returns hexec
      have hcall : ((create vals_list).call day).ledger = day.ledger.setWorkflow (Workflow.withCreated
          (vals_list.map fun vals => vals.ensure_effective_date day.today
            (day.ledger.subscription vals.subscription_id)) day.ledger.workflow) := workflow_commit_of_ok hexec
      refine ⟨fun _ => False.elim, fun sub _ => ?_, fun id hid => ?_, fun id hid hnew => ?_, fun _ => False.elim,
        fun id h => absurd h (CycleEvent.not_applies ?_ id)⟩
      · rw [hcall]
        rfl
      · rw [hcall]
        have hrow : (day.ledger.records.plan_change_requests.createAll (vals_list.map fun vals =>
            vals.ensure_effective_date day.today (day.ledger.subscription vals.subscription_id))).row id =
              day.ledger.request id := Store.createAll_row_of_mem _ _ hid
        refine ⟨Store.mem_createAll_ids_of_mem _ _ hid, ?_⟩
        change IspPlanChangeRequest.Kept _ _ _ ((day.ledger.records.plan_change_requests.createAll _).row id)
        rw [hrow]
        exact ⟨rfl, rfl, rfl, Or.inl rfl⟩
      · rw [hcall] at hid ⊢
        change id ∈ (day.ledger.records.plan_change_requests.createAll _).ids at hid
        rw [Store.createAll_ids, List.mem_append, Store.mem_batch_iff] at hid
        obtain ⟨i, record, hrecord, rfl⟩ := hid.resolve_left hnew
        have hnewRow := day.ledger.records.plan_change_requests.createAll_row_new hrecord
        rw [List.getElem?_map] at hrecord
        obtain ⟨vals, hvals, rfl⟩ := Option.map_eq_some_iff.mp hrecord
        exact ⟨vals_list, i, vals, rfl, hvals, rfl, hnewRow⟩
      · rw [hcall]
        rfl

theorem CycleEvent.invoicing_effect (action_post : Nat → AccountMove → Except OdooError Posting) :
    (cron_generate_invoices action_post).Effect day := by
  let subs := day.ledger.records.subscriptions.searchDesc (IspSubscription.isBilled day.today)
  have hreturned : ((cron_generate_invoices action_post).method day.today).exec day.ledger =
      (.ok (), day.ledger.setBilling (day.ledger.billing.invoicedAll day.today action_post subs)) := by
    rw [CycleEvent.method, Method.exec_focus, IspSubscription.cron_generate_invoices_exec]
    rfl
  have hcall : ((cron_generate_invoices action_post).call day).ledger =
      day.ledger.setBilling (day.ledger.billing.invoicedAll day.today action_post subs) :=
    Method.commit_of_ok hreturned
  have hmem : ∀ sub, (cron_generate_invoices action_post).Bills day sub ↔ sub ∈ subs := fun sub =>
    (Store.mem_searchDesc _ _ sub).symm
  have hnodup : subs.Nodup := Store.searchDesc_nodup _ _
  obtain ⟨_, hrequests, _⟩ := Billing.invoicedAll_records day.today action_post subs day.ledger.billing
  have hrow : ∀ id, ((cron_generate_invoices action_post).call day).ledger.request id = day.ledger.request id := by
    intro id
    rw [hcall]
    exact congrArg (fun requests => Store.row requests id) hrequests
  have hids : ((cron_generate_invoices action_post).call day).ledger.records.plan_change_requests.ids =
      day.ledger.records.plan_change_requests.ids := by
    rw [hcall]
    exact congrArg Store.ids hrequests
  refine ⟨fun sub hbills => ?_, fun sub hbills => ?_, fun id hid => ?_, fun id hid hnew => ?_, fun _ => False.elim,
    fun id h => absurd h (CycleEvent.not_applies ?_ id)⟩
  · obtain ⟨move, hsub⟩ := Billing.invoicedAll_subscription_of_mem day.today action_post hnodup
      ((hmem sub).mp hbills) day.ledger.billing
    obtain ⟨_, next, hnext, _⟩ := (IspSubscription.isBilled_iff day.today (day.ledger.subscription sub)).mp hbills.2
    have hdate := congrArg (fun values : IspSubscription => values.next_invoice_date) hsub
    rw [hcall, hnext]
    have hbilling : (day.ledger.billing.subscription sub).next_invoice_date = some next := hnext
    rw [hbilling] at hdate
    exact hdate
  · have hsub := Billing.invoicedAll_subscription_of_not_mem day.today action_post
      (fun h => hbills ((hmem sub).mpr h)) day.ledger.billing
    rw [hcall]
    exact congrArg (fun values : IspSubscription => values.next_invoice_date) hsub
  · rw [hrow, hids]
    exact ⟨hid, rfl, rfl, rfl, Or.inl rfl⟩
  · exact absurd (hids ▸ hid) hnew
  · rw [hcall]
    rfl

/-- Every event of the billing cycle has its effect: it moves the next dates of the
subscriptions that it bills, by a month, and of the requests it changes those that it
creates, approves or applies. -/
theorem CycleEvent.effect (day : BillingDay ρ) (event : CycleEvent) : event.Effect day := by
  cases event with
  | tomorrow => exact CycleEvent.effect_of_unchanged rfl (fun _ => id) fun _ => id
  | create vals_list => exact CycleEvent.create_effect vals_list
  | cron_generate_invoices action_post => exact CycleEvent.invoicing_effect action_post
  | action_submit user requests =>
    cases hexec : (IspPlanChangeRequest.action_submit user day.today requests).exec day.ledger.workflow with
    | mk result after =>
      cases result with
      | error exception =>
        exact CycleEvent.effect_of_unchanged (workflow_commit_of_error hexec) (fun _ => id) fun _ => id
      | ok value =>
        obtain ⟨hhandled, hlogs⟩ := IspPlanChangeRequest.action_submit_handled hexec
        exact CycleEvent.effect_of_handled (workflow_commit_of_ok hexec) hhandled hlogs (fun _ => id)
          (fun _ h => absurd h id) fun _ h => absurd h id
  | action_approve user clock token_hex requests =>
    cases hexec : (IspPlanChangeRequest.action_approve user clock token_hex day.today requests).exec
        day.ledger.workflow with
    | mk result after =>
      cases result with
      | error exception => exact absurd hexec IspPlanChangeRequest.action_approve_not_raises
      | ok value =>
        obtain ⟨hhandled, hlogs, hdates⟩ := IspPlanChangeRequest.action_approve_handled hexec
        exact CycleEvent.effect_of_handled (workflow_commit_of_ok hexec) hhandled hlogs (fun _ => id) hdates
          fun _ => Or.inr
  | cron_apply_plan_changes user clock token_hex =>
    cases hexec : (IspPlanChangeRequest.cron_apply_plan_changes_logged user clock token_hex day.today).exec
        day.ledger.workflow with
    | mk result after =>
      cases result with
      | error exception =>
        exact CycleEvent.effect_of_unchanged (workflow_commit_of_error hexec) (fun _ => id) fun _ => id
      | ok value =>
        obtain ⟨hhandled, hlogs⟩ := IspPlanChangeRequest.cron_apply_plan_changes_handled hexec
        exact CycleEvent.effect_of_handled (workflow_commit_of_ok hexec) hhandled hlogs (fun _ => id)
          (fun _ h => absurd h id) fun _ h => Or.inl ⟨h.1, h.2, user, clock, token_hex, rfl⟩

end

end getupnet.isp_billing

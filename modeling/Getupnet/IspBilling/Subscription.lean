import Getupnet.Calendar.Months
import Getupnet.IspCore.Records
import Getupnet.IspBilling.AccountMove

open relational
open calendar
open getupnet.isp_core

namespace getupnet.isp_billing

variable {ρ : Type}

abbrev Billing (ρ : Type) : Type := World (Records Accounting) ρ

def Billing.moves (self : Billing ρ) : Store AccountMove := self.records.extension.moves

def Billing.withMoves (moves : Store AccountMove) (self : Billing ρ) : Billing ρ :=
  { self with records := { self.records with extension := { self.records.extension with moves } } }

/-- The values that `_generate_invoice` creates a move with. -/
def IspSubscription.move_vals (sub : IspSubscription) (id : Nat) (plan : IspServicePlan) (today : Date) :
    AccountMove where
  move_type := .out_invoice
  partner_id := sub.partner_id
  invoice_date := some today
  invoice_date_due := some today
  isp_subscription_id := some id
  invoice_line_ids := [{ name := plan.name, quantity := 1, price_unit := plan.price, tax_ids := plan.tax_ids }]

/-- `action_post` is the accounting's answer for each new move: what posting
settles, or an exception, which the method swallows. A subscription always has
a partner: the field is required. -/
def IspSubscription.generate_invoice (today : Date)
    (action_post : Nat → AccountMove → Except OdooError Posting) (id : Nat) : Odoo Accounting ρ Unit := do
  let world : Billing ρ ← get
  let sub := world.subscription id
  let move_vals := IspSubscription.move_vals sub id (world.planOf id) today
  let move := world.moves.next_id
  modify fun world : Billing ρ => world.withMoves (world.moves.create move_vals)
  modify fun world : Billing ρ =>
    world.withMoves (world.moves.write move (AccountMove.afterPosting (action_post move move_vals)))
  modify fun world : Billing ρ => world.writeSubscription id
    ((world.subscription id).withInvoice move ((sub.next_invoice_date.getD today).addMonths 1))

def IspSubscription.action_generate_invoice (today : Date)
    (action_post : Nat → AccountMove → Except OdooError Posting) (self : List Nat) : Odoo Accounting ρ Unit :=
  Method.forEach (IspSubscription.generate_invoice today action_post) self

/-- The domain of the invoicing pass. -/
def IspSubscription.isBilled (today : Date) (sub : IspSubscription) : Bool :=
  match sub.state, sub.next_invoice_date with
  | .active, some next_invoice_date => decide (next_invoice_date ≤ today)
  | _, _ => false

theorem IspSubscription.isBilled_iff (today : Date) (sub : IspSubscription) :
    IspSubscription.isBilled today sub = true ↔
      sub.state = .active ∧ ∃ date, sub.next_invoice_date = some date ∧ date ≤ today := by
  unfold IspSubscription.isBilled
  cases sub.state <;> cases sub.next_invoice_date <;> simp

def IspSubscription.cron_generate_invoices (today : Date)
    (action_post : Nat → AccountMove → Except OdooError Posting) : Odoo Accounting ρ Unit := do
  let world : Billing ρ ← get
  let subs := world.records.subscriptions.searchDesc (IspSubscription.isBilled today)
  Method.forEach (IspSubscription.generate_invoice today action_post) subs

/-- The moves that `_cron_suspend_overdue` goes through, in any order. -/
def Billing.Dunned (self : Billing ρ) (moves : List Nat) : Prop :=
  self.moves.Finds (fun move => move.isp_subscription_id.isSome && move.isOpen) moves

/-- The days of grace of a subscription: those of its plan, unless they are
zero. -/
def Billing.days (self : Billing ρ) (sub : Nat) : Int :=
  if (self.planOf sub).suspend_after_days ≠ 0 then (self.planOf sub).suspend_after_days
  else self.records.extension.suspend_after_days

/-- `date + timedelta(days=days)`, and `date + relativedelta(days=days)`, which raise an
`OverflowError` where the sum is no date. -/
def add_days (date : Date) (days : Int) : Except OdooError Date :=
  if (date.addDays days).Representable then .ok (date.addDays days)
  else .error (.other "date value out of range")

/-- The subscription to suspend on account of a move, if there is one. -/
def Billing.overdueSubscription (self : Billing ρ) (today : Date) (move : AccountMove) :
    Except OdooError (Option Nat) :=
  match move.isp_subscription_id with
  | none => .ok none
  | some sub =>
    if (self.subscription sub).state ≠ .active then .ok none
    else
      match move.invoice_date_due <|> move.invoice_date with
      | none => .ok none
      | some due_date => do
        let limit ← add_days due_date (self.days sub)
        return if limit ≤ today then some sub else none

/-- One pass through the loop of `_cron_suspend_overdue`. -/
def IspSubscription.suspend_overdue (clock : Nat → Nat) (today : Date) (move : Nat) : Odoo Accounting ρ Unit := do
  let world : Billing ρ ← get
  match ← Method.ofExcept (world.overdueSubscription today (world.moves.row move)) with
  | some sub => modify (World.queue_job clock sub .suspend_subscription)
  | none => pure ()

/-- `_cron_suspend_overdue`, given the moves that its search found. -/
def IspSubscription.cron_suspend_overdue (clock : Nat → Nat) (today : Date) (moves : List Nat) :
    Odoo Accounting ρ Unit :=
  Method.forEach (IspSubscription.suspend_overdue clock today) moves

/-- `search_count` over the open moves of a subscription. -/
def Billing.open_count (self : Billing ρ) (sub : Nat) : Nat :=
  (self.moves.search fun move => decide (move.isp_subscription_id = some sub) && move.isOpen).length

def IspSubscription.cron_reconnect_on_payment (clock : Nat → Nat) : Odoo Accounting ρ Unit := do
  let world : Billing ρ ← get
  let subs := world.records.subscriptions.searchDesc (fun sub => decide (sub.state = .suspended))
  Method.forEach (fun sub => do
    let world : Billing ρ ← get
    if world.open_count sub = 0 then modify (World.queue_job clock sub .reconnect_subscription)) subs

/-- The world that a generated invoice leaves. -/
def Billing.invoiced (today : Date) (action_post : Nat → AccountMove → Except OdooError Posting) (id : Nat)
    (self : Billing ρ) : Billing ρ :=
  let sub := self.subscription id
  let move_vals := IspSubscription.move_vals sub id (self.planOf id) today
  let move := self.moves.next_id
  (self.withMoves (self.moves.create (move_vals.afterPosting (action_post move move_vals)))).writeSubscription id
    (sub.withInvoice move ((sub.next_invoice_date.getD today).addMonths 1))

theorem IspSubscription.generate_invoice_exec (today : Date)
    (action_post : Nat → AccountMove → Except OdooError Posting) (id : Nat) (world : Billing ρ) :
    (IspSubscription.generate_invoice today action_post id).exec world =
      (.ok (), world.invoiced today action_post id) := by
  simp only [IspSubscription.generate_invoice, Method.exec_bind, Method.exec_get, Method.exec_modify,
    Billing.invoiced]
  rw [← Store.create_write]
  rfl

/-- The world that invoicing several subscriptions in order leaves. -/
def Billing.invoicedAll (today : Date) (action_post : Nat → AccountMove → Except OdooError Posting)
    (subs : List Nat) (self : Billing ρ) : Billing ρ :=
  subs.foldl (fun world id => world.invoiced today action_post id) self

theorem IspSubscription.forEach_generate_invoice_exec (today : Date)
    (action_post : Nat → AccountMove → Except OdooError Posting) (subs : List Nat) (world : Billing ρ) :
    (Method.forEach (IspSubscription.generate_invoice today action_post) subs).exec world =
      (.ok (), world.invoicedAll today action_post subs) := by
  induction subs generalizing world with
  | nil => rfl
  | cons id subs ih =>
    rw [Method.exec_forEach_cons, IspSubscription.generate_invoice_exec]
    exact ih _

theorem IspSubscription.cron_generate_invoices_exec (today : Date)
    (action_post : Nat → AccountMove → Except OdooError Posting) (world : Billing ρ) :
    (IspSubscription.cron_generate_invoices today action_post).exec world =
      (.ok (), world.invoicedAll today action_post
        (world.records.subscriptions.searchDesc (IspSubscription.isBilled today))) := by
  rw [IspSubscription.cron_generate_invoices, Method.exec_bind, Method.exec_get]
  exact IspSubscription.forEach_generate_invoice_exec today action_post _ world

section

variable (today : Date) (action_post : Nat → AccountMove → Except OdooError Posting)

@[simp] theorem AccountMove.afterPosting_isp_subscription_id (outcome : Except OdooError Posting) (self : AccountMove) :
    (self.afterPosting outcome).isp_subscription_id = self.isp_subscription_id := by
  cases outcome <;> rfl

@[simp] theorem AccountMove.afterPosting_invoice_date (outcome : Except OdooError Posting) (self : AccountMove) :
    (self.afterPosting outcome).invoice_date = self.invoice_date := by
  cases outcome <;> rfl

@[simp] theorem AccountMove.afterPosting_invoice_line_ids (outcome : Except OdooError Posting) (self : AccountMove) :
    (self.afterPosting outcome).invoice_line_ids = self.invoice_line_ids := by
  cases outcome <;> rfl

/-- The move that an invoice for the subscription becomes as record `move`. -/
def Billing.invoiceFor (self : Billing ρ) (id move : Nat) : AccountMove :=
  let move_vals := IspSubscription.move_vals (self.subscription id) id (self.planOf id) today
  move_vals.afterPosting (action_post move move_vals)

theorem Billing.invoiced_subscription_self (id : Nat) (self : Billing ρ) :
    (self.invoiced today action_post id).subscription id =
      (self.subscription id).withInvoice self.moves.next_id
        (((self.subscription id).next_invoice_date.getD today).addMonths 1) :=
  World.writeSubscription_self _ id _

theorem Billing.invoiced_subscription_ne {id other : Nat} (h : other ≠ id) (self : Billing ρ) :
    (self.invoiced today action_post id).subscription other = self.subscription other :=
  World.writeSubscription_ne _ h _

/-- Invoicing a subscription is no concern of the others. -/
theorem Billing.invoicedAll_subscription_of_not_mem {subs : List Nat} {other : Nat} (h : other ∉ subs)
    (self : Billing ρ) : (self.invoicedAll today action_post subs).subscription other = self.subscription other := by
  induction subs generalizing self with
  | nil => rfl
  | cons id subs ih =>
    obtain ⟨hne, hrest⟩ := List.ne_and_not_mem_of_not_mem_cons h
    exact (ih hrest _).trans (self.invoiced_subscription_ne today action_post hne)

/-- An invoiced subscription has its last invoice and its next date set, and
nothing else is changed. -/
theorem Billing.invoicedAll_subscription_of_mem {subs : List Nat} (hnodup : subs.Nodup) {id : Nat} (h : id ∈ subs)
    (self : Billing ρ) :
    ∃ move, (self.invoicedAll today action_post subs).subscription id =
      (self.subscription id).withInvoice move (((self.subscription id).next_invoice_date.getD today).addMonths 1) := by
  induction subs generalizing self with
  | nil => cases h
  | cons first subs ih =>
    obtain ⟨hfirst, hrest⟩ := List.nodup_cons.mp hnodup
    by_cases hsame : id = first
    · subst hsame
      refine ⟨self.moves.next_id, ?_⟩
      rw [← self.invoiced_subscription_self today action_post id]
      exact Billing.invoicedAll_subscription_of_not_mem today action_post hfirst _
    · obtain ⟨move, hmove⟩ :=
        ih hrest ((List.mem_cons.mp h).resolve_left hsame) (self.invoiced today action_post first)
      rw [self.invoiced_subscription_ne today action_post hsame] at hmove
      exact ⟨move, hmove⟩

@[simp] theorem Billing.invoicedAll_ids (subs : List Nat) (self : Billing ρ) :
    (self.invoicedAll today action_post subs).records.subscriptions.ids = self.records.subscriptions.ids := by
  induction subs generalizing self with
  | nil => rfl
  | cons id subs ih => exact ih (self.invoiced today action_post id)

/-- Invoicing touches neither the plans nor the requests to change them. -/
theorem Billing.invoicedAll_records (subs : List Nat) (self : Billing ρ) :
    (self.invoicedAll today action_post subs).records.plans = self.records.plans ∧
      (self.invoicedAll today action_post subs).records.plan_change_requests = self.records.plan_change_requests ∧
      (self.invoicedAll today action_post subs).jobs = self.jobs := by
  induction subs generalizing self with
  | nil => exact ⟨rfl, rfl, rfl⟩
  | cons id subs ih => exact ih (self.invoiced today action_post id)

/-- Each invoice is made from the subscription and plan as they stood before
the pass. -/
theorem Billing.invoicedAll_moves {subs : List Nat} (hnodup : subs.Nodup) (self : Billing ρ) :
    (self.invoicedAll today action_post subs).moves =
      self.moves.createAll ((subs.zipIdx self.moves.next_id).map fun (id, move) =>
        self.invoiceFor today action_post id move) := by
  induction subs generalizing self with
  | nil => rfl
  | cons first subs ih =>
    obtain ⟨hfirst, hrest⟩ := List.nodup_cons.mp hnodup
    have htail : ((subs.zipIdx (self.moves.next_id + 1)).map fun (id, move) =>
        (self.invoiced today action_post first).invoiceFor today action_post id move) =
        (subs.zipIdx (self.moves.next_id + 1)).map fun (id, move) =>
          self.invoiceFor today action_post id move := by
      apply List.map_congr_left
      rintro ⟨id, move⟩ hpair
      have hne : id ≠ first := by
        rintro rfl
        exact hfirst (List.fst_mem_of_mem_zipIdx hpair)
      have hsub := self.invoiced_subscription_ne today action_post hne
      have hplan : (self.invoiced today action_post first).planOf id = self.planOf id := by
        rw [World.planOf, World.planOf, hsub]
        rfl
      simp only [Billing.invoiceFor, hsub, hplan]
    rw [List.zipIdx_cons, List.map_cons, Store.createAll_cons, ← htail]
    exact ih hrest (self.invoiced today action_post first)

end

/-- The active subscription that a move is linked to, and the day from which on it is
suspended on account of the move: the due date or the invoice date, and the days of grace. -/
def Billing.deadline (self : Billing ρ) (move : AccountMove) : Option (Nat × Date) :=
  match move.isp_subscription_id, move.invoice_date_due <|> move.invoice_date with
  | some sub, some due_date =>
    if (self.subscription sub).state = .active then some (sub, due_date.addDays (self.days sub)) else none
  | _, _ => none

/-- The day from which on a move suspends its subscription is a date, if there is any. -/
def Billing.Dated (self : Billing ρ) (move : AccountMove) : Prop :=
  ∀ entry ∈ self.deadline move, entry.2.Representable

instance (self : Billing ρ) (move : AccountMove) : Decidable (self.Dated move) :=
  inferInstanceAs (Decidable (∀ entry ∈ self.deadline move, entry.2.Representable))

/-- The subscription that a move suspends. -/
def Billing.suspendedFor (self : Billing ρ) (today : Date) (move : AccountMove) : Option Nat :=
  (self.deadline move).bind fun entry => if entry.2 ≤ today then some entry.1 else none

section

variable (clock : Nat → Nat) (today : Date)

theorem Billing.overdueSubscription_of_none {self : Billing ρ} {move : AccountMove}
    (h : self.deadline move = none) : self.overdueSubscription today move = .ok none := by
  unfold Billing.deadline at h
  unfold Billing.overdueSubscription
  cases hlinked : move.isp_subscription_id with
  | none => rfl
  | some sub =>
    cases hdate : move.invoice_date_due <|> move.invoice_date with
    | none => simp
    | some due_date =>
      rw [hlinked, hdate] at h
      have hactive : (self.subscription sub).state ≠ .active := by simpa using h
      simp [hactive]

theorem Billing.overdueSubscription_of_some {self : Billing ρ} {move : AccountMove} {sub : Nat} {limit : Date}
    (h : self.deadline move = some (sub, limit)) :
    self.overdueSubscription today move =
      if limit.Representable then .ok (if limit ≤ today then some sub else none)
      else .error (.other "date value out of range") := by
  unfold Billing.deadline at h
  unfold Billing.overdueSubscription
  split at h
  · rename_i other due_date hlinked hdate
    obtain ⟨hactive, heq⟩ := (Option.ite_none_right_eq_some).mp h
    obtain ⟨rfl, rfl⟩ := Prod.mk.inj (Option.some.inj heq)
    rw [hlinked, hdate]
    simp only [hactive, ne_eq, not_true_eq_false, if_false, add_days]
    split <;> rfl
  · cases h

/-- The pass finds what a move suspends, or raises. -/
theorem Billing.overdueSubscription_eq (self : Billing ρ) (move : AccountMove) :
    self.overdueSubscription today move =
      if self.Dated move then .ok (self.suspendedFor today move) else .error (.other "date value out of range") := by
  cases hdeadline : self.deadline move with
  | none =>
    rw [Billing.overdueSubscription_of_none today hdeadline]
    simp [Billing.Dated, Billing.suspendedFor, hdeadline]
  | some entry =>
    rw [Billing.overdueSubscription_of_some today hdeadline]
    simp [Billing.Dated, Billing.suspendedFor, hdeadline]

theorem IspSubscription.suspend_overdue_exec (move : Nat) (world : Billing ρ) :
    (IspSubscription.suspend_overdue clock today move).exec world =
      if world.Dated (world.moves.row move) then
        (.ok (), world.queueAll clock .suspend_subscription
          (world.suspendedFor today (world.moves.row move)).toList)
      else (.error (.other "date value out of range"), world) := by
  rw [IspSubscription.suspend_overdue, Method.exec_bind, Method.exec_get]
  dsimp only
  rw [Billing.overdueSubscription_eq]
  by_cases hdated : world.Dated (world.moves.row move)
  · rw [if_pos hdated, if_pos hdated, Method.ofExcept_ok_bind]
    cases world.suspendedFor today (world.moves.row move) <;> rfl
  · rw [if_neg hdated, if_neg hdated]
    rfl

/-- A pass for which every day that it computes is a date goes through. -/
theorem IspSubscription.cron_suspend_overdue_exec {moves : List Nat} {world : Billing ρ}
    (hdated : ∀ move ∈ moves, world.Dated (world.moves.row move)) :
    (IspSubscription.cron_suspend_overdue clock today moves).exec world =
      (.ok (), world.queueAll clock .suspend_subscription
        (moves.filterMap fun move => world.suspendedFor today (world.moves.row move))) := by
  rw [IspSubscription.cron_suspend_overdue]
  induction moves generalizing world with
  | nil => rfl
  | cons move moves ih =>
    obtain ⟨hfirst, hrest⟩ := List.forall_mem_cons.mp hdated
    rw [Method.exec_forEach_cons, IspSubscription.suspend_overdue_exec, if_pos hfirst]
    cases hfound : world.suspendedFor today (world.moves.row move) with
    | none =>
      simp only [List.filterMap_cons, hfound]
      exact ih hrest
    | some sub =>
      simp only [List.filterMap_cons, hfound]
      exact @ih (world.queue_job clock sub .suspend_subscription) hrest

/-- Any other pass raises, and has done nothing but to queue jobs before. -/
theorem IspSubscription.cron_suspend_overdue_raises {moves : List Nat} {world : Billing ρ}
    (hundated : ¬ ∀ move ∈ moves, world.Dated (world.moves.row move)) :
    ∃ exception after, (IspSubscription.cron_suspend_overdue clock today moves).exec world = (.error exception, after) ∧
      after.outside = world.outside := by
  rw [IspSubscription.cron_suspend_overdue]
  induction moves generalizing world with
  | nil => exact absurd (fun move hmove => absurd hmove List.not_mem_nil) hundated
  | cons move moves ih =>
    rw [Method.exec_forEach_cons, IspSubscription.suspend_overdue_exec]
    by_cases hfirst : world.Dated (world.moves.row move)
    · have hrest : ¬ ∀ move ∈ moves, world.Dated (world.moves.row move) :=
        fun hall => hundated (List.forall_mem_cons.mpr ⟨hfirst, hall⟩)
      rw [if_pos hfirst]
      cases world.suspendedFor today (world.moves.row move) with
      | none => exact ih hrest
      | some sub => exact @ih (world.queue_job clock sub .suspend_subscription) hrest
    · rw [if_neg hfirst]
      exact ⟨_, _, rfl, rfl⟩

variable {clock today} in
/-- A pass that returns has found dates only. -/
theorem IspSubscription.cron_suspend_overdue_returns {moves : List Nat} {world after : Billing ρ}
    (h : (IspSubscription.cron_suspend_overdue clock today moves).exec world = (.ok (), after)) :
    (∀ move ∈ moves, world.Dated (world.moves.row move)) ∧
      after = world.queueAll clock .suspend_subscription
        (moves.filterMap fun move => world.suspendedFor today (world.moves.row move)) := by
  by_cases hdated : ∀ move ∈ moves, world.Dated (world.moves.row move)
  · rw [IspSubscription.cron_suspend_overdue_exec clock today hdated] at h
    exact ⟨hdated, (Prod.mk.inj h).2.symm⟩
  · obtain ⟨exception, undone, hraises, _⟩ := IspSubscription.cron_suspend_overdue_raises clock today hdated
    rw [hraises] at h
    cases h

end

theorem IspSubscription.cron_reconnect_on_payment_exec (clock : Nat → Nat) (world : Billing ρ) :
    (IspSubscription.cron_reconnect_on_payment clock).exec world =
      (.ok (), world.queueAll clock .reconnect_subscription
        ((world.records.subscriptions.searchDesc fun sub => decide (sub.state = .suspended)).filter
          fun sub => decide (world.open_count sub = 0))) := by
  rw [IspSubscription.cron_reconnect_on_payment, Method.exec_bind, Method.exec_get,
    ← List.filterMap_eq_filter]
  refine @World.exec_forEach_queue Accounting ρ Nat clock .reconnect_subscription _
    (fun world => Option.guard fun sub => decide (Billing.open_count world sub = 0))
    (fun sub world => ?_) (fun _ _ => rfl) _ world
  rw [Method.exec_bind, Method.exec_get]
  by_cases hnone : Billing.open_count world sub = 0
  · simp [Option.guard, hnone]
    rfl
  · simp [Option.guard, hnone]
    rfl

/-- The jobs that a later state of the database has for a subscription on top of
those of an earlier one. -/
def Billing.queuedFor (before after : Billing ρ) (sub : Nat) : List IspProvisioningJob :=
  (Store.added before.jobs after.jobs).filter fun job => decide (job.subscription_id = some sub)

/-- Queueing jobs of one type adds as many for a subscription as there are
mentions of it. -/
theorem Billing.queuedFor_queueAll (clock : Nat → Nat) (job_type : JobType) (ids : List Nat) (self : Billing ρ)
    (sub : Nat) :
    (Billing.queuedFor self (self.queueAll clock job_type ids) sub).map IspProvisioningJob.job_type =
      List.replicate (ids.count sub) job_type := by
  have hpairs := World.newJobs_subscriptions clock job_type ids self
  have hfiltered : (Billing.queuedFor self (self.queueAll clock job_type ids) sub).map IspProvisioningJob.job_type =
      (((World.newJobs clock job_type ids self).map fun job => (job.job_type, job.subscription_id)).filter
        fun pair => decide (pair.2 = some sub)).map Prod.fst := by
    rw [Billing.queuedFor, World.queueAll_eq, Store.added_createAll, List.filter_map, List.map_map]
    rfl
  rw [hfiltered, hpairs, List.filter_map, List.map_map, List.eq_replicate_iff]
  refine ⟨?_, fun other hother => ?_⟩
  · rw [List.length_map, List.count_eq_length_filter]
    congr 1
    apply List.filter_congr
    intro id _
    simp [Function.comp, beq_eq_decide]
  · obtain ⟨_, _, hvalue⟩ := List.mem_map.mp hother
    exact hvalue.symm

/-- A draft subscription, which stands for the rows that do not exist. -/
def noSubscription : IspSubscription where
  name := "New"
  partner_id := 0
  plan_id := 0
  sector_id := 0
  checked := rfl

/-- An active customer on plan 0. -/
def activeCustomer (next_invoice_date : Option Date) : IspSubscription where
  name := "SUB0001"
  partner_id := 0
  plan_id := 0
  sector_id := 0
  state := .active
  gps_lat := 18
  gps_lng := 69
  next_invoice_date
  checked := rfl

theorem newYear_isDay : IsDay 2026 1 1 := by decide

def newYear : Date := .of newYear_isDay

/-- An empty draft entry, which stands for the moves that do not exist. -/
def noMove : AccountMove where
  move_type := .entry
  partner_id := 0
  invoice_date := none
  invoice_date_due := none
  isp_subscription_id := none
  invoice_line_ids := []

/-- A database with nothing but subscriptions, their plans, plan change requests
and moves. -/
def databaseOf (plans : Nat → IspServicePlan) (subscriptions : List IspSubscription)
    (requests : List IspPlanChangeRequest) (moves : List AccountMove) : Billing Unit where
  jobs := Store.empty { job_type := .change_plan, requested_at := 0 }
  records := {
    subscriptions := (Store.empty noSubscription).createAll subscriptions
    plans
    plan_change_requests := (Store.empty { subscription_id := 0, requested_plan_id := 0 }).createAll requests
    extension := {
      moves := (Store.empty noMove).createAll moves
      suspend_after_days := 10 } }
  outside := ()

end getupnet.isp_billing

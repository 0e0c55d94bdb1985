import Getupnet.IspBilling.Subscription

open relational
open calendar
open getupnet.isp_core

namespace getupnet.isp_billing

variable {ρ : Type}

/-- The oldest of the due requests for a subscription. The pass applies it last,
since it takes the newest request first. -/
def Billing.effectiveRequest (self : Billing ρ) (today : Date) (sub : Nat) : Option Nat :=
  (self.records.plan_change_requests.search fun request =>
    IspPlanChangeRequest.isDue today request && decide (request.subscription_id = sub)).head?

/-- The plan that a pass of the plan changes gives a subscription. -/
def Billing.effectivePlan (self : Billing ρ) (today : Date) (sub : Nat) : Nat :=
  ((self.effectiveRequest today sub).map fun request =>
    (self.records.plan_change_requests.row request).requested_plan_id).getD (self.subscription sub).plan_id

/-- The new invoices: whose they are, and the plan name and unit price of each
line. -/
def Billing.newInvoices (before after : Billing ρ) : List (Option Nat × List (String × ℚ)) :=
  (Store.added before.moves after.moves).map fun move =>
    (move.isp_subscription_id, move.invoice_line_ids.map fun line => (line.name, line.price_unit))

/-- Two outcomes of the same day: the same invoices and the same plans. -/
structure SameOutcome (before first second : Billing ρ) : Prop where
  invoices : Billing.newInvoices before first = Billing.newInvoices before second
  plans : ∀ sub ∈ before.records.subscriptions.ids,
    (first.subscription sub).plan_id = (second.subscription sub).plan_id

/-- A due request that takes effect on a subscription with an invoice due leaves
the name and price of its plan as they are. -/
def Billing.KeepsPrice (self : Billing ρ) (today : Date) : Prop :=
  ∀ sub ∈ self.records.subscriptions.ids, IspSubscription.isBilled today (self.subscription sub) = true →
    ∀ request, self.effectiveRequest today sub = some request →
      (self.records.plans (self.records.plan_change_requests.row request).requested_plan_id).name =
          (self.planOf sub).name ∧
        (self.records.plans (self.records.plan_change_requests.row request).requested_plan_id).price =
          (self.planOf sub).price

section

variable (clock : Nat → Nat) (token_hex : Nat → String) (today : Date)
  (action_post : Nat → AccountMove → Except OdooError Posting)

/-- What `_cron_generate_invoices` and then `_cron_apply_plan_changes` leave. -/
def Billing.invoicedThenApplied (self : Billing ρ) : Billing ρ :=
  (IspPlanChangeRequest.cron_apply_plan_changes clock token_hex today).commit World.rollback
    ((IspSubscription.cron_generate_invoices today action_post).commit World.rollback self)

/-- What `_cron_apply_plan_changes` and then `_cron_generate_invoices` leave. -/
def Billing.appliedThenInvoiced (self : Billing ρ) : Billing ρ :=
  (IspSubscription.cron_generate_invoices today action_post).commit World.rollback
    ((IspPlanChangeRequest.cron_apply_plan_changes clock token_hex today).commit World.rollback self)

/-- The subscriptions that the invoicing pass selects. -/
def Billing.billed (self : Billing ρ) : List Nat :=
  self.records.subscriptions.searchDesc (IspSubscription.isBilled today)

/-- The requests that the plan change pass selects. -/
def Billing.due (self : Billing ρ) : List Nat :=
  self.records.plan_change_requests.searchDesc (IspPlanChangeRequest.isDue today)

theorem Billing.invoicedThenApplied_eq (self : Billing ρ) :
    self.invoicedThenApplied clock token_hex today action_post =
      (self.invoicedAll today action_post (self.billed today)).appliedAll clock
        (Billing.due today (self.invoicedAll today action_post (self.billed today))) := by
  rw [Billing.invoicedThenApplied,
    Method.commit_of_ok (IspSubscription.cron_generate_invoices_exec today action_post self)]
  exact Method.commit_of_ok (IspPlanChangeRequest.cron_apply_plan_changes_exec clock token_hex today _)

theorem Billing.appliedThenInvoiced_eq (self : Billing ρ) :
    self.appliedThenInvoiced clock token_hex today action_post =
      Billing.invoicedAll today action_post (Billing.billed today (self.appliedAll clock (self.due today)))
        (self.appliedAll clock (self.due today)) := by
  rw [Billing.appliedThenInvoiced,
    Method.commit_of_ok (IspPlanChangeRequest.cron_apply_plan_changes_exec clock token_hex today self)]
  exact Method.commit_of_ok (IspSubscription.cron_generate_invoices_exec today action_post _)

theorem Billing.billed_nodup (self : Billing ρ) : (self.billed today).Nodup := Store.searchDesc_nodup _ _

/-- The new moves of an invoicing pass, by owner and lines. -/
theorem Billing.newInvoices_eq {before self after : Billing ρ} {subs : List Nat} (hnodup : subs.Nodup)
    (hbefore : before.moves = self.moves)
    (hafter : after.moves = (self.invoicedAll today action_post subs).moves) :
    Billing.newInvoices before after =
      subs.map fun id => (some id, [((self.planOf id).name, (self.planOf id).price)]) := by
  have hfst := List.zipIdx_map_fst self.moves.next_id subs
  rw [Billing.newInvoices, hbefore, hafter, Billing.invoicedAll_moves today action_post hnodup,
    Store.added_createAll, List.map_map]
  conv_rhs => rw [← hfst, List.map_map]
  apply List.map_congr_left
  rintro ⟨id, move⟩ _
  simp [Billing.invoiceFor, IspSubscription.move_vals]

/-- The pass of the plan changes leaves each subscription on its effective plan
and its billing as it was. -/
theorem Billing.appliedAll_due_subscription (self : Billing ρ) (sub : Nat) :
    ∃ profile, World.subscription (self.appliedAll clock (self.due today)) sub =
      ((self.subscription sub).withPlan (self.effectivePlan today sub)).withProfile profile := by
  obtain ⟨profile, hprofile⟩ := World.appliedAll_subscription clock (self.due today) sub self
  refine ⟨profile, hprofile.trans ?_⟩
  have hlast : ((self.due today).filter fun id =>
      decide ((self.records.plan_change_requests.row id).subscription_id = sub)).getLast? =
      self.effectiveRequest today sub := by
    rw [Billing.due, Store.searchDesc, List.filter_reverse, List.getLast?_reverse, Store.search, List.filter_filter,
      Billing.effectiveRequest, Store.search]
    simp only [Bool.and_comm]
  rw [hlast, Billing.effectivePlan]

/-- The plan changes leave the selection of the invoicing pass as it is. -/
theorem Billing.billed_appliedAll (self : Billing ρ) :
    Billing.billed today (self.appliedAll clock (self.due today)) = self.billed today := by
  obtain ⟨hids, _⟩ := World.appliedAll_records clock (self.due today) self
  rw [Billing.billed, Billing.billed, Store.searchDesc, Store.searchDesc, Store.search, Store.search, hids]
  congr 1
  apply List.filter_congr
  intro sub _
  obtain ⟨profile, hsub⟩ := self.appliedAll_due_subscription clock today sub
  change IspSubscription.isBilled today (World.subscription (self.appliedAll clock (self.due today)) sub) = _
  rw [hsub]
  rfl

/-- The invoices leave the plan changes as they are. -/
theorem Billing.effectivePlan_invoicedAll {subs : List Nat} (hnodup : subs.Nodup) (self : Billing ρ) (sub : Nat) :
    Billing.effectivePlan (self.invoicedAll today action_post subs) today sub = self.effectivePlan today sub := by
  obtain ⟨_, hrequests, _⟩ := Billing.invoicedAll_records today action_post subs self
  have hplan : (World.subscription (self.invoicedAll today action_post subs) sub).plan_id =
      (self.subscription sub).plan_id := by
    by_cases hmem : sub ∈ subs
    · obtain ⟨move, hsub⟩ := Billing.invoicedAll_subscription_of_mem today action_post hnodup hmem self
      rw [hsub]
      rfl
    · rw [Billing.invoicedAll_subscription_of_not_mem today action_post hmem self]
  rw [Billing.effectivePlan, Billing.effectivePlan, Billing.effectiveRequest, Billing.effectiveRequest, hrequests,
    hplan]

/-- Either order ends with every subscription on its effective plan. -/
theorem Billing.plans_agree (self : Billing ρ) (sub : Nat) :
    (World.subscription (self.invoicedThenApplied clock token_hex today action_post) sub).plan_id =
        self.effectivePlan today sub ∧
      (World.subscription (self.appliedThenInvoiced clock token_hex today action_post) sub).plan_id =
        self.effectivePlan today sub := by
  constructor
  · obtain ⟨profile, hsub⟩ := Billing.appliedAll_due_subscription clock today
      (self.invoicedAll today action_post (self.billed today)) sub
    rw [Billing.invoicedThenApplied_eq, hsub]
    exact Billing.effectivePlan_invoicedAll today action_post (self.billed_nodup today) self sub
  · obtain ⟨profile, hsub⟩ := self.appliedAll_due_subscription clock today sub
    rw [Billing.appliedThenInvoiced_eq, Billing.billed_appliedAll]
    by_cases hmem : sub ∈ self.billed today
    · obtain ⟨move, hinvoiced⟩ := Billing.invoicedAll_subscription_of_mem today action_post (self.billed_nodup today)
        hmem (self.appliedAll clock (self.due today))
      rw [hinvoiced, hsub]
      rfl
    · rw [Billing.invoicedAll_subscription_of_not_mem today action_post hmem, hsub]
      rfl

/-- On any day the two passes come to the same outcome in either order exactly
if the due request that decides the plan of a subscription with an invoice due,
where there is one, keeps the name and price of the plan. -/
theorem cron_order_same_outcome_iff (world : Billing ρ) :
    SameOutcome world (world.invoicedThenApplied clock token_hex today action_post)
        (world.appliedThenInvoiced clock token_hex today action_post) ↔
      world.KeepsPrice today := by
  obtain ⟨_, _, hextension, _⟩ := World.appliedAll_records clock
    (Billing.due today (world.invoicedAll today action_post (world.billed today)))
    (world.invoicedAll today action_post (world.billed today))
  obtain ⟨_, hplans, hsecondExtension, _⟩ := World.appliedAll_records clock (world.due today) world
  have hfirst : Billing.newInvoices world (world.invoicedThenApplied clock token_hex today action_post) =
      (world.billed today).map fun id => (some id, [((world.planOf id).name, (world.planOf id).price)]) := by
    rw [Billing.invoicedThenApplied_eq]
    apply Billing.newInvoices_eq today action_post (world.billed_nodup today) rfl
    exact congrArg Accounting.moves hextension
  have hsecond : Billing.newInvoices world (world.appliedThenInvoiced clock token_hex today action_post) =
      (world.billed today).map fun id => (some id,
        [((world.records.plans (world.effectivePlan today id)).name,
          (world.records.plans (world.effectivePlan today id)).price)]) := by
    rw [Billing.appliedThenInvoiced_eq, Billing.billed_appliedAll]
    rw [Billing.newInvoices_eq today action_post (world.billed_nodup today)
      (congrArg Accounting.moves hsecondExtension).symm rfl]
    apply List.map_congr_left
    intro id _
    obtain ⟨profile, hsub⟩ := world.appliedAll_due_subscription clock today id
    have hplan : World.planOf (world.appliedAll clock (world.due today)) id =
        world.records.plans (world.effectivePlan today id) := by
      rw [World.planOf, hplans, hsub]
      rfl
    rw [hplan]
  constructor
  · intro hsame sub hsub hbilled request hrequest
    have hinvoices := hsame.invoices
    rw [hfirst, hsecond, List.map_inj_left] at hinvoices
    have hline := hinvoices sub ((Store.mem_searchDesc _ _ sub).mpr ⟨hsub, hbilled⟩)
    rw [Billing.effectivePlan, hrequest, Option.map_some, Option.getD_some] at hline
    simp only [Prod.mk.injEq, List.cons.injEq, true_and, and_true] at hline
    exact ⟨hline.1.symm, hline.2.symm⟩
  · intro hkeeps
    constructor
    · rw [hfirst, hsecond]
      apply List.map_congr_left
      intro sub hmem
      obtain ⟨hsub, hbilled⟩ := (Store.mem_searchDesc _ _ sub).mp hmem
      cases hrequest : world.effectiveRequest today sub with
      | none =>
        rw [Billing.effectivePlan, hrequest]
        rfl
      | some request =>
        obtain ⟨hname, hprice⟩ := hkeeps sub hsub hbilled request hrequest
        rw [Billing.effectivePlan, hrequest, Option.map_some, Option.getD_some, hname, hprice]
    · intro sub _
      obtain ⟨hone, htwo⟩ := world.plans_agree clock token_hex today action_post sub
      rw [hone, htwo]

end

/-- A customer with an invoice due at new year who has asked for a dearer plan
from the next billing cycle on; the request has been approved. -/
def upgrading : Billing Unit :=
  let customer := activeCustomer (some newYear)
  databaseOf (fun id => { name := "Plan", service_type := .dhcp, price := if id = 0 then 25 else 40 }) [customer]
    [IspPlanChangeRequest.ensure_effective_date newYear customer
      { subscription_id := 0, requested_plan_id := 1, effective_date_mode := .next_cycle, state := .approved }] []

/-- The request takes effect on the very day of the invoice, which is then
priced by the pass that runs first. -/
theorem upgrade_priced_by_order :
    (upgrading.records.plan_change_requests.row 0).effective_date =
        (World.subscription upgrading 0).next_invoice_date ∧
      ¬ SameOutcome upgrading
        (upgrading.invoicedThenApplied (fun _ => 0) (fun _ => "") newYear
          fun _ _ => .ok { payment_state := .not_paid, amount_residual := 25 })
        (upgrading.appliedThenInvoiced (fun _ => 0) (fun _ => "") newYear
          fun _ _ => .ok { payment_state := .not_paid, amount_residual := 25 }) := by
  refine ⟨rfl, fun hsame => ?_⟩
  have hinvoices := hsame.invoices
  revert hinvoices
  decide

end getupnet.isp_billing

import Mathlib.Tactic.NormNum
import Getupnet.Relational.Totals
import Getupnet.IspBilling.Dashboard

open relational
open calendar
open getupnet.isp_core

namespace getupnet.isp_billing

variable {ρ : Type}

/-- The plans of the active subscriptions, one after the other. -/
def Billing.activePlans (self : Billing ρ) : List Nat :=
  self.activeSubscriptions.map fun sub => (self.subscription sub).plan_id

/-- `sum(Subscription.search([("state", "=", "active")]).mapped("plan_id.price"))`. A path
through a relation goes through each related record once. -/
def Billing.mrr (self : Billing ρ) : ℚ :=
  (self.activePlans.dedup.map fun plan => (self.records.plans plan).price).sum

/-- The domain of the invoices of the month. -/
def AccountMove.isOfMonth (today : Date) (self : AccountMove) : Bool :=
  decide (self.move_type = .out_invoice) && decide (self.state = .posted) &&
    self.invoice_date.any fun date => decide (today.monthFirst ≤ date) && decide (date ≤ today.monthLast)

/-- The `amount_total` of a move is the accounting's. -/
def Billing.invoices_month (amount_total : Nat → ℚ) (today : Date) (self : Billing ρ) : ℚ :=
  ((self.moves.search (AccountMove.isOfMonth today)).map amount_total).sum

/-- What the lines of a move charge, before taxes. -/
def AccountMove.charged (self : AccountMove) : ℚ :=
  (self.invoice_line_ids.map fun line => line.quantity * line.price_unit).sum

/-- What the moves charge that invoicing every active subscription once makes. -/
def Billing.charges (today : Date) (action_post : Nat → AccountMove → Except OdooError Posting)
    (self : Billing ρ) : ℚ :=
  let invoiced := ((IspSubscription.action_generate_invoice today action_post self.activeSubscriptions).exec self).2
  ((Store.added self.moves (Billing.moves invoiced)).map AccountMove.charged).sum

/-- The revenue of a month as the dashboard shows it. -/
structure RevenueShown (today : Date) (action_post : Nat → AccountMove → Except OdooError Posting)
    (amount_total : Nat → ℚ) (world : Billing ρ) : Prop where
  bounded : world.mrr ≤ world.charges today action_post
  exact_iff : world.mrr = world.charges today action_post ↔
    ∀ sub ∈ world.activeSubscriptions, (world.planOf sub).price ≠ 0 → ∀ other ∈ world.activeSubscriptions,
      (world.subscription other).plan_id = (world.subscription sub).plan_id → other = sub
  invoices : world.invoices_month amount_total today =
    ((world.moves.search fun move => decide (move.move_type = .out_invoice) && decide (move.state = .posted) &&
      move.invoice_date.any fun date => decide (date.monthIndex = today.monthIndex)).map amount_total).sum

section

variable {world : Billing ρ} {today : Date} {action_post : Nat → AccountMove → Except OdooError Posting}

@[simp] theorem AccountMove.charged_afterPosting (outcome : Except OdooError Posting) (move : AccountMove) :
    (move.afterPosting outcome).charged = move.charged := by
  rw [AccountMove.charged, AccountMove.afterPosting_invoice_line_ids, AccountMove.charged]

/-- A generated invoice charges the price of the plan. -/
theorem Billing.invoiceFor_charged (id move : Nat) :
    (world.invoiceFor today action_post id move).charged = (world.planOf id).price := by
  rw [Billing.invoiceFor, AccountMove.charged_afterPosting]
  simp [AccountMove.charged, IspSubscription.move_vals]

theorem Billing.activeSubscriptions_nodup (world : Billing ρ) : world.activeSubscriptions.Nodup :=
  world.records.subscriptions.searchDesc_nodup _

/-- Every active subscription is charged its plan's price, however posting ends. -/
theorem Billing.charges_eq (world : Billing ρ) (today : Date)
    (action_post : Nat → AccountMove → Except OdooError Posting) :
    world.charges today action_post = (world.activePlans.map fun plan => (world.records.plans plan).price).sum := by
  have hexec := IspSubscription.forEach_generate_invoice_exec today action_post world.activeSubscriptions world
  have hmoves := Billing.invoicedAll_moves today action_post world.activeSubscriptions_nodup world
  rw [Billing.charges, IspSubscription.action_generate_invoice, hexec]
  dsimp only
  rw [hmoves, Store.added_createAll, List.map_map, Billing.activePlans, List.map_map]
  have hcharged : (AccountMove.charged ∘ fun pair : Nat × Nat =>
      world.invoiceFor today action_post pair.1 pair.2) = fun pair => (world.planOf pair.1).price := by
    funext pair
    exact Billing.invoiceFor_charged pair.1 pair.2
  have hzip := congrArg (List.map fun sub => (world.planOf sub).price)
    (List.zipIdx_map_fst world.moves.next_id world.activeSubscriptions)
  rw [List.map_map] at hzip
  exact congrArg List.sum ((congrArg (List.map · _) hcharged).trans hzip)

/-- A plan occurs once among those of the active subscriptions when one of them has it. -/
theorem Billing.count_activePlans_iff {sub : Nat} (hsub : sub ∈ world.activeSubscriptions) :
    world.activePlans.count (world.subscription sub).plan_id = 1 ↔
      ∀ other ∈ world.activeSubscriptions,
        (world.subscription other).plan_id = (world.subscription sub).plan_id → other = sub :=
  count_map_eq_one_iff (fun sub => (world.subscription sub).plan_id) world.activeSubscriptions_nodup hsub

theorem AccountMove.isOfMonth_eq (today : Date) (move : AccountMove) :
    move.isOfMonth today = (decide (move.move_type = .out_invoice) && decide (move.state = .posted) &&
      move.invoice_date.any fun date => decide (date.monthIndex = today.monthIndex)) := by
  have hmonth : ∀ date : Date, (decide (today.monthFirst ≤ date) && decide (date ≤ today.monthLast)) =
      decide (date.monthIndex = today.monthIndex) := by
    intro date
    rw [← Bool.decide_and]
    exact decide_eq_decide.mpr (today.between_month_iff date)
  simp only [AccountMove.isOfMonth, hmonth]

end

/-- On every database whose plans have no negative price, the monthly recurring revenue of
the dashboard is at most what invoicing each active subscription once charges, and it is
that exactly if no two active subscriptions share a plan that has a price. The invoices of
the month are the posted customer invoices of the calendar month. -/
theorem revenue_shown (world : Billing ρ) (today : Date)
    (action_post : Nat → AccountMove → Except OdooError Posting) (amount_total : Nat → ℚ)
    (hprices : ∀ sub ∈ world.activeSubscriptions, 0 ≤ (world.planOf sub).price) :
    RevenueShown today action_post amount_total world := by
  have hplans : ∀ plan ∈ world.activePlans, 0 ≤ (world.records.plans plan).price := by
    intro plan hplan
    obtain ⟨sub, hsub, rfl⟩ := List.mem_map.mp hplan
    exact hprices sub hsub
  refine ⟨?_, ?_, ?_⟩
  · rw [world.charges_eq]
    exact sum_dedup_le hplans
  · rw [world.charges_eq, Billing.mrr, sum_dedup_eq_iff hplans, Billing.activePlans, List.forall_mem_map]
    refine forall₂_congr fun sub hsub => ?_
    exact imp_congr_right fun _ => Billing.count_activePlans_iff hsub
  · rw [Billing.invoices_month]
    have hdomain := funext fun move : AccountMove => move.isOfMonth_eq today
    exact congrArg (fun domain => ((world.moves.search domain).map amount_total).sum) hdomain

/-- Two customers with the same plan. -/
def twoOnBasic : Billing Unit :=
  databaseOf (fun _ => { name := "Basic", service_type := .dhcp, price := 25 })
    [activeCustomer none, activeCustomer none] [] []

/-- The dashboard shows half of what they are charged. -/
theorem revenue_shown_two :
    twoOnBasic.mrr = 25 ∧ twoOnBasic.charges newYear (fun _ _ => .ok ⟨.not_paid, 25⟩) = 50 ∧
      RevenueShown newYear (fun _ _ => .ok ⟨.not_paid, 25⟩) (fun _ => 25) twoOnBasic := by
  have hplans : twoOnBasic.activePlans = [0, 0] := by decide
  have hdistinct : [0, 0].dedup = [0] := by decide
  have hprice : ∀ plan, (twoOnBasic.records.plans plan).price = 25 := fun _ => rfl
  refine ⟨?_, ?_, revenue_shown twoOnBasic newYear _ _ (by decide)⟩
  · simp [Billing.mrr, hplans, hdistinct, hprice]
  · rw [Billing.charges_eq, hplans]
    norm_num [hprice]

end getupnet.isp_billing

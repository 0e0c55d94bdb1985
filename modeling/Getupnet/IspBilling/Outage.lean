import Getupnet.Relational.Schedule
import Getupnet.IspBilling.Anniversary
import Getupnet.IspBilling.Suspension

open relational
open calendar
open getupnet.isp_core

namespace getupnet.isp_billing

variable {ρ : Type}

/-- A pass of `_cron_generate_invoices`: its day, and how the accounting posts. -/
structure InvoicingPass where
  today : Date
  action_post : Nat → AccountMove → Except OdooError Posting

/-- The database after several passes, on whatever days they were made. -/
def Billing.afterPasses (self : Billing ρ) (passes : List InvoicingPass) : Billing ρ :=
  passes.foldl (fun world pass => world.afterInvoicing pass.today pass.action_post) self

/-- What the passes have made of a subscription that is billed from a first date on, and
of any other. -/
structure BilledBy (passes : List InvoicingPass) (sub : Nat) (before after : Billing ρ) : Prop where
  billed : ∀ first, (before.subscription sub).state = .active →
    (before.subscription sub).next_invoice_date = some first →
    Billing.invoiceDates before after sub = (served first.stepMonths (passes.map InvoicingPass.today)).map some ∧
      (after.subscription sub).next_invoice_date =
        some (first.stepMonths (Billing.invoiceDates before after sub).length)
  others : ((before.subscription sub).state = .active → (before.subscription sub).next_invoice_date = none) →
    Billing.invoiceDates before after sub = [] ∧ after.subscription sub = before.subscription sub

section

variable {sub : Nat} {world : Billing ρ}

/-- What one pass does for one subscription: an invoice of the day if it is billed, and
nothing otherwise. -/
theorem Billing.afterInvoicing_subscription (world : Billing ρ) (pass : InvoicingPass)
    (hsub : sub ∈ world.records.subscriptions.ids) :
    let after := world.afterInvoicing pass.today pass.action_post
    let billed := IspSubscription.isBilled pass.today (world.subscription sub)
    after.records.subscriptions.ids = world.records.subscriptions.ids ∧
      (∃ moves, after.moves = world.moves.createAll moves ∧
        ((moves.filter fun move => decide (move.isp_subscription_id = some sub)).map AccountMove.invoice_date) =
          if billed then [some pass.today] else []) ∧
      if billed then ∃ move, after.subscription sub = (world.subscription sub).withInvoice move
          (((world.subscription sub).next_invoice_date.getD pass.today).addMonths 1)
        else after.subscription sub = world.subscription sub := by
  intro after billed
  let subs := world.records.subscriptions.searchDesc (IspSubscription.isBilled pass.today)
  have hnodup : subs.Nodup := Store.searchDesc_nodup _ _
  have hpass : after = world.invoicedAll pass.today pass.action_post subs :=
    world.afterInvoicing_eq pass.today pass.action_post
  have hbilled : sub ∈ subs ↔ billed = true := (Store.mem_searchDesc _ _ _).trans (and_iff_right hsub)
  have hmoves := Billing.invoicedAll_moves pass.today pass.action_post hnodup world
  have hdates := Billing.dates_of_pass pass.today pass.action_post hnodup world sub
  rw [hpass]
  refine ⟨Billing.invoicedAll_ids _ _ _ _, ⟨_, hmoves, ?_⟩, ?_⟩
  · rw [hdates]
    simp only [hbilled]
  · split
    · rename_i h
      exact Billing.invoicedAll_subscription_of_mem _ _ hnodup (hbilled.mpr h) world
    · rename_i h
      exact Billing.invoicedAll_subscription_of_not_mem _ _ (fun hmem => h (hbilled.mp hmem)) world

/-- What any number of passes leaves of a subscription: an active one with a next date has
been billed for the months that the days of the passes serve, and its date is the one
after them; another one has not been touched. -/
theorem Billing.afterPasses_subscription (world : Billing ρ) (hsub : sub ∈ world.records.subscriptions.ids)
    (passes : List InvoicingPass) :
    (world.afterPasses passes).records.subscriptions.ids = world.records.subscriptions.ids ∧
      ∃ moves, (world.afterPasses passes).moves = world.moves.createAll moves ∧
        let dates := (moves.filter fun move => decide (move.isp_subscription_id = some sub)).map
          AccountMove.invoice_date
        (∀ first, (world.subscription sub).state = .active →
          (world.subscription sub).next_invoice_date = some first →
          dates = (served first.stepMonths (passes.map InvoicingPass.today)).map some ∧
            ((world.afterPasses passes).subscription sub).state = .active ∧
            ((world.afterPasses passes).subscription sub).next_invoice_date =
              some (first.stepMonths dates.length)) ∧
        (((world.subscription sub).state = .active → (world.subscription sub).next_invoice_date = none) →
          dates = [] ∧ (world.afterPasses passes).subscription sub = world.subscription sub) := by
  induction passes using List.reverseRecOn with
  | nil =>
    refine ⟨rfl, [], rfl, fun first hactive hnext => ⟨rfl, hactive, hnext⟩, fun _ => ⟨rfl, rfl⟩⟩
  | append_singleton passes pass ih =>
    obtain ⟨hids, moves, hmoves, hbilled, hothers⟩ := ih
    have hlast : world.afterPasses (passes ++ [pass]) =
        (world.afterPasses passes).afterInvoicing pass.today pass.action_post := by
      rw [Billing.afterPasses, List.foldl_append]
      rfl
    obtain ⟨hnextIds, ⟨added, hadded, hdates⟩, hrow⟩ :=
      Billing.afterInvoicing_subscription (world.afterPasses passes) pass (hids ▸ hsub)
    rw [hlast, List.map_append, List.map_cons, List.map_nil]
    refine ⟨hnextIds.trans hids, moves ++ added, ?_, fun first hactive hnext => ?_, fun hnot => ?_⟩
    · rw [hadded, hmoves, Store.createAll_append]
    · obtain ⟨hserved, hstate, hdate⟩ := hbilled first hactive hnext
      have hdue : IspSubscription.isBilled pass.today ((world.afterPasses passes).subscription sub) = true ↔
          first.stepMonths (served first.stepMonths (passes.map InvoicingPass.today)).length ≤ pass.today := by
        rw [IspSubscription.isBilled_iff, hstate, hdate, hserved, List.length_map]
        simp
      rw [List.filter_append, List.map_append, hdates, hserved]
      by_cases hlate : first.stepMonths (served first.stepMonths (passes.map InvoicingPass.today)).length ≤
          pass.today
      · rw [if_pos (hdue.mpr hlate)] at hrow ⊢
        obtain ⟨move, hsubscription⟩ := hrow
        rw [served_append_of_due hlate, hsubscription, hdate, hserved]
        refine ⟨by simp, hstate, ?_⟩
        change some _ = some _
        simp [Date.stepMonths_succ]
      · rw [if_neg (fun h => hlate (hdue.mp h))] at hrow ⊢
        rw [served_append_of_not_due hlate, hrow, List.append_nil, ← hserved]
        exact ⟨rfl, hstate, hdate⟩
    · obtain ⟨hnone, hsame⟩ := hothers hnot
      have hnotBilled : ¬ IspSubscription.isBilled pass.today
          ((world.afterPasses passes).subscription sub) = true := by
        rw [hsame, IspSubscription.isBilled_iff]
        rintro ⟨hactive, date, hdate, _⟩
        rw [hnot hactive] at hdate
        cases hdate
      rw [if_neg hnotBilled] at hrow hdates
      rw [List.filter_append, List.map_append, hdates, hnone, hrow]
      exact ⟨rfl, hsame⟩

theorem Billing.billedBy_afterPasses (world : Billing ρ) (hsub : sub ∈ world.records.subscriptions.ids)
    (passes : List InvoicingPass) : BilledBy passes sub world (world.afterPasses passes) := by
  obtain ⟨_, moves, hmoves, hbilled, hothers⟩ := world.afterPasses_subscription hsub passes
  have hdates : Billing.invoiceDates world (world.afterPasses passes) sub =
      (moves.filter fun move => decide (move.isp_subscription_id = some sub)).map AccountMove.invoice_date := by
    rw [Billing.invoiceDates, hmoves, Store.added_createAll]
  refine ⟨fun first hactive hnext => ?_, fun hnot => ?_⟩
  · obtain ⟨hserved, _, hdate⟩ := hbilled first hactive hnext
    rw [hdates]
    exact ⟨hserved, hdate⟩
  · rw [hdates]
    exact hothers hnot

end

/-- Passes on whatever days, with gaps where the scheduler was down and any number on one
day, bill each active subscription from its next date on: never a month early, no month
twice, none left out, and a month is made up for as soon as there have been as many passes
since its date as there are months up to it. No other subscription is billed. -/
theorem outage_is_made_up (world : Billing ρ) (passes : List InvoicingPass) :
    ∀ sub ∈ world.records.subscriptions.ids,
      let issued := Billing.invoiceDates world (world.afterPasses passes) sub
      (∀ first, (world.subscription sub).state = .active →
        (world.subscription sub).next_invoice_date = some first →
        ((world.afterPasses passes).subscription sub).next_invoice_date = some (first.stepMonths issued.length) ∧
          issued.Sublist (passes.map fun pass => some pass.today) ∧
          (∀ month date, issued[month]? = some (some date) → first.stepMonths month ≤ date) ∧
          ∀ month, min (month + 1) (passes.countP fun pass => decide (first.stepMonths month ≤ pass.today)) ≤
            issued.length) ∧
      (((world.subscription sub).state = .active → (world.subscription sub).next_invoice_date = none) →
        issued = [] ∧ (world.afterPasses passes).subscription sub = world.subscription sub) := by
  intro sub hsub issued
  have h := world.billedBy_afterPasses hsub passes
  refine ⟨fun first hactive hnext => ?_, h.others⟩
  obtain ⟨hissued, hdate⟩ := h.billed first hactive hnext
  have hmono : Monotone first.stepMonths := fun _ _ hle => first.stepMonths_le hle
  refine ⟨hdate, ?_, fun month date hmonth => ?_, fun month => ?_⟩
  · have hsublist := (served_sublist first.stepMonths (passes.map InvoicingPass.today)).map some
    rw [List.map_map] at hsublist
    change List.Sublist (Billing.invoiceDates world (world.afterPasses passes) sub) _
    rw [hissued]
    exact hsublist
  · change (Billing.invoiceDates world (world.afterPasses passes) sub)[month]? = _ at hmonth
    rw [hissued, List.getElem?_map, Option.map_eq_some_iff] at hmonth
    obtain ⟨_, hserved, heq⟩ := hmonth
    cases heq
    exact due_le_of_served hserved
  · have hmin := min_countP_le_served hmono (passes.map InvoicingPass.today) month
    rw [List.countP_map] at hmin
    change _ ≤ (Billing.invoiceDates world (world.afterPasses passes) sub).length
    rw [hissued, List.length_map]
    exact hmin

/-- Both months that have begun are billed by two passes on the first of February. -/
theorem outage_is_made_up_february :
    let world := databaseOf (fun _ => { name := "Basic", service_type := .dhcp }) [activeCustomer (some newYear)] [] []
    let passes : List InvoicingPass := List.replicate 2 ⟨februaryFirst, fun _ _ => .ok ⟨.not_paid, 25⟩⟩
    2 ≤ (Billing.invoiceDates world (world.afterPasses passes) 0).length := by
  intro world passes
  have hbilled := (outage_is_made_up world passes 0 (List.mem_singleton_self 0)).1 newYear rfl rfl
  have hcount : passes.countP (fun pass => decide (newYear.stepMonths 1 ≤ pass.today)) = 2 := by decide
  have hmade := hbilled.2.2.2 1
  rw [hcount] at hmade
  exact hmade

end getupnet.isp_billing

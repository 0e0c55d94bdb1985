import Getupnet.Calendar.Months
import Getupnet.IspBilling.Subscription

open relational
open calendar
open getupnet.isp_core

namespace getupnet.isp_billing

variable {ρ : Type}

/-- What a pass of `_cron_generate_invoices` leaves. -/
def Billing.afterInvoicing (today : Date) (action_post : Nat → AccountMove → Except OdooError Posting)
    (self : Billing ρ) : Billing ρ :=
  (IspSubscription.cron_generate_invoices today action_post).commit World.rollback self

/-- A pass on each of so many consecutive days. -/
def Billing.afterDays (start : Date) (action_post : Date → Nat → AccountMove → Except OdooError Posting) :
    Nat → Billing ρ → Billing ρ
  | 0, world => world
  | days + 1, world =>
    (Billing.afterDays start action_post days world).afterInvoicing (start.addDays days)
      (action_post (start.addDays days))

/-- The dates of the invoices that a subscription got on top of those it had. -/
def Billing.invoiceDates (before after : Billing ρ) (sub : Nat) : List (Option Date) :=
  ((Store.added before.moves after.moves).filter fun move => decide (move.isp_subscription_id = some sub)).map
    AccountMove.invoice_date

/-- Billing has kept to the anniversary up to the day before `today`: the next
date is as many months after the first as there are invoices, each invoice was
issued the corresponding number of months after the first date, and every month
gone by since has exactly one. -/
structure OnAnniversary (first : Date) (sub : Nat) (before after : Billing ρ) (today : Date) : Prop where
  next : (after.subscription sub).next_invoice_date =
    some (first.addMonths (Billing.invoiceDates before after sub).length)
  issued : ∀ k < (Billing.invoiceDates before after sub).length,
    (Billing.invoiceDates before after sub)[k]? = some (some (first.addMonths k))
  monthly : ∀ month, first.monthIndex ≤ month → month < today.monthIndex →
    ((Billing.invoiceDates before after sub).filter fun date =>
      decide (date.map Date.monthIndex = some month)).length = 1

theorem Billing.afterInvoicing_eq (today : Date) (action_post : Nat → AccountMove → Except OdooError Posting)
    (self : Billing ρ) :
    self.afterInvoicing today action_post =
      self.invoicedAll today action_post
        (self.records.subscriptions.searchDesc (IspSubscription.isBilled today)) :=
  Method.commit_of_ok (IspSubscription.cron_generate_invoices_exec today action_post self)

/-- The invoices of one pass for one subscription, by their dates. -/
theorem Billing.dates_of_pass (today : Date) (action_post : Nat → AccountMove → Except OdooError Posting)
    {subs : List Nat} (hnodup : subs.Nodup) (self : Billing ρ) (sub : Nat) :
    ((((subs.zipIdx self.moves.next_id).map fun (id, move) => self.invoiceFor today action_post id move).filter
        fun move => decide (move.isp_subscription_id = some sub)).map AccountMove.invoice_date) =
      if sub ∈ subs then [some today] else [] := by
  have hfst := List.zipIdx_map_fst self.moves.next_id subs
  have hdates : ((((subs.zipIdx self.moves.next_id).map fun (id, move) =>
      self.invoiceFor today action_post id move).filter
        fun move => decide (move.isp_subscription_id = some sub)).map AccountMove.invoice_date) =
      ((((subs.zipIdx self.moves.next_id).map Prod.fst).filter fun id => id == sub).map fun _ => some today) := by
    simp only [List.filter_map, List.map_map]
    congr 1
    · funext pair
      simp [Billing.invoiceFor, IspSubscription.move_vals]
    · apply List.filter_congr
      intro pair _
      simp [Billing.invoiceFor, IspSubscription.move_vals, beq_eq_decide]
  rw [hdates, hfst, List.filter_beq, List.map_replicate]
  by_cases hmem : sub ∈ subs
  · rw [if_pos hmem, List.count_eq_one_of_mem hnodup hmem]
    rfl
  · rw [if_neg hmem, List.count_eq_zero_of_not_mem hmem]
    rfl

/-- The state of daily billing before the pass of `today`: one invoice for each
of the first one-month steps, all of them issued, and the next one not yet
past. -/
structure BilledUpTo (first : Date) (sub : Nat) (before after : Billing ρ) (today : Date) (count : Nat) :
    Prop where
  member : sub ∈ after.records.subscriptions.ids
  active : (after.subscription sub).state = .active
  next : (after.subscription sub).next_invoice_date = some (first.stepMonths count)
  invoices : ∃ moves, after.moves = before.moves.createAll moves ∧
    ((moves.filter fun move => decide (move.isp_subscription_id = some sub)).map AccountMove.invoice_date) =
      (List.range count).map fun k => some (first.stepMonths k)
  upcoming : today ≤ first.stepMonths count
  past : ∀ k < count, first.stepMonths k < today

theorem BilledUpTo.invoiceDates_eq {first today : Date} {sub count : Nat} {before after : Billing ρ}
    (h : BilledUpTo first sub before after today count) :
    Billing.invoiceDates before after sub = (List.range count).map fun k => some (first.stepMonths k) := by
  obtain ⟨moves, hmoves, hdates⟩ := h.invoices
  rw [Billing.invoiceDates, hmoves, Store.added_createAll, hdates]

theorem lt_tomorrow {a today : Date} (h : a ≤ today) : a < today.tomorrow := by
  rw [Date.lt_iff, today.ordinal_tomorrow]
  have hle := Date.le_iff.mp h
  omega

theorem tomorrow_le {today b : Date} (h : today < b) : today.tomorrow ≤ b := by
  rw [Date.le_iff, today.ordinal_tomorrow]
  have hlt := Date.lt_iff.mp h
  omega

/-- On the day the next invoice falls due, the pass issues it and moves the next
date one month on; on any other day it leaves the subscription alone. -/
theorem BilledUpTo.pass {first today : Date} {sub count : Nat} {before after : Billing ρ}
    (h : BilledUpTo first sub before after today count)
    (action_post : Nat → AccountMove → Except OdooError Posting) :
    ∃ later, BilledUpTo first sub before (after.afterInvoicing today action_post) today.tomorrow later := by
  let subs := after.records.subscriptions.searchDesc (IspSubscription.isBilled today)
  have hnodup : subs.Nodup := Store.searchDesc_nodup _ _
  have hpass : after.afterInvoicing today action_post = after.invoicedAll today action_post subs :=
    after.afterInvoicing_eq today action_post
  have hbilled : sub ∈ subs ↔ first.stepMonths count ≤ today := by
    rw [Store.mem_searchDesc]
    have hsub : after.records.subscriptions.row sub = World.subscription after sub := rfl
    rw [IspSubscription.isBilled_iff, hsub, h.active, h.next]
    simpa using fun _ => h.member
  obtain ⟨moves, hmoves, hdates⟩ := h.invoices
  have hafter := Billing.invoicedAll_moves today action_post hnodup after
  rw [hmoves, ← Store.createAll_append, ← hmoves] at hafter
  have hnew := Billing.dates_of_pass today action_post hnodup after sub
  have hmember : sub ∈ (after.invoicedAll today action_post subs).records.subscriptions.ids := by
    rw [Billing.invoicedAll_ids]
    exact h.member
  by_cases hdue : first.stepMonths count ≤ today
  · have htoday : first.stepMonths count = today := le_antisymm hdue h.upcoming
    rw [if_pos (hbilled.mpr hdue)] at hnew
    obtain ⟨move, hsub⟩ :=
      Billing.invoicedAll_subscription_of_mem today action_post hnodup (hbilled.mpr hdue) after
    rw [h.next, Option.getD_some, ← first.stepMonths_succ] at hsub
    refine ⟨count + 1, ?_⟩
    rw [hpass]
    constructor
    · exact hmember
    · rw [hsub]
      exact h.active
    · rw [hsub]
      rfl
    · refine ⟨_, hafter, ?_⟩
      rw [List.filter_append, List.map_append, hdates, hnew, List.range_succ, List.map_append,
        List.map_singleton, htoday]
    · apply tomorrow_le
      rw [← htoday]
      exact first.stepMonths_lt (Nat.lt_succ_self count)
    · intro k hk
      apply lt_tomorrow
      obtain hlt | rfl := Nat.lt_succ_iff_lt_or_eq.mp hk
      · exact le_of_lt (h.past k hlt)
      · exact hdue
  · have hnot : sub ∉ subs := fun hmem => hdue (hbilled.mp hmem)
    rw [if_neg hnot] at hnew
    have hsub := Billing.invoicedAll_subscription_of_not_mem today action_post hnot after
    refine ⟨count, ?_⟩
    rw [hpass]
    constructor
    · exact hmember
    · rw [hsub]
      exact h.active
    · rw [hsub]
      exact h.next
    · refine ⟨_, hafter, ?_⟩
      rw [List.filter_append, List.map_append, hdates, hnew, List.append_nil]
    · exact tomorrow_le (not_le.mp hdue)
    · exact fun k hk => lt_tomorrow (le_of_lt (h.past k hk))

theorem addDays_succ (start : Date) (days : Nat) :
    start.addDays ((days + 1 : Nat) : Int) = (start.addDays days).tomorrow := by
  apply Date.ordinal_injective
  rw [Date.ordinal_addDays, Date.ordinal_tomorrow, Date.ordinal_addDays]
  omega

/-- Daily billing runs through the one-month steps from the first date on. -/
theorem billedUpTo_afterDays {first start : Date} {sub : Nat} {world : Billing ρ}
    (action_post : Date → Nat → AccountMove → Except OdooError Posting)
    (hsub : sub ∈ world.records.subscriptions.ids) (hactive : (world.subscription sub).state = .active)
    (hnext : (world.subscription sub).next_invoice_date = some first) (hstart : start ≤ first) (days : Nat) :
    ∃ count, BilledUpTo first sub world (world.afterDays start action_post days) (start.addDays days) count := by
  induction days with
  | zero =>
    refine ⟨0, hsub, hactive, hnext, ⟨[], rfl, rfl⟩, ?_, fun k hk => absurd hk (Nat.not_lt_zero k)⟩
    have hsame : start.addDays ((0 : Nat) : Int) = start := by
      apply Date.ordinal_injective
      rw [Date.ordinal_addDays]
      simp
    rw [hsame]
    exact hstart
  | succ days ih =>
    obtain ⟨count, hcount⟩ := ih
    rw [addDays_succ]
    exact hcount.pass (action_post (start.addDays days))

/-- Each month that has gone by since the first date has exactly one invoice,
whatever the days. -/
theorem BilledUpTo.monthly {first today : Date} {sub count : Nat} {before after : Billing ρ}
    (h : BilledUpTo first sub before after today count) (month : Int) (hfrom : first.monthIndex ≤ month)
    (hto : month < today.monthIndex) :
    ((Billing.invoiceDates before after sub).filter fun date =>
      decide (date.map Date.monthIndex = some month)).length = 1 := by
  have hbound : today.monthIndex ≤ first.monthIndex + count := by
    by_contra hnot
    have hlt : first.stepMonths count < today := by
      apply Date.lt_of_monthIndex_lt
      rw [first.stepMonths_monthIndex]
      omega
    exact absurd h.upcoming (not_le.mpr hlt)
  have hmonth : (month - first.monthIndex).toNat < count := by omega
  have hfilter : (List.range count).filter (fun k => (fun date : Option Date =>
      decide (date.map Date.monthIndex = some month)) (some (first.stepMonths k))) =
      (List.range count).filter fun k => k == (month - first.monthIndex).toNat := by
    apply List.filter_congr
    intro k _
    rw [beq_eq_decide]
    apply decide_eq_decide.mpr
    rw [Option.map_some, Option.some.injEq, first.stepMonths_monthIndex]
    omega
  rw [h.invoiceDates_eq, List.filter_map, List.length_map]
  simp only [Function.comp_def]
  rw [hfilter, List.filter_beq, List.length_replicate,
    List.count_eq_one_of_mem List.nodup_range (List.mem_range.mpr hmonth)]

/-- Daily billing gets to every number of invoices. -/
theorem exists_billedUpTo {first start : Date} {sub : Nat} {world : Billing ρ}
    (action_post : Date → Nat → AccountMove → Except OdooError Posting)
    (hsub : sub ∈ world.records.subscriptions.ids) (hactive : (world.subscription sub).state = .active)
    (hnext : (world.subscription sub).next_invoice_date = some first) (hstart : start ≤ first) (count : Nat) :
    ∃ days, BilledUpTo first sub world (world.afterDays start action_post days) (start.addDays days) count := by
  have hle : start.ordinal ≤ (first.stepMonths count).ordinal := by
    obtain rfl | hpositive := Nat.eq_zero_or_pos count
    · exact Date.le_iff.mp hstart
    · have hlater := first.stepMonths_lt hpositive
      rw [first.stepMonths_zero] at hlater
      exact Date.le_iff.mp (le_trans hstart (le_of_lt hlater))
  obtain ⟨days, hdays⟩ : ∃ days : Nat, (days : Int) = (first.stepMonths count).ordinal - start.ordinal :=
    ⟨_, Int.toNat_of_nonneg (by omega)⟩
  have hday : start.addDays days = first.stepMonths count := by
    apply Date.ordinal_injective
    rw [Date.ordinal_addDays]
    omega
  obtain ⟨reached, hreached⟩ := billedUpTo_afterDays action_post hsub hactive hnext hstart days
  have hsame : reached = count := by
    have hupcoming := hreached.upcoming
    rw [hday] at hupcoming
    obtain hlt | heq | hgt := Nat.lt_trichotomy reached count
    · exact absurd hupcoming (not_le.mpr (first.stepMonths_lt hlt))
    · exact heq
    · have hpast := hreached.past count hgt
      rw [hday] at hpast
      exact absurd hpast (lt_irrefl _)
  exact ⟨days, hsame ▸ hreached⟩

/-- After any number of invoices of the daily pass the next date is that many
months after the first one if and only if no month in between is shorter than
the day it should have; and billing keeps to the anniversary for ever exactly
if the first day is one that every month has. -/
theorem cron_generate_invoices_anniversary_iff {first start : Date} {sub : Nat} {world : Billing ρ}
    (action_post : Date → Nat → AccountMove → Except OdooError Posting)
    (hsub : sub ∈ world.records.subscriptions.ids) (hactive : (world.subscription sub).state = .active)
    (hnext : (world.subscription sub).next_invoice_date = some first) (hstart : start ≤ first) :
    (∀ count days,
        (Billing.invoiceDates world (world.afterDays start action_post days) sub).length = count →
        (((world.afterDays start action_post days).subscription sub).next_invoice_date =
            some (first.addMonths count) ↔
          ∀ k ≤ count, min first.day (monthLength (first.monthIndex + count)) ≤
            monthLength (first.monthIndex + k))) ∧
      ((∀ days : Nat,
          OnAnniversary first sub world (world.afterDays start action_post days) (start.addDays days)) ↔
        first.day ≤ 28) := by
  refine ⟨fun count days hcount => ?_, ?_, ?_⟩
  · obtain ⟨reached, hreached⟩ := billedUpTo_afterDays action_post hsub hactive hnext hstart days
    rw [hreached.invoiceDates_eq, List.length_map, List.length_range] at hcount
    subst hcount
    rw [hreached.next, Option.some.injEq]
    exact first.stepMonths_eq_addMonths_iff reached
  · intro hall
    apply first.stepMonths_eq_addMonths_forall_iff.mp
    intro count
    obtain ⟨days, hbilled⟩ := exists_billedUpTo action_post hsub hactive hnext hstart count
    have hkept := (hall days).next
    rw [hbilled.next, hbilled.invoiceDates_eq, List.length_map, List.length_range] at hkept
    exact Option.some.inj hkept
  · intro hday days
    have hsteps := first.stepMonths_eq_addMonths_forall_iff.mpr hday
    obtain ⟨count, hbilled⟩ := billedUpTo_afterDays action_post hsub hactive hnext hstart days
    constructor
    · rw [hbilled.next, hbilled.invoiceDates_eq, List.length_map, List.length_range, hsteps count]
    · intro k hk
      rw [hbilled.invoiceDates_eq, List.length_map, List.length_range] at hk
      rw [hbilled.invoiceDates_eq, List.getElem?_map, List.getElem?_range hk, Option.map_some, hsteps k]
    · exact hbilled.monthly

theorem january_isDay {day : Nat} (hpos : 1 ≤ day) (hle : day ≤ 31) : IsDay 2026 1 day :=
  ⟨by decide, hpos, hle⟩

def january (day : Nat) (hpos : 1 ≤ day) (hle : day ≤ 31) : Date := .of (january_isDay hpos hle)

def januaryDatabase (first : Date) : Billing Unit :=
  databaseOf (fun _ => { name := "Basic", service_type := .dhcp, price := 25 }) [activeCustomer (some first)] [] []

/-- Posting settles nothing but the amount to pay. -/
def postUnpaid : Date → Nat → AccountMove → Except OdooError Posting :=
  fun _ _ _ => .ok { payment_state := .not_paid, amount_residual := 25 }

theorem cron_generate_invoices_anniversary_iff_fifteenth :
    let first := january 15 (by decide) (by decide)
    let world := januaryDatabase first
    (∀ count days,
        (Billing.invoiceDates world (world.afterDays first postUnpaid days) 0).length = count →
        (((world.afterDays first postUnpaid days).subscription 0).next_invoice_date =
            some (first.addMonths count) ↔
          ∀ k ≤ count, min first.day (monthLength (first.monthIndex + count)) ≤
            monthLength (first.monthIndex + k))) ∧
      ((∀ days : Nat, OnAnniversary first 0 world (world.afterDays first postUnpaid days) (first.addDays days)) ↔
        first.day ≤ 28) :=
  cron_generate_invoices_anniversary_iff postUnpaid (List.mem_singleton_self 0) rfl rfl (le_refl _)

/-- A customer billed from the last day of January on is billed on the 28th of
March. -/
theorem january_31_drifts :
    let first := january 31 (by decide) (by decide)
    let world := januaryDatabase first
    ∃ days : Nat, (Billing.invoiceDates world (world.afterDays first postUnpaid days) 0).length = 2 ∧
      ¬ OnAnniversary first 0 world (world.afterDays first postUnpaid days) (first.addDays days) := by
  intro first world
  obtain ⟨days, hbilled⟩ := @exists_billedUpTo _ first first 0 world postUnpaid
    (List.mem_singleton_self 0) rfl rfl (le_refl _) 2
  have hlength : (Billing.invoiceDates world (world.afterDays first postUnpaid days) 0).length = 2 := by
    rw [hbilled.invoiceDates_eq]
    rfl
  refine ⟨days, hlength, fun hkept => ?_⟩
  have hnext := hkept.next
  rw [hbilled.next, hlength, Option.some.injEq] at hnext
  revert hnext
  decide

end getupnet.isp_billing

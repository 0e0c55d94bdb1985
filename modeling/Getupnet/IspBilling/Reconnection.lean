import Getupnet.IspBilling.Subscription

open relational
open calendar
open getupnet.isp_core

namespace getupnet.isp_billing

variable {ρ : Type}

/-- No posted customer invoice of the subscription has a positive residual. -/
def Billing.NothingOwed (self : Billing ρ) (sub : Nat) : Prop :=
  ∀ move ∈ self.moves.ids, (self.moves.row move).isp_subscription_id = some sub → ¬ (self.moves.row move).Owed

/-- Some posted customer invoice is in a state with something left to pay, or
every posted move is paid or in payment. -/
def Billing.OpenMeansOwed (self : Billing ρ) (sub : Nat) : Prop :=
  (∃ move ∈ self.moves.ids, (self.moves.row move).isp_subscription_id = some sub ∧
      (self.moves.row move).move_type = .out_invoice ∧ (self.moves.row move).state = .posted ∧
      ¬ (self.moves.row move).payment_state.Settled) ∨
    ∀ move ∈ self.moves.ids, (self.moves.row move).isp_subscription_id = some sub →
      (self.moves.row move).state = .posted →
      (self.moves.row move).payment_state = .paid ∨ (self.moves.row move).payment_state = .in_payment

/-- What a pass of `_cron_reconnect_on_payment` leaves. -/
def Billing.afterReconnection (clock : Nat → Nat) (self : Billing ρ) : Billing ρ :=
  (IspSubscription.cron_reconnect_on_payment clock).commit World.rollback self

/-- A suspended subscription is reconnected exactly when the search for its
open moves comes back empty. -/
theorem cron_reconnect_on_payment_queues_iff (clock : Nat → Nat) (world : Billing ρ) {sub : Nat}
    (hsub : sub ∈ world.records.subscriptions.ids) (hsuspended : (world.subscription sub).state = .suspended) :
    .reconnect_subscription ∈
        (Billing.queuedFor world (world.afterReconnection clock) sub).map IspProvisioningJob.job_type ↔
      world.open_count sub = 0 := by
  rw [Billing.afterReconnection,
    Method.commit_of_ok (IspSubscription.cron_reconnect_on_payment_exec clock world), Billing.queuedFor_queueAll,
    List.mem_replicate, and_iff_left rfl, Nat.ne_zero_iff_zero_lt, List.count_pos_iff, List.mem_filter,
    Store.mem_searchDesc]
  constructor
  · intro h
    exact of_decide_eq_true h.2
  · intro hnone
    exact ⟨⟨hsub, decide_eq_true hsuspended⟩, decide_eq_true hnone⟩

theorem Billing.open_count_eq_zero_iff (self : Billing ρ) (sub : Nat) :
    self.open_count sub = 0 ↔
      ∀ move ∈ self.moves.ids, (self.moves.row move).isp_subscription_id = some sub →
        (self.moves.row move).isOpen = false := by
  rw [Billing.open_count, List.length_eq_zero_iff, Store.search, List.filter_eq_nil_iff]
  constructor
  · intro hnone move hmove hlinked
    have hnot := hnone move hmove
    simpa [hlinked] using hnot
  · intro hclosed move hmove hopen
    rw [Bool.and_eq_true, decide_eq_true_iff] at hopen
    rw [hclosed move hmove hopen.1] at hopen
    cases hopen.2

/-- A pass reconnects a suspended subscription if and only if nothing is owed,
exactly when one of its posted customer invoices is neither paid nor cancelled,
or all its posted moves are paid: an invoice cancelled by a credit note counts
as open, and so does any other kind of move. -/
theorem cron_reconnect_on_payment_iff_nothing_owed_iff (clock : Nat → Nat) (world : Billing ρ)
    (hresiduals : world.records.extension.ResidualsAgree) {sub : Nat}
    (hsub : sub ∈ world.records.subscriptions.ids) (hsuspended : (world.subscription sub).state = .suspended) :
    (.reconnect_subscription ∈
          (Billing.queuedFor world (world.afterReconnection clock) sub).map IspProvisioningJob.job_type ↔
        world.NothingOwed sub) ↔
      world.OpenMeansOwed sub := by
  rw [Billing.OpenMeansOwed, cron_reconnect_on_payment_queues_iff clock world hsub hsuspended,
    Billing.open_count_eq_zero_iff]
  constructor
  · intro hiff
    by_cases hclosed : ∀ move ∈ world.moves.ids, (world.moves.row move).isp_subscription_id = some sub →
        (world.moves.row move).isOpen = false
    · refine Or.inr fun move hmove hlinked hposted => ?_
      by_contra hunpaid
      have hopen := (AccountMove.isOpen_iff _).mpr
        ⟨hposted, fun hpaid => hunpaid (Or.inl hpaid), fun hpayment => hunpaid (Or.inr hpayment)⟩
      rw [hclosed move hmove hlinked] at hopen
      cases hopen
    · have howed : ¬ world.NothingOwed sub := fun hnothing => hclosed (hiff.mpr hnothing)
      unfold Billing.NothingOwed at howed
      push Not at howed
      obtain ⟨move, hmove, hlinked, howes⟩ := howed
      exact Or.inl ⟨move, hmove, hlinked, (hresiduals.owed_iff hmove).mp howes⟩
  · intro hcases
    obtain ⟨move, hmove, hlinked, hinvoice⟩ | hpaid := hcases
    · have howed : (world.moves.row move).Owed := (hresiduals.owed_iff hmove).mpr hinvoice
      refine iff_of_false (fun hclosed => ?_) (fun hnothing => hnothing move hmove hlinked howed)
      have hopen := (AccountMove.isOpen_iff (world.moves.row move)).mpr
        ⟨hinvoice.2.1, fun hstate => hinvoice.2.2 (Or.inl hstate),
          fun hstate => hinvoice.2.2 (Or.inr (Or.inl hstate))⟩
      rw [hclosed move hmove hlinked] at hopen
      cases hopen
    · refine iff_of_true (fun move hmove hlinked => ?_) (fun move hmove hlinked howes => ?_)
      · by_contra hopen
        obtain ⟨hposted, hnotPaid, hnotPayment⟩ :=
          (AccountMove.isOpen_iff _).mp (Bool.eq_true_of_not_eq_false hopen)
        obtain hstate | hstate := hpaid move hmove hlinked hposted
        · exact hnotPaid hstate
        · exact hnotPayment hstate
      · obtain ⟨_, hposted, hunsettled⟩ := (hresiduals.owed_iff hmove).mp howes
        obtain hstate | hstate := hpaid move hmove hlinked hposted
        · exact hunsettled (Or.inl hstate)
        · exact hunsettled (Or.inr (Or.inl hstate))

/-- A suspended customer. -/
def cutOffCustomer : IspSubscription where
  name := "SUB0001"
  partner_id := 0
  plan_id := 0
  sector_id := 0
  state := .suspended
  gps_lat := 18
  gps_lng := 69
  checked := rfl

/-- The customer with one posted invoice in a state with nothing left to pay. -/
def cutOffWith (payment_state : PaymentState) : Billing Unit :=
  databaseOf (fun _ => { name := "Basic", service_type := .dhcp }) [cutOffCustomer] []
    [{ noMove with
        move_type := .out_invoice
        isp_subscription_id := some 0
        state := .posted
        payment_state }]

theorem cutOffWith_residualsAgree {payment_state : PaymentState} (h : payment_state.Settled) :
    (cutOffWith payment_state).records.extension.ResidualsAgree := by
  intro move hmove _ _
  rw [List.mem_singleton.mp hmove]
  exact ⟨le_refl _, iff_of_true rfl h⟩

theorem cron_reconnect_on_payment_iff_nothing_owed_iff_paid :
    (.reconnect_subscription ∈
          (Billing.queuedFor (cutOffWith .paid) ((cutOffWith .paid).afterReconnection fun _ => 0) 0).map
            IspProvisioningJob.job_type ↔
        (cutOffWith .paid).NothingOwed 0) ↔
      (cutOffWith .paid).OpenMeansOwed 0 :=
  cron_reconnect_on_payment_iff_nothing_owed_iff (fun _ => 0) (cutOffWith .paid)
    (cutOffWith_residualsAgree (Or.inl rfl)) (List.mem_singleton_self 0) rfl

/-- A customer whose only invoice was cancelled by a credit note owes nothing
and is not reconnected. -/
theorem credited_customer_not_reconnected :
    (cutOffWith .reversed).records.extension.ResidualsAgree ∧
      0 ∈ (cutOffWith .reversed).records.subscriptions.ids ∧
      ((cutOffWith .reversed).subscription 0).state = .suspended ∧
      ¬ (.reconnect_subscription ∈
            (Billing.queuedFor (cutOffWith .reversed) ((cutOffWith .reversed).afterReconnection fun _ => 0) 0).map
              IspProvisioningJob.job_type ↔
          (cutOffWith .reversed).NothingOwed 0) := by
  have hsettled : PaymentState.reversed.Settled := Or.inr (Or.inr rfl)
  refine ⟨cutOffWith_residualsAgree hsettled, List.mem_singleton_self 0, rfl, fun hiff => ?_⟩
  have hnothing : (cutOffWith .reversed).NothingOwed 0 := by
    intro move hmove _ howes
    rw [List.mem_singleton.mp hmove] at howes
    exact absurd howes.2.2 (lt_irrefl 0)
  have hqueued := hiff.mpr hnothing
  revert hqueued
  decide

end getupnet.isp_billing

import Getupnet.IspBilling.Booking

open relational
open calendar
open getupnet.isp_core

namespace getupnet.isp_billing

/-- Booked money shows: the applied transfers are those with a payment, and none
that is a draft, under review or rejected has one. -/
def Transfers.ShowsBooking (self : Transfers) : Prop :=
  ∀ id ∈ self.transfers.ids,
    ((self.transfer id).state = .applied ↔ (self.transfer id).accounting_payment_id.isSome = true) ∧
      ((self.transfer id).state = .draft ∨ (self.transfer id).state = .in_review ∨
        (self.transfer id).state = .rejected → (self.transfer id).accounting_payment_id = none)

/-- The record check or the missing reason makes the call raise. -/
def TransferCall.Refused (world : Transfers) : TransferCall → Prop
  | .action_submit _ _ transfers => ∃ id ∈ transfers, (world.transfer id).attachment_ids = []
  | .action_reject _ transfers =>
    ∃ id ∈ transfers, truthy (world.transfer id).rejection_reason = false ∨
      (world.transfer id).attachment_ids = []
  | .action_approve _ _ _ _ | .cron_transfer_deadlines _ => False

/-- No transfer with a booked payment is submitted or rejected. -/
def TransferCall.Unbooked (world : Transfers) : TransferCall → Prop
  | .action_submit _ _ transfers | .action_reject _ transfers =>
    ∀ id ∈ transfers, (world.transfer id).accounting_payment_id = none
  | .action_approve _ _ _ _ | .cron_transfer_deadlines _ => True

/-- What the calls of one loop have in common: what makes a call raise stays,
and a transfer either keeps its state or is taken to the one of the loop. -/
structure Transfers.Sends (state : TransferState) (before after : Transfers) : Prop where
  ids : after.transfers.ids = before.transfers.ids
  attachments : ∀ id, (after.transfer id).attachment_ids = (before.transfer id).attachment_ids
  reason : ∀ id, (after.transfer id).rejection_reason = (before.transfer id).rejection_reason
  payments : before.KeepsPayments after
  state : ∀ id, (after.transfer id).state = (before.transfer id).state ∨ (after.transfer id).state = state

section

variable {state : TransferState}

theorem Transfers.sends_refl (world : Transfers) : world.Sends state world :=
  ⟨rfl, fun _ => rfl, fun _ => rfl, fun _ _ => id, fun _ => Or.inl rfl⟩

theorem Transfers.sends_trans (first second third : Transfers) (h : first.Sends state second)
    (hnext : second.Sends state third) : first.Sends state third where
  ids := hnext.ids.trans h.ids
  attachments := fun id => (hnext.attachments id).trans (h.attachments id)
  reason := fun id => (hnext.reason id).trans (h.reason id)
  payments := Transfers.keepsPayments_trans _ _ _ h.payments hnext.payments
  state := by
    intro id
    obtain hsame | htaken := hnext.state id
    · rw [hsame]
      exact h.state id
    · exact Or.inr htaken

theorem Transfers.Settles.sends {world after : Transfers} {id : Nat} (h : world.Settles id state after) :
    world.Sends state after := by
  refine ⟨h.ids, fun other => ?_, fun other => ?_, h.keepsPayments, fun other => ?_⟩
  · by_cases hsame : other = id
    · rw [hsame, h.attachments]
    · rw [h.others other hsame]
  · by_cases hsame : other = id
    · rw [hsame, h.reason]
    · rw [h.others other hsame]
  · by_cases hsame : other = id
    · exact Or.inr (hsame ▸ h.state)
    · exact Or.inl (congrArg (fun transfer : IspBankTransferPayment => transfer.state) (h.others other hsame))

/-- The bookings show when the one of the settled transfer does. -/
theorem Transfers.Settles.showsBooking {world after : Transfers} {id : Nat} (h : world.Settles id state after)
    (hshows : world.ShowsBooking)
    (hself : id ∈ world.transfers.ids →
      ((after.transfer id).state = .applied ↔ (after.transfer id).accounting_payment_id.isSome = true)) :
    after.ShowsBooking := by
  intro other hother
  rw [h.ids] at hother
  by_cases hsame : other = id
  · subst hsame
    refine ⟨hself hother, fun hstate => ?_⟩
    have hnot : (after.transfer other).state ≠ .applied := by
      obtain hstate | hstate | hstate := hstate <;> simp [hstate]
    have hnone := fun hsome => hnot ((hself hother).mpr hsome)
    simpa using hnone
  · rw [h.others other hsame]
    exact hshows other hother

section

variable {method : Nat → Method Transfers OdooError Unit} {world after : Transfers} {transfers : List Nat}

/-- A loop over transfers without payment, none of which it applies. -/
theorem showsBooking_of_unbooked
    (hsettles : ∀ id world after, (method id).exec world = (.ok (), after) →
      world.Settles id state after ∧ (after.transfer id).accounting_payment_id = (world.transfer id).accounting_payment_id)
    (hstate : state ≠ .applied) (hunbooked : ∀ id ∈ transfers, (world.transfer id).accounting_payment_id = none)
    (hshows : world.ShowsBooking) (h : (Method.forEach method transfers).exec world = (.ok (), after)) :
    after.ShowsBooking := by
  refine @Method.forEach_keeps _ _ _ _ Transfers.ShowsBooking
    (fun world id => (world.transfer id).accounting_payment_id = none) (fun _ _ => True) ?_ ?_ transfers
    (List.pairwise_of_forall fun _ _ => trivial) world after hunbooked hshows h
  · intro id world after hnone hshows hcall
    obtain ⟨hsettle, hpayment⟩ := hsettles id world after hcall
    refine hsettle.showsBooking hshows (fun _ => iff_of_false ?_ ?_)
    · rw [hsettle.state]
      exact hstate
    · rw [hpayment, hnone]
      exact Bool.false_ne_true
  · intro id other world after _ _ hother hcall
    obtain ⟨hsettle, hpayment⟩ := hsettles id world after hcall
    by_cases hsame : other = id
    · subst hsame
      rw [hpayment, hother]
    · rw [hsettle.others other hsame, hother]

end

end

section

variable {world after : Transfers} {call : TransferCall}

/-- A call that is refused or touches no booked transfer keeps the bookings in view. A
refused one is undone as a whole, and of the others only submissions and rejections could
hide a payment. -/
theorem TransferStep.showsBooking (hshows : world.ShowsBooking) (hcall : call.Refused world ∨ call.Unbooked world)
    (hstep : TransferStep world call after) : after.ShowsBooking := by
  obtain ⟨hpossible, rfl⟩ := hstep
  refine @Method.commit_relates _ _ _ (fun before _ => before) call.method (fun _ after => after.ShowsBooking) world
    (fun _ after h => ?_) (fun _ => hshows)
  cases call with
  | action_submit settings now transfers =>
    have hunbooked : ∀ id ∈ transfers, (world.transfer id).accounting_payment_id = none := by
      obtain ⟨id, hid, hmissing⟩ | hunbooked := hcall
      · -- a submitted transfer has an attachment, so the loop cannot have returned
        obtain ⟨middle, next, hbefore, hsubmit, _⟩ := Method.forEach_reaches Transfers.sends_refl
          Transfers.sends_trans (fun _ _ _ hsubmit => (IspBankTransferPayment.submit_returns hsubmit).1.sends) hid h
        have hsettles := (IspBankTransferPayment.submit_returns hsubmit).1
        have hpresent := (next.transfer id).attachment_ids_ne_nil (by rw [hsettles.state]; simp)
        rw [hsettles.attachments, hbefore.attachments id] at hpresent
        exact absurd hmissing hpresent
      · exact hunbooked
    exact showsBooking_of_unbooked (fun _ _ _ hsubmit => IspBankTransferPayment.submit_returns hsubmit) (by simp)
      hunbooked hshows h
  | action_reject user transfers =>
    have hunbooked : ∀ id ∈ transfers, (world.transfer id).accounting_payment_id = none := by
      obtain ⟨id, hid, hmissing⟩ | hunbooked := hcall
      · obtain ⟨middle, next, hbefore, hreject, _⟩ := Method.forEach_reaches Transfers.sends_refl
          Transfers.sends_trans (fun _ _ _ hreject => (IspBankTransferPayment.reject_returns hreject).2.1.sends) hid h
        obtain ⟨hreason, hsettles, _⟩ := IspBankTransferPayment.reject_returns hreject
        obtain hnone | hnil := hmissing
        · rw [hbefore.reason id, hnone] at hreason
          cases hreason
        · have hpresent := (next.transfer id).attachment_ids_ne_nil (by rw [hsettles.state]; simp)
          rw [hsettles.attachments, hbefore.attachments id] at hpresent
          exact absurd hnil hpresent
      · exact hunbooked
    exact showsBooking_of_unbooked (fun _ _ _ hreject => (IspBankTransferPayment.reject_returns hreject).2) (by simp)
      hunbooked hshows h
  | action_approve bank today user transfers =>
    refine @Method.forEach_keeps _ _ _ _ Transfers.ShowsBooking (fun _ _ => True) (fun _ _ => True) ?_
      (fun _ _ _ _ _ _ _ _ => trivial) transfers (List.pairwise_of_forall fun _ _ => trivial) world after
      (fun _ _ => trivial) hshows h
    intro id world after _ hshows happrove
    obtain ⟨hsettles, hbooked⟩ := IspBankTransferPayment.approve_returns hpossible.2 happrove
    exact hsettles.showsBooking hshows fun _ => iff_of_true hsettles.state hbooked
  | cron_transfer_deadlines now =>
    refine @Method.forEach_keeps _ _ _ _ Transfers.ShowsBooking (fun _ _ => True) (fun _ _ => True) ?_
      (fun _ _ _ _ _ _ _ _ => trivial) _ (List.pairwise_of_forall fun _ _ => trivial) world after
      (fun _ _ => trivial) hshows h
    intro id world after _ hshows hflag
    obtain ⟨hsettles, hpayment⟩ := IspBankTransferPayment.flag_returns hflag
    refine hsettles.showsBooking hshows fun hid => ?_
    rw [hsettles.state, hpayment]
    exact (hshows id hid).1

end

end getupnet.isp_billing

import Getupnet.IspBilling.BankTransferPayment
import Getupnet.Relational.Outcome

open relational
open calendar
open getupnet.isp_core

namespace getupnet.isp_billing

/-- A transfer has been taken to a state: nothing else has changed but its
review, and the payment booked for it if it had none. -/
structure Transfers.Settles (world : Transfers) (id : Nat) (state : TransferState) (after : Transfers) :
    Prop where
  ids : after.transfers.ids = world.transfers.ids
  others : ∀ other ≠ id, after.transfer other = world.transfer other
  state : (after.transfer id).state = state
  attachments : (after.transfer id).attachment_ids = (world.transfer id).attachment_ids
  reason : (after.transfer id).rejection_reason = (world.transfer id).rejection_reason
  booking : (after.transfer id).accounting_payment_id = (world.transfer id).accounting_payment_id ∧
      after.completions = world.completions ∨
    (world.transfer id).accounting_payment_id = none ∧ (after.transfer id).accounting_payment_id.isSome = true ∧
      after.completions = world.completions ++ [id]

/-- Fields of one transfer have been written, and nothing else of the transfers. -/
structure Transfers.Assigned (world : Transfers) (id : Nat) (change : TransferValues → TransferValues)
    (after : Transfers) : Prop where
  ids : after.transfers.ids = world.transfers.ids
  completions : after.completions = world.completions
  values : (after.transfer id).toTransferValues = change (world.transfer id).toTransferValues
  others : ∀ other ≠ id, after.transfer other = world.transfer other

/-- The change leaves what the review asks for and the booked payment alone. -/
def KeepsBooking (change : TransferValues → TransferValues) : Prop :=
  ∀ values, (change values).attachment_ids = values.attachment_ids ∧
    (change values).rejection_reason = values.rejection_reason ∧
    (change values).accounting_payment_id = values.accounting_payment_id

section

variable {world middle after : Transfers} {id : Nat} {change : TransferValues → TransferValues}

theorem Transfers.Assigned.trans {first second : TransferValues → TransferValues}
    (h : world.Assigned id first middle) (hnext : middle.Assigned id second after) :
    world.Assigned id (fun values => second (first values)) after where
  ids := hnext.ids.trans h.ids
  completions := hnext.completions.trans h.completions
  values := hnext.values.trans (congrArg second h.values)
  others := fun other hother => (hnext.others other hother).trans (h.others other hother)

theorem Transfers.Assigned.settles {state : TransferState} (h : world.Assigned id change after)
    (hkeeps : KeepsBooking change) (hstate : (change (world.transfer id).toTransferValues).state = state) :
    world.Settles id state after := by
  obtain ⟨hattachments, hreason, hpayment⟩ := hkeeps (world.transfer id).toTransferValues
  refine ⟨h.ids, h.others, ?_, ?_, ?_, Or.inl ⟨?_, h.completions⟩⟩
  · rw [h.values, hstate]
  · rw [h.values, hattachments]
  · rw [h.values, hreason]
  · rw [h.values, hpayment]

theorem Transfers.Assigned.payment_eq (h : world.Assigned id change after) (hkeeps : KeepsBooking change) :
    (after.transfer id).accounting_payment_id = (world.transfer id).accounting_payment_id := by
  rw [h.values, (hkeeps _).2.2]

/-- A review step before the one that settles the transfer. -/
theorem Transfers.Assigned.settles_trans {state : TransferState} (h : world.Assigned id change middle)
    (hkeeps : KeepsBooking change) (hnext : middle.Settles id state after) : world.Settles id state after := by
  obtain ⟨hattachments, hreason, hpayment⟩ := hkeeps (world.transfer id).toTransferValues
  rw [← h.values] at hattachments hreason hpayment
  refine ⟨hnext.ids.trans h.ids, fun other hother => (hnext.others other hother).trans (h.others other hother),
    hnext.state, hnext.attachments.trans hattachments, hnext.reason.trans hreason, ?_⟩
  have hbooking := hnext.booking
  rw [hpayment, h.completions] at hbooking
  exact hbooking

theorem IspBankTransferPayment.assign_returns
    (h : (IspBankTransferPayment.assign id change).exec world = (.ok (), after)) :
    world.Assigned id change after := by
  rw [IspBankTransferPayment.assign, Method.exec_get_bind, Method.exec_bind, Method.exec_ofExcept] at h
  cases hstore : (change (world.transfer id).toTransferValues).store with
  | error exception =>
    rw [hstore] at h
    cases h
  | ok record =>
    rw [hstore] at h
    cases h
    refine ⟨rfl, rfl, ?_, fun other hother => world.transfers.write_row_ne hother fun _ => record⟩
    rw [← TransferValues.store_eq_ok hstore]
    exact congrArg IspBankTransferPayment.toTransferValues (world.transfers.write_row_self id fun _ => record)

/-- A write is refused for want of an attachment only, and never to a draft. -/
theorem IspBankTransferPayment.assign_raises {exception : OdooError}
    (h : (IspBankTransferPayment.assign id change).exec world = (.error exception, after)) :
    (change (world.transfer id).toTransferValues).state ≠ .draft ∧
      (change (world.transfer id).toTransferValues).attachment_ids = [] := by
  rw [IspBankTransferPayment.assign, Method.exec_get_bind, Method.exec_bind, Method.exec_ofExcept] at h
  cases hstore : (change (world.transfer id).toTransferValues).store with
  | error raised => exact TransferValues.of_store_error hstore
  | ok record =>
    rw [hstore] at h
    cases h

/-- A write goes through to a draft and to a transfer with an attachment. -/
theorem IspBankTransferPayment.assign_returnsIff :
    (IspBankTransferPayment.assign id change).ReturnsIff world
      ((change (world.transfer id).toTransferValues).state = .draft ∨
        (change (world.transfer id).toTransferValues).attachment_ids ≠ [])
      (fun _ after => world.Assigned id change after) := by
  unfold Method.ReturnsIff
  cases hexec : (IspBankTransferPayment.assign id change).exec world with
  | mk result after =>
    cases result with
    | ok value =>
      have hassigned := IspBankTransferPayment.assign_returns hexec
      refine ⟨?_, hassigned⟩
      rw [← hassigned.values]
      exact or_iff_not_imp_left.mpr fun hstate => (after.transfer id).attachment_ids_ne_nil hstate
    | error exception =>
      rintro (hdraft | hattached)
      · exact (IspBankTransferPayment.assign_raises hexec).1 hdraft
      · exact hattached (IspBankTransferPayment.assign_raises hexec).2

theorem IspBankTransferPayment.submit_returns {settings : TransferSettings} {now : Int}
    (h : (IspBankTransferPayment.submit settings now id).exec world = (.ok (), after)) :
    world.Settles id .in_review after ∧
      (after.transfer id).accounting_payment_id = (world.transfer id).accounting_payment_id := by
  obtain ⟨middle, hfirst, hsecond⟩ := Method.exec_then_returns h
  have hassigned := (IspBankTransferPayment.assign_returns hfirst).trans
    (IspBankTransferPayment.assign_returns hsecond)
  exact ⟨hassigned.settles (fun _ => ⟨rfl, rfl, rfl⟩) rfl, hassigned.payment_eq fun _ => ⟨rfl, rfl, rfl⟩⟩

theorem IspBankTransferPayment.reject_returns {user : Nat}
    (h : (IspBankTransferPayment.reject user id).exec world = (.ok (), after)) :
    truthy (world.transfer id).rejection_reason = true ∧ world.Settles id .rejected after ∧
      (after.transfer id).accounting_payment_id = (world.transfer id).accounting_payment_id := by
  rw [IspBankTransferPayment.reject, Method.exec_get_bind] at h
  by_cases hreason : truthy (world.transfer id).rejection_reason = true
  · rw [if_neg (not_not_intro hreason)] at h
    obtain ⟨middle, hfirst, hsecond⟩ := Method.exec_then_returns h
    have hassigned := (IspBankTransferPayment.assign_returns hfirst).trans
      (IspBankTransferPayment.assign_returns hsecond)
    exact ⟨hreason, hassigned.settles (fun _ => ⟨rfl, rfl, rfl⟩) rfl,
      hassigned.payment_eq fun _ => ⟨rfl, rfl, rfl⟩⟩
  · rw [if_pos hreason] at h
    cases h

end

section

variable {bank : Bank} {today : Date} {world after : Transfers} {id : Nat}

/-- A wizard that pays links a payment. -/
theorem IspBankTransferPayment.register_payment_returns (hpays : bank.Pays) {journal : AccountJournal}
    (h : (IspBankTransferPayment.register_payment bank today journal id).exec world = (.ok (), after)) :
    world.Assigned id (fun rec => { rec with accounting_payment_id := some world.payments.next_id }) after := by
  rw [IspBankTransferPayment.register_payment, Method.exec_get_bind, Method.exec_bind, Method.exec_ofExcept] at h
  cases hcreated : bank.create_payments world.payments
      { active_ids := (world.transfer id).invoice_ids, payment_date := today, amount := (world.transfer id).amount,
        journal_id := journal.id } with
  | error exception =>
    rw [hcreated] at h
    cases h
  | ok payments =>
    rw [hcreated] at h
    cases payments with
    | nil => exact absurd rfl (hpays _ _ _ hcreated)
    | cons payment rest =>
      obtain ⟨middle, hcreate, hlink⟩ := Method.exec_then_returns h
      cases hcreate
      have hassigned := IspBankTransferPayment.assign_returns hlink
      exact ⟨hassigned.ids, hassigned.completions, hassigned.values, hassigned.others⟩

theorem IspBankTransferPayment.post_payment_returns {journal : AccountJournal}
    (h : (IspBankTransferPayment.post_payment bank today journal id).exec world = (.ok (), after)) :
    world.Assigned id (fun rec => { rec with accounting_payment_id := some world.payments.next_id }) after := by
  rw [IspBankTransferPayment.post_payment, Method.exec_get_bind] at h
  obtain ⟨middle, hcreate, hrest⟩ := Method.exec_then_returns h
  cases hcreate
  obtain ⟨middle, hpost, hlink⟩ := Method.exec_then_returns hrest
  obtain ⟨_, rfl⟩ := Prod.mk.inj hpost
  have hassigned := IspBankTransferPayment.assign_returns hlink
  exact ⟨hassigned.ids, hassigned.completions, hassigned.values, hassigned.others⟩

/-- Whatever the branch, a returning call leaves the transfer applied with a
payment, and books one only if there was none. -/
theorem IspBankTransferPayment.create_and_apply_returns (hpays : bank.Pays)
    (h : (IspBankTransferPayment.create_and_apply bank today id).exec world = (.ok (), after)) :
    world.Settles id .applied after ∧ (after.transfer id).accounting_payment_id.isSome = true := by
  rw [IspBankTransferPayment.create_and_apply, Method.exec_get_bind] at h
  dsimp only at h
  cases hpayment : (world.transfer id).accounting_payment_id with
  | some payment =>
    rw [hpayment] at h
    have hassigned := IspBankTransferPayment.assign_returns h
    refine ⟨hassigned.settles (fun _ => ⟨rfl, rfl, rfl⟩) rfl, ?_⟩
    rw [hassigned.values]
    exact Option.isSome_iff_exists.mpr ⟨payment, hpayment⟩
  | none =>
    cases hjournal : bank.default_journal with
    | none =>
      rw [hpayment, hjournal] at h
      cases h
    | some journal =>
      rw [hpayment, hjournal] at h
      dsimp only at h
      obtain ⟨booked, hbook, hrest⟩ : ∃ booked,
          world.Assigned id (fun rec => { rec with accounting_payment_id := some world.payments.next_id }) booked ∧
            Method.exec (do
              modify fun world : Transfers => { world with completions := world.completions ++ [id] }
              IspBankTransferPayment.assign id fun rec => { rec with state := .applied }) booked =
              (.ok (), after) := by
        by_cases hinvoices : (world.transfer id).invoice_ids ≠ []
        · rw [if_pos hinvoices] at h
          obtain ⟨booked, hbook, hrest⟩ := Method.exec_then_returns h
          exact ⟨booked, IspBankTransferPayment.register_payment_returns hpays hbook, hrest⟩
        · rw [if_neg hinvoices] at h
          obtain ⟨booked, hbook, hrest⟩ := Method.exec_then_returns h
          exact ⟨booked, IspBankTransferPayment.post_payment_returns hbook, hrest⟩
      obtain ⟨completed, hcomplete, happly⟩ := Method.exec_then_returns hrest
      cases hcomplete
      have hassigned := IspBankTransferPayment.assign_returns happly
      have hvalues : (after.transfer id).toTransferValues =
          { (booked.transfer id).toTransferValues with state := .applied } := hassigned.values
      have hbooked : (after.transfer id).accounting_payment_id = some world.payments.next_id := by
        rw [hvalues]
        exact congrArg TransferValues.accounting_payment_id hbook.values
      refine ⟨⟨hassigned.ids.trans hbook.ids,
        fun other hother => (hassigned.others other hother).trans (hbook.others other hother), ?_, ?_, ?_,
        Or.inr ⟨hpayment, ?_, ?_⟩⟩, ?_⟩
      · rw [hvalues]
      · rw [hvalues, hbook.values]
      · rw [hvalues, hbook.values]
      · rw [hbooked]
        rfl
      · exact hassigned.completions.trans (congrArg (· ++ [id]) hbook.completions)
      · rw [hbooked]
        rfl

theorem IspBankTransferPayment.approve_returns (hpays : bank.Pays) {user : Nat}
    (h : (IspBankTransferPayment.approve bank today user id).exec world = (.ok (), after)) :
    world.Settles id .applied after ∧ (after.transfer id).accounting_payment_id.isSome = true := by
  obtain ⟨reviewed, hreview, hrest⟩ := Method.exec_then_returns h
  obtain ⟨approved, happrove, hbook⟩ := Method.exec_then_returns hrest
  rw [IspBankTransferPayment.create_and_apply_payment, Method.forEach_singleton] at hbook
  have hassigned := (IspBankTransferPayment.assign_returns hreview).trans
    (IspBankTransferPayment.assign_returns happrove)
  obtain ⟨hsettles, hpayment⟩ := IspBankTransferPayment.create_and_apply_returns hpays hbook
  exact ⟨hassigned.settles_trans (fun _ => ⟨rfl, rfl, rfl⟩) hsettles, hpayment⟩

end

/-- The creation of a payment was completed at most once for each transfer, and
only for transfers that have one. -/
def Transfers.BookedOnce (self : Transfers) : Prop :=
  ∀ id, self.completions.count id ≤ if (self.transfer id).accounting_payment_id.isSome then 1 else 0

/-- A booked payment stays the one of its transfer. -/
def Transfers.KeepsPayments (before after : Transfers) : Prop :=
  ∀ id payment, (before.transfer id).accounting_payment_id = some payment →
    (after.transfer id).accounting_payment_id = some payment

theorem Transfers.keepsPayments_trans (first second third : Transfers) (h : first.KeepsPayments second)
    (hnext : second.KeepsPayments third) : first.KeepsPayments third :=
  fun id payment hpayment => hnext id payment (h id payment hpayment)

section

variable {world after : Transfers} {id : Nat} {state : TransferState}

theorem Transfers.Settles.keepsPayments (h : world.Settles id state after) : world.KeepsPayments after := by
  intro other payment hpayment
  by_cases hsame : other = id
  · subst hsame
    obtain ⟨hkept, _⟩ | ⟨hnone, _⟩ := h.booking
    · rw [hkept, hpayment]
    · rw [hnone] at hpayment
      cases hpayment
  · rw [h.others other hsame, hpayment]

/-- A booking completes only where no payment was linked before, that is where
none was completed before. -/
theorem Transfers.Settles.bookedOnce (h : world.Settles id state after) (hbooked : world.BookedOnce) :
    after.BookedOnce := by
  intro other
  have hother := hbooked other
  obtain ⟨hkept, hcompletions⟩ | ⟨hnone, hsome, hcompletions⟩ := h.booking
  · rw [hcompletions]
    by_cases hsame : other = id
    · rw [hsame] at hother ⊢
      rw [hkept]
      exact hother
    · rw [h.others other hsame]
      exact hother
  · rw [hcompletions, List.count_append]
    by_cases hsame : other = id
    · rw [hsame] at hother ⊢
      rw [hnone] at hother
      rw [hsome]
      simpa using hother
    · rw [h.others other hsame, List.count_singleton, beq_false_of_ne (Ne.symm hsame)]
      exact hother

end

/-- What a call does to the bookings. -/
structure Transfers.Books (before after : Transfers) : Prop where
  ids : after.transfers.ids = before.transfers.ids
  once : before.BookedOnce → after.BookedOnce
  payments : before.KeepsPayments after

theorem Transfers.books_refl (world : Transfers) : world.Books world :=
  ⟨rfl, id, fun _ _ => id⟩

theorem Transfers.books_trans (first second third : Transfers) (h : first.Books second)
    (hnext : second.Books third) : first.Books third :=
  ⟨hnext.ids.trans h.ids, fun hbooked => hnext.once (h.once hbooked),
    Transfers.keepsPayments_trans _ _ _ h.payments hnext.payments⟩

theorem Transfers.Settles.books {world after : Transfers} {id : Nat} {state : TransferState}
    (h : world.Settles id state after) : world.Books after :=
  ⟨h.ids, h.bookedOnce, h.keepsPayments⟩

theorem IspBankTransferPayment.flag_returns {world after : Transfers} {id : Nat}
    (h : (IspBankTransferPayment.assign id fun rec => { rec with needs_attention := true }).exec world =
      (.ok (), after)) :
    world.Settles id (world.transfer id).state after ∧
      (after.transfer id).accounting_payment_id = (world.transfer id).accounting_payment_id :=
  ⟨(IspBankTransferPayment.assign_returns h).settles (fun _ => ⟨rfl, rfl, rfl⟩) rfl,
    (IspBankTransferPayment.assign_returns h).payment_eq fun _ => ⟨rfl, rfl, rfl⟩⟩

/-- Every call settles some transfers, one after the other, or is undone. -/
theorem TransferStep.books {world after : Transfers} {call : TransferCall}
    (hstep : TransferStep world call after) :
    world.Books after := by
  obtain ⟨hpossible, rfl⟩ := hstep
  refine Method.commit_relates (fun _ after h => ?_) (fun _ => world.books_refl)
  cases call with
  | action_submit settings now transfers =>
    exact Method.forEach_relates Transfers.books_refl Transfers.books_trans
      (fun _ _ _ _ hsubmit => (IspBankTransferPayment.submit_returns hsubmit).1.books) h
  | action_reject user transfers =>
    exact Method.forEach_relates Transfers.books_refl Transfers.books_trans
      (fun _ _ _ _ hreject => (IspBankTransferPayment.reject_returns hreject).2.1.books) h
  | action_approve bank today user transfers =>
    exact Method.forEach_relates Transfers.books_refl Transfers.books_trans
      (fun _ _ _ _ happrove => (IspBankTransferPayment.approve_returns hpossible.2 happrove).1.books) h
  | cron_transfer_deadlines now =>
    exact Method.forEach_relates Transfers.books_refl Transfers.books_trans
      (fun _ _ _ _ hflag => (IspBankTransferPayment.flag_returns hflag).1.books) h

/-- In every run the creation of a payment is completed at most once for each transfer,
and the payment linked to a transfer never changes. This needs no condition on the calls:
the link is written in the transaction that posts the payment, and every approval looks
for it first. -/
theorem payment_booked_once {initial reached : Transfers} {taken : List (Transfers × TransferCall)}
    (hinitial : initial.completions = []) (run : Run TransferStep initial taken reached) :
    (∀ id, reached.completions.count id ≤ 1) ∧
      (Run.visited taken reached).Pairwise Transfers.KeepsPayments := by
  have hstart : initial.BookedOnce := by
    intro id
    rw [hinitial, List.count_nil]
    exact Nat.zero_le _
  have hbooked := @Run.invariant_of_condition _ _ TransferStep initial Transfers.BookedOnce (fun _ _ => True) hstart
    (fun _ _ _ hbooked _ hstep => hstep.books.once hbooked) taken reached run (fun _ _ => trivial) reached
    (Run.reached_mem_visited _ _)
  constructor
  · intro id
    refine Nat.le_trans (hbooked id) ?_
    split <;> omega
  · exact Run.visited_pairwise Transfers.keepsPayments_trans run fun _ _ _ hstep => hstep.books.payments

theorem transferDay_isDay : IsDay 2026 1 5 := by decide

def transferDay : Date := .of transferDay_isDay

/-- A bank where the wizard registers one payment for all invoices. -/
def oneBank : Bank where
  default_journal := some { id := 7, inbound_payment_method_line_ids := [3] }
  create_payments := fun _ register => .ok [{
    partner_id := 0
    amount := register.amount
    currency_id := 1
    journal_id := register.journal_id
    payment_method_line_id := some 3
    date := register.payment_date
    ref := "" }]
  action_post := fun _ => .ok ()

theorem oneBank_pays : oneBank.Pays := by
  intro payments register created hcreated
  cases hcreated
  exact List.cons_ne_nil _ _

/-- A transfer for an invoice, under review, with an attachment and a reason to
reject it. -/
def reviewedTransfer : IspBankTransferPayment where
  partner_id := 0
  invoice_ids := [4]
  reference := "TRF-1"
  amount := 25
  currency_id := 1
  attachment_ids := [9]
  state := .in_review
  rejection_reason := some "Wrong account"
  checked := rfl

def reviewed : Transfers where
  transfers := (Store.empty reviewedTransfer).create reviewedTransfer
  payments := Store.empty {
    partner_id := 0, amount := 0, currency_id := 1, journal_id := 7, payment_method_line_id := none
    date := transferDay, ref := "" }
  completions := []

def approveTransfer : TransferCall := .action_approve oneBank transferDay 2 [0]

def submitTransfer : TransferCall := .action_submit {} 0 [0]

/-- Approved, submitted and approved again: one payment. -/
theorem reviewed_booked_once :
    (∀ id, (approveTransfer.call (submitTransfer.call (approveTransfer.call reviewed))).completions.count id ≤ 1) ∧
      (Run.visited [(reviewed, approveTransfer), (approveTransfer.call reviewed, submitTransfer),
          (submitTransfer.call (approveTransfer.call reviewed), approveTransfer)]
        (approveTransfer.call (submitTransfer.call (approveTransfer.call reviewed)))).Pairwise
        Transfers.KeepsPayments :=
  payment_booked_once rfl (((Run.start.step ⟨⟨by decide, oneBank_pays⟩, rfl⟩).step
    ⟨show ∀ id ∈ [0], id ∈ (approveTransfer.call reviewed).transfers.ids by decide, rfl⟩).step
    ⟨⟨by decide, oneBank_pays⟩, rfl⟩)

end getupnet.isp_billing

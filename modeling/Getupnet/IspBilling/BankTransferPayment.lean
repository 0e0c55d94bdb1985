import Getupnet.Calendar.Date
import Getupnet.IspCore.Fields
import Getupnet.Relational.Runs
import Getupnet.Relational.Store
import Getupnet.Relational.Transaction

open relational
open calendar
open getupnet.isp_core

namespace getupnet.isp_billing

inductive TransferState where
  | draft
  | in_review
  | approved
  | rejected
  | applied
  deriving DecidableEq

/-- The field values of a bank transfer. Times are in seconds. -/
structure TransferValues where
  partner_id : Nat
  invoice_ids : List Nat := []
  reference : String
  amount : ℚ
  currency_id : Nat
  transfer_datetime : Option Int := none
  attachment_ids : List Nat := []
  state : TransferState := .draft
  reviewer_id : Option Nat := none
  review_deadline : Option Int := none
  attention_deadline : Option Int := none
  rejection_reason : CharField := none
  accounting_payment_id : Option Nat := none
  needs_attention : Bool := false

def TransferValues.check_attachments (self : TransferValues) : Except OdooError Unit :=
  if self.state ≠ .draft ∧ self.attachment_ids = [] then
    throw (.validation "Transfer payments require at least one attachment.")
  else pure ()

/-- A stored bank transfer: it has passed its record check. -/
structure IspBankTransferPayment extends TransferValues where
  checked : toTransferValues.check_attachments = .ok ()

def TransferValues.store (self : TransferValues) : Except OdooError IspBankTransferPayment :=
  match h : self.check_attachments with
  | .ok () => .ok ⟨self, h⟩
  | .error exception => .error exception

/-- What storing returns is exactly what it was given. -/
theorem TransferValues.store_eq_ok {self : TransferValues} {record : IspBankTransferPayment}
    (h : self.store = .ok record) : record.toTransferValues = self := by
  unfold TransferValues.store at h
  split at h
  · cases h
    rfl
  · cases h

/-- Storing is refused for want of an attachment only, and never for a draft. -/
theorem TransferValues.of_store_error {self : TransferValues} {exception : OdooError}
    (h : self.store = .error exception) : self.state ≠ .draft ∧ self.attachment_ids = [] := by
  unfold TransferValues.store at h
  split at h
  · cases h
  · rename_i herror
    unfold TransferValues.check_attachments at herror
    split at herror
    · rename_i hmissing
      exact hmissing
    · cases herror

theorem IspBankTransferPayment.attachment_ids_ne_nil {self : IspBankTransferPayment} (h : self.state ≠ .draft) :
    self.attachment_ids ≠ [] := by
  intro hnil
  have hchecked := self.checked
  rw [TransferValues.check_attachments, if_pos ⟨h, hnil⟩] at hchecked
  cases hchecked

/-- An inbound customer payment. -/
structure AccountPayment where
  partner_id : Nat
  amount : ℚ
  currency_id : Nat
  journal_id : Nat
  payment_method_line_id : Option Nat
  date : Date
  ref : String
  deriving DecidableEq

structure AccountJournal where
  id : Nat
  inbound_payment_method_line_ids : List Nat

/-- What the payment wizard is opened with. -/
structure PaymentRegister where
  active_ids : List Nat
  payment_date : Date
  amount : ℚ
  journal_id : Nat

/-- The accounting application as an approval finds it: the default journal, the
wizard that registers payments of invoices, and the posting of a payment. -/
structure Bank where
  default_journal : Option AccountJournal
  create_payments : Store AccountPayment → PaymentRegister → Except OdooError (List AccountPayment)
  action_post : AccountPayment → Except OdooError Unit

/-- The wizard returns at least one payment, unless it raises. -/
def Bank.Pays (self : Bank) : Prop :=
  ∀ payments register created, self.create_payments payments register = .ok created → created ≠ []

/-- The bank transfers and the payments booked in the accounts. `completions`
names the transfer each time the creation of a payment for one is completed. -/
structure Transfers where
  transfers : Store IspBankTransferPayment
  payments : Store AccountPayment
  completions : List Nat

def Transfers.transfer (self : Transfers) (id : Nat) : IspBankTransferPayment := self.transfers.row id

/-- `isp_billing.transfer_review_hours` and `isp_billing.transfer_attention_hours`. -/
structure TransferSettings where
  review_hours : Int := 48
  attention_hours : Int := 24

/-- Writing fields of a transfer, which the record check may refuse. -/
def IspBankTransferPayment.assign (id : Nat) (change : TransferValues → TransferValues) :
    Method Transfers OdooError Unit := do
  let world ← get
  let record ← Method.ofExcept (change (Transfers.transfer world id).toTransferValues).store
  modify fun world : Transfers => { world with transfers := world.transfers.write id fun _ => record }

def TransferValues.set_review_deadline (settings : TransferSettings) (now : Int) (self : TransferValues) :
    TransferValues :=
  { self with
    review_deadline := some (self.transfer_datetime.getD now + 3600 * settings.review_hours)
    attention_deadline := some (self.transfer_datetime.getD now + 3600 * settings.attention_hours) }

/-- `create` of one transfer. -/
def IspBankTransferPayment.create (settings : TransferSettings) (now : Int) (vals : TransferValues) :
    Method Transfers OdooError Nat := do
  let world ← get
  let record ← Method.ofExcept vals.store
  modify fun world : Transfers => { world with transfers := world.transfers.create record }
  IspBankTransferPayment.assign world.transfers.next_id (TransferValues.set_review_deadline settings now)
  pure world.transfers.next_id

/-- One pass through the loop of `action_submit`. -/
def IspBankTransferPayment.submit (settings : TransferSettings) (now : Int) (id : Nat) :
    Method Transfers OdooError Unit := do
  IspBankTransferPayment.assign id (TransferValues.set_review_deadline settings now)
  IspBankTransferPayment.assign id fun rec => { rec with state := .in_review }

def IspBankTransferPayment.action_submit (settings : TransferSettings) (now : Int) (self : List Nat) :
    Method Transfers OdooError Unit :=
  Method.forEach (IspBankTransferPayment.submit settings now) self

/-- One pass through the loop of `action_reject`. -/
def IspBankTransferPayment.reject (user id : Nat) : Method Transfers OdooError Unit := do
  let world ← get
  if ¬ truthy (Transfers.transfer world id).rejection_reason then
    throw (.validation "Rejection reason is required.")
  else do
    IspBankTransferPayment.assign id fun rec => { rec with state := .rejected }
    IspBankTransferPayment.assign id fun rec => { rec with reviewer_id := some user }

def IspBankTransferPayment.action_reject (user : Nat) (self : List Nat) : Method Transfers OdooError Unit :=
  Method.forEach (IspBankTransferPayment.reject user) self

section

variable (bank : Bank) (today : Date)

/-- The branch for a transfer with invoices: the wizard registers payments, and
the first of them is linked. -/
def IspBankTransferPayment.register_payment (journal : AccountJournal) (id : Nat) :
    Method Transfers OdooError Unit := do
  let world ← get
  let transfer := Transfers.transfer world id
  let payments ← Method.ofExcept (bank.create_payments world.payments
    { active_ids := transfer.invoice_ids, payment_date := today, amount := transfer.amount, journal_id := journal.id })
  modify fun world : Transfers => { world with payments := world.payments.createAll payments }
  match payments with
  | [] => pure ()
  | _ :: _ =>
    IspBankTransferPayment.assign id fun rec => { rec with accounting_payment_id := some world.payments.next_id }

/-- The branch for a transfer without invoices: a payment is created, posted
and linked. -/
def IspBankTransferPayment.post_payment (journal : AccountJournal) (id : Nat) :
    Method Transfers OdooError Unit := do
  let world ← get
  let transfer := Transfers.transfer world id
  let payment : AccountPayment := {
    partner_id := transfer.partner_id
    amount := transfer.amount
    currency_id := transfer.currency_id
    journal_id := journal.id
    payment_method_line_id := journal.inbound_payment_method_line_ids.head?
    date := today
    ref := transfer.reference }
  modify fun world : Transfers => { world with payments := world.payments.create payment }
  Method.ofExcept (bank.action_post payment)
  IspBankTransferPayment.assign id fun rec => { rec with accounting_payment_id := some world.payments.next_id }

/-- One pass through the loop of `_create_and_apply_payment`. -/
def IspBankTransferPayment.create_and_apply (id : Nat) : Method Transfers OdooError Unit := do
  let world ← get
  let transfer := Transfers.transfer world id
  match transfer.accounting_payment_id, bank.default_journal with
  | some _, _ => IspBankTransferPayment.assign id fun rec => { rec with state := .applied }
  | none, none => throw (.validation "No suitable journal found for inbound payments.")
  | none, some journal => do
    if transfer.invoice_ids ≠ [] then IspBankTransferPayment.register_payment bank today journal id
    else IspBankTransferPayment.post_payment bank today journal id
    modify fun world : Transfers => { world with completions := world.completions ++ [id] }
    IspBankTransferPayment.assign id fun rec => { rec with state := .applied }

def IspBankTransferPayment.create_and_apply_payment (self : List Nat) : Method Transfers OdooError Unit :=
  Method.forEach (IspBankTransferPayment.create_and_apply bank today) self

/-- One pass through the loop of `action_approve`. -/
def IspBankTransferPayment.approve (user id : Nat) : Method Transfers OdooError Unit := do
  IspBankTransferPayment.assign id fun rec => { rec with reviewer_id := some user }
  IspBankTransferPayment.assign id fun rec => { rec with state := .approved }
  IspBankTransferPayment.create_and_apply_payment bank today [id]

def IspBankTransferPayment.action_approve (user : Nat) (self : List Nat) : Method Transfers OdooError Unit :=
  Method.forEach (IspBankTransferPayment.approve bank today user) self

end

/-- The domain of `_cron_transfer_deadlines`. -/
def IspBankTransferPayment.isOverdue (now : Int) (self : IspBankTransferPayment) : Bool :=
  match self.state, self.attention_deadline with
  | .in_review, some attention_deadline => decide (attention_deadline ≤ now)
  | _, _ => false

def IspBankTransferPayment.cron_transfer_deadlines (now : Int) : Method Transfers OdooError Unit := do
  let records := (← get).transfers.searchDesc (IspBankTransferPayment.isOverdue now)
  Method.forEach (fun id => IspBankTransferPayment.assign id fun rec => { rec with needs_attention := true }) records

/-- The calls of the review, on any selection of transfers. -/
inductive TransferCall where
  | action_submit (settings : TransferSettings) (now : Int) (transfers : List Nat)
  | action_reject (user : Nat) (transfers : List Nat)
  | action_approve (bank : Bank) (today : Date) (user : Nat) (transfers : List Nat)
  | cron_transfer_deadlines (now : Int)

def TransferCall.method : TransferCall → Method Transfers OdooError Unit
  | .action_submit settings now transfers => IspBankTransferPayment.action_submit settings now transfers
  | .action_reject user transfers => IspBankTransferPayment.action_reject user transfers
  | .action_approve bank today user transfers => IspBankTransferPayment.action_approve bank today user transfers
  | .cron_transfer_deadlines now => IspBankTransferPayment.cron_transfer_deadlines now

/-- A call is made on existing transfers, and the wizard returns a payment. -/
def TransferCall.Possible (world : Transfers) : TransferCall → Prop
  | .action_submit _ _ transfers | .action_reject _ transfers => ∀ id ∈ transfers, id ∈ world.transfers.ids
  | .action_approve bank _ _ transfers => (∀ id ∈ transfers, id ∈ world.transfers.ids) ∧ bank.Pays
  | .cron_transfer_deadlines _ => True

/-- The database after a call. An exception undoes all of it. -/
def TransferCall.call (call : TransferCall) (world : Transfers) : Transfers :=
  call.method.commit (fun before _ => before) world

def TransferStep (world : Transfers) (call : TransferCall) (after : Transfers) : Prop :=
  call.Possible world ∧ after = call.call world

end getupnet.isp_billing

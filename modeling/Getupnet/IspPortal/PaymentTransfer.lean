import Getupnet.IspBilling.AccountMove
import Getupnet.IspBilling.BankTransferPayment
import Getupnet.Relational.Frame

open relational
open calendar
open getupnet.isp_core
open getupnet.isp_billing

namespace getupnet.isp_portal

/-- A file of a posted form. A form without a chosen file still posts one, with
an empty name. -/
structure FileStorage where
  filename : String
  data : List UInt8

/-- A posted form. The identifiers of the invoices are whatever texts the request
carries, not only those that the page offers. -/
structure TransferForm where
  bank_name : CharField
  reference : CharField
  amount : CharField
  date : CharField
  invoice_ids : List String
  attachment : List FileStorage

/-- The conversions that the controller and the records it creates rely on. What
an attachment decodes from its base64 text is what was encoded. -/
structure Conversions where
  float : CharField → Except OdooError ℚ
  int : String → Except OdooError Int
  to_datetime : String → Except OdooError Int
  b64encode : List UInt8 → List UInt8
  decode_datas : List UInt8 → Except OdooError (List UInt8)
  decode_encoded : ∀ data, decode_datas (b64encode data) = .ok data

structure PortalUser where
  partner_id : Nat

structure IrAttachment where
  name : String
  raw : List UInt8
  res_model : String
  res_id : Nat

/-- A transfer that was created by a submission, and the partner of its user. -/
structure Submission where
  transfer : Nat
  partner_id : Nat

/-- A call of the payment wizard for a transfer. -/
structure Registration where
  transfer : Nat
  active_ids : List Nat

/-- The transfers, the moves of the accounts and the attachments. `submitted`
and `registered` are records kept beside the database; the calls of the wizard
stay recorded when they are undone. -/
structure Portal where
  transfers : Transfers
  moves : Store AccountMove
  attachments : Store IrAttachment
  submitted : List Submission
  registered : List Registration

def Portal.transfer (self : Portal) (id : Nat) : IspBankTransferPayment := self.transfers.transfer id

def Portal.onTransfers {α : Type} (method : Method Transfers OdooError α) : Method Portal OdooError α :=
  Method.focus Portal.transfers (fun transfers world => { world with transfers }) method

/-- The domain of the record rule for the portal, `partner_id = user.partner_id.id`. -/
def rule_isp_transfer_payment_portal (user : PortalUser) (transfer : TransferValues) : Bool :=
  decide (transfer.partner_id = user.partner_id)

/-- The record rule, which every access of the user to a transfer is checked by. -/
def Portal.check_access (user : PortalUser) (id : Nat) : Method Portal OdooError Unit := do
  let world ← get
  if rule_isp_transfer_payment_portal user (Portal.transfer world id).toTransferValues then pure ()
  else throw (.other "Access Error")

/-- A write of the user to a transfer. -/
def Portal.write (user : PortalUser) (id : Nat) (change : TransferValues → TransferValues) :
    Method Portal OdooError Unit := do
  Portal.check_access user id
  Portal.onTransfers (IspBankTransferPayment.assign id change)

/-- A value for a column that may not be null. -/
def required (value : CharField) : Except OdooError String :=
  match value with
  | some text => .ok text
  | none => .error (.other "null value in a required column")

section

variable (conversions : Conversions)

/-- The date of a transfer as it is stored: none for an empty text. -/
def TransferForm.transfer_datetime (self : TransferForm) : Except OdooError (Option Int) :=
  if truthy self.date then do
    let date ← conversions.to_datetime (self.date.getD "")
    pure (some date)
  else pure none

/-- `vals`, as far as they are stored. -/
def TransferForm.vals (currency_id : Nat) (user : PortalUser) (self : TransferForm) :
    Except OdooError TransferValues := do
  let amount ← conversions.float self.amount
  let _bank_name ← required self.bank_name
  let reference ← required self.reference
  let transfer_datetime ← self.transfer_datetime conversions
  pure {
    partner_id := user.partner_id
    reference
    amount
    currency_id
    transfer_datetime
    state := .draft }

/-- The move that a link to an identifier needs. -/
def Portal.linked (moves : Store AccountMove) (id : Int) : Except OdooError Nat :=
  match id with
  | .ofNat move => if move ∈ moves.ids then .ok move else .error (.other "foreign key violation")
  | .negSucc _ => .error (.other "foreign key violation")

/-- `payment.write({'invoice_ids': [(6, 0, [int(x) for x in invoice_ids])]})` -/
def Portal.write_invoice_ids (user : PortalUser) (payment : Nat) (invoice_ids : List String) :
    Method Portal OdooError Unit := do
  let ids ← Method.ofExcept (invoice_ids.mapM conversions.int)
  Portal.check_access user payment
  let world ← get
  let invoices ← Method.ofExcept (ids.mapM (Portal.linked (Portal.moves world)))
  Portal.onTransfers (IspBankTransferPayment.assign payment fun rec => { rec with invoice_ids := invoices.dedup })

def Portal.createAttachment (payment : Nat) (file : FileStorage) (datas : List UInt8) :
    Method Portal OdooError Nat := do
  let raw ← Method.ofExcept (conversions.decode_datas datas)
  let world ← get
  modify fun world : Portal => { world with
    attachments := world.attachments.create {
      name := file.filename
      raw
      res_model := "isp.bank.transfer.payment"
      res_id := payment } }
  pure (Portal.attachments world).next_id

/-- One pass through the first loop over the files, which creates an attachment
from the content as it is and leaves it unlinked. -/
def Portal.attach_unencoded (payment : Nat) (file : FileStorage) : Method Portal OdooError Unit := do
  let _attachment ← Portal.createAttachment conversions payment file file.data

/-- One pass through the second loop, which encodes the content and links the
attachment. -/
def Portal.attach (user : PortalUser) (payment : Nat) (file : FileStorage) : Method Portal OdooError Unit :=
  Method.when (file.filename != "") do
    let attachment ← Portal.createAttachment conversions payment file (conversions.b64encode file.data)
    Portal.write user payment fun rec => { rec with attachment_ids := rec.attachment_ids ++ [attachment] }

/-- The controller, with a last line that records the submission. -/
def portal_my_isp_payment_transfer_submit (settings : TransferSettings) (now : Int) (currency_id : Nat)
    (user : PortalUser) (post : TransferForm) : Method Portal OdooError Unit := do
  let vals ← Method.ofExcept (post.vals conversions currency_id user)
  let payment ← Portal.onTransfers (IspBankTransferPayment.create settings now vals)
  Portal.check_access user payment
  Method.when (!post.invoice_ids.isEmpty) (Portal.write_invoice_ids conversions user payment post.invoice_ids)
  Method.forEach (Portal.attach_unencoded conversions payment) post.attachment
  Method.forEach (Portal.attach conversions user payment) post.attachment
  Portal.check_access user payment
  Portal.onTransfers (IspBankTransferPayment.action_submit settings now [payment])
  modify fun world : Portal =>
    { world with submitted := world.submitted ++ [{ transfer := payment, partner_id := user.partner_id }] }

end

/-- An application of the payment goes to the wizard: nothing is linked yet, there
is a journal, and the transfer names invoices. -/
def opensWizard (bank : Bank) (transfer : IspBankTransferPayment) : Bool :=
  transfer.accounting_payment_id.isNone && bank.default_journal.isSome && !transfer.invoice_ids.isEmpty

def Portal.record_wizard (bank : Bank) (id : Nat) (self : Portal) : Portal :=
  if opensWizard bank (self.transfer id) then
    { self with registered := self.registered ++ [{ transfer := id, active_ids := (self.transfer id).invoice_ids }] }
  else self

section

variable (bank : Bank) (today : Date)

/-- One pass through the loop of `_create_and_apply_payment`. -/
def Portal.create_and_apply (id : Nat) : Method Portal OdooError Unit := do
  modify (Portal.record_wizard bank id)
  Portal.onTransfers (IspBankTransferPayment.create_and_apply bank today id)

/-- One pass through the loop of `action_approve`. -/
def Portal.approve (user id : Nat) : Method Portal OdooError Unit := do
  Portal.onTransfers (IspBankTransferPayment.assign id fun rec => { rec with reviewer_id := some user })
  Portal.onTransfers (IspBankTransferPayment.assign id fun rec => { rec with state := .approved })
  Method.forEach (Portal.create_and_apply bank today) [id]

def Portal.action_approve (user : Nat) (self : List Nat) : Method Portal OdooError Unit :=
  Method.forEach (Portal.approve bank today user) self

end

/-- The recorded approval does to the transfers what `action_approve` does. -/
theorem Portal.action_approve_forgets (bank : Bank) (today : Date) (user : Nat) (transfers : List Nat) :
    Method.Forgets Portal.transfers (Portal.action_approve bank today user transfers)
      (IspBankTransferPayment.action_approve bank today user transfers) := by
  have hon : ∀ method : Method Transfers OdooError Unit,
      Method.Forgets Portal.transfers (Portal.onTransfers method) method := fun _ => .focus fun _ _ => rfl
  have hrecord : ∀ id (world : Portal), (world.record_wizard bank id).transfers = world.transfers := by
    intro id world
    unfold Portal.record_wizard
    split <;> rfl
  refine .forEach (fun id => (hon _).bind fun _ => (hon _).bind fun _ => ?_) transfers
  exact .forEach (fun id => (hon _).modify_bind (hrecord id)) [id]

/-- The transfers that a call of the review is made on. -/
def selection : TransferCall → List Nat
  | .action_submit _ _ transfers | .action_reject _ transfers | .action_approve _ _ _ transfers => transfers
  | .cron_transfer_deadlines _ => []

/-- A submission by any user, a call of the review, or whatever the accounts do to
their moves. -/
inductive PortalCall where
  | portal_my_isp_payment_transfer_submit (settings : TransferSettings) (now : Int) (currency_id : Nat)
      (user : PortalUser) (post : TransferForm)
  | review (call : TransferCall)
  | accounting (moves : Store AccountMove)

def PortalCall.method (conversions : Conversions) : PortalCall → Method Portal OdooError Unit
  | .portal_my_isp_payment_transfer_submit settings now currency_id user post =>
    isp_portal.portal_my_isp_payment_transfer_submit conversions settings now currency_id user post
  | .review (.action_approve bank today user transfers) => Portal.action_approve bank today user transfers
  | .review call => Portal.onTransfers call.method
  | .accounting moves => modify fun world : Portal => { world with moves }

/-- A review is made of existing transfers, and an invoice stays the one of its
partner. -/
def PortalCall.Possible (world : Portal) : PortalCall → Prop
  | .portal_my_isp_payment_transfer_submit _ _ _ _ _ => True
  | .review call => ∀ id ∈ selection call, id ∈ world.transfers.transfers.ids
  | .accounting moves =>
    ∀ id ∈ world.moves.ids, id ∈ moves.ids ∧ (moves.row id).partner_id = (world.moves.row id).partner_id

/-- The database after a call. An exception undoes all of it. -/
def PortalCall.call (conversions : Conversions) (call : PortalCall) (world : Portal) : Portal :=
  (call.method conversions).commit (fun before after => { before with registered := after.registered }) world

def PortalStep (conversions : Conversions) (world : Portal) (call : PortalCall) (after : Portal) : Prop :=
  call.Possible world ∧ after = call.call conversions world

end getupnet.isp_portal

import Getupnet.IspCore.AccessRights
import Getupnet.IspCore.RecordRules
import Getupnet.IspPortal.Attachments

open relational
open calendar
open getupnet.isp_core
open getupnet.isp_billing

namespace getupnet.isp_portal

/-- `int` of a field of a form. -/
def Conversions.int_field (conversions : Conversions) (value : CharField) : Except OdooError Int :=
  match value with
  | some text => conversions.int text
  | none => .error (.other "int() argument must be a string or a number")

structure PlanChangeForm where
  subscription_id : CharField
  plan_id : CharField

/-- The record with an identifier, one of these. -/
def browse (ids : List Nat) (id : Int) : Except OdooError Nat :=
  match id with
  | .ofNat record =>
    if record ∈ ids then .ok record else .error (.other "Record does not exist or has been deleted.")
  | .negSucc _ => .error (.other "Record does not exist or has been deleted.")

/-- The plan that a reference to an identifier needs. -/
def plan_of (id : Int) : Except OdooError Nat :=
  match id with
  | .ofNat plan => .ok plan
  | .negSucc _ => .error (.other "foreign key violation")

/-- The domain of the record rule for the portal, `partner_id = user.partner_id.id`. -/
def rule_isp_subscription_portal (user : PortalUser) (sub : IspSubscription) : Bool :=
  decide (sub.partner_id = user.partner_id)

section

variable {ρ : Type} (may : IrModel → Operation → Bool) (conversions : Conversions)

/-- Reading the partner of a subscription, which the record rule allows for the user's own. -/
def read_partner_as (user : PortalUser) (id : Nat) : Checked (Workflow ρ) Nat := do
  Method.check_access may .subscription .read
  let world ← get
  if rule_isp_subscription_portal user (World.subscription world id) then
    pure (World.subscription world id).partner_id
  else throw (.access_error .subscription .read)

/-- The controller for plan changes, called by a user with this partner. -/
def portal_my_isp_plan_change_submit (user : User) (partner : PortalUser) (today : Date) (post : PlanChangeForm) :
    Checked (Workflow ρ) Unit := do
  let sub_id ← Method.sudo (Method.ofExcept (conversions.int_field post.subscription_id))
  let plan_id ← Method.sudo (Method.ofExcept (conversions.int_field post.plan_id))
  let world ← get
  let subscription ← Method.sudo (Method.ofExcept (browse world.records.subscriptions.ids sub_id))
  let owner ← read_partner_as may partner subscription
  if owner ≠ partner.partner_id then pure ()
  else do
    let plan ← Method.sudo (Method.ofExcept (plan_of plan_id))
    let pcr ← IspPlanChangeRequest.create_as may today [{ subscription_id := subscription, requested_plan_id := plan }]
    IspPlanChangeRequest.action_submit_as may user today pcr

/-- The record rule for the transfers. -/
def Portal.check_rule_as (user : PortalUser) (operation : Operation) (id : Nat) : Checked Portal Unit := do
  let world ← get
  if rule_isp_transfer_payment_portal user (Portal.transfer world id).toTransferValues then pure ()
  else throw (.access_error .bank_transfer_payment operation)

/-- A write of the user to a transfer. -/
def Portal.write_as (user : PortalUser) (id : Nat) (change : TransferValues → TransferValues) :
    Checked Portal Unit := do
  Method.check_access may .bank_transfer_payment .write
  Portal.check_rule_as user .write id
  Method.sudo (Portal.onTransfers (IspBankTransferPayment.assign id change))

variable (settings : Except OdooError TransferSettings) (now : Int)

/-- `_set_review_deadline`, which the parameters may fail first. -/
def IspBankTransferPayment.set_review_deadline_as (user : PortalUser) (id : Nat) : Checked Portal Unit := do
  let hours ← Method.sudo (Method.ofExcept settings)
  Portal.write_as may user id (TransferValues.set_review_deadline hours now)

/-- `create` of one transfer. -/
def IspBankTransferPayment.create_as (user : PortalUser) (vals : TransferValues) : Checked Portal Nat := do
  Method.check_access may .bank_transfer_payment .create
  let world ← get
  let record ← Method.sudo (Method.ofExcept vals.store)
  Method.sudo (modify fun world : Portal =>
    { world with transfers := { world.transfers with transfers := world.transfers.transfers.create record } })
  Portal.check_rule_as user .create (Portal.transfers world).transfers.next_id
  IspBankTransferPayment.set_review_deadline_as may settings now user (Portal.transfers world).transfers.next_id
  pure (Portal.transfers world).transfers.next_id

def IspBankTransferPayment.action_submit_as (user : PortalUser) (payment : Nat) : Checked Portal Unit := do
  IspBankTransferPayment.set_review_deadline_as may settings now user payment
  Portal.write_as may user payment fun rec => { rec with state := .in_review }

/-- The invoices that the user names are linked. -/
def Portal.write_invoice_ids_as (user : PortalUser) (payment : Nat) (invoice_ids : List String) :
    Checked Portal Unit := do
  let ids ← Method.sudo (Method.ofExcept (invoice_ids.mapM conversions.int))
  let world ← get
  Method.check_access may .bank_transfer_payment .write
  Portal.check_rule_as user .write payment
  let invoices ← Method.sudo (Method.ofExcept (ids.mapM (Portal.linked (Portal.moves world))))
  Method.sudo (Portal.onTransfers
    (IspBankTransferPayment.assign payment fun rec => { rec with invoice_ids := invoices.dedup }))

/-- One pass through the second loop over the files. -/
def Portal.attach_as (user : PortalUser) (payment : Nat) (file : FileStorage) : Checked Portal Unit :=
  Method.when (file.filename != "") do
    let attachment ← Method.checked may .ir_attachment .create
      (Portal.createAttachment conversions payment file (conversions.b64encode file.data))
    Portal.write_as may user payment fun rec => { rec with attachment_ids := rec.attachment_ids ++ [attachment] }

/-- The controller for transfers. -/
def portal_my_isp_payment_transfer_submit_as (currency_id : Nat) (user : PortalUser) (post : TransferForm) :
    Checked Portal Unit := do
  let vals ← Method.sudo (Method.ofExcept (post.vals conversions currency_id user))
  let payment ← IspBankTransferPayment.create_as may settings now user vals
  Method.when (!post.invoice_ids.isEmpty) (Portal.write_invoice_ids_as may conversions user payment post.invoice_ids)
  Method.forEach (fun file => Method.checked may .ir_attachment .create
    (Portal.attach_unencoded conversions payment file)) post.attachment
  Method.forEach (Portal.attach_as may conversions user payment) post.attachment
  IspBankTransferPayment.action_submit_as may settings now user payment

end

structure Database (ρ : Type) where
  workflow : Workflow ρ
  portal : Portal

/-- The methods that users of one group are offered: the approval by Billing, and the
submissions by customers of the portal. -/
inductive EntryPoint where
  | action_approve (user : User) (sectors : ResUsers) (clock : Nat → Nat) (token_hex : Nat → String) (today : Date)
      (requests : List Nat)
  | portal_my_isp_plan_change_submit (user : User) (partner : PortalUser) (today : Date) (post : PlanChangeForm)
  | portal_my_isp_payment_transfer_submit (settings : Except OdooError TransferSettings) (now : Int)
      (currency_id : Nat) (user : PortalUser) (post : TransferForm)

section

variable {ρ : Type} (attachments : ResGroup → Operation → Bool) (conversions : Conversions)

def EntryPoint.method : EntryPoint → Checked (Database ρ) Unit
  | .action_approve user _ clock token_hex today requests =>
    Method.focus Database.workflow (fun workflow world => { world with workflow })
      (IspPlanChangeRequest.action_approve_as (may_access attachments [.isp_billing]) user clock token_hex today
        requests)
  | .portal_my_isp_plan_change_submit user partner today post =>
    Method.focus Database.workflow (fun workflow world => { world with workflow })
      (isp_portal.portal_my_isp_plan_change_submit (may_access attachments [.isp_portal_customer]) conversions user
        partner today post)
  | .portal_my_isp_payment_transfer_submit settings now currency_id user post =>
    Method.focus Database.portal (fun portal world => { world with portal })
      (portal_my_isp_payment_transfer_submit_as (may_access attachments [.isp_portal_customer]) conversions settings
        now currency_id user post)

end

section

variable {ρ : Type} {may : IrModel → Operation → Bool} {conversions : Conversions}

section

variable {settings : Except OdooError TransferSettings} {now : Int} {user : PortalUser} {vals : TransferValues}

end

end

end getupnet.isp_portal

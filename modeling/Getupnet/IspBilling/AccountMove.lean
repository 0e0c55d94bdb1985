import Mathlib.Algebra.Order.Ring.Unbundled.Rat
import Getupnet.Calendar.Date
import Getupnet.IspCore.Fields
import Getupnet.Relational.Store

open relational
open calendar
open getupnet.isp_core

namespace getupnet.isp_billing

inductive MoveType where
  | entry
  | out_invoice
  | out_refund
  | in_invoice
  | in_refund
  | out_receipt
  | in_receipt
  deriving DecidableEq

inductive MoveState where
  | draft
  | posted
  | cancel
  deriving DecidableEq

/-- The values of `payment_state`; `part_paid` is the value `partial`. -/
inductive PaymentState where
  | not_paid
  | part_paid
  | in_payment
  | paid
  | reversed
  | blocked
  deriving DecidableEq

structure InvoiceLine where
  name : String
  quantity : ℚ
  price_unit : ℚ
  tax_ids : List Nat
  deriving DecidableEq

structure AccountMove where
  move_type : MoveType
  partner_id : Nat
  invoice_date : Option Date
  invoice_date_due : Option Date
  isp_subscription_id : Option Nat
  invoice_line_ids : List InvoiceLine
  state : MoveState := .draft
  payment_state : PaymentState := .not_paid
  amount_residual : ℚ := 0
  deriving DecidableEq

/-- What posting a draft settles. -/
structure Posting where
  payment_state : PaymentState
  amount_residual : ℚ

/-- A move after a guarded `action_post`: posted, or left in draft when posting
raised. -/
def AccountMove.afterPosting (outcome : Except OdooError Posting) (self : AccountMove) : AccountMove :=
  match outcome with
  | .ok posting =>
    { self with
      state := .posted
      payment_state := posting.payment_state
      amount_residual := posting.amount_residual }
  | .error _ => self

/-- The domain terms `("state", "=", "posted")` and
`("payment_state", "not in", ("paid", "in_payment"))`. -/
def AccountMove.isOpen (self : AccountMove) : Bool :=
  decide (self.state = .posted) && decide (self.payment_state ≠ .paid) && decide (self.payment_state ≠ .in_payment)

/-- An open move is posted and neither paid nor in payment. -/
theorem AccountMove.isOpen_iff (self : AccountMove) :
    self.isOpen = true ↔ self.state = .posted ∧ self.payment_state ≠ .paid ∧
      self.payment_state ≠ .in_payment := by
  simp [AccountMove.isOpen, and_assoc]

/-- The payment states in which nothing is left to pay. -/
def PaymentState.Settled (self : PaymentState) : Prop :=
  self = .paid ∨ self = .in_payment ∨ self = .reversed

/-- A posted customer invoice with something left to pay. -/
def AccountMove.Owed (self : AccountMove) : Prop :=
  self.move_type = .out_invoice ∧ self.state = .posted ∧ 0 < self.amount_residual

/-- The accounting side of the database: the moves and the system parameter
`isp_billing.suspend_after_days`. -/
structure Accounting where
  moves : Store AccountMove
  suspend_after_days : Int

/-- Odoo's payment states: the residual of a posted customer invoice is never
negative and it is zero exactly in the settled ones. -/
def Accounting.ResidualsAgree (self : Accounting) : Prop :=
  ∀ id ∈ self.moves.ids, (self.moves.row id).move_type = .out_invoice → (self.moves.row id).state = .posted →
    0 ≤ (self.moves.row id).amount_residual ∧
      ((self.moves.row id).amount_residual = 0 ↔ (self.moves.row id).payment_state.Settled)

/-- Under that assumption an invoice is owed by its payment state alone. -/
theorem Accounting.ResidualsAgree.owed_iff {self : Accounting} (h : self.ResidualsAgree) {id : Nat}
    (hid : id ∈ self.moves.ids) :
    (self.moves.row id).Owed ↔
      (self.moves.row id).move_type = .out_invoice ∧ (self.moves.row id).state = .posted ∧
        ¬ (self.moves.row id).payment_state.Settled := by
  unfold AccountMove.Owed
  constructor
  · rintro ⟨htype, hposted, hpositive⟩
    obtain ⟨_, hzero⟩ := h id hid htype hposted
    exact ⟨htype, hposted, fun hsettled => ne_of_gt hpositive (hzero.mpr hsettled)⟩
  · rintro ⟨htype, hposted, hunsettled⟩
    obtain ⟨hnonneg, hzero⟩ := h id hid htype hposted
    exact ⟨htype, hposted, lt_of_le_of_ne hnonneg fun heq => hunsettled (hzero.mp heq.symm)⟩

end getupnet.isp_billing

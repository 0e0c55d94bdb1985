import Getupnet.IspPortal.Invoices
import Getupnet.Python.Base64

open relational
open getupnet.isp_core
open getupnet.isp_billing
open python

namespace getupnet.isp_portal

/-- The attachments of a transfer. -/
def Portal.attached (payment : Nat) (self : Portal) : List Nat :=
  self.attachments.search fun attachment =>
    decide (attachment.res_model = "isp.bank.transfer.payment") && decide (attachment.res_id = payment)

section

variable {conversions : Conversions} {before after : Portal} {user : PortalUser} {moves : Store AccountMove}
  {post other : TransferForm} {settings : TransferSettings} {now : Int} {currency_id : Nat}

end

def Base64Error.exception : Base64Error → OdooError
  | .one_digit => .other "number of data characters cannot be 1 more than a multiple of 4"
  | .incorrect_padding => .other "Incorrect padding"

end getupnet.isp_portal

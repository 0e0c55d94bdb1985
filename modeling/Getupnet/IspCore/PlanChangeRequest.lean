import Getupnet.Calendar.Months
import Getupnet.IspCore.ProvisioningJob
import Getupnet.IspCore.Subscription

open relational
open calendar

namespace getupnet.isp_core

inductive EffectiveDateMode where
  | immediate
  | next_cycle
  | custom
  deriving DecidableEq

inductive PlanChangeState where
  | draft
  | submitted
  | approved
  | rejected
  | applied
  deriving DecidableEq

structure IspPlanChangeRequest where
  subscription_id : Nat
  requested_plan_id : Nat
  effective_date_mode : EffectiveDateMode := .next_cycle
  effective_date : Option Date := none
  state : PlanChangeState := .draft
  approved_by : Option Nat := none
  rejection_reason : CharField := none
  deriving DecidableEq

def IspPlanChangeRequest.ensure_effective_date (today : Date) (sub : IspSubscription)
    (self : IspPlanChangeRequest) : IspPlanChangeRequest :=
  match self.effective_date, self.effective_date_mode with
  | some _, _ => self
  | none, .immediate => { self with effective_date := some today }
  | none, .next_cycle =>
    { self with effective_date := some (sub.next_invoice_date.getD (today.addMonths 1)) }
  | none, .custom => self

/-- What `action_apply` does to the subscription: the requested plan is set
and missing credentials are filled in. -/
def IspSubscription.apply_plan (plans : Nat → IspServicePlan) (requested_plan_id : Nat) (token_hex : String)
    (self : IspSubscription) : Except OdooError IspSubscription :=
  (self.withPlan requested_plan_id).ensure_pppoe_credentials (plans requested_plan_id) token_hex

/-- A subscription with another plan and the profile that goes with it. -/
def IspSubscription.movedTo (plans : Nat → IspServicePlan) (requested_plan_id : Nat) (self : IspSubscription) :
    IspSubscription :=
  (self.withPlan requested_plan_id).withProfile
    ((self.withPlan requested_plan_id).ensuredProfile (plans requested_plan_id))

theorem IspSubscription.apply_plan_eq (plans : Nat → IspServicePlan) (requested_plan_id : Nat)
    (token_hex : String) (self : IspSubscription) :
    self.apply_plan plans requested_plan_id token_hex = .ok (self.movedTo plans requested_plan_id) :=
  (self.withPlan requested_plan_id).ensure_pppoe_credentials_eq _ _

end getupnet.isp_core

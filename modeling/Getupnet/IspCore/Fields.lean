import Mathlib.Data.Rat.Defs

namespace getupnet.isp_core

/-- A `fields.Char` value: a text, or `False` while the field is unset. -/
abbrev CharField : Type := Option String

/-- Python's truth value of a text field: set and not empty. -/
def truthy : CharField → Bool
  | some text => text != ""
  | none => false

/-- Python's `value or other` on text fields. -/
def orElse (value other : CharField) : CharField := if truthy value then value else other

/-- Python's `value or default` where the default is a text. -/
def textOr (value : CharField) (default : String) : String :=
  if truthy value then value.getD default else default

/-- The exceptions that handlers and record checks raise: `LibRouterosError`,
`UserError`, `ValidationError`, or any other one, each with its message. -/
inductive OdooError where
  | routeros (message : String)
  | user (message : String)
  | validation (message : String)
  | other (message : String)
  deriving DecidableEq

def OdooError.str : OdooError → String
  | .routeros message => message
  | .user message => message
  | .validation message => message
  | .other message => message

inductive ServiceType where
  | pppoe
  | dhcp
  | hotspot
  deriving DecidableEq

structure IspServicePlan where
  name : String
  service_type : ServiceType
  down_mbps : ℚ := 0
  up_mbps : ℚ := 0
  price : ℚ := 0
  tax_ids : List Nat := []
  mikrotik_profile : CharField := none
  suspend_after_days : Int := 0
  deriving DecidableEq

end getupnet.isp_core

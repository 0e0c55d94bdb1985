import Getupnet.Calendar.Date
import Getupnet.IspCore.Fields
import Getupnet.Relational.Transaction

open relational
open calendar

namespace getupnet.isp_core

inductive SubscriptionState where
  | draft
  | active
  | suspended
  | terminated
  deriving DecidableEq

inductive AuthMethod where
  | dhcp
  | pppoe
  deriving DecidableEq

inductive DhcpMode where
  | dynamic
  | static
  deriving DecidableEq

/-- The field values of a subscription, before any check. -/
structure SubscriptionValues where
  name : String
  partner_id : Nat
  plan_id : Nat
  sector_id : Nat
  router_id : Option Nat := none
  state : SubscriptionState := .draft
  start_date : Option Date := none
  gps_lat : ℚ := 0
  gps_lng : ℚ := 0
  auth_method : AuthMethod := .dhcp
  dhcp_mode : DhcpMode := .dynamic
  next_invoice_date : Option Date := none
  last_invoice_id : Option Nat := none
  pppoe_username : CharField := none
  pppoe_password : CharField := none
  pppoe_profile : CharField := none
  service_ip : CharField := none
  service_mac : CharField := none

/-- Both credentials are set and not empty. -/
def SubscriptionValues.HasCredentials (self : SubscriptionValues) : Prop :=
  truthy self.pppoe_username = true ∧ truthy self.pppoe_password = true

instance (self : SubscriptionValues) : Decidable self.HasCredentials :=
  inferInstanceAs (Decidable (_ ∧ _))

def SubscriptionValues.check_pppoe_credentials (self : SubscriptionValues) : Except OdooError Unit :=
  if self.auth_method = .pppoe ∧ ¬ self.HasCredentials then
    throw (.validation "PPPoE username and password are required.")
  else pure ()

def SubscriptionValues.check_dhcp_static_ip (self : SubscriptionValues) : Except OdooError Unit :=
  if self.auth_method = .dhcp ∧ self.dhcp_mode = .static ∧ ¬ truthy self.service_ip then
    throw (.validation "Static DHCP requires an IP address.")
  else pure ()

def SubscriptionValues.check_gps_required_for_active (self : SubscriptionValues) : Except OdooError Unit :=
  if (self.state = .active ∨ self.state = .suspended) ∧ (self.gps_lat = 0 ∨ self.gps_lng = 0) then
    throw (.validation "GPS coordinates are required for active installations.")
  else pure ()

/-- The checks that read the record alone. Odoo runs a check on every write of
a field it declares; these three read no field they do not declare, so a record
that passed them keeps passing those whose fields are not written. -/
def SubscriptionValues.validate (self : SubscriptionValues) : Except OdooError Unit := do
  self.check_pppoe_credentials
  self.check_dhcp_static_ip
  self.check_gps_required_for_active

/-- A stored subscription: it has passed its record checks. -/
structure IspSubscription extends SubscriptionValues where
  checked : toSubscriptionValues.validate = .ok ()

theorem SubscriptionValues.validate_blank :
    ({ name := "", partner_id := 0, plan_id := 0, sector_id := 0 } : SubscriptionValues).validate = .ok () := rfl

/-- The empty subscription, which stands for those that do not exist. -/
def IspSubscription.blank : IspSubscription := ⟨_, SubscriptionValues.validate_blank⟩

/-- A stored subscription is its values. -/
theorem IspSubscription.eq_of_values {first second : IspSubscription}
    (h : first.toSubscriptionValues = second.toSubscriptionValues) : first = second := by
  cases first
  cases second
  cases h
  rfl

/-- Storing values, which the record checks may refuse. -/
def SubscriptionValues.store (self : SubscriptionValues) : Except OdooError IspSubscription :=
  match h : self.validate with
  | .ok () => .ok ⟨self, h⟩
  | .error exception => .error exception

def IspSubscription.write (self : IspSubscription) (change : SubscriptionValues → SubscriptionValues) :
    Except OdooError IspSubscription :=
  (change self.toSubscriptionValues).store

theorem SubscriptionValues.store_of_valid {self : SubscriptionValues} (h : self.validate = .ok ()) :
    self.store = .ok ⟨self, h⟩ := by
  unfold SubscriptionValues.store
  split
  · rfl
  · rename_i exception herror
    rw [h] at herror
    cases herror

@[simp] theorem IspSubscription.store_self (self : IspSubscription) :
    self.toSubscriptionValues.store = .ok self := SubscriptionValues.store_of_valid self.checked

/-- What storing returns is exactly what it was given. -/
theorem SubscriptionValues.store_eq_ok {self : SubscriptionValues} {record : IspSubscription}
    (h : self.store = .ok record) : record.toSubscriptionValues = self := by
  unfold SubscriptionValues.store at h
  split at h
  · cases h
    rfl
  · cases h

theorem SubscriptionValues.validate_eq_ok_iff (self : SubscriptionValues) :
    self.validate = .ok () ↔
      (self.auth_method = .pppoe → self.HasCredentials) ∧
        (self.auth_method = .dhcp → self.dhcp_mode = .static → truthy self.service_ip = true) ∧
        (self.state = .active ∨ self.state = .suspended → self.gps_lat ≠ 0 ∧ self.gps_lng ≠ 0) := by
  unfold SubscriptionValues.validate SubscriptionValues.check_pppoe_credentials
    SubscriptionValues.check_dhcp_static_ip SubscriptionValues.check_gps_required_for_active
  by_cases hcredentials : self.auth_method = .pppoe ∧ ¬ self.HasCredentials
  · rw [if_pos hcredentials]
    constructor
    · intro h
      cases h
    · exact fun h => absurd (h.1 hcredentials.1) hcredentials.2
  · by_cases hip : self.auth_method = .dhcp ∧ self.dhcp_mode = .static ∧ ¬ truthy self.service_ip
    · rw [if_neg hcredentials, if_pos hip]
      constructor
      · intro h
        cases h
      · exact fun h => absurd (h.2.1 hip.1 hip.2.1) hip.2.2
    · by_cases hgps : (self.state = .active ∨ self.state = .suspended) ∧ (self.gps_lat = 0 ∨ self.gps_lng = 0)
      · rw [if_neg hcredentials, if_neg hip, if_pos hgps]
        constructor
        · intro h
          cases h
        · intro h
          obtain ⟨hlat, hlng⟩ := h.2.2 hgps.1
          rcases hgps.2 with hzero | hzero
          · exact absurd hzero hlat
          · exact absurd hzero hlng
      · rw [if_neg hcredentials, if_neg hip, if_neg hgps]
        refine ⟨fun _ => ⟨?_, ?_, ?_⟩, fun _ => rfl⟩
        · intro hauth
          by_contra hnot
          exact hcredentials ⟨hauth, hnot⟩
        · intro hauth hmode
          by_contra hnot
          exact hip ⟨hauth, hmode, hnot⟩
        · intro hstate
          by_contra hnot
          exact hgps ⟨hstate, by tauto⟩

/-- A stored subscription that authenticates by PPPoE has both credentials. -/
theorem IspSubscription.credentials_of_pppoe (self : IspSubscription) (h : self.auth_method = .pppoe) :
    self.HasCredentials :=
  ((self.validate_eq_ok_iff).mp self.checked).1 h

def IspSubscription.ensure_pppoe_credentials (self : IspSubscription) (plan : IspServicePlan)
    (token_hex : String) : Except OdooError IspSubscription := do
  if self.auth_method ≠ .pppoe then
    return self
  let self ← if truthy self.pppoe_username then pure self
    else self.write fun values => { values with pppoe_username := some values.name }
  let self ← if truthy self.pppoe_password then pure self
    else self.write fun values => { values with pppoe_password := some token_hex }
  if truthy self.pppoe_profile then
    return self
  self.write fun values =>
    { values with pppoe_profile := orElse plan.mikrotik_profile values.pppoe_profile }

/-- A subscription with another PPP profile, which no check reads. -/
def IspSubscription.withProfile (self : IspSubscription) (profile : CharField) : IspSubscription where
  toSubscriptionValues := { self.toSubscriptionValues with pppoe_profile := profile }
  checked := self.checked

/-- A subscription with another plan, which no check reads. -/
def IspSubscription.withPlan (self : IspSubscription) (plan_id : Nat) : IspSubscription where
  toSubscriptionValues := { self.toSubscriptionValues with plan_id }
  checked := self.checked

/-- A subscription with other billing fields, which no check reads. -/
def IspSubscription.withInvoice (self : IspSubscription) (last_invoice_id : Nat) (next_invoice_date : Date) :
    IspSubscription where
  toSubscriptionValues := { self.toSubscriptionValues with
    last_invoice_id := some last_invoice_id, next_invoice_date := some next_invoice_date }
  checked := self.checked

/-- The profile that the credentials step leaves on a stored subscription. -/
def IspSubscription.ensuredProfile (self : IspSubscription) (plan : IspServicePlan) : CharField :=
  if self.auth_method = .pppoe ∧ truthy self.pppoe_profile = false then
    orElse plan.mikrotik_profile self.pppoe_profile
  else self.pppoe_profile

/-- On a stored subscription nothing but a missing PPP profile is ever filled
in: the credentials are already there by its check. -/
theorem IspSubscription.ensure_pppoe_credentials_eq (self : IspSubscription) (plan : IspServicePlan)
    (token_hex : String) :
    self.ensure_pppoe_credentials plan token_hex = .ok (self.withProfile (self.ensuredProfile plan)) := by
  unfold IspSubscription.ensure_pppoe_credentials IspSubscription.ensuredProfile
  by_cases hauth : self.auth_method = .pppoe
  · obtain ⟨husername, hpassword⟩ := self.credentials_of_pppoe hauth
    simp only [ne_eq, hauth, not_true_eq_false, if_false, husername, hpassword, if_true, pure_bind, true_and]
    by_cases hprofile : truthy self.pppoe_profile = true
    · rw [if_pos hprofile, if_neg (by simp [hprofile])]
      rfl
    · rw [if_neg hprofile, if_pos (by simpa using hprofile)]
      exact (self.withProfile (orElse plan.mikrotik_profile self.pppoe_profile)).store_self
  · simp only [ne_eq, hauth, not_false_eq_true, if_true, false_and, if_false]
    rfl

/-- The values a creation call passes; a missing key takes its default. -/
structure SubscriptionVals where
  name : Option String := none
  partner_id : Nat
  plan_id : Nat
  sector_id : Nat
  router_id : Option Nat := none
  state : SubscriptionState := .draft
  start_date : Option Date := none
  gps_lat : ℚ := 0
  gps_lng : ℚ := 0
  auth_method : Option AuthMethod := none
  dhcp_mode : DhcpMode := .dynamic
  next_invoice_date : Option Date := none
  pppoe_username : CharField := none
  pppoe_password : CharField := none
  pppoe_profile : CharField := none
  service_ip : CharField := none
  service_mac : CharField := none

/-- The name that replaces a missing one or the placeholder. -/
def SubscriptionVals.finalName (self : SubscriptionVals) (next_by_code : CharField) : String :=
  if self.name.getD "New" = "New" then (orElse next_by_code (some "SUB")).getD "SUB"
  else self.name.getD "New"

/-- The authentication method given, or the one the plan's service calls for. -/
def SubscriptionVals.finalAuthMethod (self : SubscriptionVals) (plan : IspServicePlan) : AuthMethod :=
  match self.auth_method, plan.service_type with
  | some method, _ => method
  | none, .pppoe => .pppoe
  | none, .dhcp => .dhcp
  | none, .hotspot => .dhcp

/-- The values that creation stores, once the name and the authentication
method are settled. -/
def SubscriptionVals.values (self : SubscriptionVals) (plan : IspServicePlan) (next_by_code : CharField) :
    SubscriptionValues where
  name := self.finalName next_by_code
  partner_id := self.partner_id
  plan_id := self.plan_id
  sector_id := self.sector_id
  router_id := self.router_id
  state := self.state
  start_date := self.start_date
  gps_lat := self.gps_lat
  gps_lng := self.gps_lng
  auth_method := self.finalAuthMethod plan
  dhcp_mode := self.dhcp_mode
  next_invoice_date := self.next_invoice_date
  pppoe_username := self.pppoe_username
  pppoe_password := self.pppoe_password
  pppoe_profile := self.pppoe_profile
  service_ip := self.service_ip
  service_mac := self.service_mac

/-- `create`: the whole batch is stored and checked before any credentials are
filled in. The sequence is drawn per position of the batch, the token per name. -/
def IspSubscription.create (plans : Nat → IspServicePlan) (next_by_code : Nat → CharField)
    (token_hex : String → String) (vals_list : List SubscriptionVals) :
    Except OdooError (List IspSubscription) := do
  let records ← (vals_list.zipIdx.map fun (vals, i) =>
    vals.values (plans vals.plan_id) (next_by_code i)).mapM SubscriptionValues.store
  records.mapM fun rec => rec.ensure_pppoe_credentials (plans rec.plan_id) (token_hex rec.name)

/-- A created subscription has exactly the values passed for it, with only a
missing PPP profile filled in. -/
theorem IspSubscription.create_values {plans : Nat → IspServicePlan} {next_by_code : Nat → CharField}
    {token_hex : String → String} {vals_list : List SubscriptionVals} {records : List IspSubscription}
    (h : IspSubscription.create plans next_by_code token_hex vals_list = .ok records) {i : Nat}
    {record : IspSubscription} (hrecord : records[i]? = some record) :
    ∃ vals profile, vals_list[i]? = some vals ∧
      record.toSubscriptionValues =
        { vals.values (plans vals.plan_id) (next_by_code i) with pppoe_profile := profile } := by
  unfold IspSubscription.create at h
  cases hstored : (vals_list.zipIdx.map fun (vals, i) =>
      vals.values (plans vals.plan_id) (next_by_code i)).mapM SubscriptionValues.store with
  | error exception =>
    rw [hstored] at h
    cases h
  | ok stored =>
    rw [hstored] at h
    obtain ⟨rec, hrec, hensured⟩ := mapM_ok_getElem h hrecord
    obtain ⟨values, hvalues, hstore⟩ := mapM_ok_getElem hstored hrec
    rw [List.getElem?_map, List.getElem?_zipIdx, Option.map_eq_some_iff] at hvalues
    obtain ⟨⟨vals, position⟩, hposition, hpassed⟩ := hvalues
    obtain ⟨given, hgiven, hpair⟩ := Option.map_eq_some_iff.mp hposition
    cases hpair
    rw [rec.ensure_pppoe_credentials_eq] at hensured
    cases hensured
    have hstoredValues : rec.toSubscriptionValues = vals.values (plans vals.plan_id) (next_by_code i) := by
      rw [SubscriptionValues.store_eq_ok hstore, ← hpassed, Nat.zero_add]
    refine ⟨vals, rec.ensuredProfile (plans rec.plan_id), hgiven, ?_⟩
    rw [← hstoredValues]
    rfl

end getupnet.isp_core

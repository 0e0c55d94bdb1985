import Getupnet.Relational.Outcome
import Getupnet.IspCore.StaticIp

open relational

namespace getupnet.isp_core

/-- The values of a new subscription, with its device. -/
structure NewSubscription extends SubscriptionVals where
  device_id : Option Nat := none

/-- What a call of `create` meets: the user, the plans and the sectors of the devices,
what the sequence and the secrets give, and the subscriptions there are. -/
structure Creation where
  user : ResUsers
  plans : Nat → IspServicePlan
  device_sector : Nat → Option Nat
  next_by_code : Nat → CharField
  token_hex : String → String
  subscriptions : Store IspSubscription

def NewSubscription.check_device_sector_match (device_sector : Nat → Option Nat) (self : NewSubscription) :
    Except OdooError Unit :=
  match self.device_id.bind device_sector with
  | some sector_id =>
    if sector_id ≠ self.sector_id then
      throw (.validation "The selected device does not belong to the subscription's sector.")
    else pure ()
  | none => pure ()

/-- `create`, with the checks that compare the new records with others. Which of
several refusals is raised is left open. -/
def Creation.create (self : Creation) (vals_list : List NewSubscription) :
    Except OdooError (Store IspSubscription) := do
  vals_list.forM (NewSubscription.check_device_sector_match self.device_sector)
  SubscriptionCall.run self.plans
    (.create self.user self.next_by_code self.token_hex (vals_list.map NewSubscription.toSubscriptionVals))
    self.subscriptions

/-- The authentication method that a new subscription ends with. -/
def Creation.auth_method (self : Creation) (vals : NewSubscription) : AuthMethod :=
  vals.finalAuthMethod (self.plans vals.plan_id)

/-- The address of a new subscription with a static one. -/
def Creation.static_ip (self : Creation) (vals : NewSubscription) : Option CharField :=
  if self.auth_method vals = .dhcp ∧ vals.dhcp_mode = .static then some vals.service_ip else none

/-- Every new PPPoE subscription has non-empty credentials, those it was given where
it was given some. -/
def Creation.Credentialed (self : Creation) (vals_list : List NewSubscription) (after : Store IspSubscription) :
    Prop :=
  ∀ (i : Nat) vals, vals_list[i]? = some vals → self.auth_method vals = .pppoe →
    (after.row (self.subscriptions.next_id + i)).HasCredentials ∧
      (truthy vals.pppoe_username = true →
        (after.row (self.subscriptions.next_id + i)).pppoe_username = vals.pppoe_username) ∧
      (truthy vals.pppoe_password = true →
        (after.row (self.subscriptions.next_id + i)).pppoe_password = vals.pppoe_password)

/-- The batch meets what creation asks of it besides the credentials. -/
structure Creation.Admits (call : Creation) (vals_list : List NewSubscription) : Prop where
  address : ∀ vals ∈ vals_list, call.static_ip vals ≠ none → truthy vals.service_ip = true
  gps : ∀ vals ∈ vals_list, vals.state = .active ∨ vals.state = .suspended → vals.gps_lat ≠ 0 ∧ vals.gps_lng ≠ 0
  device : ∀ vals ∈ vals_list, ∀ sector_id, vals.device_id.bind call.device_sector = some sector_id →
    sector_id = vals.sector_id
  visible : ∀ vals ∈ vals_list, call.user.sees (some vals.sector_id) = true
  unheld : ∀ vals ∈ vals_list, call.static_ip vals ≠ none → ∀ id ∈ call.subscriptions.ids,
    (call.subscriptions.row id).static_ip = call.static_ip vals →
      (call.subscriptions.row id).visible call.user = false
  distinct : ∀ (i j : Nat) first second, vals_list[i]? = some first → vals_list[j]? = some second → j ≠ i →
    call.static_ip first ≠ none → call.static_ip second ≠ call.static_ip first

/-- Both credentials of every new PPPoE subscription are given. -/
def Creation.GivesCredentials (self : Creation) (vals_list : List NewSubscription) : Prop :=
  ∀ vals ∈ vals_list, self.auth_method vals = .pppoe →
    truthy vals.pppoe_username = true ∧ truthy vals.pppoe_password = true

section

variable {call : Creation} {vals_list : List NewSubscription} {after : Store IspSubscription}

theorem SubscriptionValues.exists_store_iff (self : SubscriptionValues) :
    (∃ record, self.store = .ok record) ↔ self.validate = .ok () := by
  constructor
  · rintro ⟨record, hstore⟩
    rw [← SubscriptionValues.store_eq_ok hstore]
    exact record.checked
  · exact fun h => ⟨_, SubscriptionValues.store_of_valid h⟩

/-- A batch is created when its values pass the record checks as they are given:
the credentials are filled in after that. -/
theorem IspSubscription.exists_create_iff {plans : Nat → IspServicePlan} {next_by_code : Nat → CharField}
    {token_hex : String → String} {vals_list : List SubscriptionVals} :
    (∃ records, IspSubscription.create plans next_by_code token_hex vals_list = .ok records) ↔
      ∀ vals ∈ vals_list, (vals.values (plans vals.plan_id) none).validate = .ok () := by
  have hstored : (∃ stored, (vals_list.zipIdx.map fun entry =>
      entry.1.values (plans entry.1.plan_id) (next_by_code entry.2)).mapM SubscriptionValues.store = .ok stored) ↔
        ∀ vals ∈ vals_list, (vals.values (plans vals.plan_id) none).validate = .ok () := by
    rw [exists_mapM_ok_iff, List.forall_mem_map]
    simp only [SubscriptionValues.exists_store_iff]
    constructor
    · intro h vals hvals
      obtain ⟨i, hi⟩ := List.mem_iff_getElem?.mp hvals
      exact h (vals, i) (List.mk_mem_zipIdx_iff_getElem?.mpr hi)
    · rintro h ⟨vals, i⟩ hmem
      exact h vals (List.mem_of_getElem? (List.mk_mem_zipIdx_iff_getElem?.mp hmem))
  rw [← hstored]
  constructor
  · rintro ⟨records, hcreate⟩
    obtain ⟨stored, hfirst, _⟩ := bind_ok_iff.mp hcreate
    exact ⟨stored, hfirst⟩
  · rintro ⟨stored, hfirst⟩
    have hensured : ∃ records, stored.mapM (fun rec =>
        rec.ensure_pppoe_credentials (plans rec.plan_id) (token_hex rec.name)) = .ok records :=
      exists_mapM_ok_iff.mpr fun rec _ => ⟨_, rec.ensure_pppoe_credentials_eq _ _⟩
    obtain ⟨records, hsecond⟩ := hensured
    exact ⟨records, bind_ok_iff.mpr ⟨stored, hfirst, hsecond⟩⟩

/-- The created records are as many as the values they are created from. -/
theorem IspSubscription.create_length {plans : Nat → IspServicePlan} {next_by_code : Nat → CharField}
    {token_hex : String → String} {vals_list : List SubscriptionVals} {records : List IspSubscription}
    (h : IspSubscription.create plans next_by_code token_hex vals_list = .ok records) :
    records.length = vals_list.length := by
  obtain ⟨stored, hfirst, hsecond⟩ := bind_ok_iff.mp h
  have hstored := (mapM_ok_iff_forall₂.mp hfirst).length_eq
  have hensured := (mapM_ok_iff_forall₂.mp hsecond).length_eq
  rw [List.length_map, List.length_zipIdx] at hstored
  rw [← hensured, ← hstored]

/-- The values of a created record. -/
structure CreatedFrom (call : Creation) (vals : NewSubscription) (record : IspSubscription) : Prop where
  auth_method : record.auth_method = call.auth_method vals
  sector_id : record.sector_id = vals.sector_id
  static_ip : record.static_ip = call.static_ip vals
  pppoe_username : record.pppoe_username = vals.pppoe_username
  pppoe_password : record.pppoe_password = vals.pppoe_password

/-- The created records come from the values, position by position. -/
theorem Creation.created_forall₂ {records : List IspSubscription}
    (h : IspSubscription.create call.plans call.next_by_code call.token_hex
      (vals_list.map NewSubscription.toSubscriptionVals) = .ok records) :
    List.Forall₂ (CreatedFrom call) vals_list records := by
  have hlength := IspSubscription.create_length h
  rw [List.length_map] at hlength
  rw [List.forall₂_iff_get]
  refine ⟨hlength.symm, fun i hvals hrecord => ?_⟩
  obtain ⟨vals, profile, hgiven, hvalues⟩ := IspSubscription.create_values h (List.getElem?_eq_getElem hrecord)
  rw [List.getElem?_map, List.getElem?_eq_getElem hvals, Option.map_some, Option.some.injEq] at hgiven
  subst hgiven
  have hauth : records[i].auth_method = call.auth_method vals_list[i] :=
    congrArg SubscriptionValues.auth_method hvalues
  refine ⟨hauth, congrArg SubscriptionValues.sector_id hvalues, ?_,
    congrArg SubscriptionValues.pppoe_username hvalues, congrArg SubscriptionValues.pppoe_password hvalues⟩
  have hmode : records[i].dhcp_mode = vals_list[i].dhcp_mode := congrArg SubscriptionValues.dhcp_mode hvalues
  have hip : records[i].service_ip = vals_list[i].service_ip := congrArg SubscriptionValues.service_ip hvalues
  simp only [List.get_eq_getElem, IspSubscription.static_ip, Creation.static_ip, hauth, hmode, hip]

theorem NewSubscription.check_device_sector_match_ok_iff {device_sector : Nat → Option Nat}
    (vals : NewSubscription) :
    vals.check_device_sector_match device_sector = .ok () ↔
      ∀ sector_id, vals.device_id.bind device_sector = some sector_id → sector_id = vals.sector_id := by
  unfold NewSubscription.check_device_sector_match
  cases vals.device_id.bind device_sector with
  | none => exact iff_of_true rfl nofun
  | some sector_id =>
    simp only [Option.some.injEq, forall_eq']
    by_cases hsame : sector_id = vals.sector_id
    · refine iff_of_true ?_ hsame
      rw [if_neg (not_not_intro hsame)]
      rfl
    · simp [hsame]

/-- The record checks of the values as they are given. -/
theorem Creation.validate_iff :
    (∀ vals ∈ vals_list.map NewSubscription.toSubscriptionVals,
        (vals.values (call.plans vals.plan_id) none).validate = .ok ()) ↔
      call.GivesCredentials vals_list ∧
        (∀ vals ∈ vals_list, call.static_ip vals ≠ none → truthy vals.service_ip = true) ∧
        ∀ vals ∈ vals_list, vals.state = .active ∨ vals.state = .suspended → vals.gps_lat ≠ 0 ∧
          vals.gps_lng ≠ 0 := by
  have haddress : ∀ vals : NewSubscription, (call.static_ip vals ≠ none → truthy vals.service_ip = true) ↔
      (call.auth_method vals = .dhcp → vals.dhcp_mode = .static → truthy vals.service_ip = true) := by
    intro vals
    unfold Creation.static_ip
    split
    · rename_i hstatic
      exact ⟨fun h _ _ => h (Option.some_ne_none _), fun h _ => h hstatic.1 hstatic.2⟩
    · rename_i hnot
      exact iff_of_true (fun h => absurd rfl h) fun hdhcp hstatic => absurd ⟨hdhcp, hstatic⟩ hnot
  rw [List.forall_mem_map]
  simp only [SubscriptionValues.validate_eq_ok_iff, haddress, Creation.GivesCredentials, ← forall_and]
  rfl

/-- What the rest of the call checks of the created records: the sector of the device, the
record rule of the caller and the static addresses that the caller can see. Nothing else
refuses a batch whose records have been made. -/
theorem Creation.create_eq_ok_iff :
    call.create vals_list = .ok after ↔
      (∀ vals ∈ vals_list, ∀ sector_id, vals.device_id.bind call.device_sector = some sector_id →
          sector_id = vals.sector_id) ∧
        ∃ records, IspSubscription.create call.plans call.next_by_code call.token_hex
            (vals_list.map NewSubscription.toSubscriptionVals) = .ok records ∧
          after = call.subscriptions.createAll records ∧ (∀ record ∈ records, record.visible call.user = true) ∧
          CheckPasses IspSubscription.static_ip (IspSubscription.visible call.user)
            (List.range' call.subscriptions.next_id records.length) (call.subscriptions.createAll records) := by
  have hchecked : ∀ records : List IspSubscription,
      SubscriptionCall.checked call.subscriptions (call.subscriptions.createAll records)
          (.create call.user call.next_by_code call.token_hex (vals_list.map NewSubscription.toSubscriptionVals)) =
        List.range' call.subscriptions.next_id records.length := by
    intro records
    dsimp only [SubscriptionCall.checked]
    rw [call.subscriptions.createAll_next_id, Nat.add_sub_cancel_left]
  have hallowed : ∀ records : List IspSubscription,
      SubscriptionCall.allowed call.subscriptions (call.subscriptions.createAll records)
          (.create call.user call.next_by_code call.token_hex (vals_list.map NewSubscription.toSubscriptionVals)) =
            true ↔
        ∀ record ∈ records, record.visible call.user = true := by
    intro records
    have hrows := call.subscriptions.map_row_createAll records
    dsimp only [SubscriptionCall.allowed]
    conv_rhs => rw [← hrows]
    rw [hchecked, List.all_eq_true, List.forall_mem_map]
    rfl
  have hpeeled : call.create vals_list = .ok after ↔
      vals_list.forM (NewSubscription.check_device_sector_match call.device_sector) = .ok () ∧
        SubscriptionCall.run call.plans
          (.create call.user call.next_by_code call.token_hex (vals_list.map NewSubscription.toSubscriptionVals))
          call.subscriptions = .ok after :=
    bind_ok_iff.trans ⟨fun ⟨_, h⟩ => h, fun h => ⟨(), h⟩⟩
  rw [hpeeled, forM_ok_iff]
  simp only [NewSubscription.check_device_sector_match_ok_iff]
  refine and_congr_right fun _ => ?_
  constructor
  · intro h
    obtain ⟨stored, hstored, hrest⟩ := bind_ok_iff.mp h
    obtain ⟨records, hcreate, hbatch⟩ := bind_ok_iff.mp hstored
    cases hbatch
    refine ⟨records, hcreate, ?_⟩
    split at hrest
    · cases hrest
    · rename_i hvisible
      rw [Bool.not_eq_false] at hvisible
      obtain ⟨_, hunique, hlast⟩ := bind_ok_iff.mp hrest
      rw [hchecked] at hunique
      cases hlast
      exact ⟨rfl, (hallowed records).mp hvisible, IspSubscription.check_unique_static_ip_passes_iff.mp hunique⟩
  · rintro ⟨records, hcreate, rfl, hvisible, hpasses⟩
    have hstored : SubscriptionCall.stored call.plans call.subscriptions
        (.create call.user call.next_by_code call.token_hex (vals_list.map NewSubscription.toSubscriptionVals)) =
          .ok (call.subscriptions.createAll records) := bind_ok_iff.mpr ⟨records, hcreate, rfl⟩
    refine bind_ok_iff.mpr ⟨_, hstored, ?_⟩
    rw [if_neg, hchecked]
    · exact bind_ok_iff.mpr ⟨(), IspSubscription.check_unique_static_ip_passes_iff.mpr hpasses, rfl⟩
    · rw [Bool.not_eq_false]
      exact (hallowed records).mpr hvisible

/-- The checks against other records, in terms of the values given. -/
theorem Creation.records_admitted_iff {records : List IspSubscription}
    (h : List.Forall₂ (CreatedFrom call) vals_list records) :
    ((∀ record ∈ records, record.visible call.user = true) ∧
        CheckPasses IspSubscription.static_ip (IspSubscription.visible call.user)
          (List.range' call.subscriptions.next_id records.length) (call.subscriptions.createAll records)) ↔
      (∀ vals ∈ vals_list, call.user.sees (some vals.sector_id) = true) ∧
        (∀ vals ∈ vals_list, call.static_ip vals ≠ none → ∀ id ∈ call.subscriptions.ids,
          (call.subscriptions.row id).static_ip = call.static_ip vals →
            (call.subscriptions.row id).visible call.user = false) ∧
        ∀ (i j : Nat) first second, vals_list[i]? = some first → vals_list[j]? = some second → j ≠ i →
          call.static_ip first ≠ none → call.static_ip second ≠ call.static_ip first := by
  have hvisible : (∀ vals ∈ vals_list, call.user.sees (some vals.sector_id) = true) ↔
      ∀ record ∈ records, record.visible call.user = true := by
    refine forall_mem_iff_of_forall₂ h fun vals record hfrom => ?_
    rw [IspSubscription.visible, hfrom.sector_id]
  have hunheld : (∀ vals ∈ vals_list, call.static_ip vals ≠ none → ∀ id ∈ call.subscriptions.ids,
        (call.subscriptions.row id).static_ip = call.static_ip vals →
          (call.subscriptions.row id).visible call.user = false) ↔
      ∀ record ∈ records, record.static_ip ≠ none → ∀ id ∈ call.subscriptions.ids,
        (call.subscriptions.row id).static_ip = record.static_ip →
          (call.subscriptions.row id).visible call.user = false := by
    refine forall_mem_iff_of_forall₂ h fun vals record hfrom => ?_
    rw [hfrom.static_ip]
  rw [hvisible, hunheld, CheckPasses.createAll_iff]
  refine and_congr_right fun hall => and_congr_right fun _ => ?_
  constructor
  · intro hseen i j first second hfirst hsecond hne hkey hsame
    obtain ⟨record, hrecord, hfrom⟩ := getElem?_of_forall₂ h hfirst
    obtain ⟨other, hother, hotherFrom⟩ := getElem?_of_forall₂ h hsecond
    have hhidden := hseen i j record other hrecord hother hne (hfrom.static_ip ▸ hkey)
      (by rw [hotherFrom.static_ip, hfrom.static_ip, hsame])
    rw [hall other (List.mem_of_getElem? hother)] at hhidden
    cases hhidden
  · intro hdistinct i j record other hrecord hother hne hkey hsame
    obtain ⟨first, hfirst, hfrom⟩ := getElem?_of_forall₂ h.flip hrecord
    obtain ⟨second, hsecond, hotherFrom⟩ := getElem?_of_forall₂ h.flip hother
    refine absurd ?_ (hdistinct i j first second hfirst hsecond hne (hfrom.static_ip ▸ hkey))
    rw [← hotherFrom.static_ip, ← hfrom.static_ip, hsame]

/-- A batch is created exactly if it meets the rules as it is given. -/
theorem Creation.exists_create_iff :
    (∃ after, call.create vals_list = .ok after) ↔ call.GivesCredentials vals_list ∧ call.Admits vals_list := by
  simp only [Creation.create_eq_ok_iff]
  constructor
  · rintro ⟨after, hdevice, records, hcreate, _, hrest⟩
    obtain ⟨hgives, haddress, hgps⟩ :=
      Creation.validate_iff.mp (IspSubscription.exists_create_iff.mp ⟨records, hcreate⟩)
    obtain ⟨hvisible, hunheld, hdistinct⟩ :=
      (Creation.records_admitted_iff (Creation.created_forall₂ hcreate)).mp hrest
    exact ⟨hgives, haddress, hgps, hdevice, hvisible, hunheld, hdistinct⟩
  · rintro ⟨hgives, hadmits⟩
    obtain ⟨records, hcreate⟩ :=
      IspSubscription.exists_create_iff.mpr (Creation.validate_iff.mpr ⟨hgives, hadmits.address, hadmits.gps⟩)
    have hrest := (Creation.records_admitted_iff (Creation.created_forall₂ hcreate)).mpr
      ⟨hadmits.visible, hadmits.unheld, hadmits.distinct⟩
    exact ⟨_, hadmits.device, records, hcreate, rfl, hrest⟩

/-- What is created has the credentials that were given. -/
theorem Creation.credentialed_of_create (h : call.create vals_list = .ok after) :
    call.Credentialed vals_list after := by
  obtain ⟨_, records, hcreate, rfl, _⟩ := Creation.create_eq_ok_iff.mp h
  intro i vals hvals hmethod
  obtain ⟨record, hrecord, hfrom⟩ := getElem?_of_forall₂ (Creation.created_forall₂ hcreate) hvals
  rw [call.subscriptions.createAll_row_new hrecord]
  exact ⟨record.credentials_of_pppoe (hfrom.auth_method.trans hmethod), fun _ => hfrom.pppoe_username,
    fun _ => hfrom.pppoe_password⟩

end

/-- A batch is created, with credentials for all its PPPoE subscriptions, exactly when
these are all given and the batch meets the other rules: none is ever generated, as
their check comes first. -/
theorem credentials_ensured_iff (call : Creation) (vals_list : List NewSubscription) :
    (∃ after, call.create vals_list = .ok after ∧ call.Credentialed vals_list after) ↔
      call.GivesCredentials vals_list ∧ call.Admits vals_list := by
  rw [← Creation.exists_create_iff]
  exact exists_congr fun after => and_iff_left_of_imp Creation.credentialed_of_create

/-- One customer on a PPPoE plan, with a user name of its own. -/
def pppoeCustomer : NewSubscription where
  partner_id := 0
  plan_id := 0
  sector_id := 0
  pppoe_username := some "ana"

def pppoeOffice : Creation where
  user := ResUsers.superuser
  plans _ := { name := "Fibre", service_type := .pppoe }
  device_sector _ := none
  next_by_code _ := some "SUB0001"
  token_hex _ := "c0ffee"
  subscriptions := noCustomers

/-- A PPPoE customer without a password is refused, though the batch meets all the
other rules. -/
theorem missing_password_refused :
    pppoeOffice.Admits [pppoeCustomer] ∧
      ¬ ∃ after, pppoeOffice.create [pppoeCustomer] = .ok after ∧
        pppoeOffice.Credentialed [pppoeCustomer] after := by
  have hdynamic : ∀ vals ∈ [pppoeCustomer], pppoeOffice.static_ip vals = none := by
    intro vals hvals
    rw [List.mem_singleton.mp hvals]
    rfl
  constructor
  · constructor
    · exact fun vals hvals hstatic => absurd (hdynamic vals hvals) hstatic
    · simp [pppoeCustomer]
    · simp [pppoeCustomer]
    · simp [pppoeOffice]
    · exact fun vals hvals hstatic => absurd (hdynamic vals hvals) hstatic
    · exact fun i j first _ hfirst _ _ hstatic => absurd (hdynamic first (List.mem_of_getElem? hfirst)) hstatic
  · rintro ⟨after, hcreate, _⟩
    cases hcreate

end getupnet.isp_core

import Getupnet.Relational.Runs
import Getupnet.Relational.Uniqueness
import Getupnet.IspCore.RecordRules
import Getupnet.IspCore.Records

open relational

namespace getupnet.isp_core

/-- The values of a `write` call: those of the three fields that the check on
static addresses declares, where they are written, and what is written to other
fields. -/
structure SubscriptionWrite where
  auth_method : Option AuthMethod := none
  dhcp_mode : Option DhcpMode := none
  service_ip : Option CharField := none
  others : SubscriptionValues → SubscriptionValues := id
  others_keep : ∀ values, (others values).auth_method = values.auth_method ∧
      (others values).dhcp_mode = values.dhcp_mode ∧ (others values).service_ip = values.service_ip := by
    exact fun _ => ⟨rfl, rfl, rfl⟩

def SubscriptionWrite.apply (self : SubscriptionWrite) (values : SubscriptionValues) : SubscriptionValues :=
  { self.others values with
    auth_method := self.auth_method.getD values.auth_method
    dhcp_mode := self.dhcp_mode.getD values.dhcp_mode
    service_ip := self.service_ip.getD values.service_ip }

/-- A field that `_check_unique_static_ip` declares is written. -/
def SubscriptionWrite.triggers (self : SubscriptionWrite) : Bool :=
  self.auth_method.isSome || self.dhcp_mode.isSome || self.service_ip.isSome

/-- The record rule of subscriptions. -/
def IspSubscription.visible (user : ResUsers) (self : IspSubscription) : Bool := user.sees (some self.sector_id)

/-- `search_count` of the static subscriptions with an address, but for one record,
among those that the user may read. -/
def IspSubscription.search_count (user : ResUsers) (table : Store IspSubscription) (id : Nat)
    (service_ip : CharField) : Nat :=
  (table.ids.filter fun other => decide (other ≠ id) && decide ((table.row other).service_ip = service_ip) &&
    decide ((table.row other).auth_method = .dhcp) && decide ((table.row other).dhcp_mode = .static) &&
    (table.row other).visible user).length

def IspSubscription.check_unique_static_ip (user : ResUsers) (table : Store IspSubscription) (self : List Nat) :
    Except OdooError Unit :=
  self.forM fun rec => do
    let record := table.row rec
    if record.auth_method ≠ .dhcp ∨ record.dhcp_mode ≠ .static ∨ truthy record.service_ip = false then
      return
    if IspSubscription.search_count user table rec record.service_ip ≠ 0 then
      throw (.validation "Static IP address must be unique.")

/-- Storing the values of a write in one record after the other. -/
def IspSubscription.write_each (vals : SubscriptionWrite) :
    List Nat → Store IspSubscription → Except OdooError (Store IspSubscription)
  | [], table => pure table
  | id :: ids, table => do
    let record ← (table.row id).write vals.apply
    IspSubscription.write_each vals ids (table.write id fun _ => record)

/-- Calls that create and write subscriptions, by a user or by MAC onboarding. -/
inductive SubscriptionCall where
  | create (user : ResUsers) (next_by_code : Nat → CharField) (token_hex : String → String)
      (vals_list : List SubscriptionVals)
  | write (user : ResUsers) (self : List Nat) (vals : SubscriptionWrite)
  | mac_onboarding (next_by_code : Nat → CharField) (token_hex : String → String)
      (partner_id plan_id sector_id : Nat) (router_id : Option Nat) (norm_mac ip : CharField)

def SubscriptionCall.user : SubscriptionCall → ResUsers
  | .create user _ _ _ => user
  | .write user _ _ => user
  | .mac_onboarding .. => ResUsers.superuser

/-- The table with the values of a call stored in it. -/
def SubscriptionCall.stored (plans : Nat → IspServicePlan) (table : Store IspSubscription) :
    SubscriptionCall → Except OdooError (Store IspSubscription)
  | .create _ next_by_code token_hex vals_list => do
    return table.createAll (← IspSubscription.create plans next_by_code token_hex vals_list)
  | .write _ self vals => IspSubscription.write_each vals self table
  | .mac_onboarding next_by_code token_hex partner_id plan_id sector_id router_id norm_mac ip => do
    return table.createAll (← IspSubscription.create plans next_by_code token_hex
      [mac_onboarding_vals partner_id plan_id sector_id router_id norm_mac ip])

/-- The records on which a call runs `_check_unique_static_ip`. -/
def SubscriptionCall.checked (before after : Store IspSubscription) : SubscriptionCall → List Nat
  | .write _ self vals => if vals.triggers then self else []
  | _ => List.range' before.next_id (after.next_id - before.next_id)

/-- The records on which a call checks the record rule: those to be written as
they are before, created ones as they are made. -/
def SubscriptionCall.allowed (before after : Store IspSubscription) : SubscriptionCall → Bool
  | .write user self _ => self.all fun id => (before.row id).visible user
  | call => (call.checked before after).all fun id => (after.row id).visible call.user

/-- `create` and `write`. -/
def SubscriptionCall.run (plans : Nat → IspServicePlan) (call : SubscriptionCall)
    (table : Store IspSubscription) :
    Except OdooError (Store IspSubscription) := do
  let after ← call.stored plans table
  if call.allowed table after = false then
    throw (.other "You are not allowed to access these records.")
  IspSubscription.check_unique_static_ip call.user after (call.checked table after)
  return after

/-- The written records exist. -/
def SubscriptionCall.Possible (table : Store IspSubscription) : SubscriptionCall → Prop
  | .write _ self _ => ∀ id ∈ self, id ∈ table.ids
  | _ => True

/-- A call that returns. One that raises leaves the table as it is. -/
def SubscriptionStep (plans : Nat → IspServicePlan) (table : Store IspSubscription) (call : SubscriptionCall)
    (after : Store IspSubscription) : Prop :=
  call.Possible table ∧ call.run plans table = .ok after

/-- The address of a subscription that has a static one. -/
def IspSubscription.static_ip (self : IspSubscription) : Option CharField :=
  if self.auth_method = .dhcp ∧ self.dhcp_mode = .static then some self.service_ip else none

/-- Every static subscription with an address that the call stores in another one
is in a sector that the caller may see. -/
def SubscriptionCall.SeesHolders (plans : Nat → IspServicePlan) (table : Store IspSubscription)
    (call : SubscriptionCall) : Prop :=
  ∀ after, call.stored plans table = .ok after →
    ClashesVisible IspSubscription.static_ip (IspSubscription.visible call.user) (call.checked table after) after

section

variable {plans : Nat → IspServicePlan} {table after : Store IspSubscription} {call : SubscriptionCall}

/-- A stored static subscription has an address, by its own check. -/
theorem IspSubscription.static_ip_ne_none_iff (self : IspSubscription) :
    self.static_ip ≠ none ↔ self.auth_method = .dhcp ∧ self.dhcp_mode = .static ∧
      truthy self.service_ip = true := by
  unfold IspSubscription.static_ip
  split
  · rename_i hstatic
    have htruthy := ((self.validate_eq_ok_iff).mp self.checked).2.1 hstatic.1 hstatic.2
    exact iff_of_true (by simp) ⟨hstatic.1, hstatic.2, htruthy⟩
  · rename_i hnot
    exact iff_of_false (by simp) fun h => hnot ⟨h.1, h.2.1⟩

theorem IspSubscription.static_ip_eq (self : IspSubscription) (h : self.static_ip ≠ none) :
    self.static_ip = some self.service_ip := by
  unfold IspSubscription.static_ip at h ⊢
  split
  · rfl
  · rename_i hnot
    rw [if_neg hnot] at h
    exact absurd rfl h

/-- What the check counts for a record are its clashes that the user may read. -/
theorem IspSubscription.search_count_eq_zero_iff {user : ResUsers} {id : Nat}
    (hkey : (table.row id).static_ip ≠ none) :
    IspSubscription.search_count user table id (table.row id).service_ip = 0 ↔
      ∀ other, Clash IspSubscription.static_ip table id other → (table.row other).visible user = false := by
  have haddress := (table.row id).static_ip_eq hkey
  rw [IspSubscription.search_count, List.length_eq_zero_iff, List.filter_eq_nil_iff]
  constructor
  · rintro hnone other ⟨hother, hne, _, hsame⟩
    obtain ⟨hdhcp, hstatic, _⟩ := ((table.row other).static_ip_ne_none_iff).mp (hsame ▸ hkey)
    have hholder := (table.row other).static_ip_eq (hsame ▸ hkey)
    have hip : (table.row other).service_ip = (table.row id).service_ip :=
      Option.some.inj (hholder.symm.trans (hsame.trans haddress))
    have hcounted := hnone other hother
    simpa [hne, hip, hdhcp, hstatic] using hcounted
  · intro hvisible other hother hcounted
    simp only [Bool.and_eq_true, decide_eq_true_eq] at hcounted
    obtain ⟨⟨⟨⟨hne, hip⟩, hdhcp⟩, hstatic⟩, hseen⟩ := hcounted
    have hsame : (table.row other).static_ip = (table.row id).static_ip := by
      rw [haddress, IspSubscription.static_ip, if_pos ⟨hdhcp, hstatic⟩, hip]
    rw [hvisible other ⟨hother, hne, hkey, hsame⟩] at hseen
    cases hseen

/-- The check passes when no written record has the address of one that the user may
read. -/
theorem IspSubscription.check_unique_static_ip_passes_iff {user : ResUsers} {written : List Nat} :
    IspSubscription.check_unique_static_ip user table written = .ok () ↔
      CheckPasses IspSubscription.static_ip (IspSubscription.visible user) written table := by
  rw [IspSubscription.check_unique_static_ip, forM_ok_iff]
  refine forall_congr' fun id => imp_congr_right fun _ => ?_
  by_cases hkey : (table.row id).static_ip = none
  · refine iff_of_true ?_ fun other hclash => absurd hkey hclash.2.2.1
    have hskipped : (table.row id).auth_method ≠ .dhcp ∨ (table.row id).dhcp_mode ≠ .static ∨
        truthy (table.row id).service_ip = false := by
      have hnot := mt ((table.row id).static_ip_ne_none_iff).mpr (not_not_intro hkey)
      grind
    rw [if_pos hskipped]
    rfl
  · obtain ⟨hdhcp, hstatic, hip⟩ := ((table.row id).static_ip_ne_none_iff).mp hkey
    have hchecked : ¬ ((table.row id).auth_method ≠ .dhcp ∨ (table.row id).dhcp_mode ≠ .static ∨
        truthy (table.row id).service_ip = false) := by simp [hdhcp, hstatic, hip]
    rw [if_neg hchecked, ← IspSubscription.search_count_eq_zero_iff hkey]
    by_cases hcount : IspSubscription.search_count user table id (table.row id).service_ip = 0
    · refine iff_of_true ?_ hcount
      rw [if_neg (not_not_intro hcount)]
      rfl
    · simp [hcount]

/-- What storing the values of a write leaves: other records as they are, and all
keys as they are when no field of the check is written. -/
theorem IspSubscription.write_each_returns {vals : SubscriptionWrite} {ids : List Nat}
    (h : IspSubscription.write_each vals ids table = .ok after) :
    after.ids = table.ids ∧ (∀ id, id ∉ ids → after.row id = table.row id) ∧
      (vals.triggers = false → ∀ id, (after.row id).static_ip = (table.row id).static_ip) := by
  induction ids generalizing table with
  | nil =>
    cases h
    exact ⟨rfl, fun _ _ => rfl, fun _ _ => rfl⟩
  | cons first rest ih =>
    unfold IspSubscription.write_each at h
    cases hwrite : (table.row first).write vals.apply with
    | error exception =>
      rw [hwrite] at h
      cases h
    | ok record =>
      rw [hwrite] at h
      obtain ⟨hids, hrows, hkeys⟩ := ih h
      refine ⟨hids, fun id hid => ?_, fun htriggers id => ?_⟩
      · rw [List.mem_cons, not_or] at hid
        obtain ⟨hne, hrest⟩ := hid
        rw [hrows id hrest, Store.write_row_ne _ hne]
      · rw [hkeys htriggers id]
        by_cases hsame : id = first
        · subst hsame
          rw [Store.write_row_self]
          have hvalues : record.toSubscriptionValues = vals.apply (table.row id).toSubscriptionValues :=
            SubscriptionValues.store_eq_ok hwrite
          obtain ⟨hauth, hmode, hip⟩ := vals.others_keep (table.row id).toSubscriptionValues
          unfold SubscriptionWrite.triggers at htriggers
          simp only [Bool.or_eq_false_iff, Option.isSome_eq_false_iff, Option.isNone_iff_eq_none] at htriggers
          obtain ⟨⟨hnoAuth, hnoMode⟩, hnoIp⟩ := htriggers
          unfold IspSubscription.static_ip
          rw [hvalues]
          simp only [SubscriptionWrite.apply, hnoAuth, hnoMode, hnoIp, Option.getD_none]
        · rw [Store.write_row_ne _ hsame]

/-- A call that returns has stored its values and passed its check. -/
theorem SubscriptionCall.run_returns (h : call.run plans table = .ok after) :
    call.stored plans table = .ok after ∧
      CheckPasses IspSubscription.static_ip (IspSubscription.visible call.user) (call.checked table after) after := by
  obtain ⟨stored, hstored, hrest⟩ := bind_ok_iff.mp h
  by_cases hallowed : call.allowed table stored = false
  · rw [if_pos hallowed] at hrest
    cases hrest
  · rw [if_neg hallowed] at hrest
    obtain ⟨_, hcheck, hlast⟩ := bind_ok_iff.mp hrest
    cases hlast
    exact ⟨hstored, IspSubscription.check_unique_static_ip_passes_iff.mp hcheck⟩

/-- The keys that a call may change are those of the checked records. -/
theorem SubscriptionCall.rewrites (hpossible : call.Possible table) (h : call.stored plans table = .ok after) :
    Rewrites IspSubscription.static_ip table after (call.checked table after) := by
  have hcreated : ∀ {records : List IspSubscription}, table.createAll records = after →
      Rewrites IspSubscription.static_ip table after (List.range' table.next_id (after.next_id - table.next_id)) := by
    rintro records rfl
    rw [table.createAll_next_id, Nat.add_sub_cancel_left]
    exact Rewrites.createAll table records
  cases call with
  | create user next_by_code token_hex vals_list =>
    obtain ⟨records, _, hafter⟩ := bind_ok_iff.mp h
    exact hcreated (Except.ok.inj hafter)
  | mac_onboarding next_by_code token_hex partner_id plan_id sector_id router_id norm_mac ip =>
    obtain ⟨records, _, hafter⟩ := bind_ok_iff.mp h
    exact hcreated (Except.ok.inj hafter)
  | write user self vals =>
    obtain ⟨hids, hrows, hkeys⟩ := IspSubscription.write_each_returns h
    cases htriggers : vals.triggers with
    | true =>
      simp only [SubscriptionCall.checked, htriggers, if_true]
      exact ⟨fun id hid => hids ▸ hpossible id hid, fun id hid hnot => ⟨hids ▸ hid, by rw [hrows id hnot]⟩⟩
    | false =>
      simp only [SubscriptionCall.checked, htriggers, Bool.false_eq_true, if_false]
      exact ⟨fun id hid => absurd hid List.not_mem_nil, fun id hid _ => ⟨hids ▸ hid, hkeys htriggers id⟩⟩

/-- Static addresses stay unique throughout a run exactly when no call stores an address
whose holder the caller may not see. The check searches with the rights of the caller, and
the record rule of the sectors hides the holders elsewhere from it. -/
theorem static_ips_unique_iff {initial reached : Store IspSubscription}
    {taken : List (Store IspSubscription × SubscriptionCall)}
    (hinitial : UniqueKey IspSubscription.static_ip initial)
    (run : Run (SubscriptionStep plans) initial taken reached) :
    (∀ table ∈ Run.visited taken reached, UniqueKey IspSubscription.static_ip table) ↔
      ∀ entry ∈ taken, entry.2.SeesHolders plans entry.1 := by
  have hstep : ∀ {table after : Store IspSubscription} {call : SubscriptionCall},
      UniqueKey IspSubscription.static_ip table → SubscriptionStep plans table call after →
      (UniqueKey IspSubscription.static_ip after ↔ call.SeesHolders plans table) := by
    rintro table after call hunique ⟨hpossible, hrun⟩
    obtain ⟨hstored, hcheck⟩ := SubscriptionCall.run_returns hrun
    rw [hunique.rewrites_iff (SubscriptionCall.rewrites hpossible hstored) hcheck]
    refine ⟨fun hvisible other hother => ?_, fun hsees => hsees after hstored⟩
    cases hstored.symm.trans hother
    exact hvisible
  exact @Run.property_iff_condition _ _ (SubscriptionStep plans) initial (UniqueKey IspSubscription.static_ip)
    (UniqueKey IspSubscription.static_ip) (fun table call => call.SeesHolders plans table) hinitial
    (fun _ h => h) (fun _ _ _ hunique hsees hcall => (hstep hunique hcall).mpr hsees)
    (fun _ _ _ hunique hnot hcall hafter => hnot ((hstep hunique hcall).mp hafter)) taken reached run

end

/-- A customer of a sector with a static address. -/
def staticVals (sector_id : Nat) (address : String) : SubscriptionVals where
  partner_id := 0
  plan_id := 0
  sector_id
  auth_method := some .dhcp
  dhcp_mode := .static
  service_ip := some address

/-- A user of one sector creates a customer with a static address. -/
def createdIn (sector_id : Nat) (address : String) : SubscriptionCall :=
  .create { isp_sector_ids := [sector_id] } (fun _ => some "SUB0001") (fun _ => "") [staticVals sector_id address]

def noCustomers : Store IspSubscription := Store.empty IspSubscription.blank

def oneDhcpPlan (_ : Nat) : IspServicePlan where
  name := "Basic"
  service_type := .dhcp

def SubscriptionCall.next (plans : Nat → IspServicePlan) (call : SubscriptionCall)
    (table : Store IspSubscription) :
    Store IspSubscription :=
  match call.run plans table with
  | .ok after => after
  | .error _ => table

/-- The table after a user of a sector has created its first customer. -/
def oneCustomer : Store IspSubscription := (createdIn 0 "10.0.0.2").next oneDhcpPlan noCustomers

theorem oneCustomer_created : SubscriptionStep oneDhcpPlan noCustomers (createdIn 0 "10.0.0.2") oneCustomer :=
  ⟨trivial, rfl⟩

/-- Two customers of a sector, the second one with an address of its own. -/
theorem static_ips_unique_iff_two :
    UniqueKey IspSubscription.static_ip ((createdIn 0 "10.0.0.3").next oneDhcpPlan oneCustomer) := by
  have hsecond : SubscriptionStep oneDhcpPlan oneCustomer (createdIn 0 "10.0.0.3")
      ((createdIn 0 "10.0.0.3").next oneDhcpPlan oneCustomer) := ⟨trivial, rfl⟩
  refine (static_ips_unique_iff (fun id hid => absurd hid List.not_mem_nil)
    (.step (.step .start oneCustomer_created) hsecond)).mpr ?_ _ (Run.reached_mem_visited _ _)
  intro entry hentry
  obtain hentry | hentry := List.mem_append.mp hentry
  all_goals
    rw [List.mem_singleton.mp hentry]
    intro after hafter
    cases hafter
    exact UniqueKey.clashesVisible (by decide) (by decide)

/-- A user of another sector stores the address once more. -/
theorem static_ip_stored_twice :
    ∃ taken reached, Run (SubscriptionStep oneDhcpPlan) noCustomers taken reached ∧
      UniqueKey IspSubscription.static_ip noCustomers ∧ ¬ UniqueKey IspSubscription.static_ip reached := by
  have hsecond : SubscriptionStep oneDhcpPlan oneCustomer (createdIn 1 "10.0.0.2")
      ((createdIn 1 "10.0.0.2").next oneDhcpPlan oneCustomer) := ⟨trivial, rfl⟩
  refine ⟨_, _, .step (.step .start oneCustomer_created) hsecond, fun id hid => absurd hid List.not_mem_nil, ?_⟩
  decide

end getupnet.isp_core

import Getupnet.Relational.Runs
import Getupnet.Relational.Transaction
import Getupnet.Relational.Store
import Getupnet.IspCore.Fields
import Getupnet.IspCore.RecordRules

open relational

namespace getupnet.isp_core.device_sector

inductive DeviceType where
  | mikrotik
  | olt
  | other
  deriving DecidableEq

inductive DeviceStatus where
  | draft
  | active
  | maintenance
  | retired
  deriving DecidableEq

structure IspSector where
  name : String
  code : String
  active : Bool := true

structure IspDevice where
  name : String
  device_type : DeviceType := .mikrotik
  sector_id : Option Nat := none
  mgmt_ip : CharField := none
  mgmt_port : Int := 8728
  status : DeviceStatus := .draft

inductive RouterAuthMethod where
  | api
  | ssh
  deriving DecidableEq

structure IspMikrotikRouter where
  device_id : Nat
  auth_method : RouterAuthMethod := .api

/-- The fields of a subscription that its device is compared with. -/
structure Placement where
  sector_id : Nat
  device_id : Option Nat := none
  deriving DecidableEq

structure Network where
  sectors : Store IspSector
  devices : Store IspDevice
  routers : Store IspMikrotikRouter
  subscriptions : Store Placement

/-- The values of a write of subscriptions, of the fields that are written. -/
structure PlacementWrite where
  sector_id : Option Nat := none
  device_id : Option (Option Nat) := none

def PlacementWrite.apply (self : PlacementWrite) (placement : Placement) : Placement where
  sector_id := self.sector_id.getD placement.sector_id
  device_id := self.device_id.getD placement.device_id

/-- The values of a write of devices, of the fields that are written. -/
structure DeviceWrite where
  name : Option String := none
  device_type : Option DeviceType := none
  sector_id : Option (Option Nat) := none
  mgmt_ip : Option CharField := none
  mgmt_port : Option Int := none
  status : Option DeviceStatus := none

def DeviceWrite.apply (self : DeviceWrite) (device : IspDevice) : IspDevice where
  name := self.name.getD device.name
  device_type := self.device_type.getD device.device_type
  sector_id := self.sector_id.getD device.sector_id
  mgmt_ip := self.mgmt_ip.getD device.mgmt_ip
  mgmt_port := self.mgmt_port.getD device.mgmt_port
  status := self.status.getD device.status

/-- A method of the server, and a program that calls several of them. -/
abbrev NetworkMethod (α : Type) : Type := Method Network OdooError α

/-- A request in a transaction of its own. -/
def request {α : Type} (method : NetworkMethod α) : NetworkMethod α :=
  Method.transaction (fun before _ => before) method

def Network.check_device_sector_match (self : Network) (written : List Nat) : Except OdooError Unit :=
  written.forM fun rec => do
    match (self.subscriptions.row rec).device_id.bind fun device => (self.devices.row device).sector_id with
    | some sector_id =>
      if sector_id ≠ (self.subscriptions.row rec).sector_id then
        throw (.validation "The selected device does not belong to the subscription's sector.")
    | none => return

def Network.check_sector_required_for_mikrotik (self : Network) (written : List Nat) : Except OdooError Unit :=
  written.forM fun rec => do
    if (self.devices.row rec).device_type = .mikrotik ∧ (self.devices.row rec).sector_id = none then
      throw (.validation "MikroTik devices must be linked to a sector.")

def createSubscriptions (vals_list : List Placement) : NetworkMethod Unit :=
  request do
    let before ← get
    modify fun self => { self with subscriptions := self.subscriptions.createAll vals_list }
    Method.ofExcept ((← get).check_device_sector_match (List.range' before.subscriptions.next_id vals_list.length))

def writeSubscriptions (written : List Nat) (vals : PlacementWrite) : NetworkMethod Unit :=
  request do
    modify fun self => { self with subscriptions := self.subscriptions.writeAll written vals.apply }
    if vals.sector_id.isSome || vals.device_id.isSome then
      Method.ofExcept ((← get).check_device_sector_match written)

def createDevice (vals : IspDevice) : NetworkMethod Nat :=
  request do
    let before ← get
    modify fun self => { self with devices := self.devices.create vals }
    Method.ofExcept ((← get).check_sector_required_for_mikrotik [before.devices.next_id])
    return before.devices.next_id

def writeDevices (written : List Nat) (vals : DeviceWrite) : NetworkMethod Unit :=
  request do
    modify fun self => { self with devices := self.devices.writeAll written vals.apply }
    if vals.device_type.isSome || vals.sector_id.isSome then
      Method.ofExcept ((← get).check_sector_required_for_mikrotik written)

/-- What `routeros_onboard` returns. -/
structure Onboarded where
  identity : String
  ip : String
  api_port : Int

structure Registered where
  device_id : Nat
  router_id : Nat

/-- How the database orders the records of a search by their names. -/
abbrev NameOrder : Type := (Nat → String) → List Nat → List Nat

/-- The search for the sector with a code, among the active sectors of the user. -/
def Network.search_sector (order : NameOrder) (user : ResUsers) (self : Network) (sector_code : String) :
    Option Nat :=
  (order (fun id => (self.sectors.row id).name) (self.sectors.ids.filter fun id =>
    decide ((self.sectors.row id).code = sector_code) && (self.sectors.row id).active && user.sees (some id))).head?

/-- The search for the MikroTik device with a management address, among the
devices in the sectors of the user. -/
def Network.search_device (order : NameOrder) (user : ResUsers) (self : Network) (ip : String) : Option Nat :=
  (order (fun id => (self.devices.row id).name) (self.devices.search fun device =>
    decide (device.mgmt_ip = some ip) && decide (device.device_type = .mikrotik) && user.sees device.sector_id)).head?

/-- The router record of a device, created where there is none. -/
def registerRouter (device_id : Nat) : NetworkMethod Nat := do
  match ((← get).routers.search fun router => decide (router.device_id = device_id)).head? with
  | some router_id => return router_id
  | none =>
    let router_id := (← get).routers.next_id
    modify fun self => { self with routers := self.routers.create { device_id, auth_method := .api } }
    return router_id

/-- The preloader's registration of an onboarded router, with what Odoo answers to
its credentials. Each of its requests is a transaction of its own. -/
def odoo_register_device (order : NameOrder) (uid : Option ResUsers) (sector_code : String)
    (onboarded : Onboarded) :
    NetworkMethod Registered := do
  match uid with
  | none => throw (.other "Odoo authentication failed.")
  | some user =>
    match (← get).search_sector order user sector_code with
    | none => throw (.other s!"Sector not found: {sector_code}")
    | some sector_id =>
      let device_id ← match (← get).search_device order user onboarded.ip with
        | some device_id => do
          writeDevices [device_id] {
            name := some onboarded.identity
            sector_id := some (some sector_id)
            mgmt_port := some onboarded.api_port
            status := some .active }
          pure device_id
        | none =>
          createDevice {
            name := onboarded.identity
            device_type := .mikrotik
            sector_id := some sector_id
            mgmt_ip := some onboarded.ip
            mgmt_port := onboarded.api_port
            status := .active }
      let router_id ← registerRouter device_id
      return { device_id, router_id }

/-- What changes subscriptions and devices. -/
inductive NetworkCall where
  | create_subscriptions (vals_list : List Placement)
  | write_subscriptions (self : List Nat) (vals : PlacementWrite)
  | create_device (vals : IspDevice)
  | write_devices (self : List Nat) (vals : DeviceWrite)
  | odoo_register_device (uid : Option ResUsers) (sector_code : String) (onboarded : Onboarded)

/-- The database after a call, which may also have raised. -/
def NetworkCall.next (order : NameOrder) (self : Network) : NetworkCall → Network
  | .create_subscriptions vals_list => ((createSubscriptions vals_list).exec self).2
  | .write_subscriptions written vals => ((writeSubscriptions written vals).exec self).2
  | .create_device vals => ((createDevice vals).exec self).2
  | .write_devices written vals => ((writeDevices written vals).exec self).2
  | .odoo_register_device uid sector_code onboarded =>
    ((device_sector.odoo_register_device order uid sector_code onboarded).exec self).2

/-- Written subscriptions exist, and so do the devices that are stored in them,
which a foreign key demands. -/
def NetworkCall.Possible (self : Network) : NetworkCall → Prop
  | .create_subscriptions vals_list => ∀ vals ∈ vals_list, ∀ device, vals.device_id = some device → device ∈ self.devices.ids
  | .write_subscriptions written vals =>
    (∀ id ∈ written, id ∈ self.subscriptions.ids) ∧
      ∀ device, vals.device_id = some (some device) → device ∈ self.devices.ids
  | _ => True

def NetworkStep (order : NameOrder) (before : Network) (call : NetworkCall) (after : Network) : Prop :=
  call.Possible before ∧ after = call.next order before

/-- Every subscription whose device has a sector is in that sector. -/
def SectorsMatch (self : Network) : Prop :=
  ∀ id ∈ self.subscriptions.ids, ∀ device, (self.subscriptions.row id).device_id = some device →
    ∀ sector, (self.devices.row device).sector_id = some sector → (self.subscriptions.row id).sector_id = sector

/-- The devices of the subscriptions exist. -/
def DevicesExist (self : Network) : Prop :=
  ∀ id ∈ self.subscriptions.ids, ∀ device, (self.subscriptions.row id).device_id = some device →
    device ∈ self.devices.ids

/-- All the subscriptions of a device are in a sector, unless it is unset. -/
def Network.FitsSector (self : Network) (device : Nat) (sector_id : Option Nat) : Prop :=
  ∀ id ∈ self.subscriptions.ids, (self.subscriptions.row id).device_id = some device →
    ∀ sector, sector_id = some sector → (self.subscriptions.row id).sector_id = sector

/-- A call moves no device to a sector other than that of a subscription of the
device. -/
def NetworkCall.KeepsSectors (order : NameOrder) (self : Network) : NetworkCall → Prop
  | .write_devices written vals =>
    ∀ sector_id, vals.sector_id = some sector_id → ∀ device ∈ written, self.FitsSector device sector_id
  | .odoo_register_device uid sector_code onboarded =>
    ∀ user, uid = some user → ∀ sector, self.search_sector order user sector_code = some sector →
      ∀ device, self.search_device order user onboarded.ip = some device → self.FitsSector device (some sector)
  | _ => True

section

variable {order : NameOrder} {before after : Network} {written : List Nat}

/-- A subscription that passes the check is in the sector of its device, if that
has one. -/
theorem Network.check_device_sector_match_passes (h : before.check_device_sector_match written = .ok ()) :
    ∀ id ∈ written, ∀ device, (before.subscriptions.row id).device_id = some device →
      ∀ sector, (before.devices.row device).sector_id = some sector →
        (before.subscriptions.row id).sector_id = sector := by
  intro id hid device hdevice sector hsector
  have hchecked := forM_ok_iff.mp h id hid
  rw [hdevice, Option.bind_some, hsector] at hchecked
  by_contra hne
  simp [Ne.symm hne] at hchecked

/-- Creating subscriptions stores them as they are, checked, or nothing. -/
theorem createSubscriptions_outcome (before : Network) (vals_list : List Placement) :
    ((createSubscriptions vals_list).exec before).2 = before ∨
      ((createSubscriptions vals_list).exec before).2 =
          { before with subscriptions := before.subscriptions.createAll vals_list } ∧
        { before with subscriptions := before.subscriptions.createAll vals_list : Network }.check_device_sector_match
          (List.range' before.subscriptions.next_id vals_list.length) = .ok () := by
  cases hcheck : { before with subscriptions := before.subscriptions.createAll vals_list : Network }.check_device_sector_match
      (List.range' before.subscriptions.next_id vals_list.length) with
  | error exception =>
    left
    simp [createSubscriptions, request, Method.transaction, Method.commit, hcheck]
  | ok _ =>
    right
    simp [createSubscriptions, request, Method.transaction, Method.commit, hcheck]

/-- A write of subscriptions stores its values, checked if it is about the sector
or the device, or nothing. -/
theorem writeSubscriptions_outcome (before : Network) (written : List Nat) (vals : PlacementWrite) :
    ((writeSubscriptions written vals).exec before).2 = before ∨
      ((writeSubscriptions written vals).exec before).2 =
          { before with subscriptions := before.subscriptions.writeAll written vals.apply } ∧
        ((vals.sector_id.isSome || vals.device_id.isSome) = true →
          { before with subscriptions := before.subscriptions.writeAll written vals.apply : Network }.check_device_sector_match
            written = .ok ()) := by
  by_cases htriggers : (vals.sector_id.isSome || vals.device_id.isSome) = true
  · cases hcheck : { before with
        subscriptions := before.subscriptions.writeAll written vals.apply : Network }.check_device_sector_match written with
    | error exception =>
      left
      simp [writeSubscriptions, request, Method.transaction, Method.commit, htriggers, hcheck]
    | ok _ =>
      right
      simp [writeSubscriptions, request, Method.transaction, Method.commit, htriggers, hcheck]
  · right
    simp [writeSubscriptions, request, Method.transaction, Method.commit, htriggers]

theorem createDevice_outcome (before : Network) (vals : IspDevice) :
    ((createDevice vals).exec before).2 = before ∨
      ((createDevice vals).exec before).2 = { before with devices := before.devices.create vals } := by
  cases hcheck : { before with devices := before.devices.create vals : Network }.check_sector_required_for_mikrotik
      [before.devices.next_id] with
  | error exception =>
    left
    simp [createDevice, request, Method.transaction, Method.commit, Method.exec_map, hcheck]
  | ok _ =>
    right
    simp [createDevice, request, Method.transaction, Method.commit, Method.exec_map, hcheck]

/-- Devices that are given a sector are stored. -/
theorem writeDevices_sector {vals : DeviceWrite} {sector : Nat} (h : vals.sector_id = some (some sector)) :
    (writeDevices written vals).exec before =
      (.ok (), { before with devices := before.devices.writeAll written vals.apply }) := by
  have hcheck : { before with
      devices := before.devices.writeAll written vals.apply : Network }.check_sector_required_for_mikrotik written = .ok () := by
    refine forM_ok_iff.mpr fun id hid => ?_
    have hsector : ((before.devices.writeAll written vals.apply).row id).sector_id = some sector :=
      before.devices.writeAll_sets (fun device => by simp only [DeviceWrite.apply, h, Option.getD_some]) hid
    rw [hsector, if_neg fun hunset => nomatch hunset.2]
    rfl
  simp [writeDevices, request, Method.transaction, Method.commit, h, hcheck]

theorem writeDevices_outcome (before : Network) (written : List Nat) (vals : DeviceWrite) :
    ((writeDevices written vals).exec before).2 = before ∨
      ((writeDevices written vals).exec before).2 =
        { before with devices := before.devices.writeAll written vals.apply } := by
  by_cases htriggers : (vals.device_type.isSome || vals.sector_id.isSome) = true
  · cases hcheck : { before with
        devices := before.devices.writeAll written vals.apply : Network }.check_sector_required_for_mikrotik written with
    | error exception =>
      left
      simp [writeDevices, request, Method.transaction, Method.commit, htriggers, hcheck]
    | ok _ =>
      right
      simp [writeDevices, request, Method.transaction, Method.commit, htriggers, hcheck]
  · right
    simp [writeDevices, request, Method.transaction, Method.commit, htriggers]

/-- The router record of a device is found or created beside the rest. -/
theorem registerRouter_outcome (device : Nat) (state : Network) :
    ∃ router_id routers, (registerRouter device).exec state = (.ok router_id, { state with routers := routers }) := by
  cases hfound : (state.routers.search fun router => decide (router.device_id = device)).head? with
  | some router_id =>
    exact ⟨router_id, state.routers, by simp [registerRouter, hfound]⟩
  | none =>
    exact ⟨state.routers.next_id, state.routers.create { device_id := device, auth_method := .api },
      by simp [registerRouter, Method.exec_map, hfound]⟩

/-- The values with which a known device is registered again. -/
def registeredAgain (onboarded : Onboarded) (sector_id : Nat) : DeviceWrite where
  name := some onboarded.identity
  sector_id := some (some sector_id)
  mgmt_port := some onboarded.api_port
  status := some .active

theorem odoo_register_device_known {user : ResUsers} {sector_code : String} {onboarded : Onboarded}
    {sector device : Nat}
    (hsector : before.search_sector order user sector_code = some sector)
    (hdevice : before.search_device order user onboarded.ip = some device) :
    ((odoo_register_device order (some user) sector_code onboarded).exec before).2.devices =
        before.devices.writeAll [device] (registeredAgain onboarded sector).apply ∧
      ((odoo_register_device order (some user) sector_code onboarded).exec before).2.subscriptions =
        before.subscriptions := by
  have hwrite : (writeDevices [device] (registeredAgain onboarded sector)).exec before =
      (.ok (), { before with devices := before.devices.writeAll [device] (registeredAgain onboarded sector).apply }) :=
    writeDevices_sector rfl
  obtain ⟨router_id, routers, hrouter⟩ := registerRouter_outcome device
    { before with devices := before.devices.writeAll [device] (registeredAgain onboarded sector).apply }
  rw [registeredAgain] at hwrite hrouter
  simp [odoo_register_device, Method.exec_map, hsector, hdevice, hwrite, hrouter, registeredAgain]

/-- Registering a device that is not found moves none. -/
theorem odoo_register_device_unknown {user : ResUsers} {sector_code : String} {onboarded : Onboarded}
    {sector : Nat}
    (hsector : before.search_sector order user sector_code = some sector)
    (hdevice : before.search_device order user onboarded.ip = none) :
    ∃ record, ((odoo_register_device order (some user) sector_code onboarded).exec before).2.devices =
        before.devices.create record ∧
      ((odoo_register_device order (some user) sector_code onboarded).exec before).2.subscriptions =
        before.subscriptions := by
  let record : IspDevice := {
    name := onboarded.identity, device_type := .mikrotik, sector_id := some sector, mgmt_ip := some onboarded.ip
    mgmt_port := onboarded.api_port, status := .active }
  have hcreate : (createDevice record).exec before =
      (.ok before.devices.next_id, { before with devices := before.devices.create record }) := by
    have hcheck : { before with devices := before.devices.create record : Network }.check_sector_required_for_mikrotik
        [before.devices.next_id] = .ok () := by
      refine forM_ok_iff.mpr fun id hid => ?_
      simp [List.mem_singleton.mp hid, record]
      rfl
    simp [createDevice, request, Method.transaction, Method.commit, Method.exec_map, hcheck]
  obtain ⟨router_id, routers, hrouter⟩ := registerRouter_outcome before.devices.next_id
    { before with devices := before.devices.create record }
  refine ⟨record, ?_⟩
  simp only [record] at hcreate hrouter
  simp [odoo_register_device, Method.exec_map, hsector, hdevice, hcreate, hrouter, record]

/-- Changed subscriptions are in the sector of their device when those that are not
as before have passed the check. -/
theorem SectorsMatch.of_checked (hmatch : SectorsMatch before) (hdevices : after.devices = before.devices)
    (hkept : ∀ id ∈ after.subscriptions.ids, id ∉ written →
      id ∈ before.subscriptions.ids ∧ after.subscriptions.row id = before.subscriptions.row id)
    (hcheck : after.check_device_sector_match written = .ok ()) : SectorsMatch after := by
  intro id hid device hdevice sector hsector
  by_cases hwritten : id ∈ written
  · exact Network.check_device_sector_match_passes hcheck id hwritten device hdevice sector hsector
  · obtain ⟨hidBefore, hrow⟩ := hkept id hid hwritten
    rw [hdevices] at hsector
    rw [hrow] at hdevice ⊢
    exact hmatch id hidBefore device hdevice sector hsector

/-- Once devices are given a sector, the sectors match exactly when it fits the
subscriptions of those devices. -/
theorem SectorsMatch.moved_iff {sector_id : Option Nat} (hmatch : SectorsMatch before)
    (hsubscriptions : after.subscriptions = before.subscriptions)
    (hmoved : ∀ device ∈ written, (after.devices.row device).sector_id = sector_id)
    (hothers : ∀ device, device ∉ written →
      (after.devices.row device).sector_id = (before.devices.row device).sector_id) :
    SectorsMatch after ↔ ∀ device ∈ written, before.FitsSector device sector_id := by
  constructor
  · intro hafter device hdevice id hid hplaced sector hsector
    rw [← hsubscriptions] at hid hplaced ⊢
    exact hafter id hid device hplaced sector ((hmoved device hdevice).trans hsector)
  · intro hfits id hid device hplaced sector hsector
    rw [hsubscriptions] at hid hplaced ⊢
    by_cases hdevice : device ∈ written
    · exact hfits device hdevice id hid hplaced sector ((hmoved device hdevice).symm.trans hsector)
    · rw [hothers device hdevice] at hsector
      exact hmatch id hid device hplaced sector hsector

/-- A new device is that of no subscription yet. -/
theorem SectorsMatch.of_created {record : IspDevice} (hmatch : SectorsMatch before) (hexist : DevicesExist before)
    (hdevices : after.devices = before.devices.create record)
    (hsubscriptions : after.subscriptions = before.subscriptions) : SectorsMatch after := by
  intro id hid device hdevice sector hsector
  rw [hsubscriptions] at hid hdevice ⊢
  rw [hdevices, Store.create_row_of_lt _ (before.devices.ids_fresh _ (hexist id hid device hdevice))] at hsector
  exact hmatch id hid device hdevice sector hsector

theorem DevicesExist.of_kept (hexist : DevicesExist before)
    (hsubscriptions : after.subscriptions = before.subscriptions)
    (hdevices : ∀ device ∈ before.devices.ids, device ∈ after.devices.ids) : DevicesExist after := by
  intro id hid device hdevice
  rw [hsubscriptions] at hid hdevice
  exact hdevices device (hexist id hid device hdevice)

/-- What holds of the subscriptions and their devices while the sectors match. -/
structure Placed (network : Network) : Prop where
  devices_exist : DevicesExist network
  sectors_match : SectorsMatch network

theorem Placed.create_subscriptions {vals_list : List Placement} (h : Placed before)
    (hpossible : NetworkCall.Possible before (.create_subscriptions vals_list)) :
    Placed (NetworkCall.next order before (.create_subscriptions vals_list)) := by
  obtain hsame | ⟨hstored, hcheck⟩ := createSubscriptions_outcome before vals_list
  · rw [NetworkCall.next, hsame]
    exact h
  · rw [NetworkCall.next, hstored]
    have hkept : ∀ id ∈ (before.subscriptions.createAll vals_list).ids,
        id ∉ List.range' before.subscriptions.next_id vals_list.length →
        id ∈ before.subscriptions.ids ∧
          (before.subscriptions.createAll vals_list).row id = before.subscriptions.row id := by
      intro id hid hnew
      rw [before.subscriptions.createAll_ids] at hid
      have hold := (List.mem_append.mp hid).resolve_right hnew
      exact ⟨hold, before.subscriptions.createAll_row_of_mem vals_list hold⟩
    refine ⟨fun id hid device hdevice => ?_, h.sectors_match.of_checked rfl hkept hcheck⟩
    obtain hold | ⟨_, hnew⟩ := before.subscriptions.mem_createAll_ids vals_list hid
    · rw [before.subscriptions.createAll_row_of_mem vals_list hold] at hdevice
      exact h.devices_exist id hold device hdevice
    · exact hpossible _ hnew device hdevice

theorem Placed.write_subscriptions {vals : PlacementWrite} (h : Placed before)
    (hpossible : NetworkCall.Possible before (.write_subscriptions written vals)) :
    Placed (NetworkCall.next order before (.write_subscriptions written vals)) := by
  obtain hsame | ⟨hstored, hcheck⟩ := writeSubscriptions_outcome before written vals
  · rw [NetworkCall.next, hsame]
    exact h
  · rw [NetworkCall.next, hstored]
    have hchange : ∀ placement : Placement,
        (∀ device, placement.device_id = some device → device ∈ before.devices.ids) →
          ∀ device, (vals.apply placement).device_id = some device → device ∈ before.devices.ids := by
      intro placement hplaced device hdevice
      simp only [PlacementWrite.apply] at hdevice
      cases hvals : vals.device_id with
      | none =>
        rw [hvals, Option.getD_none] at hdevice
        exact hplaced device hdevice
      | some device_id =>
        rw [hvals, Option.getD_some] at hdevice
        exact hpossible.2 device (hdevice ▸ hvals)
    refine ⟨fun id hid => before.subscriptions.writeAll_preserves written hchange ?_, ?_⟩
    · rw [Store.writeAll_ids] at hid
      exact h.devices_exist id hid
    · by_cases htriggers : (vals.sector_id.isSome || vals.device_id.isSome) = true
      · refine h.sectors_match.of_checked rfl (fun id hid hnot => ⟨?_, ?_⟩) (hcheck htriggers)
        · rwa [Store.writeAll_ids] at hid
        · exact before.subscriptions.writeAll_row_of_not_mem hnot vals.apply
      · rw [Bool.not_eq_true, Bool.or_eq_false_iff, Option.isSome_eq_false_iff, Option.isSome_eq_false_iff,
          Option.isNone_iff_eq_none, Option.isNone_iff_eq_none] at htriggers
        have hsame : ∀ placement, vals.apply placement = placement := by
          intro placement
          rw [PlacementWrite.apply, htriggers.1, htriggers.2]
          rfl
        have hkept : ∀ id ∈ (before.subscriptions.writeAll written vals.apply).ids, id ∉ ([] : List Nat) →
            id ∈ before.subscriptions.ids ∧
              (before.subscriptions.writeAll written vals.apply).row id = before.subscriptions.row id := by
          intro id hid _
          rw [Store.writeAll_ids] at hid
          exact ⟨hid, @Store.writeAll_keeps _ _ before.subscriptions written vals.apply (fun placement => placement) hsame id⟩
        exact h.sectors_match.of_checked rfl hkept rfl

/-- Devices that are written without a sector stay where they are. -/
theorem SectorsMatch.of_unmoved (hmatch : SectorsMatch before)
    (hsubscriptions : after.subscriptions = before.subscriptions)
    (hsectors : ∀ device, (after.devices.row device).sector_id = (before.devices.row device).sector_id) :
    SectorsMatch after := by
  intro id hid device hplaced sector hsector
  rw [hsubscriptions] at hid hplaced ⊢
  exact hmatch id hid device hplaced sector ((hsectors device).symm.trans hsector)

/-- Writes of devices keep the sectors matching exactly when the new sector fits every
subscription of the devices that are moved. No check of the code runs on such a write. -/
theorem SectorsMatch.write_devices_iff {vals : DeviceWrite} (hmatch : SectorsMatch before) :
    SectorsMatch (NetworkCall.next order before (.write_devices written vals)) ↔
      NetworkCall.KeepsSectors order before (.write_devices written vals) := by
  cases hvals : vals.sector_id with
  | none =>
    have hkeeps : NetworkCall.KeepsSectors order before (.write_devices written vals) :=
      fun sector_id hsome => by simp [hvals] at hsome
    refine iff_of_true ?_ hkeeps
    obtain hsame | hafter := writeDevices_outcome before written vals
    · rw [NetworkCall.next, hsame]
      exact hmatch
    · rw [NetworkCall.next, hafter]
      have hchange : ∀ device, (vals.apply device).sector_id = device.sector_id :=
        fun device => by simp only [DeviceWrite.apply, hvals, Option.getD_none]
      exact hmatch.of_unmoved rfl (before.devices.writeAll_keeps written hchange)
  | some sector_id =>
    have hkeeps : NetworkCall.KeepsSectors order before (.write_devices written vals) ↔
        ∀ device ∈ written, before.FitsSector device sector_id := by
      refine ⟨fun h => h sector_id hvals, fun h other hother => ?_⟩
      cases hvals.symm.trans hother
      exact h
    have hmoved : SectorsMatch { before with devices := before.devices.writeAll written vals.apply } ↔
        ∀ device ∈ written, before.FitsSector device sector_id := by
      refine hmatch.moved_iff rfl (fun device hdevice => ?_) fun device hnot => ?_
      · exact before.devices.writeAll_sets
          (fun record => by simp only [DeviceWrite.apply, hvals, Option.getD_some]) hdevice
      · rw [before.devices.writeAll_row_of_not_mem hnot]
    rw [hkeeps]
    cases sector_id with
    | some sector =>
      rw [NetworkCall.next, writeDevices_sector hvals]
      exact hmoved
    | none =>
      have hfits : ∀ device ∈ written, before.FitsSector device none :=
        fun _ _ _ _ _ sector hsector => nomatch hsector
      refine iff_of_true ?_ hfits
      obtain hsame | hafter := writeDevices_outcome before written vals
      · rw [NetworkCall.next, hsame]
        exact hmatch
      · rw [NetworkCall.next, hafter]
        exact hmoved.mpr hfits

/-- Registering a device keeps the sectors matching exactly when a known one is moved to
where it fits. A new device has no subscription yet that it could differ from. -/
theorem Placed.register_iff {uid : Option ResUsers} {sector_code : String} {onboarded : Onboarded}
    (h : Placed before) :
    SectorsMatch (NetworkCall.next order before (.odoo_register_device uid sector_code onboarded)) ↔
      NetworkCall.KeepsSectors order before (.odoo_register_device uid sector_code onboarded) := by
  cases uid with
  | none => exact iff_of_true h.sectors_match fun user huser => nomatch huser
  | some user =>
    cases hsector : before.search_sector order user sector_code with
    | none =>
      have hafter : NetworkCall.next order before (.odoo_register_device (some user) sector_code onboarded) = before := by
        simp [NetworkCall.next, odoo_register_device, hsector]
      rw [hafter]
      refine iff_of_true h.sectors_match fun other hother sector hfound => ?_
      cases hother
      cases hsector.symm.trans hfound
    | some sector =>
      cases hdevice : before.search_device order user onboarded.ip with
      | none =>
        obtain ⟨record, hdevices, hsubscriptions⟩ := odoo_register_device_unknown hsector hdevice
        refine iff_of_true (h.sectors_match.of_created h.devices_exist hdevices hsubscriptions) ?_
        intro other hother _ _ device hfound
        cases hother
        cases hdevice.symm.trans hfound
      | some device =>
        obtain ⟨hdevices, hsubscriptions⟩ := odoo_register_device_known hsector hdevice
        have hkeeps : NetworkCall.KeepsSectors order before (.odoo_register_device (some user) sector_code onboarded) ↔
            ∀ other ∈ [device], before.FitsSector other (some sector) := by
          rw [List.forall_mem_singleton]
          refine ⟨fun hkeep => hkeep user rfl sector hsector device hdevice, fun hfits other hother => ?_⟩
          cases hother
          intro place hplace known hknown
          cases hsector.symm.trans hplace
          cases hdevice.symm.trans hknown
          exact hfits
        rw [hkeeps]
        refine h.sectors_match.moved_iff hsubscriptions (fun other hother => ?_) fun other hnot => ?_
        · rw [NetworkCall.next, hdevices]
          exact before.devices.writeAll_sets (fun record => by simp only [DeviceWrite.apply, registeredAgain, Option.getD_some])
            hother
        · rw [NetworkCall.next, hdevices, before.devices.writeAll_row_of_not_mem hnot]

/-- Calls that are about devices leave the subscriptions, and remove no device. -/
theorem DevicesExist.register {uid : Option ResUsers} {sector_code : String} {onboarded : Onboarded}
    (hexist : DevicesExist before) :
    DevicesExist (NetworkCall.next order before (.odoo_register_device uid sector_code onboarded)) := by
  cases uid with
  | none => exact hexist
  | some user =>
    cases hsector : before.search_sector order user sector_code with
    | none =>
      have hafter : NetworkCall.next order before (.odoo_register_device (some user) sector_code onboarded) = before := by
        simp [NetworkCall.next, odoo_register_device, hsector]
      rw [hafter]
      exact hexist
    | some sector =>
      cases hdevice : before.search_device order user onboarded.ip with
      | none =>
        obtain ⟨record, hdevices, hsubscriptions⟩ := odoo_register_device_unknown hsector hdevice
        refine hexist.of_kept hsubscriptions fun device hold => ?_
        rw [NetworkCall.next, hdevices, Store.create_ids]
        exact List.mem_append_left _ hold
      | some device =>
        obtain ⟨hdevices, hsubscriptions⟩ := odoo_register_device_known hsector hdevice
        refine hexist.of_kept hsubscriptions fun other hold => ?_
        rw [NetworkCall.next, hdevices, Store.writeAll_ids]
        exact hold

theorem Placed.step_iff {call : NetworkCall} (h : Placed before) (hstep : NetworkStep order before call after) :
    DevicesExist after ∧ (SectorsMatch after ↔ call.KeepsSectors order before) := by
  obtain ⟨hpossible, rfl⟩ := hstep
  cases call with
  | create_subscriptions vals_list =>
    have hplaced : Placed (NetworkCall.next order before (.create_subscriptions vals_list)) :=
      h.create_subscriptions hpossible
    exact ⟨hplaced.devices_exist, iff_of_true hplaced.sectors_match trivial⟩
  | write_subscriptions written vals =>
    have hplaced : Placed (NetworkCall.next order before (.write_subscriptions written vals)) :=
      h.write_subscriptions hpossible
    exact ⟨hplaced.devices_exist, iff_of_true hplaced.sectors_match trivial⟩
  | create_device vals =>
    obtain hsame | hafter := createDevice_outcome before vals
    · rw [NetworkCall.next, hsame]
      exact ⟨h.devices_exist, iff_of_true h.sectors_match trivial⟩
    · rw [NetworkCall.next, hafter]
      exact ⟨h.devices_exist.of_kept rfl fun device hold => List.mem_append_left _ hold,
        iff_of_true (h.sectors_match.of_created h.devices_exist rfl rfl) trivial⟩
  | write_devices written vals =>
    refine ⟨?_, h.sectors_match.write_devices_iff⟩
    obtain hsame | hafter := writeDevices_outcome before written vals
    · rw [NetworkCall.next, hsame]
      exact h.devices_exist
    · rw [NetworkCall.next, hafter]
      exact h.devices_exist.of_kept rfl fun device hold => by rwa [Store.writeAll_ids]
  | odoo_register_device uid sector_code onboarded => exact ⟨h.devices_exist.register, h.register_iff⟩

/-- Throughout a run every subscription is in the sector of its device exactly when no
device is moved away from a subscription of it. Writing a subscription runs the check of
its sector; moving a device, by hand or by its registration, runs none. -/
theorem sectors_match_iff {initial reached : Network} {taken : List (Network × NetworkCall)}
    (hexist : DevicesExist initial) (hinitial : SectorsMatch initial)
    (run : Run (NetworkStep order) initial taken reached) :
    (∀ network ∈ Run.visited taken reached, SectorsMatch network) ↔
      ∀ entry ∈ taken, entry.2.KeepsSectors order entry.1 :=
  @Run.property_iff_condition _ _ (NetworkStep order) initial Placed SectorsMatch
    (fun before call => call.KeepsSectors order before) ⟨hexist, hinitial⟩ (fun _ h => h.sectors_match)
    (fun _ _ _ hplaced hkeeps hstep => ⟨(hplaced.step_iff hstep).1, (hplaced.step_iff hstep).2.mpr hkeeps⟩)
    (fun _ _ _ hplaced hnot hstep hafter => hnot ((hplaced.step_iff hstep).2.mp hafter)) taken reached run

end

/-- Two sectors, a router in the first one and a customer of it. -/
def oneRouter : Network where
  sectors := (Store.empty { name := "", code := "" }).createAll
    [{ name := "Centro", code := "C1" }, { name := "Norte", code := "N1" }]
  devices := (Store.empty { name := "" }).create
    { name := "MT-C1-2", sector_id := some 0, mgmt_ip := some "10.0.0.2" }
  routers := Store.empty { device_id := 0 }
  subscriptions := (Store.empty { sector_id := 0 }).create { sector_id := 0, device_id := some 0 }

/-- The router is onboarded with the sector code of a configuration. -/
def onboardedAs (sector_code : String) : NetworkCall :=
  .odoo_register_device (some ResUsers.superuser) sector_code
    { identity := "MT", ip := "10.0.0.2", api_port := 8728 }

theorem oneRouter_placed : Placed oneRouter where
  devices_exist := by
    intro id hid device hdevice
    rw [List.mem_singleton.mp hid] at hdevice
    cases hdevice
    exact List.mem_singleton_self _
  sectors_match := by
    intro id hid device hdevice sector hsector
    rw [List.mem_singleton.mp hid] at hdevice ⊢
    cases hdevice
    cases hsector
    rfl

/-- Onboarding once more in the same sector. -/
theorem sectors_match_iff_same :
    SectorsMatch ((onboardedAs "C1").next (fun _ ids => ids) oneRouter) := by
  have hstep : NetworkStep (fun _ ids => ids) oneRouter (onboardedAs "C1") ((onboardedAs "C1").next (fun _ ids => ids) oneRouter) :=
    ⟨trivial, rfl⟩
  refine (sectors_match_iff oneRouter_placed.devices_exist oneRouter_placed.sectors_match
    (.step .start hstep)).mpr ?_ _ (Run.reached_mem_visited _ _)
  intro entry hentry
  rw [List.mem_singleton.mp hentry]
  intro user huser sector hsector device hdevice id hid hplaced place hplace
  cases huser
  cases hsector
  cases hplace
  rw [List.mem_singleton.mp hid]
  rfl

/-- Onboarding once more with the code of another sector. -/
theorem device_moved_apart :
    ∃ reached, Run (NetworkStep fun _ ids => ids) oneRouter [(oneRouter, onboardedAs "N1")] reached ∧
      DevicesExist oneRouter ∧ SectorsMatch oneRouter ∧ ¬ SectorsMatch reached := by
  have hstep : NetworkStep (fun _ ids => ids) oneRouter (onboardedAs "N1") ((onboardedAs "N1").next (fun _ ids => ids) oneRouter) :=
    ⟨trivial, rfl⟩
  refine ⟨_, .step .start hstep, oneRouter_placed.devices_exist, oneRouter_placed.sectors_match, fun hmatch => ?_⟩
  exact absurd (hmatch 0 (by decide) 0 (by decide) 1 (by decide)) (by decide)

end getupnet.isp_core.device_sector

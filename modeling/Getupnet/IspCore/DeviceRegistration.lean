import Getupnet.Relational.Frame
import Getupnet.Relational.Holding
import Getupnet.IspCore.DeviceSector

open relational

namespace getupnet.isp_core.device_sector

/-- The management address at which the preloader looks for a device. -/
def IspDevice.address (self : IspDevice) : Option String :=
  if self.device_type = .mikrotik then self.mgmt_ip else none

/-- What the registry says about an address. -/
structure RegistryEntry where
  identity : String
  sector_id : Option Nat
  mgmt_port : Int
  status : DeviceStatus
  deriving DecidableEq

def IspDevice.entry (self : IspDevice) : RegistryEntry where
  identity := self.name
  sector_id := self.sector_id
  mgmt_port := self.mgmt_port
  status := self.status

/-- The entry that onboarding a router in a sector calls for. -/
def Onboarded.entry (self : Onboarded) (sector_id : Nat) : RegistryEntry where
  identity := self.identity
  sector_id := some sector_id
  mgmt_port := self.api_port
  status := .active

/-- The network as a registry of addresses. -/
def Network.registry (self : Network) (ip : String) : Option RegistryEntry :=
  (self.devices.holding IspDevice.address ip).head?.map fun device => (self.devices.row device).entry

/-- The router records of a device. -/
def Network.routersOf (self : Network) (device : Nat) : List Nat :=
  self.routers.holding (fun router => some router.device_id) device

/-- The registration up to the request that stores the device, after which the
connection to Odoo may be lost. -/
def registerDevice (order : NameOrder) (uid : Option ResUsers) (sector_code : String) (onboarded : Onboarded) :
    NetworkMethod Nat := do
  match uid with
  | none => throw (.other "Odoo authentication failed.")
  | some user =>
    match (← get).search_sector order user sector_code with
    | none => throw (.other s!"Sector not found: {sector_code}")
    | some sector_id =>
      match (← get).search_device order user onboarded.ip with
      | some device_id => do
        writeDevices [device_id] {
          name := some onboarded.identity
          sector_id := some (some sector_id)
          mgmt_port := some onboarded.api_port
          status := some .active }
        pure device_id
      | none =>
        createDevice {
          name := onboarded.identity
          device_type := .mikrotik
          sector_id := some sector_id
          mgmt_ip := some onboarded.ip
          mgmt_port := onboarded.api_port
          status := .active }

/-- The calls on the network, and a registration that ends after its device. -/
inductive RegistryCall where
  | network (call : NetworkCall)
  | interrupted (uid : Option ResUsers) (sector_code : String) (onboarded : Onboarded)

def RegistryCall.next (order : NameOrder) (self : Network) : RegistryCall → Network
  | .network call => call.next order self
  | .interrupted uid sector_code onboarded => ((registerDevice order uid sector_code onboarded).exec self).2

/-- The device that is registered at an address, if there is one, is in a sector of the
user. -/
def Network.VisibleAt (self : Network) (user : ResUsers) (ip : String) : Prop :=
  ∀ device ∈ self.devices.holding IspDevice.address ip, user.sees (self.devices.row device).sector_id = true

/-- Whoever registers a router sees its device. Nobody enters a second device for an
address by hand, or moves one to another address. -/
def RegistryCall.KeepsAddresses (self : Network) : RegistryCall → Prop
  | .network (.create_device vals) => ∀ ip, vals.address = some ip → self.devices.holding IspDevice.address ip = []
  | .network (.write_devices _ vals) => vals.mgmt_ip = none ∧ vals.device_type = none
  | .network (.odoo_register_device uid _ onboarded) | .interrupted uid _ onboarded =>
    ∀ user, uid = some user → self.VisibleAt user onboarded.ip
  | _ => True

def RegistryStep (order : NameOrder) (before : Network) (call : RegistryCall) (after : Network) : Prop :=
  call.KeepsAddresses before ∧ after = call.next order before

/-- One device for each address, and one router record for each device. -/
structure Registry (network : Network) : Prop where
  devices : UniqueKey IspDevice.address network.devices
  routers : UniqueKey (fun router : IspMikrotikRouter => some router.device_id) network.routers
  linked : ∀ router ∈ network.routers.ids, (network.routers.row router).device_id ∈ network.devices.ids

/-- Later the records that were there hold their addresses and devices still. -/
structure KeepsIdentities (before after : Network) : Prop where
  devices : ∀ ip, List.IsPrefix (before.devices.holding IspDevice.address ip)
    (after.devices.holding IspDevice.address ip)
  routers : ∀ device, List.IsPrefix (before.routersOf device) (after.routersOf device)

theorem KeepsIdentities.refl (network : Network) : KeepsIdentities network network :=
  ⟨fun _ => List.prefix_rfl, fun _ => List.prefix_rfl⟩

theorem KeepsIdentities.trans {first second third : Network} (hfirst : KeepsIdentities first second)
    (hsecond : KeepsIdentities second third) : KeepsIdentities first third :=
  ⟨fun ip => (hfirst.devices ip).trans (hsecond.devices ip),
    fun device => (hfirst.routers device).trans (hsecond.routers device)⟩

section

variable {order : NameOrder} {before after : Network} {uid : Option ResUsers} {user : ResUsers} {sector_code : String}
  {onboarded : Onboarded} {sector device : Nat}

/-- A registration is that of its device and then that of the router. -/
theorem odoo_register_device_eq (order : NameOrder) (uid : Option ResUsers) (sector_code : String)
    (onboarded : Onboarded) :
    odoo_register_device order uid sector_code onboarded = (do
      let device_id ← registerDevice order uid sector_code onboarded
      let router_id ← registerRouter device_id
      return { device_id, router_id }) := by
  unfold odoo_register_device registerDevice
  cases uid with
  | none => rfl
  | some user =>
    simp only [bind_assoc]
    congr 1
    funext state
    cases state.search_sector order user sector_code with
    | none => rfl
    | some sector_id =>
      simp only [bind_assoc]
      congr 1
      funext found
      cases found.search_device order user onboarded.ip with
      | none => rfl
      | some device_id => simp only [bind_assoc, pure_bind]

/-- Whoever sees the device of an address finds it, whatever the order of the search. -/
theorem search_device_eq (h : Registry before) (horder : ∀ name ids, (order name ids).Perm ids)
    (hvisible : before.VisibleAt user onboarded.ip) :
    before.search_device order user onboarded.ip =
      (before.devices.holding IspDevice.address onboarded.ip).head? := by
  have hfilter : (before.devices.search fun device =>
      decide (device.mgmt_ip = some onboarded.ip) && decide (device.device_type = .mikrotik) &&
        user.sees device.sector_id) =
      before.devices.search fun device =>
        decide (device.address = some onboarded.ip) && user.sees device.sector_id := by
    refine List.filter_congr fun id _ => ?_
    unfold IspDevice.address
    by_cases htype : (before.devices.row id).device_type = .mikrotik
    · simp [htype]
    · simp [htype]
  rw [Network.search_device, hfilter]
  exact congrArg List.head? (h.devices.search_eq (horder _) hvisible)

/-- The outcome of registering a device: it is the one at its address, with the entry
called for, and no other address has changed. -/
structure Registers (onboarded : Onboarded) (sector device : Nat) (before after : Network) : Prop where
  found : after.devices.holding IspDevice.address onboarded.ip = [device]
  registry : ∀ ip, after.registry ip =
    if ip = onboarded.ip then some (onboarded.entry sector) else before.registry ip
  kept : KeepsIdentities before after
  sound : Registry after

theorem createDevice_of_sector {record : IspDevice} (before : Network) (h : record.sector_id = some sector) :
    (createDevice record).exec before =
      (.ok before.devices.next_id, { before with devices := before.devices.create record }) := by
  have hcheck : { before with devices := before.devices.create record : Network }.check_sector_required_for_mikrotik
      [before.devices.next_id] = .ok () := by
    refine forM_ok_iff.mpr fun id hid => ?_
    simp [List.mem_singleton.mp hid, h]
    rfl
  simp [createDevice, request, Method.transaction, Method.commit, Method.exec_map, hcheck]

/-- Writing a registration again to the device of an address. -/
theorem Registers.of_known (h : Registry before)
    (hdevice : before.devices.holding IspDevice.address onboarded.ip = [device]) (sector : Nat) :
    Registers onboarded sector device before
      { before with devices := before.devices.writeAll [device] (registeredAgain onboarded sector).apply } := by
  have haddress : ∀ id, ((before.devices.writeAll [device] (registeredAgain onboarded sector).apply).row id).address =
      (before.devices.row id).address :=
    before.devices.writeAll_keeps [device] fun _ => rfl
  have hholding : ∀ ip, (before.devices.writeAll [device] (registeredAgain onboarded sector).apply).holding
      IspDevice.address ip = before.devices.holding IspDevice.address ip :=
    Store.holding_congr (before.devices.writeAll_ids _ _) fun id _ => haddress id
  refine ⟨(hholding onboarded.ip).trans hdevice, fun ip => ?_, ⟨fun ip => ?_, fun _ => List.prefix_rfl⟩, ?_⟩
  · rw [Network.registry, hholding]
    split
    · rename_i hip
      have hentry : ((before.devices.writeAll [device] (registeredAgain onboarded sector).apply).row device).entry =
          onboarded.entry sector :=
        @Store.writeAll_sets _ _ before.devices [device] _ IspDevice.entry _ (fun _ => rfl) device List.mem_cons_self
      rw [hip, hdevice, List.head?_cons, Option.map_some, hentry]
    · rename_i hip
      rw [Network.registry]
      cases hfound : before.devices.holding IspDevice.address ip with
      | nil => rfl
      | cons first rest =>
        have hfirst : first ∈ before.devices.holding IspDevice.address ip := hfound ▸ List.mem_cons_self
        have hne : first ∉ [device] := by
          rw [List.mem_singleton]
          rintro rfl
          have hself : first ∈ before.devices.holding IspDevice.address onboarded.ip :=
            hdevice ▸ List.mem_cons_self
          exact hip (Option.some.inj ((Store.mem_holding.mp hfirst).2.symm.trans (Store.mem_holding.mp hself).2))
        rw [List.head?_cons, Option.map_some, Option.map_some, Store.writeAll_row_of_not_mem _ hne]
  · rw [hholding]
  · refine ⟨h.devices.congr (before.devices.writeAll_ids _ _) fun id _ => haddress id, h.routers, fun router hrouter => ?_⟩
    rw [Store.writeAll_ids]
    exact h.linked router hrouter

/-- Creating the device of an address that has none. -/
theorem Registers.of_unknown {record : IspDevice} (h : Registry before)
    (hnone : before.devices.holding IspDevice.address onboarded.ip = [])
    (haddress : record.address = some onboarded.ip) (hentry : record.entry = onboarded.entry sector) :
    Registers onboarded sector before.devices.next_id before
      { before with devices := before.devices.create record } := by
  have hholding : ∀ ip, (before.devices.create record).holding IspDevice.address ip =
      before.devices.holding IspDevice.address ip ++
        if some onboarded.ip = some ip then [before.devices.next_id] else [] := by
    intro ip
    rw [Store.holding_create, haddress]
  refine ⟨?_, fun ip => ?_, ⟨fun ip => ?_, fun _ => List.prefix_rfl⟩, ?_, h.routers, fun router hrouter => ?_⟩
  · rw [hholding, hnone, if_pos rfl, List.nil_append]
  · rw [Network.registry, hholding]
    by_cases hip : ip = onboarded.ip
    · rw [hip, hnone, if_pos rfl, if_pos rfl, List.nil_append, List.head?_cons, Option.map_some,
        Store.create_row_new, hentry]
    · rw [if_neg fun heq => hip (Option.some.inj heq).symm, if_neg hip, List.append_nil, Network.registry]
      cases hfound : before.devices.holding IspDevice.address ip with
      | nil => rfl
      | cons first rest =>
        have hfirst : first ∈ before.devices.holding IspDevice.address ip := hfound ▸ List.mem_cons_self
        have hlt := before.devices.ids_fresh first (Store.mem_holding.mp hfirst).1
        rw [List.head?_cons, Option.map_some, Option.map_some, Store.create_row_of_lt _ hlt]
  · rw [hholding]
    exact List.prefix_append _ _
  · refine h.devices.create fun ip hip => ?_
    rw [haddress] at hip
    rw [← Option.some.inj hip]
    exact hnone
  · rw [Store.create_ids]
    exact List.mem_append_left _ (h.linked router hrouter)

/-- The device half of a registration always succeeds where the sector is found. -/
theorem registerDevice_registers (h : Registry before) (horder : ∀ name ids, (order name ids).Perm ids)
    (hvisible : before.VisibleAt user onboarded.ip)
    (hsector : before.search_sector order user sector_code = some sector) :
    ∃ device after, (registerDevice order (some user) sector_code onboarded).exec before = (.ok device, after) ∧
      Registers onboarded sector device before after := by
  have hsearch := search_device_eq h horder hvisible
  cases hfound : before.devices.holding IspDevice.address onboarded.ip with
  | nil =>
    rw [hfound, List.head?_nil] at hsearch
    let record : IspDevice := {
      name := onboarded.identity, device_type := .mikrotik, sector_id := some sector, mgmt_ip := some onboarded.ip
      mgmt_port := onboarded.api_port, status := .active }
    have hcreate : (createDevice record).exec before =
        (.ok before.devices.next_id, { before with devices := before.devices.create record }) :=
      createDevice_of_sector before rfl
    have hregisters : Registers onboarded sector before.devices.next_id before
        { before with devices := before.devices.create record } := Registers.of_unknown h hfound rfl rfl
    refine ⟨_, _, ?_, hregisters⟩
    simp only [record] at hcreate
    simp [registerDevice, hsector, hsearch, hcreate, record]
  | cons device rest =>
    have hone := h.devices.holding_eq (hfound ▸ List.mem_cons_self : device ∈ before.devices.holding _ onboarded.ip)
    rw [hone, List.head?_cons] at hsearch
    have hwrite : (writeDevices [device] (registeredAgain onboarded sector)).exec before =
        (.ok (), { before with
          devices := before.devices.writeAll [device] (registeredAgain onboarded sector).apply }) :=
      writeDevices_sector rfl
    rw [registeredAgain] at hwrite
    refine ⟨device, _, ?_, Registers.of_known h hone sector⟩
    simp [registerDevice, Method.exec_map, hsector, hsearch, hwrite, registeredAgain]

theorem registerDevice_fails (onboarded : Onboarded)
    (h : ∀ user, uid = some user → before.search_sector order user sector_code = none) :
    ∃ exception, (registerDevice order uid sector_code onboarded).exec before = (.error exception, before) := by
  cases uid with
  | none => exact ⟨_, rfl⟩
  | some user => exact ⟨.other s!"Sector not found: {sector_code}", by simp [registerDevice, h user rfl]⟩

/-- The router half: the record of the device, which is created once. -/
theorem registerRouter_registers (h : Registry before) (hdevice : device ∈ before.devices.ids) :
    ∃ router after, (registerRouter device).exec before = (.ok router, after) ∧
      after.routersOf device = [router] ∧ after.devices = before.devices ∧ KeepsIdentities before after ∧
      Registry after := by
  have hsearch : (before.routers.search fun router => decide (router.device_id = device)) =
      before.routersOf device := by
    refine List.filter_congr fun id _ => ?_
    simp
  cases hfound : before.routersOf device with
  | nil =>
    have hexec : (registerRouter device).exec before = (.ok before.routers.next_id,
        { before with routers := before.routers.create { device_id := device, auth_method := .api } }) := by
      simp [registerRouter, Method.exec_map, hsearch, hfound]
    refine ⟨_, _, hexec, ?_, rfl, ⟨fun _ => List.prefix_rfl, fun other => ?_⟩, h.devices, ?_, ?_⟩
    · rw [Network.routersOf, Store.holding_create, if_pos rfl]
      change before.routersOf device ++ _ = _
      rw [hfound, List.nil_append]
    · rw [Network.routersOf, Network.routersOf, Store.holding_create]
      exact List.prefix_append _ _
    · refine h.routers.create fun other hother => ?_
      rw [← Option.some.inj hother]
      exact hfound
    · intro router hrouter
      rw [Store.create_ids] at hrouter
      obtain hold | hnew := List.mem_append.mp hrouter
      · rw [Store.create_row_of_lt _ (before.routers.ids_fresh router hold)]
        exact h.linked router hold
      · rw [List.mem_singleton.mp hnew, Store.create_row_new]
        exact hdevice
  | cons router rest =>
    have hmem : router ∈ before.routersOf device := hfound ▸ List.mem_cons_self
    have hone : before.routersOf device = [router] := h.routers.holding_eq hmem
    have hexec : (registerRouter device).exec before = (.ok router, before) := by
      simp [registerRouter, hsearch, hfound]
    exact ⟨router, before, hexec, hone, rfl, KeepsIdentities.refl before, h⟩

/-- A registration whose sector is found succeeds. -/
theorem odoo_register_device_registers (h : Registry before) (horder : ∀ name ids, (order name ids).Perm ids)
    (hvisible : before.VisibleAt user onboarded.ip)
    (hsector : before.search_sector order user sector_code = some sector) :
    ∃ device router after,
      (odoo_register_device order (some user) sector_code onboarded).exec before = (.ok ⟨device, router⟩, after) ∧
        Registers onboarded sector device before after ∧ after.routersOf device = [router] := by
  obtain ⟨device, middle, hdevice, hregisters⟩ := registerDevice_registers h horder hvisible hsector
  have hmem : device ∈ middle.devices.ids :=
    (Store.mem_holding.mp (hregisters.found ▸ List.mem_cons_self :
      device ∈ middle.devices.holding IspDevice.address onboarded.ip)).1
  obtain ⟨router, after, hrouter, hone, hdevices, hkept, hsound⟩ := registerRouter_registers hregisters.sound hmem
  refine ⟨device, router, after, ?_, ⟨?_, fun ip => ?_, hregisters.kept.trans hkept, hsound⟩, hone⟩
  · rw [odoo_register_device_eq]
    simp [Method.exec_bind, Method.exec_map, hdevice, hrouter]
  · rw [hdevices]
    exact hregisters.found
  · rw [← hregisters.registry ip, Network.registry, Network.registry, hdevices]

theorem odoo_register_device_fails
    (h : ∀ user, uid = some user → before.search_sector order user sector_code = none) :
    ((odoo_register_device order uid sector_code onboarded).exec before).2 = before := by
  obtain ⟨exception, hexec⟩ := registerDevice_fails onboarded h
  rw [odoo_register_device_eq]
  simp [Method.exec_bind, hexec]

/-- Whom the device of an address is visible to shows in its entry. -/
theorem Registry.visibleAt_iff (h : Registry before) {ip : String} :
    before.VisibleAt user ip ↔ ∀ entry, before.registry ip = some entry → user.sees entry.sector_id = true := by
  constructor
  · intro hvisible entry hentry
    obtain ⟨device, hdevice, rfl⟩ := Option.map_eq_some_iff.mp hentry
    exact hvisible device (List.mem_of_mem_head? hdevice)
  · intro hentries device hdevice
    refine hentries (before.devices.row device).entry ?_
    rw [Network.registry, h.devices.holding_eq hdevice, List.head?_cons, Option.map_some]

/-- Registering leaves the sectors alone. -/
theorem odoo_register_device_keeps_sectors (order : NameOrder) (uid : Option ResUsers) (sector_code : String)
    (onboarded : Onboarded) : (odoo_register_device order uid sector_code onboarded).Keeps Network.sectors := by
  have hwrite : ∀ written vals, (writeDevices written vals).Keeps Network.sectors := by
    intro written vals network
    obtain hsame | hafter := writeDevices_outcome network written vals
    · rw [hsame]
    · rw [hafter]
  have hcreate : ∀ vals, (createDevice vals).Keeps Network.sectors := by
    intro vals network
    obtain hsame | hafter := createDevice_outcome network vals
    · rw [hsame]
    · rw [hafter]
  rw [odoo_register_device_eq]
  refine .bind ?_ fun device_id => .bind ?_ fun router_id => .pure
  · cases uid with
    | none => exact .throw
    | some user =>
      refine .bind .get fun network => ?_
      split
      · exact .throw
      · refine .bind .get fun found => ?_
        split
        · exact .bind (hwrite _ _) fun _ => .pure
        · exact hcreate _
  · refine .bind .get fun network => ?_
    split
    · exact .pure
    · exact .bind .get fun _ => .bind (.modify fun _ => rfl) fun _ => .pure

theorem Registry.of_same (h : Registry before) (hdevices : after.devices = before.devices)
    (hrouters : after.routers = before.routers) : Registry after ∧ KeepsIdentities before after := by
  refine ⟨⟨hdevices ▸ h.devices, hrouters ▸ h.routers, ?_⟩, fun ip => ?_, fun device => ?_⟩
  · rw [hrouters, hdevices]
    exact h.linked
  · rw [hdevices]
  · rw [Network.routersOf, Network.routersOf, hrouters]

/-- Devices that keep their addresses. -/
theorem Registry.of_written (h : Registry before) {written : List Nat} {vals : DeviceWrite}
    (hvals : vals.mgmt_ip = none ∧ vals.device_type = none) :
    Registry { before with devices := before.devices.writeAll written vals.apply } ∧
      KeepsIdentities before { before with devices := before.devices.writeAll written vals.apply } := by
  have haddress : ∀ id, ((before.devices.writeAll written vals.apply).row id).address =
      (before.devices.row id).address := by
    refine before.devices.writeAll_keeps written fun device => ?_
    simp [IspDevice.address, DeviceWrite.apply, hvals.1, hvals.2]
  have hids := before.devices.writeAll_ids written vals.apply
  refine ⟨⟨h.devices.congr hids fun id _ => haddress id, h.routers, fun router hrouter => ?_⟩,
    fun ip => ?_, fun _ => List.prefix_rfl⟩
  · rw [hids]
    exact h.linked router hrouter
  · rw [Store.holding_congr hids fun id _ => haddress id]

/-- A device entered by hand for a free address, or for none. -/
theorem Registry.of_entered (h : Registry before) {record : IspDevice}
    (hfree : ∀ ip, record.address = some ip → before.devices.holding IspDevice.address ip = []) :
    Registry { before with devices := before.devices.create record } ∧
      KeepsIdentities before { before with devices := before.devices.create record } := by
  refine ⟨⟨h.devices.create hfree, h.routers, fun router hrouter => ?_⟩, fun ip => ?_, fun _ => List.prefix_rfl⟩
  · rw [Store.create_ids]
    exact List.mem_append_left _ (h.linked router hrouter)
  · rw [Store.holding_create]
    exact List.prefix_append _ _

/-- A registration, whole or interrupted, keeps the registry sound. -/
theorem Registry.register (h : Registry before) (horder : ∀ name ids, (order name ids).Perm ids)
    (hvisible : ∀ user, uid = some user → before.VisibleAt user onboarded.ip) :
    (Registry ((registerDevice order uid sector_code onboarded).exec before).2 ∧
        KeepsIdentities before ((registerDevice order uid sector_code onboarded).exec before).2) ∧
      Registry ((odoo_register_device order uid sector_code onboarded).exec before).2 ∧
        KeepsIdentities before ((odoo_register_device order uid sector_code onboarded).exec before).2 := by
  by_cases hfails : ∀ user, uid = some user → before.search_sector order user sector_code = none
  · obtain ⟨exception, hexec⟩ := registerDevice_fails onboarded hfails
    rw [odoo_register_device_fails hfails, hexec]
    exact ⟨⟨h, KeepsIdentities.refl before⟩, h, KeepsIdentities.refl before⟩
  · push Not at hfails
    obtain ⟨user, rfl, hfound⟩ := hfails
    obtain ⟨sector, hsector⟩ := Option.ne_none_iff_exists'.mp hfound
    obtain ⟨_, _, hdevice, hregisters⟩ := registerDevice_registers h horder (hvisible user rfl) hsector
    obtain ⟨_, _, _, hwhole, hcompleted, _⟩ := odoo_register_device_registers h horder (hvisible user rfl) hsector
    rw [hdevice, hwhole]
    exact ⟨⟨hregisters.sound, hregisters.kept⟩, hcompleted.sound, hcompleted.kept⟩

/-- One call. -/
theorem Registry.step {call : RegistryCall} (h : Registry before)
    (horder : ∀ name ids, (order name ids).Perm ids) (hstep : RegistryStep order before call after) :
    Registry after ∧ KeepsIdentities before after := by
  obtain ⟨hkeeps, rfl⟩ := hstep
  cases call with
  | interrupted uid sector_code onboarded => exact (h.register horder hkeeps).1
  | network call =>
    cases call with
    | create_subscriptions vals_list =>
      obtain hsame | ⟨hafter, _⟩ := createSubscriptions_outcome before vals_list
      · exact h.of_same (congrArg Network.devices hsame) (congrArg Network.routers hsame)
      · rw [RegistryCall.next, NetworkCall.next, hafter]
        exact h.of_same rfl rfl
    | write_subscriptions written vals =>
      obtain hsame | ⟨hafter, _⟩ := writeSubscriptions_outcome before written vals
      · exact h.of_same (congrArg Network.devices hsame) (congrArg Network.routers hsame)
      · rw [RegistryCall.next, NetworkCall.next, hafter]
        exact h.of_same rfl rfl
    | create_device vals =>
      obtain hsame | hafter := createDevice_outcome before vals
      · exact h.of_same (congrArg Network.devices hsame) (congrArg Network.routers hsame)
      · rw [RegistryCall.next, NetworkCall.next, hafter]
        exact h.of_entered hkeeps
    | write_devices written vals =>
      obtain hsame | hafter := writeDevices_outcome before written vals
      · exact h.of_same (congrArg Network.devices hsame) (congrArg Network.routers hsame)
      · rw [RegistryCall.next, NetworkCall.next, hafter]
        exact h.of_written hkeeps
    | odoo_register_device uid sector_code onboarded => exact (h.register horder hkeeps).2

end

/-- Registration is exactly once. Over any run of registrations, repeated and lost halfway
at will, and of other edits that leave the addresses alone, each address has at most one
device and each device at most one router record, and both keep their identifiers; and a
registration by a user who finds the sector returns them, with the entry of its address as
the latest onboarding left it and every other entry as it was. -/
theorem registration_exactly_once {order : NameOrder} {initial reached : Network}
    {taken : List (Network × RegistryCall)} (horder : ∀ name ids, (order name ids).Perm ids)
    (hinitial : Registry initial) (run : Run (RegistryStep order) initial taken reached) :
    (∀ network ∈ Run.visited taken reached, Registry network) ∧
      (Run.visited taken reached).Pairwise KeepsIdentities ∧
      ∀ network ∈ Run.visited taken reached, ∀ user sector_code onboarded sector,
        network.VisibleAt user onboarded.ip → network.search_sector order user sector_code = some sector →
        ∃ device router after,
          (odoo_register_device order (some user) sector_code onboarded).exec network =
              (.ok ⟨device, router⟩, after) ∧
            Registers onboarded sector device network after ∧ after.routersOf device = [router] := by
  have hvisited := @Run.invariant_of_condition _ _ (RegistryStep order) initial Registry (fun _ _ => True) hinitial
    (fun _ _ _ hregistry _ hstep => (hregistry.step horder hstep).1) taken reached run (fun _ _ => trivial)
  refine ⟨hvisited, run.visited_pairwise (fun _ _ _ hfirst hsecond => hfirst.trans hsecond) ?_, ?_⟩
  · intro entry hentry after hstep
    have hmem : entry.1 ∈ Run.visited taken reached := List.mem_append_left _ (List.mem_map_of_mem hentry)
    exact ((hvisited entry.1 hmem).step horder hstep).2
  · intro network hnetwork user sector_code onboarded sector hvisible hsector
    exact odoo_register_device_registers (hvisited network hnetwork) horder hvisible hsector

/-- The first router is registered, the connection is lost, and it is registered again. -/
theorem registration_exactly_once_again :
    let onboarded : Onboarded := { identity := "MT", ip := "10.0.0.3", api_port := 8728 }
    let lost : RegistryCall := .interrupted (some ResUsers.superuser) "C1" onboarded
    let reached := lost.next (fun _ ids => ids) oneRouter
    ∃ device router after,
      (odoo_register_device (fun _ ids => ids) (some ResUsers.superuser) "C1" onboarded).exec reached =
          (.ok ⟨device, router⟩, after) ∧
        after.devices.holding IspDevice.address "10.0.0.3" = [device] ∧ after.routersOf device = [router] := by
  intro onboarded lost reached
  have hinitial : Registry oneRouter := by
    refine ⟨.of_holding fun ip => ?_, .of_holding fun device => Nat.zero_le 1, fun router hrouter => ?_⟩
    · exact (List.length_filter_le _ _).trans (Nat.le_refl 1)
    · exact absurd hrouter List.not_mem_nil
  have hstep : RegistryStep (fun _ ids => ids) oneRouter lost reached := ⟨fun user huser device _ => by
    rw [← Option.some.inj huser]
    exact ResUsers.superuser_sees _, rfl⟩
  obtain ⟨device, router, after, hexec, hregisters, hone⟩ :=
    (registration_exactly_once (fun _ ids => List.Perm.refl ids) hinitial (.step .start hstep)).2.2 reached
      (Run.reached_mem_visited _ _) ResUsers.superuser "C1" onboarded 0
      (fun device _ => ResUsers.superuser_sees _) (by decide)
  exact ⟨device, router, after, hexec, hregisters.found, hone⟩

end getupnet.isp_core.device_sector

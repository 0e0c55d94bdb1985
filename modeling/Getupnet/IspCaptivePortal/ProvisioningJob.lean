import Getupnet.IspCaptivePortal.RouterOS
import Getupnet.IspMikrotik.Dispatch

open relational
open calendar
open getupnet.isp_core
open getupnet.isp_mikrotik

namespace getupnet.isp_captive_portal

inductive CaptiveUserState where
  | active
  | disabled
  deriving DecidableEq

structure IspCaptiveUser where
  username : String
  password : CharField := none
  profile : CharField := none
  state : CaptiveUserState := .disabled
  router_id : Option Nat := none
  sector_id : Option Nat := none

structure IspCaptiveWalledGarden where
  domain : String
  router_id : Option Nat := none
  sector_id : Option Nat := none

/-- What `get_payload` returns under the keys that a handler reads, `none` where
the value is missing or false. -/
structure Payload where
  captive_user_id : Option Nat := none
  walled_garden_id : Option Nat := none

/-- The portal's own records, and the payloads of the jobs. -/
structure CaptivePortal where
  users : Store IspCaptiveUser
  walled_gardens : Store IspCaptiveWalledGarden
  sector_code : Nat → String
  payload : Nat → Payload

/-- A handler that reads and writes the records and acts on the routers. -/
abbrev PortalHandler (α : Type) : Type := Method (Records CaptivePortal × Fleet) OdooError α

def PortalHandler.send {α : Type} (method : Method Fleet OdooError α) : PortalHandler α :=
  Method.focus Prod.snd (fun fleet state => (state.1, fleet)) method

def PortalHandler.write_user (id : Nat) (state : CaptiveUserState) : PortalHandler Unit :=
  modify fun (records, fleet) =>
    ({ records with
        extension := { records.extension with
          users := records.extension.users.write id fun user => { user with state } } }, fleet)

/-- A payload value that the handler requires. -/
def required (value : Option Nat) (message : String) : Except OdooError Nat :=
  match value with
  | some id => .ok id
  | none => .error (.user message)

/-- The record of an identifier, whose fields are read at once. -/
def browse {α : Type} (table : Store α) (id : Nat) : Except OdooError α :=
  if id ∈ table.ids then .ok (table.row id) else .error (.other "Record does not exist or has been deleted.")

def get_router_for_captive (routers : Routers) (router_id sector_id : Option Nat) : Except OdooError Nat :=
  match router_id <|> sector_id.bind routers.router_of_sector with
  | some router => .ok router
  | none => .error (.user "No MikroTik router found for captive operation.")

def handle_captive_user_create (routers : Routers) (job : Nat) : PortalHandler Unit := do
  let portal := (← get).1.extension
  let user_id ← Method.ofExcept
    (required (portal.payload job).captive_user_id "captive_user_id missing in payload.")
  let user ← Method.ofExcept (browse portal.users user_id)
  let router ← Method.ofExcept (get_router_for_captive routers user.router_id user.sector_id)
  let client ← Method.ofExcept (routers.get_routeros_client router)
  let profile := textOr user.profile "default"
  let comment := (user.sector_id.map portal.sector_code).getD ""
  PortalHandler.send
    (exceptRouteros
      (client (.inr (.hotspot_user_add user.username (textOr user.password "") profile comment)))
      (client (.inr (.hotspot_user_set user.username (some profile) false))))
  PortalHandler.write_user user_id .active

def handle_captive_user_disable (routers : Routers) (job : Nat) : PortalHandler Unit := do
  let portal := (← get).1.extension
  let user_id ← Method.ofExcept
    (required (portal.payload job).captive_user_id "captive_user_id missing in payload.")
  let user ← Method.ofExcept (browse portal.users user_id)
  let router ← Method.ofExcept (get_router_for_captive routers user.router_id user.sector_id)
  let client ← Method.ofExcept (routers.get_routeros_client router)
  let accepted ← PortalHandler.send
    (exceptRouteros
      (do client (.inr (.hotspot_user_set user.username none true)); pure true)
      (pure false))
  -- the early return of a rejection
  if accepted then PortalHandler.write_user user_id .disabled

def handle_walled_garden_apply (routers : Routers) (job : Nat) : PortalHandler Unit := do
  let portal := (← get).1.extension
  let wg_id ← Method.ofExcept
    (required (portal.payload job).walled_garden_id "walled_garden_id missing in payload.")
  let wg ← Method.ofExcept (browse portal.walled_gardens wg_id)
  let router ← Method.ofExcept (get_router_for_captive routers wg.router_id wg.sector_id)
  let client ← Method.ofExcept (routers.get_routeros_client router)
  PortalHandler.send (exceptRouteros (client (.inr (.walled_garden_add wg.domain))) (pure ()))

/-- The routers as the handlers of the other addon reach them. -/
def Routers.network (self : Routers) : Network Fleet where
  router_of_device := self.router_of_device
  router_of_sector := self.router_of_sector
  get_routeros_client := fun router =>
    (self.get_routeros_client router).map fun client command => client (.inl command)

/-- What an execution depends on besides the database. -/
structure Site where
  routers : Routers
  today : Date
  token_hex : String
  handle_mikrotik_healthcheck : IspProvisioningJob → Method Fleet OdooError Unit

def Site.surroundings (self : Site) : Surroundings Fleet where
  network := self.routers.network
  today := self.today
  token_hex := self.token_hex
  other_handler := self.handle_mikrotik_healthcheck

/-- The lookup of a job's handler with this addon installed. -/
def dispatch (site : Site) : Dispatch (Records CaptivePortal) Fleet := fun id job =>
  match job.job_type with
  | .captive_user_create => handle_captive_user_create site.routers id
  | .captive_user_disable => handle_captive_user_disable site.routers id
  | .walled_garden_apply => handle_walled_garden_apply site.routers id
  | _ => isp_mikrotik.dispatch site.surroundings id job

section

variable {routers : Routers} {job : Nat} {records after : Records CaptivePortal} {fleet later : Fleet}

theorem required_eq_ok_iff {value : Option Nat} {message : String} {id : Nat} :
    required value message = .ok id ↔ value = some id := by
  cases value <;> simp [required]

theorem browse_eq_ok {α : Type} {table : Store α} {id : Nat} {record : α} (h : browse table id = .ok record) :
    table.row id = record := by
  unfold browse at h
  split at h
  · exact Except.ok.inj h
  · cases h

theorem Routers.get_routeros_client_eq_ok {router : Nat} {client : RouterCommand → Method Fleet OdooError Unit}
    (h : routers.get_routeros_client router = .ok client) :
    client = fun command => Method.onDevice router ((routers.policy router).cmd command) := by
  unfold Routers.get_routeros_client at h
  cases hconnect : routers.connect router with
  | error exception =>
    rw [hconnect] at h
    cases h
  | ok value =>
    rw [hconnect] at h
    cases h
    rfl

/-- Reporting whether a command was accepted leaves what sending it leaves. -/
theorem exceptRouteros_flag_returns {τ : Type} {body : Method τ OdooError Unit} {state after : τ} {flag : Bool}
    (h : (exceptRouteros (do body; pure true) (pure false)).exec state = (.ok flag, after)) :
    (exceptRouteros body (pure ())).exec state = (.ok (), after) := by
  rw [exceptRouteros, Method.exec_tryCatch, Method.exec_bind] at h
  rw [exceptRouteros_ignored_iff]
  cases hbody : body.exec state with
  | mk result other =>
    rw [hbody] at h
    cases result with
    | ok value =>
      cases h
      exact Or.inl rfl
    | error exception =>
      cases exception with
      | routeros message =>
        cases h
        exact Or.inr ⟨message, rfl⟩
      | user message => cases h
      | validation message => cases h
      | other message => cases h

theorem PortalHandler.send_returns {α : Type} {method : Method Fleet OdooError α} {value : α}
    (h : (PortalHandler.send method).exec (records, fleet) = (.ok value, after, later)) :
    after = records ∧ method.exec fleet = (.ok value, later) := by
  rw [PortalHandler.send, Method.exec_focus] at h
  obtain ⟨hresult, hpair⟩ := Prod.mk.inj h
  obtain ⟨rfl, rfl⟩ := Prod.mk.inj hpair
  exact ⟨rfl, Prod.ext hresult rfl⟩

theorem handle_captive_user_disable_returns
    (h : (handle_captive_user_disable routers job).exec (records, fleet) = (.ok (), after, later)) :
    ∃ user_id user router, (records.extension.payload job).captive_user_id = some user_id ∧
      browse records.extension.users user_id = .ok user ∧
      get_router_for_captive routers user.router_id user.sector_id = .ok router ∧
      (exceptRouteros (Method.onDevice router
        ((routers.policy router).cmd (.inr (.hotspot_user_set user.username none true)))) (pure ())).exec fleet =
          (.ok (), later) := by
  rw [handle_captive_user_disable, Method.exec_get_bind] at h
  obtain ⟨user_id, hrequired, h⟩ := Method.ofExcept_bind_returns h
  obtain ⟨user, hbrowse, h⟩ := Method.ofExcept_bind_returns h
  obtain ⟨router, hrouter, h⟩ := Method.ofExcept_bind_returns h
  obtain ⟨client, hclient, h⟩ := Method.ofExcept_bind_returns h
  cases Routers.get_routeros_client_eq_ok hclient
  refine ⟨user_id, user, router, required_eq_ok_iff.mp hrequired, hbrowse, hrouter, ?_⟩
  rw [Method.exec_bind] at h
  cases hsend : (PortalHandler.send (exceptRouteros (do
      Method.onDevice router ((routers.policy router).cmd (.inr (.hotspot_user_set user.username none true)))
      pure true) (pure false))).exec (records, fleet) with
  | mk result state =>
    rw [hsend] at h
    cases result with
    | error exception => cases h
    | ok accepted =>
      obtain ⟨sent, there⟩ := state
      obtain ⟨rfl, hsent⟩ := PortalHandler.send_returns hsend
      have hthere : there = later := by
        cases accepted with
        | true => exact congrArg (fun outcome => outcome.2.2) h
        | false => exact congrArg (fun outcome => outcome.2.2) h
      rw [← hthere]
      exact exceptRouteros_flag_returns hsent

theorem handle_walled_garden_apply_returns
    (h : (handle_walled_garden_apply routers job).exec (records, fleet) = (.ok (), after, later)) :
    ∃ wg_id wg router, (records.extension.payload job).walled_garden_id = some wg_id ∧
      browse records.extension.walled_gardens wg_id = .ok wg ∧
      get_router_for_captive routers wg.router_id wg.sector_id = .ok router ∧
      (exceptRouteros (Method.onDevice router
        ((routers.policy router).cmd (.inr (.walled_garden_add wg.domain)))) (pure ())).exec fleet =
          (.ok (), later) := by
  rw [handle_walled_garden_apply, Method.exec_get_bind] at h
  obtain ⟨wg_id, hrequired, h⟩ := Method.ofExcept_bind_returns h
  obtain ⟨wg, hbrowse, h⟩ := Method.ofExcept_bind_returns h
  obtain ⟨router, hrouter, h⟩ := Method.ofExcept_bind_returns h
  obtain ⟨client, hclient, h⟩ := Method.ofExcept_bind_returns h
  cases Routers.get_routeros_client_eq_ok hclient
  exact ⟨wg_id, wg, router, required_eq_ok_iff.mp hrequired, hbrowse, hrouter, (PortalHandler.send_returns h).2⟩

end

end getupnet.isp_captive_portal

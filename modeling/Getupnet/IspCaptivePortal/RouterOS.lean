import Getupnet.Relational.Devices
import Getupnet.IspMikrotik.RouterOS

open relational
open getupnet.isp_core
open getupnet.isp_mikrotik

namespace getupnet.isp_captive_portal

/-- The commands of the captive portal handlers, each with the words it carries. -/
inductive HotspotCommand where
  | hotspot_user_add (name password profile comment : String)
  | hotspot_user_set (numbers : String) (profile : Option String) (disabled : Bool)
  | walled_garden_add (dst_host : String)
  deriving DecidableEq

structure HotspotUser where
  password : String
  profile : String
  comment : String
  disabled : Bool
  deriving DecidableEq

/-- The hotspot users by name and the hosts of the walled garden, which may
repeat. -/
structure HotspotTables where
  hotspot_users : KeyedTable String HotspotUser
  walled_garden : List String

def HotspotTables.empty : HotspotTables where
  hotspot_users := ⟨fun _ => none⟩
  walled_garden := []

/-- A command about a hotspot user, rejected when its change is. -/
def HotspotTables.apply (change : KeyedTable String HotspotUser → Option (KeyedTable String HotspotUser))
    (rejection : String) : Method HotspotTables OdooError Unit :=
  Method.ofFun fun tables =>
    match change tables.hotspot_users with
    | some hotspot_users => (.ok (), { tables with hotspot_users })
    | none => (.error (.routeros rejection), tables)

def HotspotTables.cmd : HotspotCommand → Method HotspotTables OdooError Unit
  | .hotspot_user_add name password profile comment =>
    HotspotTables.apply (fun users => users.add name { password, profile, comment, disabled := false })
      "already have user with this name for this server"
  | .hotspot_user_set numbers profile disabled =>
    HotspotTables.apply
      (fun users => users.set numbers fun user => { user with profile := profile.getD user.profile, disabled })
      "no such item"
  | .walled_garden_add dst_host =>
    modify fun tables => { tables with walled_garden := tables.walled_garden ++ [dst_host] }

abbrev RouterCommand : Type := Command ⊕ HotspotCommand

/-- A router with the tables of both addons. -/
structure Router where
  tables : RouterTables
  hotspot : HotspotTables

def Router.cmd : RouterCommand → Method Router OdooError Unit
  | .inl command => Method.focus Router.tables (fun tables router => { router with tables }) (RouterTables.cmd command)
  | .inr command =>
    Method.focus Router.hotspot (fun hotspot router => { router with hotspot }) (HotspotTables.cmd command)

/-- A router that may reject any command, by all that it was sent before. -/
abbrev Policy : Type := List RouterCommand → RouterCommand → Option String

/-- A connected router: what it was sent, and its tables. -/
abbrev Connection : Type := List RouterCommand × Router

def Policy.cmd (policy : Policy) : RouterCommand → Method Connection OdooError Unit :=
  rejecting (fun log command => (policy log command).map OdooError.routeros) Router.cmd

/-- The routers by their records. -/
abbrev Fleet : Type := Nat → Connection

/-- How the routers answer: which records a search for a device's and for a
sector's router finds, whether a connection is made, and what is rejected. -/
structure Routers where
  router_of_device : Nat → Option Nat
  router_of_sector : Nat → Option Nat
  connect : Nat → Except OdooError Unit
  policy : Nat → Policy

def Routers.get_routeros_client (self : Routers) (router : Nat) :
    Except OdooError (RouterCommand → Method Fleet OdooError Unit) := do
  self.connect router
  pure fun command => Method.onDevice router ((self.policy router).cmd command)

section

variable {policy : Policy} {log : List RouterCommand} {router : Router}

theorem exceptRouteros_onDevice {τ α : Type} {id : Nat} (body handler : Method τ OdooError α) :
    exceptRouteros (Method.onDevice id body) (Method.onDevice id handler) =
      (Method.onDevice id (exceptRouteros body handler) : Method (Nat → τ) OdooError α) := by
  rw [exceptRouteros, exceptRouteros, Method.onDevice_tryCatch]
  congr 1
  funext exception
  cases exception with
  | routeros message => rfl
  | user message => exact (Method.onDevice_throw _).symm
  | validation message => exact (Method.onDevice_throw _).symm
  | other message => exact (Method.onDevice_throw _).symm

/-- With rejections ignored a body returns when it returns or is rejected. -/
theorem exceptRouteros_ignored_iff {τ : Type} {body : Method τ OdooError Unit} {state after : τ} :
    (exceptRouteros body (pure ())).exec state = (.ok (), after) ↔
      body.exec state = (.ok (), after) ∨ ∃ message, body.exec state = (.error (.routeros message), after) := by
  rw [exceptRouteros, Method.exec_tryCatch]
  cases body.exec state with
  | mk result other =>
    cases result with
    | ok value => simp
    | error exception => cases exception <;> simp

/-- A command on a part of the router, by what it does to that part. -/
theorem exceptRouteros_focus_ignored {σ τ : Type} {part : σ → τ} {replace : τ → σ → σ}
    {body : Method τ OdooError Unit}
    {state : σ} {rest : τ} (h : (exceptRouteros body (pure ())).exec (part state) = (.ok (), rest)) :
    (exceptRouteros (Method.focus part replace body) (pure ())).exec state = (.ok (), replace rest state) := by
  rw [exceptRouteros_ignored_iff] at h ⊢
  rw [Method.exec_focus]
  obtain hreturns | ⟨message, hrejected⟩ := h
  · exact Or.inl (by rw [hreturns])
  · exact Or.inr ⟨message, by rw [hrejected]⟩

/-- A command whose rejection is ignored: the router is as the command makes
it, or unchanged when its policy rejects it. -/
theorem exceptRouteros_policy_ignored {command : RouterCommand} {handled : Router}
    (h : (exceptRouteros (Router.cmd command) (pure ())).exec router = (.ok (), handled)) :
    (exceptRouteros (policy.cmd command) (pure ())).exec (log, router) =
      (.ok (), log ++ [command], if policy log command = none then handled else router) := by
  rw [exceptRouteros_ignored_iff] at h ⊢
  cases hpolicy : policy log command with
  | some message =>
    rw [if_neg (Option.some_ne_none message)]
    exact Or.inr ⟨message, rejecting_exec_of_rejected (by rw [hpolicy]; rfl)⟩
  | none =>
    have hexec : (policy.cmd command).exec (log, router) =
        (((Router.cmd command).exec router).1, log ++ [command], ((Router.cmd command).exec router).2) :=
      rejecting_exec_of_accepted (by rw [hpolicy]; rfl)
    rw [if_pos rfl, hexec]
    obtain hreturns | ⟨message, hrejected⟩ := h
    · exact Or.inl (by rw [hreturns])
    · exact Or.inr ⟨message, by rw [hrejected]⟩

/-- The same on one router of the fleet. -/
theorem exceptRouteros_fleet_ignored {fleet : Fleet} {id : Nat} {command : RouterCommand} {handled : Router}
    (h : (exceptRouteros (Router.cmd command) (pure ())).exec (fleet id).2 = (.ok (), handled)) :
    (exceptRouteros (Method.onDevice id (policy.cmd command)) (pure ())).exec fleet =
      (.ok (), Function.update fleet id
        ((fleet id).1 ++ [command], if policy (fleet id).1 command = none then handled else (fleet id).2)) := by
  have honDevice := @exceptRouteros_onDevice _ _ id (policy.cmd command) (pure ())
  rw [Method.onDevice_pure] at honDevice
  have hpolicy : (exceptRouteros (policy.cmd command) (pure ())).exec (fleet id) = _ :=
    exceptRouteros_policy_ignored h
  rw [honDevice, Method.exec_onDevice, hpolicy]

end

end getupnet.isp_captive_portal

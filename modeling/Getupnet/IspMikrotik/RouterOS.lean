import Getupnet.IspCore.Fields
import Getupnet.Relational.KeyedTable
import Getupnet.Relational.Transaction

open relational
open getupnet.isp_core

namespace getupnet.isp_mikrotik

/-- The text `f"{first}M/{second}M"`, by its two numbers. -/
structure MaxLimit where
  first : ℚ
  second : ℚ
  deriving DecidableEq

/-- The commands the provisioning handlers send, each with the words it
carries. A `set` command leaves unmentioned fields as they are. -/
inductive Command where
  | ppp_secret_add (name password : CharField) (profile service : String)
  | ppp_secret_set (numbers : CharField) (password : Option CharField) (profile : Option String)
      (disabled : Bool)
  | dhcp_lease_add (address mac_address : CharField) (comment : String)
  | dhcp_lease_set (numbers : CharField) (comment : String) (disabled : Bool)
  | simple_queue_add (name target : String) (max_limit : MaxLimit) (comment : String)
  | simple_queue_set (numbers : String) (max_limit : Option MaxLimit) (disabled : Bool)
  | simple_queue_remove (numbers : String)
  | ppp_active_remove (numbers : CharField)
  | hotspot_active_remove (numbers : CharField)
  deriving DecidableEq

/-- A router connection: what each command does to the router and whether it
raises. The router's state is not part of the database. -/
abbrev Client (ρ : Type) : Type := Command → Method ρ OdooError Unit

/-- `DummyRouterOS`: every command is logged and nothing is done. -/
def Client.dry_run {ρ : Type} : Client ρ := fun _ => pure ()

/-- A client that keeps a list of the commands sent, rejected ones included. -/
def Client.recording {ρ : Type} (client : Client ρ) : Client (List Command × ρ) :=
  fun command => Method.ofFun fun state =>
    (((client command).exec state.2).1, state.1 ++ [command], ((client command).exec state.2).2)

/-- `try: body / except LibRouterosError: handler`. -/
def exceptRouteros {ρ α : Type} (body handler : Method ρ OdooError α) : Method ρ OdooError α :=
  tryCatch body fun exception =>
    match exception with
    | .routeros _ => handler
    | exception => throw exception

structure PppSecret where
  password : CharField
  profile : String
  service : String
  disabled : Bool
  deriving DecidableEq

structure DhcpLease where
  mac_address : CharField
  comment : String
  disabled : Bool
  deriving DecidableEq

structure SimpleQueue where
  target : String
  max_limit : MaxLimit
  comment : String
  disabled : Bool
  deriving DecidableEq

/-- A router as tables: secrets by name, leases by address, queues by name, and
the sessions that can be disconnected. -/
structure RouterTables where
  ppp_secrets : KeyedTable CharField PppSecret
  dhcp_leases : KeyedTable CharField DhcpLease
  simple_queues : KeyedTable String SimpleQueue
  ppp_active : KeyedTable CharField Unit
  hotspot_active : KeyedTable CharField Unit

def RouterTables.empty : RouterTables where
  ppp_secrets := ⟨fun _ => none⟩
  dhcp_leases := ⟨fun _ => none⟩
  simple_queues := ⟨fun _ => none⟩
  ppp_active := ⟨fun _ => none⟩
  hotspot_active := ⟨fun _ => none⟩

/-- A command that changes one table, or is rejected and changes nothing. -/
def RouterTables.apply {κ ν : Type} (change : RouterTables → Option (KeyedTable κ ν))
    (put : KeyedTable κ ν → RouterTables → RouterTables) (rejection : String) :
    Method RouterTables OdooError Unit :=
  Method.ofFun fun tables =>
    match change tables with
    | some table => (.ok (), put table tables)
    | none => (.error (.routeros rejection), tables)

/-- A router that rejects additions of a taken key and changes or removals of
an absent one, and nothing else. -/
def RouterTables.cmd : Client RouterTables
  | .ppp_secret_add name password profile service =>
    RouterTables.apply (fun tables => tables.ppp_secrets.add name { password, profile, service, disabled := false })
      (fun ppp_secrets tables => { tables with ppp_secrets }) "secret with the same name already exists"
  | .ppp_secret_set numbers password profile disabled =>
    RouterTables.apply
      (fun tables => tables.ppp_secrets.set numbers fun secret =>
        { secret with
          password := password.getD secret.password
          profile := profile.getD secret.profile
          disabled })
      (fun ppp_secrets tables => { tables with ppp_secrets }) "no such item"
  | .dhcp_lease_add address mac_address comment =>
    RouterTables.apply (fun tables => tables.dhcp_leases.add address { mac_address, comment, disabled := false })
      (fun dhcp_leases tables => { tables with dhcp_leases }) "already have static lease with this address"
  | .dhcp_lease_set numbers comment disabled =>
    RouterTables.apply (fun tables => tables.dhcp_leases.set numbers fun lease => { lease with comment, disabled })
      (fun dhcp_leases tables => { tables with dhcp_leases }) "no such item"
  | .simple_queue_add name target max_limit comment =>
    RouterTables.apply
      (fun tables => tables.simple_queues.add name { target, max_limit, comment, disabled := false })
      (fun simple_queues tables => { tables with simple_queues }) "already have such name"
  | .simple_queue_set numbers max_limit disabled =>
    RouterTables.apply
      (fun tables => tables.simple_queues.set numbers fun queue =>
        { queue with max_limit := max_limit.getD queue.max_limit, disabled })
      (fun simple_queues tables => { tables with simple_queues }) "no such item"
  | .simple_queue_remove numbers =>
    RouterTables.apply (fun tables => tables.simple_queues.remove numbers)
      (fun simple_queues tables => { tables with simple_queues }) "no such item"
  | .ppp_active_remove numbers =>
    RouterTables.apply (fun tables => tables.ppp_active.remove numbers)
      (fun ppp_active tables => { tables with ppp_active }) "no such item"
  | .hotspot_active_remove numbers =>
    RouterTables.apply (fun tables => tables.hotspot_active.remove numbers)
      (fun hotspot_active tables => { tables with hotspot_active }) "no such item"

section

variable {κ ν : Type} {change fallback : RouterTables → Option (KeyedTable κ ν)}
  {put : KeyedTable κ ν → RouterTables → RouterTables} {rejection other : String} {tables : RouterTables}
  {table : KeyedTable κ ν}

/-- An addition that falls back to a change: one of the two is accepted. -/
theorem exceptRouteros_apply (h : change tables = some table ∨ change tables = none ∧ fallback tables = some table) :
    (exceptRouteros (RouterTables.apply change put rejection) (RouterTables.apply fallback put other)).exec tables =
      (.ok (), put table tables) := by
  rcases h with hadd | ⟨hadd, hset⟩
  · simp [exceptRouteros, RouterTables.apply, hadd]
  · simp [exceptRouteros, RouterTables.apply, hadd, hset]

/-- A command whose rejection is ignored, when rejection leaves what acceptance
would have made. -/
theorem exceptRouteros_apply_ignored
    (h : change tables = some table ∨ change tables = none ∧ put table tables = tables) :
    (exceptRouteros (RouterTables.apply change put rejection) (pure ())).exec tables =
      (.ok (), put table tables) := by
  rcases h with haccepted | ⟨hrejected, hsame⟩
  · simp [exceptRouteros, RouterTables.apply, haccepted]
  · simp [exceptRouteros, RouterTables.apply, hrejected, hsame]

end

end getupnet.isp_mikrotik

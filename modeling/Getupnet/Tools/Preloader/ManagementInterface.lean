import Getupnet.Tools.Preloader.RejectedReads

open interaction relational

namespace getupnet.mikrotik_preloader

/-- An interface carries an address of the router. -/
def Router.carries (address interface : String) (self : Router) : Bool :=
  (self.tables .address).has fun fields =>
    startswith ((fields "address").getD "") (address ++ "/") && Fields.is "interface" interface fields

/-- How the router is reached: at its address, or through the SSH tunnel, whose end on the
host is the candidate address. -/
inductive Route where
  | direct (address : String)
  | tunnel (mikrotik_lan_ip : String)

/-- The address that the preloader connects to. -/
def Route.candidate : Route → String
  | .direct address => address
  | .tunnel _ => "127.0.0.1"

/-- The address of the router on which the session terminates. -/
def Route.terminal : Route → String
  | .direct address => address
  | .tunnel mikrotik_lan_ip => mikrotik_lan_ip

/-- A lookup may find an entry: one that has the value, or, where the query is refused as
unknown, one that the fallback takes for it. It reads a missing field as "None". -/
def Router.MayFind (rejected : Nat → Command → Option Fault) (path : Path) (field value : String)
    (self : Router) : Prop :=
  (self.tables path).has (Fields.is field value) = true ∨
    (∃ count, rejected count (.print_where path field value) = some .unknown_parameter) ∧
      (self.tables path).has (fun fields => (fields field).getD "None" == value) = true

/-- The session may run over a port: the router shows it and it carries the address, or it
is the bridge itself, which the run creates and gives an address. -/
def MayCarry (terminal : String) (rcfg : SectorConfig) (rejected : Nat → Command → Option Fault) (router : Router)
    (port : String) : Prop :=
  router.MayFind rejected .interface "name" port ∧ router.carries terminal port = true ∨
    port = rcfg.lan_bridge ∧
      (router.carries terminal port = true ∨ startswith rcfg.lan_address (terminal ++ "/") = true)

/-- The bridge is not one of its own ports. -/
def BridgeApart (cfg : Config) : Prop :=
  ∀ rcfg, applied_config cfg = some rcfg → rcfg.lan_bridge ∉ rcfg.lan_ports

section

variable {terminal : String} {rejected : Nat → Command → Option Fault} {state after : Router × Nat}
  {before : Router} {rcfg : SectorConfig}

section

variable {router : Router} {ip port : String}

/-- Addresses that come later do not change what the guard finds. -/
theorem Router.Grows.mgmt_iface (h : Router.Grows rcfg before router) {interface : String}
    (hfound : mikrotik_preloader.mgmt_iface ip before = some interface) :
    mikrotik_preloader.mgmt_iface ip router = some interface := by
  obtain ⟨added, hentries, _⟩ := h.address
  obtain ⟨entry, hentry, hinterface⟩ := Option.bind_eq_some_iff.mp hfound
  rw [mikrotik_preloader.mgmt_iface, mgmt_interface, hentries, List.find?_append, hentry]
  exact hinterface

/-- Only the bridge may carry an address that it did not carry before. -/
theorem Router.Grows.carries (h : Router.Grows rcfg before router) (hcarries : router.carries terminal port = true) :
    before.carries terminal port = true ∨
      port = rcfg.lan_bridge ∧ startswith rcfg.lan_address (terminal ++ "/") = true := by
  refine (h.address.of_has hcarries).imp id ?_
  rintro ⟨_, rfl, hadded⟩
  obtain ⟨haddress, hinterface⟩ := Bool.and_eq_true_iff.mp hadded
  refine ⟨?_, by simpa using haddress⟩
  exact Eq.symm (by simpa [Fields.is] using hinterface)

end

section

variable {ip port : String} {cfg : Config} {environ : Environ}

end

end

section

variable {rejected : Nat → Command → Option Fault} {state after : Router × Nat} {rcfg : SectorConfig}
  {lan_bridge port : String}

end

section

variable {route : Route} {cfg : Config} {environ : Environ} {router : Router}

/-- Of a port that is not guarded, with the bridge apart from its ports. -/
theorem BridgeApart.carried (h : BridgeApart cfg) {rejected : Nat → Command → Option Fault} {rcfg : SectorConfig}
    {terminal port : String} (happlied : applied_config cfg = some rcfg) (hport : port ∈ rcfg.lan_ports)
    (hcarry : MayCarry terminal rcfg rejected router port) :
    router.MayFind rejected .interface "name" port ∧ router.carries terminal port = true := by
  obtain hfound | ⟨rfl, _⟩ := hcarry
  · exact hfound
  · exact absurd hport (h rcfg happlied)

end

end getupnet.mikrotik_preloader

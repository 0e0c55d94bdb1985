import Mathlib.Data.List.Infix
import Getupnet.Interaction.Issued
import Getupnet.Tools.Preloader.Preconfig

open interaction python

namespace getupnet.mikrotik_preloader.untyped

/-- The operations of the language on values, `str(value)` and `==`. -/
structure Builtins where
  str : Value → String
  eq : Value → Value → Bool

/-- A call of the connection to a router. -/
structure Call where
  path : String
  kwargs : Dict

/-- What a call raises, with its text, and what the code around it does. -/
inductive Interruption where
  | librouteros (text : String)
  | failure (failure : Failure)

/-- A conversation with a router, which answers each call with rows. -/
abbrev Session (α : Type) : Type := Program Call (List Dict) Interruption α

def reads {α : Type} (result : Except Raised α) : Session α :=
  Program.ofExcept (result.mapError fun exception => .failure (.raised exception))

def raise_runtime_error {α : Type} (message : String) : Session α := .raises (.failure (.runtime_error message))

def api_exec (path : String) (kwargs : Dict) : Session (List Dict) := .command ⟨path, kwargs⟩

/-- `"unknown parameter" in text` -/
def unknown_parameter (text : String) : Bool := decide ("unknown parameter".toList <:+: text.toList)

/-- `row.get(field)` -/
def field_of (field : String) (row : Dict) : Value := (row.lookup field).getD .none

def routeros_find (py : Builtins) (path field : String) (value : Value) : Session (List Dict) :=
  (api_exec path [("?" ++ field, value)]).attempt fun
    | .librouteros text =>
      if unknown_parameter text then do
        let items ← api_exec path []
        return items.filter fun item => py.str (field_of field item) == py.str value
      else .raises (.librouteros text)
    | interruption => .raises interruption

def routeros_interface_exists (py : Builtins) (name : Value) : Session Bool := do
  let items ← routeros_find py "/interface/print" "name" name
  return !items.isEmpty

def routeros_get_id (py : Builtins) (path field : String) (value : Value) : Session Value := do
  let items ← routeros_find py path field value
  match items with
  | [] => return .none
  | item :: _ => return (field_of ".id" item).orElse (field_of "id" item)

/-- `if routeros_find(...): return`, then `add`. -/
def routeros_ensure (py : Builtins) (menu field : String) (value : Value) (kwargs : Dict) : Session Unit := do
  let existing ← routeros_find py (menu ++ "/print") field value
  Program.when existing.isEmpty (do let _ ← api_exec (menu ++ "/add") kwargs)

/-- An entry of a name is looked up, then looked up again for its identifier and set,
or added. -/
def routeros_ensure_named (py : Builtins) (menu : String) (name : Value) (kwargs : Dict) : Session Unit := do
  let existing ← routeros_find py (menu ++ "/print") "name" name
  if existing.isEmpty then
    let _ ← api_exec (menu ++ "/add") (("name", name) :: kwargs)
  else
    let id ← routeros_get_id py (menu ++ "/print") "name" name
    let _ ← api_exec (menu ++ "/set") (("numbers", id.orElse name) :: kwargs)

section

variable (py : Builtins)

def routeros_ensure_bridge (name : Value) : Session Unit :=
  routeros_ensure py "/interface/bridge" "name" name [("name", name)]

def routeros_ensure_bridge_port (bridge interface : Value) : Session Unit := do
  let exists_ ← routeros_interface_exists py interface
  Program.when exists_ (do
    let ports ← routeros_find py "/interface/bridge/port/print" "interface" interface
    Program.when (!ports.any fun port => py.eq (field_of "bridge" port) bridge) (do
      let _ ← api_exec "/interface/bridge/port/add" [("bridge", bridge), ("interface", interface)]))

def routeros_ensure_ip_address (address interface : Value) : Session Unit :=
  routeros_ensure py "/ip/address" "address" address [("address", address), ("interface", interface)]

def routeros_ensure_ip_pool (name ranges : Value) : Session Unit := do
  let existing ← routeros_find py "/ip/pool/print" "name" name
  if existing.isEmpty then
    let _ ← api_exec "/ip/pool/add" [("name", name), ("ranges", ranges)]
  else
    let _ ← api_exec "/ip/pool/set" [("numbers", name), ("ranges", ranges)]

def routeros_ensure_dhcp_server (name interface pool lease_time : Value) : Session Unit :=
  routeros_ensure_named py "/ip/dhcp-server" name
    [("interface", interface), ("address-pool", pool), ("lease-time", lease_time)]

def routeros_ensure_dhcp_network (address gateway dns_server : Value) : Session Unit := do
  let existing_id ← routeros_get_id py "/ip/dhcp-server/network/print" "address" address
  if existing_id.truthy then
    let _ ← api_exec "/ip/dhcp-server/network/set"
      [("numbers", existing_id), ("gateway", gateway), ("dns-server", dns_server)]
  else
    let _ ← api_exec "/ip/dhcp-server/network/add"
      [("address", address), ("gateway", gateway), ("dns-server", dns_server)]

def routeros_ensure_dhcp_client (interface : Value) (comment : String) : Session Unit :=
  routeros_ensure py "/ip/dhcp-client" "interface" interface
    [("interface", interface), ("disabled", .str "no"), ("add-default-route", .str "yes"), ("use-peer-dns", .str "yes"),
      ("comment", .str comment)]

def routeros_ensure_nat_masquerade (out_interface : Value) (comment : String) : Session Unit :=
  routeros_ensure py "/ip/firewall/nat" "comment" (.str comment)
    [("chain", .str "srcnat"), ("out-interface", out_interface), ("action", .str "masquerade"),
      ("comment", .str comment)]

def routeros_ensure_dns (servers : Value) : Session Unit := do
  let _ ← api_exec "/ip/dns/set" [("servers", servers), ("allow-remote-requests", .str "yes")]

def routeros_ensure_hotspot_profile (name dns_name login_by html_dir : Value) : Session Unit :=
  routeros_ensure_named py "/ip/hotspot/profile" name
    [("dns-name", dns_name), ("login-by", login_by), ("html-directory", html_dir)]

def routeros_ensure_hotspot_server (name interface pool profile : Value) : Session Unit :=
  routeros_ensure_named py "/ip/hotspot" name
    [("interface", interface), ("address-pool", pool), ("profile", profile)]

def routeros_ensure_walled_garden (domain : Value) (comment : String) : Session Unit :=
  routeros_ensure py "/ip/hotspot/walled-garden" "comment" (.str comment)
    [("dst-host", domain), ("comment", .str comment)]

def routeros_set_dhcp_lease_script (dhcp_server script : Value) (clear_if_empty : Bool) : Session Unit :=
  Program.when (script.truthy || clear_if_empty) (do
    let server_id ← routeros_get_id py "/ip/dhcp-server/print" "name" dhcp_server
    let _ ← api_exec "/ip/dhcp-server/set"
      [("numbers", server_id.orElse dhcp_server), ("lease-script", script.orElse (.str ""))])

end

def lease_token_of (environ : Environ) (webhook : Value) : Except Failure Value := do
  let token_env ← raises (webhook.get "token_env" .none)
  let token ← if token_env.truthy then environ_get environ token_env .none else pure .none
  if token.truthy then return token else raises (webhook.get "token_value" .none)

def lease_url_of (cfg : Dict) (webhook : Value) : Except Failure Value := do
  let url ← raises (webhook.get "url" .none)
  if url.truthy then
    return url
  else
    let odoo ← raises ((Value.dict cfg).item "odoo")
    match ← raises (odoo.item "url") with
    | .str odoo_url => return .str (rstrip_slash odoo_url ++ "/isp/mac_onboarding")
    | _ => throw (.raised .attribute_error)

def build_lease_script (py : Builtins) (environ : Environ) (cfg : Dict) : Except Failure Value := do
  let webhook := (cfg.lookup "webhook").getD (.dict [])
  let enabled ← raises (webhook.get "enabled" .none)
  if !enabled.truthy then
    return .none
  let token ← lease_token_of environ webhook
  if !token.truthy then
    throw (.runtime_error "webhook token missing: set webhook.token_env or webhook.token_value")
  let url ← lease_url_of cfg webhook
  let sector_code ← raises (webhook.get "sector_code" .none)
  let sector := sector_code.orElse ((cfg.lookup "sector_code").getD (.str ""))
  return .str (":local mac $leaseActMAC; :local ip $leaseActIP; :local bound $leaseBound; " ++
    "/tool fetch url=\"" ++ py.str url ++ "?token=" ++ py.str token ++ "&mac=$mac&ip=$ip&bound=$bound&sector=" ++
    py.str sector ++ "\" keep-result=no")

/-- The values of the `routeros.config` section, with the defaults of the code. -/
structure SectorSettings where
  wan_interface : Value
  lan_bridge : Value
  lan_ports : Value
  lan_address : Value
  dhcp_pool : Value
  dhcp_range : Value
  dhcp_server : Value
  dhcp_lease_time : Value
  dhcp_network : Value
  dns_server : Value
  enable_dhcp_client_wan : Value
  enable_nat : Value
  enable_hotspot : Value
  hotspot_profile : Value
  hotspot_server : Value
  hotspot_dns_name : Value
  hotspot_login_by : Value
  hotspot_html_dir : Value
  hotspot_walled_garden : Value

/-- `rcfg.get(key, default)` for each of them. -/
def SectorSettings.of (rcfg : Dict) : SectorSettings where
  wan_interface := (rcfg.lookup "wan_interface").getD .none
  lan_bridge := (rcfg.lookup "lan_bridge").getD .none
  lan_ports := (rcfg.lookup "lan_ports").getD (.list [])
  lan_address := (rcfg.lookup "lan_address").getD .none
  dhcp_pool := (rcfg.lookup "dhcp_pool").getD .none
  dhcp_range := (rcfg.lookup "dhcp_range").getD .none
  dhcp_server := (rcfg.lookup "dhcp_server").getD .none
  dhcp_lease_time := (rcfg.lookup "dhcp_lease_time").getD (.str "1h")
  dhcp_network := (rcfg.lookup "dhcp_network").getD .none
  dns_server := (rcfg.lookup "dns_server").getD .none
  enable_dhcp_client_wan := (rcfg.lookup "enable_dhcp_client_wan").getD (.bool true)
  enable_nat := (rcfg.lookup "enable_nat").getD (.bool true)
  enable_hotspot := (rcfg.lookup "enable_hotspot").getD .none
  hotspot_profile := (rcfg.lookup "hotspot_profile").getD (.str "hs-prof")
  hotspot_server := (rcfg.lookup "hotspot_server").getD (.str "hs1")
  hotspot_dns_name := (rcfg.lookup "hotspot_dns_name").getD .none
  hotspot_login_by := (rcfg.lookup "hotspot_login_by").getD (.str "http-chap")
  hotspot_html_dir := (rcfg.lookup "hotspot_html_dir").getD (.str "hotspot")
  hotspot_walled_garden := (rcfg.lookup "hotspot_walled_garden").getD .none

/-- `all([...])` over the required values. -/
def SectorSettings.complete (rcfg : SectorSettings) : Bool :=
  [rcfg.wan_interface, rcfg.lan_bridge, rcfg.lan_address, rcfg.dhcp_pool, rcfg.dhcp_range, rcfg.dhcp_server,
    rcfg.dhcp_network].all Value.truthy

/-- `address.split("/")[0]` -/
def gateway_of : Value → Except Raised Value
  | .str address => .ok (.str ((split '/' address).headD ""))
  | _ => .error .attribute_error

section

variable (py : Builtins)

/-- The hotspot part of the sector configuration. -/
def routeros_apply_hotspot (rcfg : SectorSettings) : Session Unit :=
  Program.when rcfg.enable_hotspot.truthy
    (if !rcfg.hotspot_dns_name.truthy then
      raise_runtime_error "hotspot_dns_name is required when enable_hotspot is true"
    else do
      routeros_ensure_hotspot_profile py rcfg.hotspot_profile rcfg.hotspot_dns_name rcfg.hotspot_login_by
        rcfg.hotspot_html_dir
      routeros_ensure_hotspot_server py rcfg.hotspot_server rcfg.lan_bridge rcfg.dhcp_pool rcfg.hotspot_profile
      Program.when rcfg.hotspot_walled_garden.truthy
        (routeros_ensure_walled_garden py rcfg.hotspot_walled_garden "ISP-WALLED-GARDEN"))

/-- A LAN port joins the bridge unless the connection runs over it. -/
def routeros_apply_lan_port (mgmt_iface lan_bridge port : Value) : Session Unit :=
  Program.when (!(mgmt_iface.truthy && py.eq port mgmt_iface)) (routeros_ensure_bridge_port py lan_bridge port)

/-- The interfaces, the bridge and its ports. -/
def routeros_apply_interfaces (mgmt_iface : Value) (rcfg : SectorSettings) : Session Unit := do
  Program.when rcfg.enable_dhcp_client_wan.truthy (routeros_ensure_dhcp_client py rcfg.wan_interface "ISP-WAN")
  routeros_ensure_bridge py rcfg.lan_bridge
  let lan_ports ← reads (list_of rcfg.lan_ports)
  Program.forEach (routeros_apply_lan_port py mgmt_iface rcfg.lan_bridge) lan_ports

/-- The address, the pool and the DHCP server. -/
def routeros_apply_dhcp (rcfg : SectorSettings) : Session Unit := do
  routeros_ensure_ip_address py rcfg.lan_address rcfg.lan_bridge
  routeros_ensure_ip_pool py rcfg.dhcp_pool rcfg.dhcp_range
  routeros_ensure_dhcp_server py rcfg.dhcp_server rcfg.lan_bridge rcfg.dhcp_pool rcfg.dhcp_lease_time

/-- What follows the DHCP server, up to the hotspot. -/
def routeros_apply_services (rcfg : SectorSettings) : Session Unit := do
  let gateway ← reads (gateway_of rcfg.lan_address)
  routeros_ensure_dhcp_network py rcfg.dhcp_network gateway (rcfg.dns_server.orElse gateway)
  Program.when rcfg.dns_server.truthy (routeros_ensure_dns rcfg.dns_server)
  Program.when rcfg.enable_nat.truthy (routeros_ensure_nat_masquerade py rcfg.wan_interface "ISP-NAT")

/-- The script for the leases, from the section of the webhook. -/
def routeros_apply_lease_script (environ : Environ) (cfg : Dict) (dhcp_server : Value) : Session Unit := do
  let lease_script ← Program.ofExcept ((build_lease_script py environ cfg).mapError .failure)
  let clear_lease_script ← reads (((cfg.lookup "webhook").getD (.dict [])).get "clear_lease_script_on_disable" (.bool true))
  routeros_set_dhcp_lease_script py dhcp_server lease_script clear_lease_script.truthy

def routeros_apply_settings (environ : Environ) (cfg : Dict) (mgmt_iface : Value) (rcfg : SectorSettings) :
    Session Unit :=
  if !rcfg.complete then
    raise_runtime_error "Missing routeros.config required values"
  else do
    routeros_apply_interfaces py mgmt_iface rcfg
    routeros_apply_dhcp py rcfg
    routeros_apply_services py rcfg
    routeros_apply_hotspot py rcfg
    routeros_apply_lease_script py environ cfg rcfg.dhcp_server

def routeros_apply_sector_config (environ : Environ) (cfg : Dict) (mgmt_iface : Value) : Session Unit := do
  let rcfg ← reads (((cfg.lookup "routeros").getD (.dict [])).get "config" (.dict []))
  if rcfg.truthy then
    match rcfg with
    | .dict entries => routeros_apply_settings py environ cfg mgmt_iface (.of entries)
    | _ => .raises (.failure (.raised .attribute_error))

end

/-- Neither `None` nor `False`. -/
def Carried : Value → Prop
  | .none | .bool false => False
  | _ => True

def Call.Clean (call : Call) : Prop := ∀ entry ∈ call.kwargs, Carried entry.2

section

variable {py : Builtins} {path menu field comment : String} {value name interface : Value} {kwargs : Dict}

theorem carried_of_truthy (h : value.truthy) : Carried value := by
  cases value with
  | none => cases h
  | bool truth =>
    cases truth with
    | false => cases h
    | true => trivial
  | int | str | list | dict | other => trivial

theorem carried_orElse (h : Carried value) (first : Value) : Carried (first.orElse value) := by
  rw [Value.orElse]
  split
  · rename_i htruthy
    exact carried_of_truthy htruthy
  · exact h

theorem api_exec_only (h : ∀ entry ∈ kwargs, Carried entry.2) : (api_exec path kwargs).Only Call.Clean :=
  Program.Only.command h

theorem routeros_find_only (h : Carried value) : (routeros_find py path field value).Only Call.Clean := by
  refine (api_exec_only (by simpa using h)).attempt fun interruption => ?_
  cases interruption with
  | failure failure => trivial
  | librouteros text =>
    dsimp only
    split
    · exact (api_exec_only (by simp)).bind fun _ => trivial
    · trivial

theorem routeros_get_id_only (h : Carried value) : (routeros_get_id py path field value).Only Call.Clean := by
  refine (routeros_find_only h).bind fun items => ?_
  cases items <;> trivial

theorem routeros_ensure_only (h : Carried value) (hkwargs : ∀ entry ∈ kwargs, Carried entry.2) :
    (routeros_ensure py menu field value kwargs).Only Call.Clean := by
  refine (routeros_find_only h).bind fun existing => .when fun _ => ?_
  exact (api_exec_only hkwargs).bind fun _ => trivial

theorem routeros_ensure_named_only (h : Carried name) (hkwargs : ∀ entry ∈ kwargs, Carried entry.2) :
    (routeros_ensure_named py menu name kwargs).Only Call.Clean := by
  refine (routeros_find_only h).bind fun existing => ?_
  split
  · exact (api_exec_only (List.forall_mem_cons.mpr ⟨h, hkwargs⟩)).bind fun _ => trivial
  · refine (routeros_get_id_only h).bind fun id => ?_
    exact (api_exec_only (List.forall_mem_cons.mpr ⟨carried_orElse h id, hkwargs⟩)).bind fun _ => trivial

theorem routeros_ensure_bridge_port_only {bridge : Value} (hbridge : Carried bridge) (h : Carried interface) :
    (routeros_ensure_bridge_port py bridge interface).Only Call.Clean := by
  have hexists : (routeros_interface_exists py interface).Only Call.Clean :=
    (routeros_find_only h).bind fun _ => trivial
  refine hexists.bind fun _ => .when fun _ => (routeros_find_only h).bind fun _ => .when fun _ => ?_
  exact (api_exec_only (by simp [hbridge, h])).bind fun _ => trivial

theorem routeros_ensure_ip_pool_only {ranges : Value} (h : Carried name) (hranges : Carried ranges) :
    (routeros_ensure_ip_pool py name ranges).Only Call.Clean := by
  refine (routeros_find_only h).bind fun existing => ?_
  split
  · exact (api_exec_only (by simp [h, hranges])).bind fun _ => trivial
  · exact (api_exec_only (by simp [h, hranges])).bind fun _ => trivial

theorem routeros_ensure_dhcp_network_only {address gateway dns_server : Value} (h : Carried address)
    (hgateway : Carried gateway) (hdns : Carried dns_server) :
    (routeros_ensure_dhcp_network py address gateway dns_server).Only Call.Clean := by
  refine (routeros_get_id_only h).bind fun existing_id => ?_
  split
  · rename_i htruthy
    exact (api_exec_only (by simp [carried_of_truthy htruthy, hgateway, hdns])).bind fun _ => trivial
  · exact (api_exec_only (by simp [h, hgateway, hdns])).bind fun _ => trivial

theorem routeros_set_dhcp_lease_script_only {dhcp_server : Value} (h : Carried dhcp_server) (script : Value)
    (clear_if_empty : Bool) :
    (routeros_set_dhcp_lease_script py dhcp_server script clear_if_empty).Only Call.Clean := by
  refine .when fun _ => (routeros_get_id_only h).bind fun server_id => ?_
  have hempty : Carried (.str "") := trivial
  have hscript : Carried (script.orElse (.str "")) := carried_orElse hempty script
  exact (api_exec_only (by simp [carried_orElse h, hscript])).bind fun _ => trivial

end

/-- The values that are not checked before they are sent. -/
structure SectorSettings.Carriable (rcfg : SectorSettings) : Prop where
  lan_ports : ∀ ports, list_of rcfg.lan_ports = .ok ports → ∀ port ∈ ports, Carried port
  dhcp_lease_time : Carried rcfg.dhcp_lease_time
  hotspot : rcfg.enable_hotspot.truthy → rcfg.hotspot_dns_name.truthy → Carried rcfg.hotspot_profile ∧
    Carried rcfg.hotspot_server ∧ Carried rcfg.hotspot_login_by ∧ Carried rcfg.hotspot_html_dir

section

variable {py : Builtins} {environ : Environ} {cfg : Dict} {rcfg : SectorSettings}

theorem SectorSettings.complete_iff : rcfg.complete ↔ rcfg.wan_interface.truthy ∧ rcfg.lan_bridge.truthy ∧
    rcfg.lan_address.truthy ∧ rcfg.dhcp_pool.truthy ∧ rcfg.dhcp_range.truthy ∧ rcfg.dhcp_server.truthy ∧
      rcfg.dhcp_network.truthy := by
  simp [SectorSettings.complete]

theorem carried_str (text : String) : Carried (.str text) := trivial

theorem routeros_apply_interfaces_only (h : rcfg.Carriable) (hcomplete : rcfg.complete) (mgmt_iface : Value) :
    (routeros_apply_interfaces py mgmt_iface rcfg).Only Call.Clean := by
  obtain ⟨hwan, hbridge, -⟩ := SectorSettings.complete_iff.mp hcomplete
  have hclient : (routeros_ensure_dhcp_client py rcfg.wan_interface "ISP-WAN").Only Call.Clean :=
    routeros_ensure_only (carried_of_truthy hwan) (by simp [carried_of_truthy hwan, carried_str])
  have hadded : (routeros_ensure_bridge py rcfg.lan_bridge).Only Call.Clean :=
    routeros_ensure_only (carried_of_truthy hbridge) (by simp [carried_of_truthy hbridge])
  refine (Program.Only.when fun _ => hclient).bind fun _ => hadded.bind fun _ => ?_
  cases hports : list_of rcfg.lan_ports with
  | error exception => trivial
  | ok ports =>
    refine Program.Only.forEach fun port hport => .when fun _ => ?_
    exact routeros_ensure_bridge_port_only (carried_of_truthy hbridge) (h.lan_ports ports hports port hport)

theorem routeros_apply_dhcp_only (h : rcfg.Carriable) (hcomplete : rcfg.complete) :
    (routeros_apply_dhcp py rcfg).Only Call.Clean := by
  obtain ⟨-, hbridge, haddress, hpool, hrange, hserver, -⟩ := SectorSettings.complete_iff.mp hcomplete
  have hip : (routeros_ensure_ip_address py rcfg.lan_address rcfg.lan_bridge).Only Call.Clean :=
    routeros_ensure_only (carried_of_truthy haddress)
      (by simp [carried_of_truthy haddress, carried_of_truthy hbridge])
  have hpooled := @routeros_ensure_ip_pool_only py _ _ (carried_of_truthy hpool) (carried_of_truthy hrange)
  have hserved : (routeros_ensure_dhcp_server py rcfg.dhcp_server rcfg.lan_bridge rcfg.dhcp_pool
      rcfg.dhcp_lease_time).Only Call.Clean :=
    routeros_ensure_named_only (carried_of_truthy hserver)
      (by simp [carried_of_truthy hbridge, carried_of_truthy hpool, h.dhcp_lease_time])
  exact hip.bind fun _ => hpooled.bind fun _ => hserved

theorem routeros_apply_services_only (hcomplete : rcfg.complete) :
    (routeros_apply_services py rcfg).Only Call.Clean := by
  obtain ⟨hwan, -, -, -, -, -, hnetwork⟩ := SectorSettings.complete_iff.mp hcomplete
  rw [routeros_apply_services]
  cases hgateway : gateway_of rcfg.lan_address with
  | error exception => trivial
  | ok gateway =>
    have hcarried : Carried gateway := by
      unfold gateway_of at hgateway
      split at hgateway
      · cases hgateway
        trivial
      · cases hgateway
    refine (routeros_ensure_dhcp_network_only (carried_of_truthy hnetwork) hcarried
      (carried_orElse hcarried _)).bind fun _ => ?_
    refine (Program.Only.when fun hdns => ?_).bind fun _ => .when fun _ => ?_
    · exact (api_exec_only (by simp [carried_of_truthy hdns, carried_str])).bind fun _ => trivial
    · exact routeros_ensure_only (carried_str _) (by simp [carried_of_truthy hwan, carried_str])

theorem routeros_apply_hotspot_only (h : rcfg.Carriable) (hcomplete : rcfg.complete) :
    (routeros_apply_hotspot py rcfg).Only Call.Clean := by
  obtain ⟨-, hbridge, -, hpool, -⟩ := SectorSettings.complete_iff.mp hcomplete
  refine .when fun henabled => ?_
  cases hdns : rcfg.hotspot_dns_name.truthy with
  | false => trivial
  | true =>
    obtain ⟨hprofile, hserver, hlogin, hhtml⟩ := h.hotspot henabled hdns
    have hprofiled : (routeros_ensure_hotspot_profile py rcfg.hotspot_profile rcfg.hotspot_dns_name
        rcfg.hotspot_login_by rcfg.hotspot_html_dir).Only Call.Clean :=
      routeros_ensure_named_only hprofile (by simp [carried_of_truthy hdns, hlogin, hhtml])
    have hserved : (routeros_ensure_hotspot_server py rcfg.hotspot_server rcfg.lan_bridge rcfg.dhcp_pool
        rcfg.hotspot_profile).Only Call.Clean :=
      routeros_ensure_named_only hserver
        (by simp [carried_of_truthy hbridge, carried_of_truthy hpool, hprofile])
    refine hprofiled.bind fun _ => hserved.bind fun _ => .when fun hgarden => ?_
    exact routeros_ensure_only (carried_str _) (by simp [carried_of_truthy hgarden, carried_str])

/-- A router is sent neither `None` nor `False` when the values that are not checked
are neither. -/
theorem routeros_apply_settings_only (h : rcfg.Carriable) (mgmt_iface : Value) :
    (routeros_apply_settings py environ cfg mgmt_iface rcfg).Only Call.Clean := by
  rw [routeros_apply_settings]
  cases hcomplete : rcfg.complete with
  | false => trivial
  | true =>
    have hinterfaces := @routeros_apply_interfaces_only py rcfg h hcomplete mgmt_iface
    have hdhcp := @routeros_apply_dhcp_only py rcfg h hcomplete
    have hservices := @routeros_apply_services_only py rcfg hcomplete
    have hhotspot := @routeros_apply_hotspot_only py rcfg h hcomplete
    have hlease : (routeros_apply_lease_script py environ cfg rcfg.dhcp_server).Only Call.Clean := by
      obtain ⟨-, -, -, -, -, hserver, -⟩ := SectorSettings.complete_iff.mp hcomplete
      refine (Program.Only.ofExcept _).bind fun script => (Program.Only.ofExcept _).bind fun clear => ?_
      exact routeros_set_dhcp_lease_script_only (carried_of_truthy hserver) script _
    exact hinterfaces.bind fun _ => hdhcp.bind fun _ => hservices.bind fun _ => hhotspot.bind fun _ => hlease

end

/-- Equal, or both taken for nothing. -/
def Alike (first second : Value) : Prop := first = second ∨ first.truthy = false ∧ second.truthy = false

theorem Alike.truthy_eq {first second : Value} (h : Alike first second) : first.truthy = second.truthy := by
  obtain rfl | ⟨hfirst, hsecond⟩ := h
  · rfl
  · rw [hfirst, hsecond]

theorem Alike.orElse_eq {first second : Value} (h : Alike first second) (default : Value) :
    first.orElse default = second.orElse default := by
  obtain rfl | ⟨hfirst, hsecond⟩ := h
  · rfl
  · simp [Value.orElse, hfirst, hsecond]

theorem Alike.when_eq {first second : Value} (h : Alike first second) (program : Value → Session Unit) :
    Program.when first.truthy (program first) = Program.when second.truthy (program second) := by
  obtain rfl | ⟨hfirst, hsecond⟩ := h
  · rfl
  · rw [hfirst, hsecond]
    rfl

/-- Settings that differ only where it does not show. -/
structure SectorSettings.Agree (first second : SectorSettings) : Prop where
  wan_interface : first.wan_interface = second.wan_interface
  lan_bridge : first.lan_bridge = second.lan_bridge
  lan_ports : first.lan_ports = second.lan_ports
  lan_address : first.lan_address = second.lan_address
  dhcp_pool : first.dhcp_pool = second.dhcp_pool
  dhcp_range : first.dhcp_range = second.dhcp_range
  dhcp_server : first.dhcp_server = second.dhcp_server
  dhcp_network : first.dhcp_network = second.dhcp_network
  dns_server : Alike first.dns_server second.dns_server
  enable_dhcp_client_wan : first.enable_dhcp_client_wan = second.enable_dhcp_client_wan
  enable_nat : first.enable_nat = second.enable_nat
  enable_hotspot : first.enable_hotspot = second.enable_hotspot
  hotspot_dns_name : Alike first.hotspot_dns_name second.hotspot_dns_name
  hotspot_walled_garden : Alike first.hotspot_walled_garden second.hotspot_walled_garden
  dhcp_lease_time : first.complete → first.dhcp_lease_time = second.dhcp_lease_time
  hotspot : first.complete → first.enable_hotspot.truthy → first.hotspot_dns_name.truthy →
    first.hotspot_profile = second.hotspot_profile ∧ first.hotspot_server = second.hotspot_server ∧
      first.hotspot_dns_name = second.hotspot_dns_name ∧ first.hotspot_login_by = second.hotspot_login_by ∧
        first.hotspot_html_dir = second.hotspot_html_dir

section

variable {py : Builtins} {environ : Environ} {cfg : Dict} {first second : SectorSettings} {mgmt_iface : Value}

theorem SectorSettings.Agree.hotspot_eq (h : first.Agree second) (hcomplete : first.complete) :
    routeros_apply_hotspot py first = routeros_apply_hotspot py second := by
  rw [routeros_apply_hotspot, routeros_apply_hotspot, ← h.enable_hotspot, ← h.hotspot_dns_name.truthy_eq,
    ← h.lan_bridge, ← h.dhcp_pool]
  cases henabled : first.enable_hotspot.truthy with
  | false => rfl
  | true =>
    cases hdns : first.hotspot_dns_name.truthy with
    | false => rfl
    | true =>
      obtain ⟨hprofile, hserver, hname, hlogin, hhtml⟩ := h.hotspot hcomplete henabled hdns
      have hgarden := h.hotspot_walled_garden.when_eq fun domain =>
        routeros_ensure_walled_garden py domain "ISP-WALLED-GARDEN"
      rw [← hprofile, ← hserver, ← hname, ← hlogin, ← hhtml, ← hgarden]

/-- Such settings make the same conversation. -/
theorem SectorSettings.Agree.apply_eq (h : first.Agree second) :
    routeros_apply_settings py environ cfg mgmt_iface first =
      routeros_apply_settings py environ cfg mgmt_iface second := by
  have hcompletes : second.complete = first.complete := by
    rw [SectorSettings.complete, SectorSettings.complete, h.wan_interface, h.lan_bridge, h.lan_address, h.dhcp_pool,
      h.dhcp_range, h.dhcp_server, h.dhcp_network]
  rw [routeros_apply_settings, routeros_apply_settings, hcompletes]
  cases hcomplete : first.complete with
  | false => rfl
  | true =>
    have hinterfaces : routeros_apply_interfaces py mgmt_iface first = routeros_apply_interfaces py mgmt_iface second := by
      rw [routeros_apply_interfaces, routeros_apply_interfaces, h.enable_dhcp_client_wan, h.wan_interface,
        h.lan_bridge, h.lan_ports]
    have hdhcp : routeros_apply_dhcp py first = routeros_apply_dhcp py second := by
      rw [routeros_apply_dhcp, routeros_apply_dhcp, h.lan_address, h.lan_bridge, h.dhcp_pool, h.dhcp_range,
        h.dhcp_server, h.dhcp_lease_time hcomplete]
    have hservices : routeros_apply_services py first = routeros_apply_services py second := by
      simp only [routeros_apply_services, h.lan_address, h.dhcp_network, h.enable_nat, h.wan_interface,
        h.dns_server.orElse_eq, h.dns_server.when_eq routeros_ensure_dns]
    rw [hinterfaces, hdhcp, hservices, h.hotspot_eq hcomplete, h.dhcp_server]

/-- The script for the leases comes from other sections than the router's. -/
theorem routeros_apply_lease_script_of_lookup {other : Dict}
    (h : ∀ key, key ≠ "routeros" → other.lookup key = cfg.lookup key)
    (dhcp_server : Value) :
    routeros_apply_lease_script py environ other dhcp_server = routeros_apply_lease_script py environ cfg dhcp_server := by
  have hwebhook := h "webhook" (by decide)
  have hodoo := h "odoo" (by decide)
  have hsector := h "sector_code" (by decide)
  have hurl : ∀ webhook, lease_url_of other webhook = lease_url_of cfg webhook := by
    intro webhook
    rw [lease_url_of, lease_url_of, Value.item, Value.item, hodoo]
  have hscript : build_lease_script py environ other = build_lease_script py environ cfg := by
    simp only [build_lease_script, hwebhook, hsector, hurl]
  rw [routeros_apply_lease_script, routeros_apply_lease_script, hscript, hwebhook]

theorem routeros_apply_settings_of_lookup {other : Dict}
    (h : ∀ key, key ≠ "routeros" → other.lookup key = cfg.lookup key)
    (rcfg : SectorSettings) :
    routeros_apply_settings py environ other mgmt_iface rcfg = routeros_apply_settings py environ cfg mgmt_iface rcfg := by
  rw [routeros_apply_settings, routeros_apply_settings, routeros_apply_lease_script_of_lookup h]

end

/-- Every call is answered with no rows. -/
def blank_router : Unit → Call → Except Interruption (List Dict) × Unit := fun _ _ => (.ok [], ())

section

variable {py : Builtins} {environ : Environ} {cfg : Dict} {rcfg : SectorSettings} {mgmt_iface : Value}

theorem routeros_ensure_named_issued (menu : String) (name : Value) (kwargs : Dict) :
    ⟨menu ++ "/add", ("name", name) :: kwargs⟩ ∈
      (routeros_ensure_named py menu name kwargs).issued blank_router () :=
  List.mem_cons_of_mem _ List.mem_cons_self

theorem routeros_apply_interfaces_exec {ports : List Value} (hports : list_of rcfg.lan_ports = .ok ports) :
    (routeros_apply_interfaces py mgmt_iface rcfg).exec blank_router () = (.ok (), ()) := by
  have hport : ∀ port ∈ ports,
      (routeros_apply_lan_port py mgmt_iface rcfg.lan_bridge port).exec blank_router () = (.ok (), ()) := by
    intro port _
    rw [routeros_apply_lan_port]
    cases !(mgmt_iface.truthy && py.eq port mgmt_iface) <;> rfl
  have hloop := Program.forEach_exec hport
  rw [routeros_apply_interfaces, hports]
  cases rcfg.enable_dhcp_client_wan.truthy
  · exact hloop
  · exact hloop

theorem routeros_apply_dhcp_exec : (routeros_apply_dhcp py rcfg).exec blank_router () = (.ok (), ()) := rfl

theorem routeros_apply_services_exec {gateway : Value} (hgateway : gateway_of rcfg.lan_address = .ok gateway) :
    (routeros_apply_services py rcfg).exec blank_router () = (.ok (), ()) := by
  rw [routeros_apply_services, hgateway]
  cases hdns : rcfg.dns_server.truthy <;> cases hnat : rcfg.enable_nat.truthy <;> rfl

/-- The lease time goes to a router that has no DHCP server. -/
theorem routeros_apply_dhcp_issued :
    ⟨"/ip/dhcp-server/add", [("name", rcfg.dhcp_server), ("interface", rcfg.lan_bridge),
      ("address-pool", rcfg.dhcp_pool), ("lease-time", rcfg.dhcp_lease_time)]⟩ ∈
        (routeros_apply_dhcp py rcfg).issued blank_router () := by
  have hip : (routeros_ensure_ip_address py rcfg.lan_address rcfg.lan_bridge).exec blank_router () = (.ok (), ()) := rfl
  have hpool : (routeros_ensure_ip_pool py rcfg.dhcp_pool rcfg.dhcp_range).exec blank_router () = (.ok (), ()) := rfl
  refine Program.mem_issued_bind_right hip (Program.mem_issued_bind_right hpool ?_)
  exact routeros_ensure_named_issued ..

/-- The values of the hotspot go to a router that has none. -/
theorem routeros_apply_hotspot_issued (henabled : rcfg.enable_hotspot.truthy)
    (hdns : rcfg.hotspot_dns_name.truthy) :
    ⟨"/ip/hotspot/profile/add", [("name", rcfg.hotspot_profile), ("dns-name", rcfg.hotspot_dns_name),
      ("login-by", rcfg.hotspot_login_by), ("html-directory", rcfg.hotspot_html_dir)]⟩ ∈
        (routeros_apply_hotspot py rcfg).issued blank_router () ∧
      ⟨"/ip/hotspot/add", [("name", rcfg.hotspot_server), ("interface", rcfg.lan_bridge),
        ("address-pool", rcfg.dhcp_pool), ("profile", rcfg.hotspot_profile)]⟩ ∈
          (routeros_apply_hotspot py rcfg).issued blank_router () := by
  rw [routeros_apply_hotspot, henabled, hdns]
  constructor
  · exact Program.mem_issued_bind_left (routeros_ensure_named_issued ..)
  · have hprofile : (routeros_ensure_hotspot_profile py rcfg.hotspot_profile rcfg.hotspot_dns_name
        rcfg.hotspot_login_by rcfg.hotspot_html_dir).exec blank_router () = (.ok (), ()) := rfl
    refine Program.mem_issued_bind_right hprofile (Program.mem_issued_bind_left ?_)
    exact routeros_ensure_named_issued ..

/-- When a router that has nothing is sent neither `None` nor `False`, the values that
are not checked are neither. -/
theorem carried_of_blank_router {ports : List Value} {gateway : Value} (hcomplete : rcfg.complete)
    (hports : list_of rcfg.lan_ports = .ok ports) (hgateway : gateway_of rcfg.lan_address = .ok gateway)
    (h : ∀ call ∈ (routeros_apply_settings py environ cfg mgmt_iface rcfg).issued blank_router (), call.Clean) :
    Carried rcfg.dhcp_lease_time ∧ (rcfg.enable_hotspot.truthy → rcfg.hotspot_dns_name.truthy →
      Carried rcfg.hotspot_profile ∧ Carried rcfg.hotspot_server ∧ Carried rcfg.hotspot_login_by ∧
        Carried rcfg.hotspot_html_dir) := by
  rw [routeros_apply_settings, hcomplete] at h
  have hinterfaces := @routeros_apply_interfaces_exec py rcfg mgmt_iface ports hports
  have hservices := @routeros_apply_services_exec py rcfg gateway hgateway
  constructor
  · have hissued := h _ (Program.mem_issued_bind_right hinterfaces
      (Program.mem_issued_bind_left routeros_apply_dhcp_issued))
    exact hissued ("lease-time", rcfg.dhcp_lease_time) (by simp)
  · intro henabled hdns
    obtain ⟨hprofile, hserver⟩ := @routeros_apply_hotspot_issued py rcfg henabled hdns
    have hissued := fun call hcall => h call (Program.mem_issued_bind_right hinterfaces
      (Program.mem_issued_bind_right routeros_apply_dhcp_exec (Program.mem_issued_bind_right hservices
        (Program.mem_issued_bind_left hcall))))
    have hprofiled := hissued _ hprofile
    have hserved := hissued _ hserver
    exact ⟨hprofiled ("name", rcfg.hotspot_profile) (by simp), hserved ("name", rcfg.hotspot_server) (by simp),
      hprofiled ("login-by", rcfg.hotspot_login_by) (by simp),
      hprofiled ("html-directory", rcfg.hotspot_html_dir) (by simp)⟩

end

end getupnet.mikrotik_preloader.untyped

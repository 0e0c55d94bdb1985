import Getupnet.Tools.RouterApi

open interaction relational

namespace getupnet.mikrotik_preloader

/-- `try: body / except LibRouterosError: handler`. -/
def exceptRouteros {α : Type} (body handler : Session α) : Session α :=
  body.attempt fun
    | .librouteros _ => handler
    | exception => .raises exception

def api_exec (command : Command) : Session Response := .command command

def routeros_find (path : Path) (field value : String) : Session Response :=
  (api_exec (.print_where path field value)).attempt fun
    | .librouteros .unknown_parameter => do
      let items ← api_exec (.print path)
      return items.filter (fun item => (item.2 field).getD "None" == value)
    | exception => .raises exception

def routeros_interface_exists (name : String) : Session Bool := do
  let items ← routeros_find .interface "name" name
  return !items.isEmpty

def routeros_get_id (path : Path) (field value : String) : Session (Option Nat) := do
  let items ← routeros_find path field value
  return items.head?.map Prod.fst

/-- `if routeros_find(...): return`, then `add`. -/
def routeros_ensure (path : Path) (field value : String) (words : List (String × String)) : Session Unit := do
  let existing ← routeros_find path field value
  if existing.isEmpty then
    let _ ← api_exec (.add path words)

/-- An entry for an interface, skipped where the interface is missing, and where
one of the interface's entries has the given value already. -/
def routeros_ensure_link (path : Path) (field value interface : String) : Session Unit := do
  if ← routeros_interface_exists interface then
    let existing ← routeros_find path "interface" interface
    if !existing.any (fun item => Fields.is field value item.2) then
      let _ ← api_exec (.add path [(field, value), ("interface", interface)])

/-- The entry is looked up, then looked up again for its identifier and set, or
added. -/
def routeros_ensure_named (path : Path) (name : String) (words : List (String × String)) : Session Unit := do
  let existing ← routeros_find path "name" name
  if existing.isEmpty then
    let _ ← api_exec (.add path (("name", name) :: words))
  else
    let id ← routeros_get_id path "name" name
    let _ ← api_exec (.set path (id.elim (.name name) .id) words)

/-- The entry is looked up for its identifier and set, or added. -/
def routeros_ensure_entry (path : Path) (field value : String) (words : List (String × String)) :
    Session Unit := do
  match ← routeros_get_id path field value with
  | some id =>
    let _ ← api_exec (.set path (.id id) words)
  | none =>
    let _ ← api_exec (.add path ((field, value) :: words))

def routeros_ensure_group (name policy : String) : Session Unit :=
  routeros_ensure .user_group "name" name [("name", name), ("policy", policy)]

def routeros_ensure_user (name password group : String) : Session Unit := do
  let _ ← exceptRouteros
    (api_exec (.add .user [("name", name), ("password", password), ("group", group)]))
    (api_exec (.set .user (.name name) [("password", password), ("group", group)]))

def routeros_ensure_interface_list (name : String) : Session Unit :=
  routeros_ensure .interface_list "name" name [("name", name)]

def routeros_ensure_interface_list_member (list_name interface : String) : Session Unit :=
  routeros_ensure_link .interface_list_member "list" list_name interface

/-- A `set` of a menu whose failure is passed over. -/
def routeros_try_assign (menu : Menu) (words : List (String × String)) : Session Unit :=
  exceptRouteros (do let _ ← api_exec (.assign menu words)) (pure ())

def routeros_ensure_neighbor_discovery (interfaces : List String) : Session Unit := do
  if !interfaces.isEmpty then
    routeros_ensure_interface_list "LAN"
    Program.forEach (routeros_ensure_interface_list_member "LAN") interfaces
    routeros_try_assign .discovery_settings [("discover-interface-list", "LAN")]
    routeros_try_assign .mac_server [("allowed-interface-list", "LAN")]
    routeros_try_assign .mac_winbox [("allowed-interface-list", "LAN")]

def routeros_ensure_firewall_allow (port : Nat) (src_ip comment : String) : Session Unit := do
  let existing ← routeros_find .filter "comment" comment
  match existing.head? with
  | some rule =>
    exceptRouteros (do let _ ← api_exec (.move .filter rule.1)) (pure ())
  | none =>
    let _ ← api_exec (.add .filter [("chain", "input"), ("src-address", src_ip), ("protocol", "tcp"),
      ("dst-port", toString port), ("action", "accept"), ("comment", comment)])
    exceptRouteros
      (do
        let added ← routeros_find .filter "comment" comment
        match added.head? with
        | some rule => let _ ← api_exec (.move .filter rule.1)
        | none => pure ())
      (pure ())

def routeros_ensure_firewall_drop (port : Nat) (comment : String) : Session Unit :=
  routeros_ensure .filter "comment" comment
    [("chain", "input"), ("protocol", "tcp"), ("dst-port", toString port), ("action", "drop"), ("comment", comment)]

def routeros_ensure_bridge (name : String) : Session Unit :=
  routeros_ensure .bridge "name" name [("name", name)]

def routeros_ensure_bridge_port (bridge interface : String) : Session Unit :=
  routeros_ensure_link .bridge_port "bridge" bridge interface

def routeros_ensure_ip_address (address interface : String) : Session Unit :=
  routeros_ensure .address "address" address [("address", address), ("interface", interface)]

/-- Unlike its siblings, this one sets the entry by its name. -/
def routeros_ensure_ip_pool (name ranges : String) : Session Unit := do
  let existing ← routeros_find .pool "name" name
  if existing.isEmpty then
    let _ ← api_exec (.add .pool [("name", name), ("ranges", ranges)])
  else
    let _ ← api_exec (.set .pool (.name name) [("ranges", ranges)])

def routeros_ensure_dhcp_server (name interface pool lease_time : String) : Session Unit :=
  routeros_ensure_named .dhcp_server name
    [("interface", interface), ("address-pool", pool), ("lease-time", lease_time)]

def routeros_ensure_dhcp_network (address gateway dns_server : String) : Session Unit :=
  routeros_ensure_entry .dhcp_network "address" address [("gateway", gateway), ("dns-server", dns_server)]

def routeros_ensure_dhcp_client (interface comment : String) : Session Unit :=
  routeros_ensure .dhcp_client "interface" interface [("interface", interface), ("disabled", "no"),
    ("add-default-route", "yes"), ("use-peer-dns", "yes"), ("comment", comment)]

def routeros_ensure_nat_masquerade (out_interface comment : String) : Session Unit :=
  routeros_ensure .nat "comment" comment [("chain", "srcnat"), ("out-interface", out_interface),
    ("action", "masquerade"), ("comment", comment)]

def routeros_ensure_dns (servers : String) : Session Unit := do
  let _ ← api_exec (.assign .dns [("servers", servers), ("allow-remote-requests", "yes")])

def routeros_ensure_hotspot_profile (name dns_name login_by html_dir : String) : Session Unit :=
  routeros_ensure_named .hotspot_profile name
    [("dns-name", dns_name), ("login-by", login_by), ("html-directory", html_dir)]

def routeros_ensure_hotspot_server (name interface pool profile : String) : Session Unit :=
  routeros_ensure_named .hotspot name [("interface", interface), ("address-pool", pool), ("profile", profile)]

def routeros_ensure_walled_garden (domain comment : String) : Session Unit :=
  routeros_ensure .walled_garden "comment" comment [("dst-host", domain), ("comment", comment)]

def routeros_set_dhcp_lease_script (dhcp_server : String) (script : Option String) (clear_if_empty : Bool) :
    Session Unit := do
  if (script.getD "").isEmpty && !clear_if_empty then
    return
  let id ← routeros_get_id .dhcp_server "name" dhcp_server
  let _ ← api_exec (.set .dhcp_server (id.elim (.name dhcp_server) .id) [("lease-script", script.getD "")])

def routeros_ensure_script (name source policy : String) : Session Unit := do
  if !source.isEmpty then
    routeros_ensure_entry .script "name" name [("source", source), ("policy", policy)]

def routeros_ensure_scheduler (name interval on_event start_time : String) : Session Unit :=
  routeros_ensure_entry .scheduler "name" name
    [("interval", interval), ("on-event", on_event), ("start-time", start_time), ("disabled", "no")]

/-- `text.startswith(start)` -/
def startswith (text start : String) : Bool := start.toList.isPrefixOf text.toList

/-- The interface of the first address entry that belongs to an IP address. -/
def mgmt_interface (ip : String) (addresses : Response) : Option String :=
  (addresses.find? (fun address => startswith ((address.2 "address").getD "") (ip ++ "/"))).bind
    (fun address => address.2 "interface")

def routeros_get_mgmt_interface (ip : String) : Session (Option String) :=
  exceptRouteros
    (do
      let addresses ← api_exec (.print .address)
      return mgmt_interface ip addresses)
    (pure none)

/-- The `routeros.config` section. A text that is absent is the empty one, which
the code treats alike. -/
structure SectorConfig where
  wan_interface : String := ""
  lan_bridge : String := ""
  lan_ports : List String := []
  lan_address : String := ""
  dhcp_pool : String := ""
  dhcp_range : String := ""
  dhcp_server : String := ""
  dhcp_lease_time : String := "1h"
  dhcp_network : String := ""
  dns_server : String := ""
  enable_dhcp_client_wan : Bool := true
  enable_nat : Bool := true
  enable_hotspot : Bool := false
  hotspot_profile : String := "hs-prof"
  hotspot_server : String := "hs1"
  hotspot_dns_name : String := ""
  hotspot_login_by : String := "http-chap"
  hotspot_html_dir : String := "hotspot"
  hotspot_walled_garden : String := ""

structure RouterosConfig where
  api_port : Nat := 8728
  mgmt_user : String := ""
  mgmt_pass_value : String := ""
  mgmt_pass_env : String := ""
  allowed_mgmt_ips : List String := []
  allowed_mgmt_ips_env : String := ""
  discovery_interfaces : List String := []
  apply_sector_config : Bool := true
  config : Option SectorConfig := none

structure BootstrapConfig where
  user : String := ""
  pass : String := ""
  pass_env : String := ""

structure WebhookConfig where
  enabled : Bool := false
  token_env : String := ""
  token_value : String := ""
  url : String := ""
  sector_code : String := ""
  clear_lease_script_on_disable : Bool := true

structure CallHomeConfig where
  enabled : Bool := false
  token_env : String := ""
  token_value : String := ""
  url : String := ""
  ip_lookup_url : String := "http://api.ipify.org"
  mac_interface : String := ""
  check_certificate : Bool := false
  script_name : String := "isp_checkin"
  scheduler_name : Option String := none
  interval : String := "5m"

/-- `identity_format` is the format string, as a function of its three keys. -/
structure NamingConfig where
  identity_prefix : String := ""
  identity_format : String → String → String → String := fun identity_prefix sector ip_last_octet =>
    identity_prefix ++ sector ++ "-" ++ ip_last_octet

structure Config where
  sector_code : String := ""
  target_mac : String := ""
  odoo_url : String := ""
  bootstrap : BootstrapConfig := {}
  routeros : RouterosConfig := {}
  webhook : WebhookConfig := {}
  call_home : CallHomeConfig := {}
  naming : NamingConfig := {}

/-- The environment variables. -/
abbrev Environ : Type := String → Option String

def get_env_or_fail (environ : Environ) (name : String) : Except Exception String :=
  if name.isEmpty then
    .error (.runtime "Missing required env var name")
  else
    match environ name with
    | some value => if value.isEmpty then .error (.runtime ("Missing required env var: " ++ name)) else .ok value
    | none => .error (.runtime ("Missing required env var: " ++ name))

/-- A token from an environment variable, or else from the configuration. -/
def token_of (environ : Environ) (token_env token_value : String) : String :=
  let token := if token_env.isEmpty then "" else (environ token_env).getD ""
  if token.isEmpty then token_value else token

/-- `text.split(separator)` -/
def split (separator : Char) (text : String) : List String :=
  (text.toList.splitOn separator).map String.ofList

def isspace (char : Char) : Bool :=
  char.isWhitespace || [0x0b, 0x0c, 0x1c, 0x1d, 0x1e, 0x1f, 0x85, 0xa0, 0x1680, 0x2028, 0x2029, 0x202f, 0x205f,
    0x3000].contains char.toNat || (0x2000 ≤ char.toNat && char.toNat ≤ 0x200a)

/-- `text.strip()` -/
def strip (text : String) : String :=
  String.ofList ((text.toList.dropWhile isspace).reverse.dropWhile isspace).reverse

/-- `text.rstrip("/")` -/
def rstrip_slash (text : String) : String :=
  String.ofList (text.toList.reverse.dropWhile (fun char => char == '/')).reverse

/-- `text or default` -/
def text_or (text default : String) : String := if text.isEmpty then default else text

def build_lease_script (cfg : Config) (environ : Environ) : Except Exception (Option String) :=
  if !cfg.webhook.enabled then
    .ok none
  else
    let token := token_of environ cfg.webhook.token_env cfg.webhook.token_value
    if token.isEmpty then
      .error (.runtime "webhook token missing: set webhook.token_env or webhook.token_value")
    else
      let url := text_or cfg.webhook.url (rstrip_slash cfg.odoo_url ++ "/isp/mac_onboarding")
      let sector := text_or cfg.webhook.sector_code cfg.sector_code
      .ok (some (":local mac $leaseActMAC; :local ip $leaseActIP; :local bound $leaseBound; " ++
        "/tool fetch url=\"" ++ url ++ "?token=" ++ token ++ "&mac=$mac&ip=$ip&bound=$bound&sector=" ++ sector ++
        "\" keep-result=no"))

/-- The lines of the call-home script. -/
def call_home_lines (cfg : CallHomeConfig) (token : String) : List String :=
  [":local token \"" ++ token ++ "\";",
    ":local url \"" ++ cfg.url ++ "\";",
    ":local ident [/system/identity get name];",
    ":local serial \"\";",
    ":do \x7b :set serial [/system/routerboard get serial-number] \x7d on-error=\x7b\x7d;",
    ":local mac \"\";",
    if cfg.mac_interface.isEmpty then
      ":foreach i in=[/interface/ethernet find] do=\x7b :set mac [/interface/ethernet get $i mac-address]; :break; \x7d;"
    else
      ":do \x7b :set mac [/interface get [find name=\"" ++ cfg.mac_interface ++ "\"] mac-address] \x7d on-error=\x7b\x7d;",
    ":local public \"\";",
    ":do \x7b :local r [/tool fetch url=\"" ++ cfg.ip_lookup_url ++
      "\" as-value output=user]; :set public ($r->\"data\") \x7d on-error=\x7b\x7d;",
    ":if ($public = \"\") do=\x7b :do \x7b :set public [/ip cloud get public-address] \x7d on-error=\x7b\x7d; \x7d;",
    ":local full ($url . \"?token=\" . $token . \"&identity=\" . $ident . \"&serial=\" . $serial . \"&mac=\" . " ++
      "$mac . \"&public_ip=\" . $public);",
    "/tool fetch url=$full keep-result=no check-certificate=" ++ (if cfg.check_certificate then "yes" else "no") ++ ";"]

def build_call_home_script (cfg : Config) (environ : Environ) : Except Exception String :=
  let token := token_of environ cfg.call_home.token_env cfg.call_home.token_value
  if token.isEmpty then
    .error (.runtime "call_home token missing: set call_home.token_env or call_home.token_value")
  else if cfg.call_home.url.isEmpty then
    .error (.runtime "call_home.url is required when call_home.enabled is true")
  else
    .ok ("\n".intercalate (call_home_lines cfg.call_home token))

def routeros_apply_call_home (cfg : Config) (environ : Environ) : Session Unit := do
  if cfg.call_home.enabled then
    let script_name := cfg.call_home.script_name
    let script ← Program.ofExcept (build_call_home_script cfg environ)
    routeros_ensure_script script_name script "read,write,test"
    routeros_ensure_scheduler (cfg.call_home.scheduler_name.getD script_name) cfg.call_home.interval
      ("/system/script/run name=" ++ script_name) "startup"
    exceptRouteros (do let _ ← api_exec (.run script_name)) (pure ())

/-- `all([...])` over the required values. -/
def SectorConfig.complete (rcfg : SectorConfig) : Bool :=
  [rcfg.wan_interface, rcfg.lan_bridge, rcfg.lan_address, rcfg.dhcp_pool, rcfg.dhcp_range, rcfg.dhcp_server,
    rcfg.dhcp_network].all (fun value => !value.isEmpty)

/-- `lan_address.split("/")[0]` -/
def SectorConfig.gateway (rcfg : SectorConfig) : String := (split '/' rcfg.lan_address).headD ""

/-- The hotspot part of the sector configuration. -/
def routeros_apply_hotspot (rcfg : SectorConfig) : Session Unit := do
  if rcfg.enable_hotspot then
    if rcfg.hotspot_dns_name.isEmpty then
      Program.raises (.runtime "hotspot_dns_name is required when enable_hotspot is true")
    routeros_ensure_hotspot_profile rcfg.hotspot_profile rcfg.hotspot_dns_name rcfg.hotspot_login_by
      rcfg.hotspot_html_dir
    routeros_ensure_hotspot_server rcfg.hotspot_server rcfg.lan_bridge rcfg.dhcp_pool rcfg.hotspot_profile
    if !rcfg.hotspot_walled_garden.isEmpty then
      routeros_ensure_walled_garden rcfg.hotspot_walled_garden "ISP-WALLED-GARDEN"

/-- A LAN port joins the bridge unless the connection runs over it. -/
def routeros_apply_lan_port (mgmt_iface : Option String) (lan_bridge port : String) : Session Unit := do
  if !(!(mgmt_iface.getD "").isEmpty && mgmt_iface == some port) then
    routeros_ensure_bridge_port lan_bridge port

def routeros_apply_sector_config (cfg : Config) (environ : Environ) (mgmt_iface : Option String) :
    Session Unit := do
  match cfg.routeros.config with
  | none => pure ()
  | some rcfg =>
    if !rcfg.complete then
      Program.raises (.runtime "Missing routeros.config required values")
    if rcfg.enable_dhcp_client_wan then
      routeros_ensure_dhcp_client rcfg.wan_interface "ISP-WAN"
    routeros_ensure_bridge rcfg.lan_bridge
    Program.forEach (routeros_apply_lan_port mgmt_iface rcfg.lan_bridge) rcfg.lan_ports
    routeros_ensure_ip_address rcfg.lan_address rcfg.lan_bridge
    routeros_ensure_ip_pool rcfg.dhcp_pool rcfg.dhcp_range
    routeros_ensure_dhcp_server rcfg.dhcp_server rcfg.lan_bridge rcfg.dhcp_pool rcfg.dhcp_lease_time
    routeros_ensure_dhcp_network rcfg.dhcp_network rcfg.gateway (text_or rcfg.dns_server rcfg.gateway)
    if !rcfg.dns_server.isEmpty then
      routeros_ensure_dns rcfg.dns_server
    if rcfg.enable_nat then
      routeros_ensure_nat_masquerade rcfg.wan_interface "ISP-NAT"
    routeros_apply_hotspot rcfg
    let lease_script ← Program.ofExcept (build_lease_script cfg environ)
    routeros_set_dhcp_lease_script rcfg.dhcp_server lease_script cfg.webhook.clear_lease_script_on_disable

/-- The addresses of the configuration and of the environment. -/
def allowed_ips (cfg : Config) (environ : Environ) : List String :=
  let extra := if cfg.routeros.allowed_mgmt_ips_env.isEmpty then [] else
    (((split ',' ((environ cfg.routeros.allowed_mgmt_ips_env).getD "")).map strip).filter
      (fun ip => !ip.isEmpty))
  cfg.routeros.allowed_mgmt_ips ++ extra

/-- "Step: neighbor discovery" -/
def routeros_onboard_discovery (ip : String) (cfg : Config) : Session Unit := do
  if cfg.routeros.discovery_interfaces.isEmpty then
    let mgmt_iface_guess ← routeros_get_mgmt_interface ip
    routeros_ensure_neighbor_discovery
      (if (mgmt_iface_guess.getD "").isEmpty then [] else [mgmt_iface_guess.getD ""])
  else
    routeros_ensure_neighbor_discovery cfg.routeros.discovery_interfaces

/-- "Step: firewall allowlist" and "Step: firewall drop others" -/
def routeros_onboard_firewall (cfg : Config) (environ : Environ) : Session Unit := do
  Program.forEach (fun allow_ip => routeros_ensure_firewall_allow cfg.routeros.api_port allow_ip "ALLOW ODOO/NOC API")
    (allowed_ips cfg environ)
  routeros_ensure_firewall_drop cfg.routeros.api_port "DROP API OTHERS"

/-- "Step: apply sector config", tried once more over a new connection. -/
def routeros_onboard_sector (ip : String) (cfg : Config) (environ : Environ) (mgmt_pass : String) :
    Session Unit := do
  if cfg.routeros.apply_sector_config then
    let mgmt_iface ← routeros_get_mgmt_interface ip
    (routeros_apply_sector_config cfg environ mgmt_iface).attempt fun _ => do
      let _ ← api_exec (.connect cfg.routeros.mgmt_user mgmt_pass)
      let mgmt_iface ← routeros_get_mgmt_interface ip
      routeros_apply_sector_config cfg environ mgmt_iface

/-- The configuration steps, from neighbor discovery on. -/
def routeros_onboard_configuration (ip : String) (cfg : Config) (environ : Environ) (mgmt_pass : String) :
    Session Unit := do
  routeros_onboard_discovery ip cfg
  routeros_onboard_firewall cfg environ
  routeros_onboard_sector ip cfg environ mgmt_pass
  routeros_apply_call_home cfg environ

structure Onboarded where
  identity : String
  ip : String
  api_port : Nat

/-- Whether some entry has a MAC address. -/
def has_mac (mac : String) (entries : Response) : Bool :=
  entries.any (fun entry => ((entry.2 "mac-address").getD "").toLower == mac)

/-- The MAC address check; a router without the address is left as it is. -/
def routeros_is_target (target_mac : String) : Session Bool := do
  if target_mac.isEmpty then
    return true
  let mac := (target_mac.toLower.map (fun char => if char == '-' then ':' else char))
  let ethernets ← api_exec (.print .interface_ethernet)
  if has_mac mac ethernets then
    return true
  let interfaces ← api_exec (.print .interface)
  return has_mac mac interfaces

def routeros_onboard (ip : String) (cfg : Config) (environ : Environ) : Session (Option Onboarded) := do
  let boot_user := text_or cfg.bootstrap.user "admin"
  let boot_pass := if cfg.bootstrap.pass.isEmpty && !cfg.bootstrap.pass_env.isEmpty then
    (environ cfg.bootstrap.pass_env).getD cfg.bootstrap.pass else cfg.bootstrap.pass
  let mgmt_pass ← if cfg.routeros.mgmt_pass_value.isEmpty then
      Program.ofExcept (get_env_or_fail environ cfg.routeros.mgmt_pass_env)
    else pure cfg.routeros.mgmt_pass_value
  let _ ← api_exec (.connect boot_user boot_pass)
  if ← routeros_is_target cfg.target_mac then
    let identity := cfg.naming.identity_format cfg.naming.identity_prefix cfg.sector_code
      ((split '.' ip).getLastD "")
    let _ ← api_exec (.assign .identity [("name", identity)])
    let _ ← api_exec (.set .service (.name "api") [("disabled", "no")])
    routeros_ensure_group "odoo_noc_group"
      "read,write,api,!local,!telnet,!ssh,!ftp,!reboot,!policy,!password,!sniff,!sensitive"
    routeros_ensure_user cfg.routeros.mgmt_user mgmt_pass "odoo_noc_group"
    routeros_onboard_configuration ip cfg environ mgmt_pass
    return some ⟨identity, ip, cfg.routeros.api_port⟩
  else
    return none

end getupnet.mikrotik_preloader

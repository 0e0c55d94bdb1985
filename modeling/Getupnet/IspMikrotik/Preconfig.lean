import Getupnet.IspCore.Fields
import Getupnet.Tools.Preloader.Merge
import Getupnet.Tools.Preloader
import Mathlib.Data.List.Sort

open python
open getupnet.isp_core
open getupnet.mikrotik_preloader (split strip)

namespace getupnet.isp_mikrotik

/-- A profile with the values that routers of a sector start from. -/
structure IspMikrotikPreconfig where
  id : Nat
  active : Bool := true
  sequence : Int := 10
  sector_id : Option Nat := none
  is_default : Bool := false
  mgmt_subnet : CharField := none
  target_mac : CharField := none
  bootstrap_user : CharField := some "admin"
  bootstrap_pass : CharField := none
  api_port : Int := 8728
  routeros_mgmt_user : CharField := some "odoo_noc"
  routeros_mgmt_pass_env : CharField := some "MIKROTIK_MGMT_PASS"
  routeros_mgmt_pass_value : CharField := none
  discovery_interfaces : CharField := some "ether2,ether3,ether4,wlan1"
  allowed_mgmt_ips : CharField := none
  apply_sector_config : Bool := true
  wan_interface : String := "ether2"
  lan_bridge : String := "br-pon"
  lan_ports : CharField := some "ether3,ether4,wlan1"
  lan_address : String := "10.10.10.1/24"
  dhcp_pool : String := "pon_pool"
  dhcp_range : String := "10.10.10.100-10.10.10.200"
  dhcp_server : String := "pon_dhcp"
  dhcp_lease_time : CharField := some "1h"
  dhcp_network : String := "10.10.10.0/24"
  dns_server : CharField := some "10.10.10.1"
  enable_dhcp_client_wan : Bool := true
  enable_nat : Bool := true
  enable_hotspot : Bool := false
  hotspot_profile : CharField := some "hs_prof"
  hotspot_server : CharField := some "hs1"
  hotspot_dns_name : CharField := none
  hotspot_walled_garden : CharField := none
  hotspot_login_by : CharField := some "http-pap"
  hotspot_html_dir : CharField := some "hotspot"
  call_home_enabled : Bool := true
  call_home_url : CharField := none
  call_home_token_value : CharField := none
  call_home_interval : CharField := some "5m"
  call_home_ip_lookup_url : CharField := some "http://api.ipify.org"
  call_home_script_name : CharField := some "isp_checkin"
  call_home_scheduler_name : CharField := some "isp_checkin"
  call_home_check_certificate : Bool := false
  call_home_mac_interface : CharField := none
  webhook_enabled : Bool := false
  webhook_url : CharField := none
  webhook_token_value : CharField := none
  webhook_clear_lease_script_on_disable : Bool := true
  identity_prefix : CharField := some "MT-"
  identity_format : CharField := some "\x7bprefix\x7d\x7bsector\x7d-\x7bip_last_octet\x7d"

/-- A text field as the value that is read from it. -/
def char : CharField → Value
  | some text => .str text
  | none => .bool false

/-- `field or None` -/
def char_or_none (field : CharField) : Value := (char field).orElse .none

/-- The parts of a text between commas, without those that are empty. -/
def _parse_csv (value : CharField) : List String :=
  ((split ',' (textOr value "")).map strip).filter fun part => !part.isEmpty

def _parse_csv_or_none (value : CharField) : Value :=
  if (_parse_csv value).isEmpty then .none else .list ((_parse_csv value).map .str)

namespace IspMikrotikPreconfig

variable (self : IspMikrotikPreconfig)

def _lan_ports_list : List String := _parse_csv self.lan_ports

def to_routeros_config : Dict :=
  [("wan_interface", .str self.wan_interface),
    ("lan_bridge", .str self.lan_bridge),
    ("lan_ports", .list (self._lan_ports_list.map .str)),
    ("lan_address", .str self.lan_address),
    ("dhcp_pool", .str self.dhcp_pool),
    ("dhcp_range", .str self.dhcp_range),
    ("dhcp_server", .str self.dhcp_server),
    ("dhcp_lease_time", char self.dhcp_lease_time),
    ("dhcp_network", .str self.dhcp_network),
    ("dns_server", char self.dns_server),
    ("enable_dhcp_client_wan", .bool self.enable_dhcp_client_wan),
    ("enable_nat", .bool self.enable_nat),
    ("enable_hotspot", .bool self.enable_hotspot),
    ("hotspot_profile", char self.hotspot_profile),
    ("hotspot_server", char self.hotspot_server),
    ("hotspot_dns_name", char self.hotspot_dns_name),
    ("hotspot_walled_garden", char self.hotspot_walled_garden),
    ("hotspot_login_by", char self.hotspot_login_by),
    ("hotspot_html_dir", char self.hotspot_html_dir)]

def bootstrap_payload : Dict :=
  [("user", char_or_none self.bootstrap_user),
    ("pass", char_or_none self.bootstrap_pass)]

def routeros_payload : Dict :=
  [("api_port", .int self.api_port),
    ("mgmt_user", char_or_none self.routeros_mgmt_user),
    ("mgmt_pass_env", char_or_none self.routeros_mgmt_pass_env),
    ("mgmt_pass_value", char_or_none self.routeros_mgmt_pass_value),
    ("discovery_interfaces", _parse_csv_or_none self.discovery_interfaces),
    ("allowed_mgmt_ips", _parse_csv_or_none self.allowed_mgmt_ips),
    ("apply_sector_config", .bool self.apply_sector_config),
    ("config", .dict self.to_routeros_config)]

def call_home_payload : Dict :=
  [("enabled", .bool self.call_home_enabled),
    ("url", char_or_none self.call_home_url),
    ("token_value", char_or_none self.call_home_token_value),
    ("interval", char_or_none self.call_home_interval),
    ("ip_lookup_url", char_or_none self.call_home_ip_lookup_url),
    ("script_name", char_or_none self.call_home_script_name),
    ("scheduler_name", char_or_none self.call_home_scheduler_name),
    ("check_certificate", .bool self.call_home_check_certificate),
    ("mac_interface", char_or_none self.call_home_mac_interface)]

def webhook_payload : Dict :=
  [("enabled", .bool self.webhook_enabled),
    ("url", char_or_none self.webhook_url),
    ("token_value", char_or_none self.webhook_token_value),
    ("clear_lease_script_on_disable", .bool self.webhook_clear_lease_script_on_disable)]

def naming_payload : Dict :=
  [("identity_prefix", char_or_none self.identity_prefix),
    ("identity_format", char_or_none self.identity_format)]

def to_preloader_payload : Dict :=
  [("mgmt_subnet", char_or_none self.mgmt_subnet),
    ("target_mac", char_or_none self.target_mac),
    ("bootstrap", .dict self.bootstrap_payload),
    ("routeros", .dict self.routeros_payload),
    ("call_home", .dict self.call_home_payload),
    ("webhook", .dict self.webhook_payload),
    ("naming", .dict self.naming_payload)]

/-- `_order = "sequence, id desc"` -/
def precedes (first second : IspMikrotikPreconfig) : Prop :=
  first.sequence < second.sequence ∨ first.sequence = second.sequence ∧ second.id ≤ first.id

instance : DecidableRel precedes := fun _ _ => inferInstanceAs (Decidable (_ ∨ _))

end IspMikrotikPreconfig

/-- The profiles, and the sector that has a code. -/
structure Preconfigs where
  profiles : List IspMikrotikPreconfig
  sector_of_code : Value → Option Nat

/-- `search(domain, limit=1)` -/
def Preconfigs.search (domain : IspMikrotikPreconfig → Bool) (self : Preconfigs) : Option IspMikrotikPreconfig :=
  ((self.profiles.filter domain).insertionSort IspMikrotikPreconfig.precedes).head?

/-- The profile for a sector: the sector's own, or else the default one. -/
def Preconfigs.record_for_sector (sector_code : Value) (self : Preconfigs) : Option IspMikrotikPreconfig :=
  let sector_id := if sector_code.truthy then self.sector_of_code sector_code else none
  let record := sector_id.bind fun id => self.search fun rec => rec.active && rec.sector_id == some id
  match record with
  | some rec => some rec
  | none => self.search fun rec => rec.active && rec.is_default

def Preconfigs.get_preconfig_for_sector (sector_code : Value) (self : Preconfigs) : Value :=
  match self.record_for_sector sector_code with
  | some rec => .dict rec.to_preloader_payload
  | none => .dict []

/-- The entry of a field that is set. -/
def given (key : String) (field : CharField) (value : Value) : Dict := if field.isSome then [(key, value)] else []

namespace IspMikrotikPreconfig

variable (self : IspMikrotikPreconfig)

/-- The section that a user would write for the profile: its fields that are set, and
nothing for the others. -/
def set_fields : Dict :=
  [("wan_interface", .str self.wan_interface), ("lan_bridge", .str self.lan_bridge)] ++
    given "lan_ports" self.lan_ports (.list (self._lan_ports_list.map .str)) ++
    [("lan_address", .str self.lan_address), ("dhcp_pool", .str self.dhcp_pool), ("dhcp_range", .str self.dhcp_range),
      ("dhcp_server", .str self.dhcp_server)] ++
    given "dhcp_lease_time" self.dhcp_lease_time (char self.dhcp_lease_time) ++
    [("dhcp_network", .str self.dhcp_network)] ++
    given "dns_server" self.dns_server (char self.dns_server) ++
    [("enable_dhcp_client_wan", .bool self.enable_dhcp_client_wan), ("enable_nat", .bool self.enable_nat),
      ("enable_hotspot", .bool self.enable_hotspot)] ++
    given "hotspot_profile" self.hotspot_profile (char self.hotspot_profile) ++
    given "hotspot_server" self.hotspot_server (char self.hotspot_server) ++
    given "hotspot_dns_name" self.hotspot_dns_name (char self.hotspot_dns_name) ++
    given "hotspot_walled_garden" self.hotspot_walled_garden (char self.hotspot_walled_garden) ++
    given "hotspot_login_by" self.hotspot_login_by (char self.hotspot_login_by) ++
    given "hotspot_html_dir" self.hotspot_html_dir (char self.hotspot_html_dir)

/-- The fields of the section that a record cannot be without. -/
def required : List String :=
  [self.wan_interface, self.lan_bridge, self.lan_address, self.dhcp_pool, self.dhcp_range, self.dhcp_server,
    self.dhcp_network]

/-- All that the payload has `None` for when it is empty. -/
def nullable : List CharField :=
  [self.mgmt_subnet, self.target_mac, self.bootstrap_user, self.bootstrap_pass, self.routeros_mgmt_user,
    self.routeros_mgmt_pass_env, self.routeros_mgmt_pass_value, self.call_home_url, self.call_home_token_value,
    self.call_home_interval, self.call_home_ip_lookup_url, self.call_home_script_name,
    self.call_home_scheduler_name,
    self.call_home_mac_interface, self.webhook_url, self.webhook_token_value, self.identity_prefix,
    self.identity_format]

end IspMikrotikPreconfig

/-- Nothing that the payload has `None` for is empty. -/
structure IspMikrotikPreconfig.Filled (profile : IspMikrotikPreconfig) : Prop where
  texts : ∀ field ∈ profile.nullable, truthy field
  discovery_interfaces : _parse_csv profile.discovery_interfaces ≠ []
  allowed_mgmt_ips : _parse_csv profile.allowed_mgmt_ips ≠ []

section

variable (self : IspMikrotikPreconfig)

theorem char_or_none_hasNone (field : CharField) : (char_or_none field).hasNone = !truthy field := by
  cases field with
  | none => rfl
  | some text =>
    rw [char_or_none, char, Value.orElse, Value.truthy, truthy]
    split <;> simp_all [Value.hasNone]

theorem itemsHaveNone_str (texts : List String) : itemsHaveNone (texts.map .str) = false := by
  induction texts with
  | nil => rfl
  | cons text rest ih => rw [List.map_cons, itemsHaveNone, ih]; rfl

theorem _parse_csv_or_none_hasNone (value : CharField) :
    (_parse_csv_or_none value).hasNone = (_parse_csv value).isEmpty := by
  rw [_parse_csv_or_none]
  split
  · rename_i hempty
    rw [hempty]
    rfl
  · rename_i hempty
    rw [Value.hasNone, itemsHaveNone_str, Bool.not_eq_true _ |>.mp hempty]

theorem char_hasNone (field : CharField) : (char field).hasNone = false := by
  cases field <;> rfl

/-- The payload can be sent exactly when nothing in it is left empty. -/
theorem to_preloader_payload_marshal_iff :
    marshal (.dict self.to_preloader_payload) = .ok (.dict self.to_preloader_payload) ↔ self.Filled := by
  have hconfig : Dict.hasNone self.to_routeros_config = false := by
    simp [IspMikrotikPreconfig.to_routeros_config, Dict.hasNone, entryHasNone, Value.hasNone, itemsHaveNone_str,
      char_hasNone]
  have hfilled : (Value.dict self.to_preloader_payload).hasNone = false ↔ self.Filled := by
    simp only [IspMikrotikPreconfig.to_preloader_payload, IspMikrotikPreconfig.bootstrap_payload,
      IspMikrotikPreconfig.routeros_payload, IspMikrotikPreconfig.call_home_payload,
      IspMikrotikPreconfig.webhook_payload, IspMikrotikPreconfig.naming_payload, Value.hasNone, Dict.hasNone,
      entryHasNone, hconfig,
      char_or_none_hasNone, _parse_csv_or_none_hasNone, Bool.or_false, Bool.false_or, Bool.or_eq_false_iff,
      Bool.not_eq_false', List.isEmpty_eq_false_iff]
    constructor
    · rintro ⟨_, _, ⟨_, _⟩, ⟨_, _, _, hdiscovery, hallowed⟩, ⟨_, _, _, _, _, _, _⟩, ⟨_, _⟩, _, _⟩
      refine ⟨?_, hdiscovery, hallowed⟩
      simp only [IspMikrotikPreconfig.nullable, List.forall_mem_cons, List.not_mem_nil, false_imp_iff, implies_true,
        and_true]
      and_intros <;> assumption
    · rintro ⟨htexts, hdiscovery, hallowed⟩
      simp only [IspMikrotikPreconfig.nullable, List.forall_mem_cons, List.not_mem_nil, false_imp_iff, implies_true,
        and_true] at htexts
      obtain ⟨_, _, _, _, _, _, _, _, _, _, _, _, _, _, _, _, _, _⟩ := htexts
      and_intros <;> assumption
  rw [← hfilled, marshal]
  cases (Value.dict self.to_preloader_payload).hasNone <;> simp

end

end getupnet.isp_mikrotik

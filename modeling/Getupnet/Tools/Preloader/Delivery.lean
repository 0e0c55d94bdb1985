import Getupnet.IspMikrotik.Preconfig
import Getupnet.Tools.Preloader.Fallback
import Getupnet.Tools.Preloader.Sector

open interaction python relational
open getupnet.isp_core (CharField)
open getupnet.isp_mikrotik

namespace getupnet.mikrotik_preloader.untyped

/-- The configuration has a section of that name, or none. -/
def HasSection (key : String) (cfg : Dict) : Prop := ∃ fields, (cfg.lookup key).getD (.dict []) = .dict fields

/-- A configuration into which the sections of a profile can be merged. -/
structure Accepts (cfg : Dict) : Prop where
  sections : ∀ key ∈ ["bootstrap", "routeros", "call_home", "webhook", "naming"], HasSection key cfg
  config : ∀ fields, cfg.lookup "routeros" = some (.dict fields) → HasSection "config" fields

/-- An entry that is neither `None` nor a dictionary is assigned. -/
def Assigned : Value → Prop
  | .none | .dict _ => False
  | _ => True

section

variable {key : String} {value : Value} {entries fields cfg : Dict} {dst : Value}

theorem valueFits_assigned (h : Assigned value) : ValueFits key value dst ↔ ∃ fields, dst = .dict fields := by
  cases value with
  | none | dict => exact h.elim
  | bool | int | str | list | other => cases dst <;> simp [ValueFits]

theorem fits_of_assigned (h : ∀ entry ∈ entries, Assigned entry.2) (fields : Dict) :
    Fits entries (.dict fields) := by
  induction entries with
  | nil => trivial
  | cons entry rest ih =>
    obtain ⟨key, value⟩ := entry
    have hfirst : ValueFits key value (.dict fields) :=
      (valueFits_assigned (h (key, value) List.mem_cons_self)).mpr ⟨fields, rfl⟩
    exact ⟨hfirst, ih fun other hother => h other (List.mem_cons_of_mem _ hother)⟩

/-- Entries that are all assigned, one at least, fit dictionaries only. -/
theorem fits_assigned_iff (h : ∀ other ∈ (key, value) :: entries, Assigned other.2) :
    Fits ((key, value) :: entries) dst ↔ ∃ fields, dst = .dict fields := by
  constructor
  · intro hfits
    have hfirst : ValueFits key value dst := hfits.1
    exact (valueFits_assigned (h (key, value) List.mem_cons_self)).mp hfirst
  · rintro ⟨fields, rfl⟩
    exact fits_of_assigned h fields

/-- A section whose entries are all assigned is merged where there is one or none. -/
theorem merge_section_assigned_iff {first : String} (h : ∀ other ∈ (first, value) :: entries, Assigned other.2)
    (hunique : (Value.dict ((first, value) :: entries)).UniqueKeys) :
    ((merge_section key (.dict ((first, value) :: entries))).exec cfg).1 = .ok () ↔ HasSection key cfg := by
  have hitems : (Value.dict ((first, value) :: entries)).itemsOrEmpty = .ok ((first, value) :: entries) := rfl
  have hsection := congrArg Prod.fst (@merge_section_ok key _ _ cfg hitems)
  rw [← hsection, merge_value_fits_iff key _ _ hunique, ValueFits, fits_assigned_iff h]
  rfl

end

section

variable {profile : IspMikrotikPreconfig} {cfg : Dict}

theorem assigned_char_or_none {field : CharField} (h : getupnet.isp_core.truthy field) :
    Assigned (char_or_none field) := by
  cases field with
  | none => cases h
  | some text =>
    have htext : char_or_none (some text) = .str text := if_pos h
    rw [htext]
    trivial

theorem assigned_parse_csv_or_none {value : CharField} (h : _parse_csv value ≠ []) :
    Assigned (_parse_csv_or_none value) := by
  rw [_parse_csv_or_none, if_neg (by simpa using h)]
  trivial

/-- A payload that can be sent consists of sections whose entries are assigned, but
for the dictionary with the configuration of the sector. -/
theorem payload_assigned (h : profile.Filled) :
    (∀ entry ∈ profile.bootstrap_payload, Assigned entry.2) ∧
      (∀ entry ∈ profile.routeros_payload, entry.1 ≠ "config" → Assigned entry.2) ∧
      (∀ entry ∈ profile.call_home_payload, Assigned entry.2) ∧
      (∀ entry ∈ profile.webhook_payload, Assigned entry.2) ∧
      ∀ entry ∈ profile.naming_payload, Assigned entry.2 := by
  have htexts : ∀ field ∈ profile.nullable, Assigned (char_or_none field) :=
    fun field hfield => assigned_char_or_none (h.texts field hfield)
  have hbool : ∀ value, Assigned (.bool value) := fun _ => trivial
  have hint : ∀ value, Assigned (.int value) := fun _ => trivial
  have hdiscovery := assigned_parse_csv_or_none h.discovery_interfaces
  have hallowed := assigned_parse_csv_or_none h.allowed_mgmt_ips
  simp only [IspMikrotikPreconfig.nullable, List.forall_mem_cons, List.not_mem_nil, false_imp_iff, implies_true,
    and_true] at htexts
  simp only [IspMikrotikPreconfig.bootstrap_payload, IspMikrotikPreconfig.routeros_payload,
    IspMikrotikPreconfig.call_home_payload, IspMikrotikPreconfig.webhook_payload,
    IspMikrotikPreconfig.naming_payload, List.forall_mem_cons, List.not_mem_nil, false_imp_iff, implies_true,
    and_true, htexts, hdiscovery, hallowed, hbool, hint, ne_eq, String.reduceEq, not_false_eq_true,
    not_true_eq_false]

theorem assigned_char (field : CharField) : Assigned (char field) := by
  cases field <;> trivial

theorem config_assigned (profile : IspMikrotikPreconfig) :
    ∀ entry ∈ profile.to_routeros_config, Assigned entry.2 := by
  have hbool : ∀ value, Assigned (.bool value) := fun _ => trivial
  have hstr : ∀ text, Assigned (.str text) := fun _ => trivial
  have hlist : ∀ items, Assigned (.list items) := fun _ => trivial
  simp [IspMikrotikPreconfig.to_routeros_config, hbool, hstr, hlist, assigned_char]

theorem fits_routeros_payload_iff (h : profile.Filled) {dst : Value} :
    Fits profile.routeros_payload dst ↔ ∃ fields, dst = .dict fields ∧ HasSection "config" fields := by
  obtain ⟨-, hassigned, -⟩ := payload_assigned h
  have hconfig : ∀ fields, ValueFits "config" (.dict profile.to_routeros_config) (.dict fields) ↔
      HasSection "config" fields := by
    intro fields
    rw [ValueFits]
    exact fits_assigned_iff (config_assigned profile)
  rw [fits_iff_forall]
  constructor
  · intro hfits
    have hport := hfits ("api_port", .int profile.api_port) (by simp [IspMikrotikPreconfig.routeros_payload])
    have hscalar : Assigned (.int profile.api_port) := trivial
    obtain ⟨fields, rfl⟩ := (valueFits_assigned hscalar).mp hport
    refine ⟨fields, rfl, (hconfig fields).mp ?_⟩
    exact hfits ("config", .dict profile.to_routeros_config) (by simp [IspMikrotikPreconfig.routeros_payload])
  · rintro ⟨fields, rfl, hsection⟩ entry hentry
    by_cases hkey : entry.1 = "config"
    · have hentry : entry = ("config", .dict profile.to_routeros_config) := by
        simp only [IspMikrotikPreconfig.routeros_payload, List.mem_cons, List.not_mem_nil, or_false] at hentry
        obtain rfl | rfl | rfl | rfl | rfl | rfl | rfl | rfl := hentry
        all_goals first | rfl | simp at hkey
      rw [hentry]
      exact (hconfig fields).mpr hsection
    · exact (valueFits_assigned (hassigned entry hentry hkey)).mpr ⟨fields, rfl⟩

/-- What the merge does with each key of a payload. -/
theorem edits_payload (profile : IspMikrotikPreconfig) : edits profile.to_preloader_payload =
    [("mgmt_subnet", .when (char_or_none profile.mgmt_subnet).truthy (.assign (char_or_none profile.mgmt_subnet))),
      ("target_mac", .when (!(char_or_none profile.target_mac).isNone) (.assign (char_or_none profile.target_mac))),
      ("bootstrap", .merge (.dict profile.bootstrap_payload)),
      ("routeros", .configure (.dict profile.routeros_payload)),
      ("call_home", .merge (.dict profile.call_home_payload)),
      ("webhook", .merge (.dict profile.webhook_payload)),
      ("naming", .merge (.dict profile.naming_payload))] := rfl

theorem payload_truthy (profile : IspMikrotikPreconfig) : (Value.dict profile.to_preloader_payload).truthy := rfl

/-- Each dictionary of a payload has each key once. -/
theorem payload_uniqueKeys (profile : IspMikrotikPreconfig) :
    (Value.dict profile.to_preloader_payload).UniqueKeys := by
  have hor : ∀ field, (char_or_none field).UniqueKeys := by
    intro field
    cases field with
    | none => trivial
    | some text =>
      rw [char_or_none, Value.orElse]
      split <;> trivial
  have hcsv : ∀ field, (_parse_csv_or_none field).UniqueKeys := by
    intro field
    rw [_parse_csv_or_none]
    split <;> trivial
  have hchar : ∀ field, (char field).UniqueKeys := by
    intro field
    cases field <;> trivial
  have hbool : ∀ value, (Value.bool value).UniqueKeys := fun _ => trivial
  have hint : ∀ value, (Value.int value).UniqueKeys := fun _ => trivial
  have hstr : ∀ text, (Value.str text).UniqueKeys := fun _ => trivial
  have hlist : ∀ items, (Value.list items).UniqueKeys := fun _ => trivial
  have hdict : ∀ entries, (Value.dict entries).UniqueKeys ↔
    (entries.map Prod.fst).Nodup ∧ Dict.UniqueKeys entries :=
    fun _ => Iff.rfl
  simp [IspMikrotikPreconfig.to_preloader_payload, IspMikrotikPreconfig.bootstrap_payload,
    IspMikrotikPreconfig.routeros_payload, IspMikrotikPreconfig.call_home_payload,
    IspMikrotikPreconfig.webhook_payload, IspMikrotikPreconfig.naming_payload,
    IspMikrotikPreconfig.to_routeros_config, hdict, Dict.UniqueKeys, entryUniqueKeys, hor, hcsv, hchar,
    hbool, hint,
    hstr, hlist]

/-- The section of the router is merged where there is one or none, with a
configuration or none. -/
theorem merge_routeros_payload_iff (h : profile.Filled) :
    ((merge_routeros (.dict profile.routeros_payload)).exec cfg).1 = .ok () ↔
      ∃ fields, (cfg.lookup "routeros").getD (.dict []) = .dict fields ∧ HasSection "config" fields := by
  have hlookup : profile.to_preloader_payload.lookup "routeros" = some (.dict profile.routeros_payload) := rfl
  have hunique : (Value.dict profile.routeros_payload).UniqueKeys := (payload_uniqueKeys profile).2.lookup hlookup
  have hitems : (Value.dict profile.routeros_payload).itemsOrEmpty = .ok profile.routeros_payload := rfl
  by_cases hnode : ∃ fields, (cfg.lookup "routeros").getD (.dict []) = .dict fields
  · obtain ⟨fields, hnode⟩ := hnode
    rw [merge_routeros_fits_iff hitems hunique hnode, fits_routeros_payload_iff h]
    simp [hnode]
  · constructor
    · intro hok
      have hsection := congrArg Prod.fst (@merge_section_ok "routeros" _ _ cfg hitems)
      have hfits := merge_routeros_section hok
      rw [← hsection, merge_value_fits_iff _ _ _ hunique, ValueFits, fits_routeros_payload_iff h] at hfits
      obtain ⟨fields, hfields, -⟩ := hfits
      exact absurd ⟨fields, hfields⟩ hnode
    · rintro ⟨fields, hfields, -⟩
      exact absurd ⟨fields, hfields⟩ hnode

/-- A payload that can be sent is merged into the configurations that accept it, those
that have a section, or nothing, wherever the payload has one. -/
theorem merge_payload_iff (h : profile.Filled) :
    ((merge_preconfig (.dict profile.to_preloader_payload)).exec cfg).1 = .ok () ↔ Accepts cfg := by
  obtain ⟨hbootstrap, -, hcall_home, hwebhook, hnaming⟩ := payload_assigned h
  have hunique := (payload_uniqueKeys profile).2
  have hkeys : ∀ key entries, profile.to_preloader_payload.lookup key = some (.dict entries) →
      (Value.dict entries).UniqueKeys := fun key entries hlookup => hunique.lookup hlookup
  have hassigns : ∀ key condition value,
    (((Edit.when condition (.assign value)).run key).exec cfg).1 = .ok () := by
    intro key condition value
    cases condition <;> rfl
  rw [merge_preconfig_dict (payload_truthy profile), runEdits_ok_iff edit_methods_touch edit_methods_nodup,
    edit_methods, List.forall_mem_map, edits_payload]
  simp only [List.forall_mem_cons, List.not_mem_nil, false_imp_iff, implies_true, and_true, hassigns, true_and]
  have hsections : (∀ key ∈ ["bootstrap", "routeros", "call_home", "webhook", "naming"], HasSection key cfg) ↔
      HasSection "bootstrap" cfg ∧ HasSection "routeros" cfg ∧ HasSection "call_home" cfg ∧
        HasSection "webhook" cfg ∧ HasSection "naming" cfg := by
    simp
  have hbootstrapIff : (((Edit.merge (.dict profile.bootstrap_payload)).run "bootstrap").exec cfg).1 = .ok () ↔
      HasSection "bootstrap" cfg := merge_section_assigned_iff hbootstrap (hkeys "bootstrap" _ rfl)
  have hcall_homeIff : (((Edit.merge (.dict profile.call_home_payload)).run "call_home").exec cfg).1 = .ok () ↔
      HasSection "call_home" cfg := merge_section_assigned_iff hcall_home (hkeys "call_home" _ rfl)
  have hwebhookIff : (((Edit.merge (.dict profile.webhook_payload)).run "webhook").exec cfg).1 = .ok () ↔
      HasSection "webhook" cfg := merge_section_assigned_iff hwebhook (hkeys "webhook" _ rfl)
  have hnamingIff : (((Edit.merge (.dict profile.naming_payload)).run "naming").exec cfg).1 = .ok () ↔
      HasSection "naming" cfg := merge_section_assigned_iff hnaming (hkeys "naming" _ rfl)
  have hrouterosIff : (((Edit.configure (.dict profile.routeros_payload)).run "routeros").exec cfg).1 = .ok () ↔
      ∃ fields, (cfg.lookup "routeros").getD (.dict []) = .dict fields ∧ HasSection "config" fields :=
    merge_routeros_payload_iff h
  rw [hbootstrapIff, hcall_homeIff, hwebhookIff, hnamingIff, hrouterosIff]
  constructor
  · rintro ⟨hb, ⟨fields, hfields, hconfig⟩, hc, hw, hn⟩
    refine ⟨hsections.mpr ⟨hb, ⟨fields, hfields⟩, hc, hw, hn⟩, fun found hfound => ?_⟩
    rw [hfound, Option.getD_some] at hfields
    rw [Value.dict.inj hfields]
    exact hconfig
  · rintro ⟨hall, hconfig⟩
    obtain ⟨hb, ⟨fields, hfields⟩, hc, hw, hn⟩ := hsections.mp hall
    refine ⟨hb, ⟨fields, hfields, ?_⟩, hc, hw, hn⟩
    cases hlookup : cfg.lookup "routeros" with
    | none =>
      rw [hlookup] at hfields
      cases hfields
      exact ⟨[], rfl⟩
    | some node =>
      rw [hlookup, Option.getD_some] at hfields
      exact hconfig fields (by rw [hlookup, hfields])

end

section

variable {profile : IspMikrotikPreconfig} {cfg : Dict}

/-- The settings that the preloader reads from a payload. -/
theorem settings_of_payload (profile : IspMikrotikPreconfig) : SectorSettings.of profile.to_routeros_config =
    { wan_interface := .str profile.wan_interface
      lan_bridge := .str profile.lan_bridge
      lan_ports := .list (profile._lan_ports_list.map .str)
      lan_address := .str profile.lan_address
      dhcp_pool := .str profile.dhcp_pool
      dhcp_range := .str profile.dhcp_range
      dhcp_server := .str profile.dhcp_server
      dhcp_lease_time := char profile.dhcp_lease_time
      dhcp_network := .str profile.dhcp_network
      dns_server := char profile.dns_server
      enable_dhcp_client_wan := .bool profile.enable_dhcp_client_wan
      enable_nat := .bool profile.enable_nat
      enable_hotspot := .bool profile.enable_hotspot
      hotspot_profile := char profile.hotspot_profile
      hotspot_server := char profile.hotspot_server
      hotspot_dns_name := char profile.hotspot_dns_name
      hotspot_login_by := char profile.hotspot_login_by
      hotspot_html_dir := char profile.hotspot_html_dir
      hotspot_walled_garden := char profile.hotspot_walled_garden } := rfl

/-- A field that is set, or else what the preloader takes instead. -/
def charOr (field : CharField) (default : Value) : Value := field.elim default .str

theorem lookup_given (key other : String) (field : CharField) (value : Value) :
    (given other field value).lookup key = if key = other ∧ field.isSome then some value else none := by
  rw [given]
  cases field.isSome <;> simp [Dict.lookup_cons]

theorem charOr_eq (field : CharField) (default : Value) :
    (if field.isSome = true then some (char field) else none).getD default = charOr field default := by
  cases field <;> rfl

theorem lan_ports_eq (profile : IspMikrotikPreconfig) :
    (if profile.lan_ports.isSome = true then some (Value.list (profile._lan_ports_list.map .str)) else none).getD
      (.list []) = .list (profile._lan_ports_list.map .str) := by
  cases hports : profile.lan_ports with
  | none =>
    have hempty : profile._lan_ports_list = [] := by
      rw [IspMikrotikPreconfig._lan_ports_list, hports]
      rfl
    rw [hempty]
    rfl
  | some ports => rfl

/-- The settings that the preloader reads from the fields that are set. -/
theorem settings_of_set_fields (profile : IspMikrotikPreconfig) : SectorSettings.of profile.set_fields =
    { SectorSettings.of profile.to_routeros_config with
      dhcp_lease_time := charOr profile.dhcp_lease_time (.str "1h")
      dns_server := charOr profile.dns_server .none
      hotspot_profile := charOr profile.hotspot_profile (.str "hs-prof")
      hotspot_server := charOr profile.hotspot_server (.str "hs1")
      hotspot_dns_name := charOr profile.hotspot_dns_name .none
      hotspot_login_by := charOr profile.hotspot_login_by (.str "http-chap")
      hotspot_html_dir := charOr profile.hotspot_html_dir (.str "hotspot")
      hotspot_walled_garden := charOr profile.hotspot_walled_garden .none } := by
  rw [settings_of_payload]
  simp [SectorSettings.of, IspMikrotikPreconfig.set_fields, List.lookup_append, lookup_given, Dict.lookup_cons,
    charOr_eq, lan_ports_eq]

/-- Where the preloader gets as far as sending them, the fields for which it has a
default of its own are set. -/
def DefaultsAgree (profile : IspMikrotikPreconfig) : Prop :=
  (∀ text ∈ profile.required, text ≠ "") → profile.dhcp_lease_time.isSome ∧
    (profile.enable_hotspot → getupnet.isp_core.truthy profile.hotspot_dns_name →
      profile.hotspot_profile.isSome ∧ profile.hotspot_server.isSome ∧ profile.hotspot_login_by.isSome ∧
        profile.hotspot_html_dir.isSome)

theorem complete_iff_required (profile : IspMikrotikPreconfig) :
    (SectorSettings.of profile.to_routeros_config).complete ↔ ∀ text ∈ profile.required, text ≠ "" := by
  rw [settings_of_payload]
  simp [SectorSettings.complete, IspMikrotikPreconfig.required, Value.truthy]

theorem char_eq_charOr {field : CharField} (h : field.isSome) (default : Value) :
    char field = charOr field default := by
  cases field with
  | none => cases h
  | some text => rfl

theorem char_truthy (field : CharField) : (char field).truthy = getupnet.isp_core.truthy field := by
  cases field <;> rfl

theorem carried_char_iff (field : CharField) : Carried (char field) ↔ field.isSome := by
  cases field <;> simp [char, Carried]

theorem alike_char (field : CharField) : Alike (char field) (charOr field .none) := by
  cases field with
  | none => exact .inr ⟨rfl, rfl⟩
  | some text => exact .inl rfl

theorem settings_agree (h : DefaultsAgree profile) :
    (SectorSettings.of profile.to_routeros_config).Agree (.of profile.set_fields) := by
  have hcomplete := (complete_iff_required profile).mp
  rw [settings_of_set_fields]
  rw [settings_of_payload] at hcomplete ⊢
  constructor
  case dns_server => exact alike_char _
  case hotspot_dns_name => exact alike_char _
  case hotspot_walled_garden => exact alike_char _
  case dhcp_lease_time => exact fun hall => char_eq_charOr (h (hcomplete hall)).1 _
  case hotspot =>
    intro hall henabled hdns
    have hname : getupnet.isp_core.truthy profile.hotspot_dns_name := (char_truthy _).symm.trans hdns
    obtain ⟨hprofile, hserver, hlogin, hhtml⟩ := (h (hcomplete hall)).2 henabled hname
    have hset : profile.hotspot_dns_name.isSome := by
      cases hfield : profile.hotspot_dns_name with
      | none =>
        rw [hfield] at hname
        cases hname
      | some text => rfl
    exact ⟨char_eq_charOr hprofile _, char_eq_charOr hserver _, char_eq_charOr hset _, char_eq_charOr hlogin _,
      char_eq_charOr hhtml _⟩
  all_goals rfl

theorem settings_carriable (h : DefaultsAgree profile) (hcomplete : ∀ text ∈ profile.required, text ≠ "") :
    (SectorSettings.of profile.to_routeros_config).Carriable := by
  obtain ⟨hlease, hhotspot⟩ := h hcomplete
  rw [settings_of_payload]
  constructor
  case lan_ports =>
    intro ports hports port hport
    obtain rfl := Except.ok.inj hports
    obtain ⟨text, -, rfl⟩ := List.mem_map.mp hport
    trivial
  case dhcp_lease_time => exact (carried_char_iff _).mpr hlease
  case hotspot =>
    intro henabled hdns
    simp only [carried_char_iff]
    exact hhotspot henabled ((char_truthy _).symm.trans hdns)

end

/-- A configuration with another section `config` for the router. -/
def with_config (config cfg : Dict) : Dict :=
  match cfg.lookup "routeros" with
  | some (.dict fields) => Dict.set "routeros" (.dict (Dict.set "config" (.dict config) fields)) cfg
  | _ => Dict.set "routeros" (.dict [("config", .dict config)]) cfg

/-- The profile of a sector is fetched and merged into a configuration, every router
is sent the calls that it would be sent for the fields that are set, and no call
carries `None` or `False`. -/
def Delivers (py : Builtins) (environ : Environ) (preconfigs : Preconfigs) (sector_code : Value)
    (profile : IspMikrotikPreconfig) (cfg : Dict) : Prop :=
  ∃ payload merged, marshal (preconfigs.get_preconfig_for_sector sector_code) = .ok payload ∧
    (merge_preconfig payload).exec cfg = (.ok (), merged) ∧
    ∀ (σ : Type) (perform : σ → Call → Except Interruption (List Dict) × σ) (state : σ) (mgmt_iface : Value),
      (routeros_apply_sector_config py environ merged mgmt_iface).issued perform state =
        (routeros_apply_sector_config py environ (with_config profile.set_fields merged) mgmt_iface).issued
          perform state ∧
      ∀ call ∈ (routeros_apply_sector_config py environ merged mgmt_iface).issued perform state, call.Clean

section

variable {py : Builtins} {environ : Environ} {preconfigs : Preconfigs} {sector_code : Value}
  {profile : IspMikrotikPreconfig} {cfg config fields : Dict}

theorem with_config_lookup_ne {key : String} (h : key ≠ "routeros") :
    (with_config config cfg).lookup key = cfg.lookup key := by
  rw [with_config]
  split <;> exact Dict.lookup_set_ne h _ _

theorem with_config_lookup_routeros (h : cfg.lookup "routeros" = some (.dict fields)) :
    (with_config config cfg).lookup "routeros" = some (.dict (Dict.set "config" (.dict config) fields)) := by
  rw [with_config, h, Dict.lookup_set_self]

theorem routeros_apply_sector_config_eq (h : cfg.lookup "routeros" = some (.dict fields))
    (hconfig : fields.lookup "config" = some (.dict config)) (hne : config ≠ []) (mgmt_iface : Value) :
    routeros_apply_sector_config py environ cfg mgmt_iface =
      routeros_apply_settings py environ cfg mgmt_iface (.of config) := by
  have htruthy : (Value.dict config).truthy := by
    simpa [Value.truthy] using hne
  rw [routeros_apply_sector_config, h, Option.getD_some, Value.get, hconfig, Option.getD_some]
  exact if_pos htruthy

/-- The section of a payload is taken over as it is. -/
theorem merge_payload_config (h : profile.Filled) (haccepts : Accepts cfg) :
    ∃ merged fields, (merge_preconfig (.dict profile.to_preloader_payload)).exec cfg = (.ok (), merged) ∧
      merged.lookup "routeros" = some (.dict fields) ∧
        fields.lookup "config" = some (.dict profile.to_routeros_config) := by
  have hok := (merge_payload_iff h).mpr haccepts
  have hrouteros := merge_preconfig_routeros (payload_truthy profile) hok
  obtain ⟨node, hnode⟩ := haccepts.sections "routeros" (by simp)
  have hlookup : profile.to_preloader_payload.lookup "routeros" = some (.dict profile.routeros_payload) := rfl
  have hunique : (Value.dict profile.routeros_payload).UniqueKeys := (payload_uniqueKeys profile).2.lookup hlookup
  have hitems : (Value.dict profile.routeros_payload).itemsOrEmpty = .ok profile.routeros_payload := rfl
  have hconfig : HasSection "config" node := by
    cases hfound : cfg.lookup "routeros" with
    | none =>
      rw [hfound] at hnode
      cases hnode
      exact ⟨[], rfl⟩
    | some found =>
      rw [hfound, Option.getD_some] at hnode
      exact haccepts.config node (by rw [hfound, hnode])
  have hfits := (fits_routeros_payload_iff h).mpr ⟨node, rfl, hconfig⟩
  obtain ⟨after, hafter, htaken, -⟩ := merge_routeros_lookup hitems hunique hnode hfits
  refine ⟨_, after, Prod.ext hok rfl, ?_, htaken⟩
  rw [hrouteros, hlookup]
  exact hafter

theorem get_preconfig_for_sector_eq (h : preconfigs.record_for_sector sector_code = some profile) :
    preconfigs.get_preconfig_for_sector sector_code = .dict profile.to_preloader_payload := by
  rw [Preconfigs.get_preconfig_for_sector, h]

theorem marshal_eq_ok {value carried : Value} (h : marshal value = .ok carried) : carried = value := by
  unfold marshal at h
  split at h
  · cases h
  · exact (Except.ok.inj h).symm

/-- What is fetched is a payload with nothing left empty, for a configuration that
accepts it. -/
theorem Delivers.fetched (hprofile : preconfigs.record_for_sector sector_code = some profile)
    (h : Delivers py environ preconfigs sector_code profile cfg) : profile.Filled ∧ Accepts cfg := by
  obtain ⟨payload, merged, hmarshal, hmerge, -⟩ := h
  rw [get_preconfig_for_sector_eq hprofile] at hmarshal
  obtain rfl := marshal_eq_ok hmarshal
  have hfilled := (to_preloader_payload_marshal_iff profile).mp hmarshal
  exact ⟨hfilled, (merge_payload_iff hfilled).mp (congrArg Prod.fst hmerge)⟩

/-- What is delivered to a router that has nothing shows that the defaults agree. -/
theorem Delivers.defaultsAgree (hprofile : preconfigs.record_for_sector sector_code = some profile)
    (h : Delivers py environ preconfigs sector_code profile cfg) : DefaultsAgree profile := by
  obtain ⟨hfilled, haccepts⟩ := h.fetched hprofile
  obtain ⟨after, fields, hmerged, hrouteros, hconfig⟩ := merge_payload_config hfilled haccepts
  obtain ⟨payload, merged, hmarshal, hmerge, hissued⟩ := h
  rw [get_preconfig_for_sector_eq hprofile] at hmarshal
  obtain rfl := marshal_eq_ok hmarshal
  rw [hmerge] at hmerged
  obtain rfl := (Prod.mk.inj hmerged).2
  intro hrequired
  have hclean := (hissued Unit blank_router () .none).2
  rw [routeros_apply_sector_config_eq hrouteros hconfig (by simp [IspMikrotikPreconfig.to_routeros_config])] at hclean
  have hcomplete := (complete_iff_required profile).mpr hrequired
  rw [settings_of_payload] at hclean hcomplete
  obtain ⟨hlease, hhotspot⟩ := carried_of_blank_router hcomplete rfl rfl hclean
  refine ⟨(carried_char_iff _).mp hlease, fun henabled hdns => ?_⟩
  simp only [carried_char_iff] at hhotspot
  exact hhotspot henabled ((char_truthy _).trans hdns)

theorem delivers_of_agree (hprofile : preconfigs.record_for_sector sector_code = some profile)
    (hfilled : profile.Filled) (haccepts : Accepts cfg) (hagree : DefaultsAgree profile) :
    Delivers py environ preconfigs sector_code profile cfg := by
  obtain ⟨merged, fields, hmerged, hrouteros, hconfig⟩ := merge_payload_config hfilled haccepts
  refine ⟨.dict profile.to_preloader_payload, merged, ?_, hmerged, fun σ perform state mgmt_iface => ?_⟩
  · rw [get_preconfig_for_sector_eq hprofile]
    exact (to_preloader_payload_marshal_iff profile).mpr hfilled
  · have hpayload := @routeros_apply_sector_config_eq py environ _ _ _ hrouteros hconfig
      (by simp [IspMikrotikPreconfig.to_routeros_config]) mgmt_iface
    have hset := @routeros_apply_sector_config_eq py environ _ _ _
      (with_config_lookup_routeros hrouteros) (Dict.lookup_set_self "config" (.dict profile.set_fields) fields)
      (by simp [IspMikrotikPreconfig.set_fields]) mgmt_iface
    have hothers : ∀ key, key ≠ "routeros" →
      (with_config profile.set_fields merged).lookup key = merged.lookup key :=
      fun key hkey => with_config_lookup_ne hkey
    rw [hpayload, hset, routeros_apply_settings_of_lookup hothers, ← (settings_agree hagree).apply_eq]
    refine ⟨rfl, ?_⟩
    by_cases hrequired : ∀ text ∈ profile.required, text ≠ ""
    · exact (routeros_apply_settings_only (settings_carriable hagree hrequired) mgmt_iface).mem perform state
    · rw [← complete_iff_required, Bool.not_eq_true] at hrequired
      rw [routeros_apply_settings, hrequired]
      exact fun call hcall => absurd hcall List.not_mem_nil

end

/-- For every profile and every configuration, the profile is delivered exactly when
nothing that the payload has `None` for is empty, the configuration has sections where
the payload has them, and the fields for which the preloader has a default of its own
are set where they are sent. -/
theorem delivers_iff (py : Builtins) (environ : Environ) (preconfigs : Preconfigs) (sector_code : Value)
    (profile : IspMikrotikPreconfig) (cfg : Dict)
    (hprofile : preconfigs.record_for_sector sector_code = some profile) :
    Delivers py environ preconfigs sector_code profile cfg ↔
      profile.Filled ∧ Accepts cfg ∧ DefaultsAgree profile := by
  constructor
  · intro h
    obtain ⟨hfilled, haccepts⟩ := h.fetched hprofile
    exact ⟨hfilled, haccepts, h.defaultsAgree hprofile⟩
  · rintro ⟨hfilled, haccepts, hagree⟩
    exact delivers_of_agree hprofile hfilled haccepts hagree

/-- `str(value)` and `==` on texts and truth values. -/
def builtins : Builtins where
  str
    | .none => "None"
    | .bool true => "True"
    | .bool false => "False"
    | .str text => text
    | _ => ""
  eq
    | .str first, .str second => first == second
    | _, _ => false

/-- A new profile. -/
def fresh_profile : IspMikrotikPreconfig := { id := 1, is_default := true }

/-- A profile in which everything that is sent is set, but perhaps the lease time. -/
def filled_profile (dhcp_lease_time : CharField) : IspMikrotikPreconfig where
  id := 1
  is_default := true
  mgmt_subnet := some "192.168.88.0/24"
  target_mac := some "B8:69:F4:E8:53:04"
  bootstrap_pass := some "admin"
  routeros_mgmt_pass_value := some "noc"
  allowed_mgmt_ips := some "10.0.0.10"
  dhcp_lease_time := dhcp_lease_time
  call_home_url := some "http://localhost:8069/isp/mikrotik/checkin"
  call_home_token_value := some "token"
  call_home_mac_interface := some "ether1"
  webhook_url := some "http://localhost:8069/isp/mac_onboarding"
  webhook_token_value := some "token"

def preconfigs_with (profile : IspMikrotikPreconfig) : Preconfigs := ⟨[profile], fun _ => none⟩

theorem filled_profile_filled (dhcp_lease_time : CharField) : (filled_profile dhcp_lease_time).Filled := by
  have hinterfaces : _parse_csv (some "ether2,ether3,ether4,wlan1") ≠ [] := by decide
  have hips : _parse_csv (some "10.0.0.10") ≠ [] := by decide
  refine ⟨?_, hinterfaces, hips⟩
  simp [IspMikrotikPreconfig.nullable, filled_profile, getupnet.isp_core.truthy]

theorem delivers_iff_filled : Delivers builtins (fun _ => none) (preconfigs_with (filled_profile (some "1h")))
    (.str "SEC-001") (filled_profile (some "1h")) [] := by
  refine (delivers_iff builtins (fun _ => none) (preconfigs_with (filled_profile (some "1h"))) (.str "SEC-001")
    (filled_profile (some "1h")) [] rfl).mpr ⟨filled_profile_filled (some "1h"), ⟨fun key _ => ⟨[], rfl⟩, nofun⟩, ?_⟩
  exact fun _ => ⟨rfl, nofun⟩

/-- A new profile cannot be fetched, and one without a lease time sends `False`. -/
theorem unset_fields_not_delivered :
    ¬Delivers builtins (fun _ => none) (preconfigs_with fresh_profile) (.str "SEC-001") fresh_profile [] ∧
      ¬Delivers builtins (fun _ => none) (preconfigs_with (filled_profile none)) (.str "SEC-001")
        (filled_profile none) [] := by
  constructor
  · intro h
    have hfilled := (h.fetched rfl).1
    have hsubnet := hfilled.texts none (by decide)
    cases hsubnet
  · intro h
    have hagree := h.defaultsAgree rfl
    have hlease := (hagree (by decide)).1
    cases hlease

end getupnet.mikrotik_preloader.untyped

import Getupnet.Tools.Preloader.Fallback

open python relational

namespace getupnet.mikrotik_preloader.untyped

/-- The configuration for the scan and the onboarding: what the merge has made of the
file when it returns, and the file when fetching or merging raises. -/
def intended (odoo : Odoo) (environ : Environ) (cfg : Dict) : Dict :=
  match (fetch_and_merge odoo environ).exec cfg with
  | (.ok _, merged) => merged
  | (.error _, _) => cfg

def Event.Uses (cfg : Dict) : Event → Prop
  | .scan subnet port => (Value.dict cfg).item "mgmt_subnet" = .ok subnet ∧ api_port_of cfg = .ok port
  | .onboard _ used => used = cfg

/-- Whatever answers, the scan and the onboarding use the configuration that they
should, and the onboarding connects to the port that was scanned. -/
structure UsesConfiguration (odoo : Odoo) (environ : Environ) (file : Value) : Prop where
  uses : ∀ (scan_subnet_for_api : Scan) (event : Event), event ∈ main odoo environ scan_subnet_for_api file →
    ∃ cfg, file = .dict cfg ∧ event.Uses (intended odoo environ cfg)
  connects : ∀ (scan_subnet_for_api : Scan) (subnet port : Value) (ip : String) (used : Dict)
    (connection : Connection), .scan subnet port ∈ main odoo environ scan_subnet_for_api file →
    .onboard ip used ∈ main odoo environ scan_subnet_for_api file →
    routeros_onboard_connect environ ip used = .ok connection → connection.port = port

/-- There is a subnet to scan, in the file or in the preconfiguration. -/
def HasSubnet (cfg preconfig : Dict) : Prop :=
  (cfg.lookup "mgmt_subnet").isSome ∨ ((preconfig.lookup "mgmt_subnet").getD .none).truthy

/-- When everything fits, the port agrees, and otherwise there is nothing new before
what does not fit. -/
def LeavesNothing (cfg preconfig : Dict) : Prop :=
  ((∀ edit ∈ edits preconfig, edit.2.Fits edit.1 cfg) → PortAgrees preconfig cfg) ∧
    ((∃ edit ∈ edits preconfig, ¬edit.2.Fits edit.1 cfg) → StopsBefore cfg (edits preconfig))

section

variable {odoo : Odoo} {environ : Environ} {scan_subnet_for_api : Scan} {cfg fields preconfig : Dict} {port : Value}

/-- The onboarding connects to the port of its configuration. -/
theorem routeros_onboard_connect_port {ip : String} {connection : Connection}
    (h : routeros_onboard_connect environ ip cfg = .ok connection) : api_port_of cfg = .ok connection.port := by
  simp only [routeros_onboard_connect, bind_ok_iff] at h
  obtain ⟨port, hport, _, _, _, _, _, _, _, _, _, _, _, _, h⟩ := h
  cases h
  exact raises_eq_ok_iff.mp hport

theorem scan_and_onboard_uses (hport : api_port_of cfg = .ok port) :
    ∀ event ∈ scan_and_onboard scan_subnet_for_api cfg port, event.Uses cfg := by
  intro event hevent
  rw [scan_and_onboard] at hevent
  split at hevent
  · cases hevent
  · rename_i subnet hsubnet
    obtain rfl | hevent := List.mem_cons.mp hevent
    · exact ⟨hsubnet, hport⟩
    · split at hevent
      · cases hevent
      · split at hevent
        · cases hevent
        · obtain ⟨ip, -, rfl⟩ := List.mem_map.mp hevent
          rfl

/-- Without a subnet the program ends before the scan. -/
theorem scan_and_onboard_no_subnet (h : cfg.lookup "mgmt_subnet" = none) :
    scan_and_onboard scan_subnet_for_api cfg port = [] := by
  rw [scan_and_onboard, Value.item, h]

theorem scan_mem_scan_and_onboard {subnet : Value} (h : cfg.lookup "mgmt_subnet" = some subnet) :
    .scan subnet port ∈ scan_and_onboard scan_subnet_for_api cfg port := by
  rw [scan_and_onboard, Value.item, h]
  exact List.mem_cons_self

/-- What answers the scan is onboarded. -/
theorem onboard_mem_scan_and_onboard {subnet : Value} (h : cfg.lookup "mgmt_subnet" = some subnet)
    (hodoo : cfg.lookup "odoo" = some (.dict fields)) (ip : String) :
    .onboard ip cfg ∈ scan_and_onboard (fun _ _ => .ok [ip]) cfg port := by
  rw [scan_and_onboard, Value.item, h, hodoo]
  simp [Value.get]

/-- Only with a section for the Odoo server is there something to merge. -/
theorem odoo_fetch_preconfig_odoo {payload : Payload} (h : odoo_fetch_preconfig odoo environ cfg = .ok payload)
    (htruthy : payload.1.truthy) : ∃ fields, cfg.lookup "odoo" = some (.dict fields) := by
  rw [odoo_fetch_preconfig, bind_ok_iff] at h
  obtain ⟨fetch_preconfig, hfetch, h⟩ := h
  cases hodoo : cfg.lookup "odoo" with
  | none =>
    rw [hodoo] at hfetch
    cases hfetch
    cases h
    cases htruthy
  | some value =>
    cases value with
    | dict fields => exact ⟨fields, rfl⟩
    | none | bool | int | str | list | other =>
      rw [hodoo] at hfetch
      cases hfetch

/-- What is no dictionary is not merged. -/
theorem merge_preconfig_not_dict {value : Value} (htruthy : value.truthy) (h : ∀ fields, value ≠ .dict fields) :
    (merge_preconfig value).exec cfg = (.error .attribute_error, cfg) := by
  rw [merge_preconfig, if_pos htruthy]
  cases value with
  | dict fields => exact absurd rfl (h fields)
  | none | bool | int | str | list | other => rfl

theorem main_dict (hport : api_port_of cfg = .ok port) :
    main odoo environ scan_subnet_for_api (.dict cfg) =
      scan_and_onboard scan_subnet_for_api ((fetch_and_merge odoo environ).exec cfg).2 port := by
  rw [main, hport]

/-- When the configuration in use is the one that should be, and its port the one that
was read before, everything is as it should be. -/
theorem usesConfiguration_of_eq (hport : api_port_of cfg = .ok port)
    (hcfg : ((fetch_and_merge odoo environ).exec cfg).2 = intended odoo environ cfg)
    (hintended : api_port_of (intended odoo environ cfg) = .ok port) :
    UsesConfiguration odoo environ (.dict cfg) := by
  have hmain : ∀ scan_subnet_for_api, main odoo environ scan_subnet_for_api (.dict cfg) =
      scan_and_onboard scan_subnet_for_api (intended odoo environ cfg) port := by
    intro scan_subnet_for_api
    rw [main_dict hport, hcfg]
  constructor
  · intro scan_subnet_for_api event hevent
    rw [hmain] at hevent
    exact ⟨cfg, rfl, scan_and_onboard_uses hintended event hevent⟩
  · intro scan_subnet_for_api subnet scanned ip used connection hscan honboard hconnect
    rw [hmain] at hscan honboard
    have huses : used = intended odoo environ cfg := scan_and_onboard_uses hintended _ honboard
    have hscanned := (scan_and_onboard_uses hintended _ hscan).2
    have hconnected := routeros_onboard_connect_port hconnect
    rw [huses, hscanned] at hconnected
    exact (Except.ok.inj hconnected).symm

end

section

variable {odoo : Odoo} {environ : Environ} {cfg preconfig : Dict} {port : Value} {payload : Payload}

theorem payload_dict_uniqueKeys (h : payload.1 = .dict preconfig) : Dict.UniqueKeys preconfig := by
  have hkeys := payload.2
  rw [h] at hkeys
  exact hkeys.2

theorem fetch_and_merge_error {failure : Failure} (h : odoo_fetch_preconfig odoo environ cfg = .error failure) :
    (fetch_and_merge odoo environ).exec cfg = (.error failure, cfg) := by
  rw [fetch_and_merge, Method.exec_get_bind, h]
  rfl

theorem fetch_and_merge_nothing (h : odoo_fetch_preconfig odoo environ cfg = .ok payload)
    (hempty : ¬payload.1.truthy) : (fetch_and_merge odoo environ).exec cfg = (.ok (), cfg) := by
  rw [fetch_and_merge, Method.exec_get_bind, h, Method.ofExcept_ok_bind, if_neg hempty]
  rfl

theorem fetch_and_merge_truthy (h : odoo_fetch_preconfig odoo environ cfg = .ok payload)
    (htruthy : payload.1.truthy) :
    (fetch_and_merge odoo environ).exec cfg =
      (raises ((merge_preconfig payload.1).exec cfg).1, ((merge_preconfig payload.1).exec cfg).2) := by
  rw [fetch_and_merge, Method.exec_get_bind, h, Method.ofExcept_ok_bind, if_pos htruthy]
  rfl

/-- The merge has a subnet to leave when there is one. -/
theorem merge_preconfig_hasSubnet_iff (htruthy : (Value.dict preconfig).truthy) :
    (((merge_preconfig (.dict preconfig)).exec cfg).2.lookup "mgmt_subnet").isSome ↔ HasSubnet cfg preconfig := by
  rw [merge_preconfig_mgmt_subnet htruthy, HasSubnet]
  by_cases hsubnet : ((preconfig.lookup "mgmt_subnet").getD .none).truthy
  · rw [if_pos hsubnet]
    cases hfound : preconfig.lookup "mgmt_subnet" with
    | none =>
      rw [hfound] at hsubnet
      cases hsubnet
    | some subnet =>
      rw [hfound] at hsubnet
      exact ⟨fun _ => .inr hsubnet, fun _ => rfl⟩
  · rw [if_neg hsubnet]
    simp [hsubnet]

/-- Nothing is merged from an empty dictionary. -/
theorem leavesNothing_nil (cfg : Dict) : LeavesNothing cfg [] := by
  constructor
  · intro _ entries routeros port hlookup
    cases hlookup
  · rintro ⟨edit, hedit, hfits⟩
    refine absurd ?_ hfits
    simp only [edits, List.lookup_nil, Option.getD_none, List.mem_cons, List.not_mem_nil, or_false] at hedit
    obtain rfl | rfl | rfl | rfl | rfl | rfl | rfl := hedit <;> trivial

/-- The merge leaves what should be in use when it leaves nothing behind. -/
theorem usesConfiguration_of_leavesNothing (hport : api_port_of cfg = .ok port)
    (hfetch : odoo_fetch_preconfig odoo environ cfg = .ok payload) (hpayload : payload.1 = .dict preconfig)
    (htruthy : (Value.dict preconfig).truthy) (h : LeavesNothing cfg preconfig) :
    UsesConfiguration odoo environ (.dict cfg) := by
  obtain ⟨fields, hcfg, -⟩ := api_port_of_eq_ok_iff.mp hport
  have hunique := payload_dict_uniqueKeys hpayload
  have hexec := fetch_and_merge_truthy hfetch (hpayload ▸ htruthy)
  rw [hpayload] at hexec
  cases hresult : ((merge_preconfig (.dict preconfig)).exec cfg).1 with
  | ok _ =>
    have hfits := (merge_preconfig_fits_iff htruthy hunique (node_of_lookup hcfg)).mp hresult
    have hkept := (merge_preconfig_port_iff htruthy hunique hport hresult).mpr (h.1 hfits)
    rw [hresult] at hexec
    have hintended : intended odoo environ cfg = ((merge_preconfig (.dict preconfig)).exec cfg).2 := by
      rw [intended, hexec]
      rfl
    refine usesConfiguration_of_eq hport ?_ (hintended ▸ hkept)
    rw [hexec, hintended]
  | error exception =>
    have hmisfit : ∃ edit ∈ edits preconfig, ¬edit.2.Fits edit.1 cfg := by
      by_contra hall
      push Not at hall
      rw [← merge_preconfig_fits_iff htruthy hunique (node_of_lookup hcfg), hresult] at hall
      cases hall
    obtain ⟨raised, hstops⟩ := (merge_preconfig_stops_iff htruthy hunique hcfg).mpr (h.2 hmisfit)
    rw [hstops] at hexec
    have hintended : intended odoo environ cfg = cfg := by
      rw [intended, hexec]
      rfl
    refine usesConfiguration_of_eq hport ?_ (hintended.symm ▸ hport)
    rw [hexec, hintended]

/-- A program that does nothing uses no wrong configuration. -/
theorem usesConfiguration_of_nil {file : Value}
    (h : ∀ scan_subnet_for_api, main odoo environ scan_subnet_for_api file = []) :
    UsesConfiguration odoo environ file := by
  constructor
  · intro scan_subnet_for_api event hevent
    rw [h] at hevent
    cases hevent
  · intro scan_subnet_for_api subnet scanned ip used connection hscan
    rw [h] at hscan
    cases hscan

/-- When the merge changes nothing, the file is in use. -/
theorem usesConfiguration_of_unchanged (hport : api_port_of cfg = .ok port)
    (h : ((fetch_and_merge odoo environ).exec cfg).2 = cfg) : UsesConfiguration odoo environ (.dict cfg) := by
  have hintended : intended odoo environ cfg = cfg := by
    rw [intended]
    cases hexec : (fetch_and_merge odoo environ).exec cfg with
    | mk result after =>
      rw [hexec] at h
      cases result with
      | ok _ => exact h
      | error failure => rfl
  exact usesConfiguration_of_eq hport (h.trans hintended.symm) (hintended.symm ▸ hport)

/-- What should be in use is in use only when the merge leaves nothing behind: a port that
differs or an entry that was merged before one that does not fit would be seen in what the
program goes by. -/
theorem leavesNothing_of_usesConfiguration (hport : api_port_of cfg = .ok port)
    (hfetch : odoo_fetch_preconfig odoo environ cfg = .ok payload) (hpayload : payload.1 = .dict preconfig)
    (htruthy : (Value.dict preconfig).truthy) (hsubnet : HasSubnet cfg preconfig)
    (h : UsesConfiguration odoo environ (.dict cfg)) : LeavesNothing cfg preconfig := by
  obtain ⟨fields, hcfg, -⟩ := api_port_of_eq_ok_iff.mp hport
  have hunique := payload_dict_uniqueKeys hpayload
  have hpayloadTruthy : payload.1.truthy := hpayload ▸ htruthy
  have hexec := fetch_and_merge_truthy hfetch hpayloadTruthy
  rw [hpayload] at hexec
  obtain ⟨subnet, hsubnet⟩ := Option.isSome_iff_exists.mp ((merge_preconfig_hasSubnet_iff htruthy).mpr hsubnet)
  have hmain := fun scan_subnet_for_api => @main_dict odoo environ scan_subnet_for_api cfg port hport
  simp only [hexec] at hmain
  cases hresult : ((merge_preconfig (.dict preconfig)).exec cfg).1 with
  | ok _ =>
    have hfits := (merge_preconfig_fits_iff htruthy hunique (node_of_lookup hcfg)).mp hresult
    have hscan := h.uses (fun _ _ => .ok []) (.scan subnet port) (by
      rw [hmain]
      exact scan_mem_scan_and_onboard hsubnet)
    obtain ⟨used, hused, -, hscanned⟩ := hscan
    obtain rfl := Value.dict.inj hused
    rw [intended, hexec, hresult] at hscanned
    have hagrees := (merge_preconfig_port_iff htruthy hunique hport hresult).mp hscanned
    exact ⟨fun _ => hagrees, fun ⟨edit, hedit, hmisfit⟩ => absurd (hfits edit hedit) hmisfit⟩
  | error exception =>
    obtain ⟨entries, hodoo⟩ := odoo_fetch_preconfig_odoo hfetch hpayloadTruthy
    have hkept := @merge_preconfig_lookup_of_not_mem cfg preconfig htruthy "odoo" (by simp [edits])
    have honboard := h.uses (fun _ _ => .ok ["router"])
      (.onboard "router" ((merge_preconfig (.dict preconfig)).exec cfg).2) (by
        rw [hmain]
        exact onboard_mem_scan_and_onboard hsubnet (hkept.trans hodoo) "router")
    obtain ⟨used, hused, hsame⟩ := honboard
    obtain rfl := Value.dict.inj hused
    rw [Event.Uses, intended, hexec, hresult] at hsame
    have hstops := (merge_preconfig_stops_iff htruthy hunique hcfg).mp ⟨exception, Prod.ext hresult hsame⟩
    refine ⟨fun hfits => ?_, fun _ => hstops⟩
    rw [← merge_preconfig_fits_iff htruthy hunique (node_of_lookup hcfg), hresult] at hfits
    cases hfits

/-- For every configuration file and every answer of the server, the program uses the
configuration that it should exactly when no preconfiguration with a subnet leaves
anything behind: the port it brings is the one of the file, and when something does
not fit, there is nothing new before it. -/
theorem uses_configuration_iff (odoo : Odoo) (environ : Environ) (file : Value) :
    UsesConfiguration odoo environ file ↔ ∀ (cfg preconfig : Dict) (port : Value) (payload : Payload),
      file = .dict cfg → api_port_of cfg = .ok port → odoo_fetch_preconfig odoo environ cfg = .ok payload →
        payload.1 = .dict preconfig → HasSubnet cfg preconfig → LeavesNothing cfg preconfig := by
  constructor
  · rintro h cfg preconfig port payload rfl hport hfetch hpayload hsubnet
    by_cases htruthy : (Value.dict preconfig).truthy
    · exact leavesNothing_of_usesConfiguration hport hfetch hpayload htruthy hsubnet h
    · rw [Value.truthy, Bool.not_eq_true, Bool.not_eq_false', List.isEmpty_iff] at htruthy
      rw [htruthy]
      exact leavesNothing_nil cfg
  · intro h
    by_cases hdict : ∃ cfg, file = .dict cfg
    · obtain ⟨cfg, rfl⟩ := hdict
      cases hport : api_port_of cfg with
      | error exception =>
        refine usesConfiguration_of_nil fun scan_subnet_for_api => ?_
        rw [main, hport]
      | ok port =>
        cases hfetch : odoo_fetch_preconfig odoo environ cfg with
        | error failure =>
          refine usesConfiguration_of_unchanged hport ?_
          rw [fetch_and_merge_error hfetch]
        | ok payload =>
          by_cases htruthy : payload.1.truthy
          · have hexec := fetch_and_merge_truthy hfetch htruthy
            by_cases hpayload : ∃ preconfig, payload.1 = .dict preconfig
            · obtain ⟨preconfig, hpayload⟩ := hpayload
              rw [hpayload] at htruthy hexec
              by_cases hsubnet : HasSubnet cfg preconfig
              · have hleaves := h cfg preconfig port payload rfl hport hfetch hpayload hsubnet
                exact usesConfiguration_of_leavesNothing hport hfetch hpayload htruthy hleaves
              · refine usesConfiguration_of_nil fun scan_subnet_for_api => ?_
                rw [← merge_preconfig_hasSubnet_iff htruthy, Bool.not_eq_true, Option.isSome_eq_false_iff,
                  Option.isNone_iff_eq_none] at hsubnet
                rw [main_dict hport, hexec]
                exact scan_and_onboard_no_subnet hsubnet
            · refine usesConfiguration_of_unchanged hport ?_
              rw [hexec, merge_preconfig_not_dict htruthy fun fields hfields => hpayload ⟨fields, hfields⟩]
          · refine usesConfiguration_of_unchanged hport ?_
            rw [fetch_and_merge_nothing hfetch htruthy]
    · refine usesConfiguration_of_nil fun scan_subnet_for_api => ?_
      cases file with
      | dict cfg => exact absurd ⟨cfg, rfl⟩ hdict
      | none | bool | int | str | list | other => rfl

end

/-- A server that answers with a preconfiguration for every sector. -/
def answering (preconfig : Payload) : Odoo where
  authenticate _ _ _ _ := .ok (.int 2)
  execute_kw _ _ _ _ _ _ _ := .ok preconfig

def admin_pass : Environ := fun name => if name = "ODOO_ADMIN_PASS" then some "admin" else none

/-- A configuration file with a given section for the webhook. -/
def file_with (webhook : Value) : Dict :=
  [("sector_code", .str "SEC-001"), ("mgmt_subnet", .str "192.168.88.0/24"),
    ("routeros", .dict [("api_port", .int 8728), ("mgmt_user", .str "odoo_noc"), ("mgmt_pass_value", .str "noc")]),
    ("webhook", webhook),
    ("odoo", .dict [("fetch_preconfig", .bool true), ("url", .str "http://localhost:8069"), ("db", .str "odoo"),
      ("user", .str "admin"), ("pass_env", .str "ODOO_ADMIN_PASS")])]

/-- A preconfiguration with a given port. -/
def preconfig_with (api_port : Int) : Payload :=
  ⟨.dict [("routeros", .dict [("api_port", .int api_port)]), ("webhook", .dict [("enabled", .bool true)])],
    by simp [Value.UniqueKeys, Dict.UniqueKeys, entryUniqueKeys]⟩

/-- With another port in the preconfiguration, the old one is scanned; and with a text
for the webhook in the file, the merge raises after it has changed the port. -/
theorem port_read_too_early :
    ¬UsesConfiguration (answering (preconfig_with 8729)) admin_pass (.dict (file_with (.dict []))) ∧
      ¬UsesConfiguration (answering (preconfig_with 8729)) admin_pass (.dict (file_with (.str "on"))) := by
  constructor
  · intro h
    obtain ⟨cfg, hcfg, -, hport⟩ := h.uses (fun _ _ => .ok []) (.scan (.str "192.168.88.0/24") (.int 8728))
      List.mem_cons_self
    obtain rfl := Value.dict.inj hcfg
    have hmerged : api_port_of (intended (answering (preconfig_with 8729)) admin_pass (file_with (.dict []))) =
        .ok (.int 8729) := rfl
    rw [hmerged] at hport
    cases hport
  · intro h
    let odoo := answering (preconfig_with 8729)
    let file := file_with (.str "on")
    let used := ((fetch_and_merge odoo admin_pass).exec file).2
    obtain ⟨cfg, hcfg, hsame⟩ := h.uses (fun _ _ => .ok ["192.168.88.1"]) (.onboard "192.168.88.1" used)
      (List.mem_cons_of_mem _ List.mem_cons_self)
    obtain rfl := Value.dict.inj hcfg
    have hused : api_port_of used = .ok (.int 8729) := rfl
    have hintended : api_port_of (intended odoo admin_pass file) = .ok (.int 8728) := rfl
    have hport := congrArg api_port_of hsame
    rw [hused, hintended] at hport
    cases hport

end getupnet.mikrotik_preloader.untyped

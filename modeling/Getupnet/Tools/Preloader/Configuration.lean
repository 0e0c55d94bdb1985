import Getupnet.Tools.Preloader.Steps

open interaction relational

namespace getupnet.mikrotik_preloader

/-- The interfaces that neighbor discovery is opened on: those configured, or
else the management interface. -/
def discovered (ip : String) (cfg : Config) (router : Router) : List String :=
  if cfg.routeros.discovery_interfaces.isEmpty then
    if ((mgmt_iface ip router).getD "").isEmpty then [] else [(mgmt_iface ip router).getD ""]
  else
    cfg.routeros.discovery_interfaces

def member_step (interface : String) : Router → Router :=
  link_step .interface_list_member "list" "LAN" interface

/-- A step of neighbor discovery, which is left out without interfaces. -/
def discovery_step (ip : String) (cfg : Config) (step : Router → Router) (router : Router) : Router :=
  if (discovered ip cfg router).isEmpty then router else step router

/-- The step for the management interface, where none is configured. -/
def guess_step (ip : String) (cfg : Config) (router : Router) : Router :=
  replay ((discovered ip cfg router).map member_step) router

def member_steps (ip : String) (cfg : Config) : List (Router → Router) :=
  if cfg.routeros.discovery_interfaces.isEmpty then [guess_step ip cfg]
  else cfg.routeros.discovery_interfaces.map member_step

def setting_steps (ip : String) (cfg : Config) : List (Router → Router) :=
  [discovery_step ip cfg (Router.assign .discovery_settings [("discover-interface-list", "LAN")]),
    discovery_step ip cfg (Router.assign .mac_server [("allowed-interface-list", "LAN")]),
    discovery_step ip cfg (Router.assign .mac_winbox [("allowed-interface-list", "LAN")])]

def discovery_steps (ip : String) (cfg : Config) : List (Router → Router) :=
  discovery_step ip cfg (ensure_step .interface_list "name" "LAN" [("name", "LAN")]) ::
    (member_steps ip cfg ++ setting_steps ip cfg)

variable {ip : String} {cfg : Config} {router : Router}

theorem mgmt_iface_congr {other : Router} (h : other.tables .address = router.tables .address) :
    mgmt_iface ip other = mgmt_iface ip router := by
  rw [mgmt_iface, mgmt_iface, h]

theorem discovered_congr {other : Router} (h : other.tables .address = router.tables .address) :
    discovered ip cfg other = discovered ip cfg router := by
  rw [discovered, discovered, mgmt_iface_congr h]

theorem discovered_of_configured (h : cfg.routeros.discovery_interfaces.isEmpty = false) :
    discovered ip cfg router = cfg.routeros.discovery_interfaces := by
  rw [discovered, h, if_neg Bool.false_ne_true]

theorem Spares.discovery_step {path : Path} {step : Router → Router} (h : Spares path step) :
    Spares path (discovery_step ip cfg step) := by
  intro router
  rw [mikrotik_preloader.discovery_step]
  split
  · rfl
  · exact h router

private theorem discovery_step_performs {program : Session Unit} {step : Router → Router}
    (hdiscovered : (discovered ip cfg router).isEmpty = false)
    (h : program.Performs mikrotik router [step] ()) :
    program.Performs mikrotik router [discovery_step ip cfg step] () := by
  refine h.congr ?_
  rw [discovery_step, hdiscovered, if_neg Bool.false_ne_true]

theorem Spares.members {path : Path} (h : path ≠ .interface_list_member) (interfaces : List String) :
    Spares path (interaction.replay (interfaces.map member_step)) := by
  refine Spares.replay fun step hmem => ?_
  obtain ⟨interface, _, rfl⟩ := List.mem_map.mp hmem
  exact Spares.link_step h _ _ _

theorem forEach_member_performs (interfaces : List String) (router : Router) :
    (Program.forEach (routeros_ensure_interface_list_member "LAN") interfaces).Performs mikrotik router
      (interfaces.map member_step) () := by
  rw [List.map_eq_flatMap]
  refine @Program.Performs.forEach _ _ _ _ _ _ _ _ (fun _ => True) _ ?_ (fun _ _ _ _ => trivial) _ trivial
  intro interface _ state _
  exact routeros_ensure_link_performs (by decide) (by decide) _ _ _ state

/-- Without interfaces there is nothing to do. -/
theorem discovery_steps_fixed (h : discovered ip cfg router = []) :
    ∀ step ∈ discovery_steps ip cfg, Function.IsFixedPt step router := by
  have hleft : ∀ step, Function.IsFixedPt (discovery_step ip cfg step) router := by
    intro step
    refine if_pos ?_
    rw [h]
    rfl
  intro step hmem
  simp only [discovery_steps, setting_steps, List.mem_cons, List.mem_append, List.not_mem_nil, or_false] at hmem
  obtain rfl | hmember | rfl | rfl | rfl := hmem
  · exact hleft _
  · rw [member_steps] at hmember
    split at hmember
    · rw [List.mem_singleton.mp hmember]
      refine congrArg (fun interfaces => replay (interfaces.map member_step) router) h
    · rename_i hconfigured
      rw [discovered_of_configured (by simpa using hconfigured)] at h
      rw [h] at hmember
      cases hmember
  · exact hleft _
  · exact hleft _
  · exact hleft _

private theorem member_steps_performs (hdiscovered : (discovered ip cfg router).isEmpty = false) :
    (Program.forEach (routeros_ensure_interface_list_member "LAN") (discovered ip cfg router)).Performs mikrotik router
      (member_steps ip cfg) () := by
  have hmembers := forEach_member_performs (discovered ip cfg router) router
  rw [member_steps]
  split
  · rename_i hguess
    have hone : ∃ interface, discovered ip cfg router = [interface] := by
      rw [discovered, if_pos hguess] at hdiscovered ⊢
      split at hdiscovered
      · cases hdiscovered
      · rename_i hiface
        exact ⟨_, if_neg hiface⟩
    obtain ⟨interface, hinterface⟩ := hone
    rw [hinterface] at hmembers ⊢
    refine hmembers.congr ?_
    rw [guess_step, hinterface]
    rfl
  · rename_i hconfigured
    rw [discovered_of_configured (by simpa using hconfigured)] at hmembers ⊢
    exact hmembers

theorem Spares.member_steps {path : Path} (h : path ≠ .interface_list_member) :
    ∀ step ∈ member_steps ip cfg, Spares path step := by
  intro step hmem
  rw [mikrotik_preloader.member_steps] at hmem
  split at hmem
  · rw [List.mem_singleton.mp hmem]
    exact fun router => Spares.members h (discovered ip cfg router) router
  · obtain ⟨interface, _, rfl⟩ := List.mem_map.mp hmem
    exact Spares.link_step h _ _ _

/-- The setting steps leave the tables alone. -/
theorem setting_step_tables (menu : Menu) (words : List (String × String)) (router : Router) :
    (discovery_step ip cfg (Router.assign menu words) router).tables = router.tables := by
  rw [discovery_step]
  split <;> rfl

private theorem setting_steps_performs (hdiscovered : (discovered ip cfg router).isEmpty = false) :
    (do
      routeros_try_assign .discovery_settings [("discover-interface-list", "LAN")]
      routeros_try_assign .mac_server [("allowed-interface-list", "LAN")]
      routeros_try_assign .mac_winbox [("allowed-interface-list", "LAN")] : Session Unit).Performs mikrotik router
      (setting_steps ip cfg) () := by
  have hassign : ∀ menu words (state : Router), (discovered ip cfg state).isEmpty = false →
      (routeros_try_assign menu words).Performs mikrotik state [discovery_step ip cfg (Router.assign menu words)] () :=
    fun menu words state hstate => discovery_step_performs hstate (routeros_try_assign_performs menu words state)
  have hkept : ∀ menu words (state : Router), (discovered ip cfg state).isEmpty = false →
      (discovered ip cfg (discovery_step ip cfg (Router.assign menu words) state)).isEmpty = false := by
    intro menu words state hstate
    rw [discovered_congr (congrFun (setting_step_tables menu words state) _)]
    exact hstate
  have hfirst := hkept .discovery_settings [("discover-interface-list", "LAN")] router hdiscovered
  have hsecond := hkept .mac_server [("allowed-interface-list", "LAN")] _ hfirst
  exact (hassign _ _ router hdiscovered).bind ((hassign _ _ _ hfirst).bind (hassign _ _ _ hsecond))

theorem routeros_onboard_discovery_performs (ip : String) (cfg : Config) (router : Router) :
    (routeros_onboard_discovery ip cfg).Performs mikrotik router (discovery_steps ip cfg) () := by
  have hopen : (routeros_ensure_neighbor_discovery (discovered ip cfg router)).Performs mikrotik router
      (discovery_steps ip cfg) () := by
    rw [routeros_ensure_neighbor_discovery]
    cases hdiscovered : (discovered ip cfg router).isEmpty with
    | true =>
      have hnone := List.isEmpty_iff.mp hdiscovered
      exact (Program.Performs.pure router ()).of_replay (replay_fixed (discovery_steps_fixed hnone))
    | false =>
      have hlist : (routeros_ensure_interface_list "LAN").Performs mikrotik router
          [discovery_step ip cfg (ensure_step .interface_list "name" "LAN" [("name", "LAN")])] () :=
        discovery_step_performs hdiscovered (routeros_ensure_performs (by decide) (by decide) _ _ _ router)
      refine hlist.bind ?_
      rw [replay_cons, replay_nil]
      generalize hlisted :
        discovery_step ip cfg (ensure_step .interface_list "name" "LAN" [("name", "LAN")]) router = listed
      have haddress : listed.tables .address = router.tables .address := by
        rw [← hlisted]
        exact Spares.discovery_step (Spares.alter (by decide) _) router
      rw [← discovered_congr haddress] at hdiscovered ⊢
      refine (member_steps_performs hdiscovered).bind (setting_steps_performs ?_)
      rw [discovered_congr (Spares.replay (Spares.member_steps (by decide)) listed)]
      exact hdiscovered
  rw [routeros_onboard_discovery]
  cases hconfigured : cfg.routeros.discovery_interfaces.isEmpty with
  | true =>
    refine (routeros_get_mgmt_interface_performs ip router).bind ?_
    rw [discovered, hconfigured, if_pos rfl] at hopen
    exact hopen
  | false =>
    rw [discovered_of_configured hconfigured] at hopen
    exact hopen

/-- The lease script, where its configuration is in order. -/
def lease_script_of (cfg : Config) (environ : Environ) : Option String :=
  (build_lease_script cfg environ).toOption.join

def lan_steps (ip : String) (rcfg : SectorConfig) : List (Router → Router) :=
  when rcfg.enable_dhcp_client_wan
      (ensure_step .dhcp_client "interface" rcfg.wan_interface [("interface", rcfg.wan_interface), ("disabled", "no"),
        ("add-default-route", "yes"), ("use-peer-dns", "yes"), ("comment", "ISP-WAN")]) ::
    bridge_step rcfg.lan_bridge :: rcfg.lan_ports.map (port_step ip rcfg.lan_bridge)

def address_step (rcfg : SectorConfig) : Router → Router :=
  ensure_step .address "address" rcfg.lan_address
    [("address", rcfg.lan_address), ("interface", rcfg.lan_bridge)]

/-- The steps after the LAN address. -/
def service_steps (cfg : Config) (environ : Environ) (rcfg : SectorConfig) : List (Router → Router) :=
  [entry_step .pool "name" rcfg.dhcp_pool [("ranges", rcfg.dhcp_range)],
    entry_step .dhcp_server "name" rcfg.dhcp_server
      [("interface", rcfg.lan_bridge), ("address-pool", rcfg.dhcp_pool), ("lease-time", rcfg.dhcp_lease_time)],
    entry_step .dhcp_network "address" rcfg.dhcp_network
      [("gateway", rcfg.gateway), ("dns-server", text_or rcfg.dns_server rcfg.gateway)],
    when (!rcfg.dns_server.isEmpty)
      (Router.assign .dns [("servers", rcfg.dns_server), ("allow-remote-requests", "yes")]),
    when rcfg.enable_nat (ensure_step .nat "comment" "ISP-NAT" [("chain", "srcnat"),
      ("out-interface", rcfg.wan_interface), ("action", "masquerade"), ("comment", "ISP-NAT")]),
    when rcfg.enable_hotspot (entry_step .hotspot_profile "name" rcfg.hotspot_profile
      [("dns-name", rcfg.hotspot_dns_name), ("login-by", rcfg.hotspot_login_by),
        ("html-directory", rcfg.hotspot_html_dir)]),
    when rcfg.enable_hotspot (entry_step .hotspot "name" rcfg.hotspot_server
      [("interface", rcfg.lan_bridge), ("address-pool", rcfg.dhcp_pool), ("profile", rcfg.hotspot_profile)]),
    when (rcfg.enable_hotspot && !rcfg.hotspot_walled_garden.isEmpty)
      (ensure_step .walled_garden "comment" "ISP-WALLED-GARDEN"
        [("dst-host", rcfg.hotspot_walled_garden), ("comment", "ISP-WALLED-GARDEN")]),
    when (!(((lease_script_of cfg environ).getD "").isEmpty && !cfg.webhook.clear_lease_script_on_disable))
      (amend_step .dhcp_server rcfg.dhcp_server [("lease-script", (lease_script_of cfg environ).getD "")])]

/-- The sector configuration that is applied, if any. -/
def applied_config (cfg : Config) : Option SectorConfig :=
  if cfg.routeros.apply_sector_config then cfg.routeros.config else none

def sector_steps (ip : String) (cfg : Config) (environ : Environ) : List (Router → Router) :=
  match applied_config cfg with
  | none => []
  | some rcfg => lan_steps ip rcfg ++ address_step rcfg :: service_steps cfg environ rcfg

def call_home_source (cfg : Config) (environ : Environ) : String :=
  (build_call_home_script cfg environ).toOption.getD ""

def call_home_steps (cfg : Config) (environ : Environ) : List (Router → Router) :=
  [when (cfg.call_home.enabled && !(call_home_source cfg environ).isEmpty)
      (entry_step .script "name" cfg.call_home.script_name
        [("source", call_home_source cfg environ), ("policy", "read,write,test")]),
    when cfg.call_home.enabled
      (entry_step .scheduler "name" (cfg.call_home.scheduler_name.getD cfg.call_home.script_name)
        [("interval", cfg.call_home.interval), ("on-event", "/system/script/run name=" ++ cfg.call_home.script_name),
          ("start-time", "startup"), ("disabled", "no")])]

/-- The steps of a whole run. -/
def configuration_steps (ip : String) (cfg : Config) (environ : Environ) : List (Router → Router) :=
  discovery_steps ip cfg ++ (firewall_steps cfg environ ++
    (sector_steps ip cfg environ ++ call_home_steps cfg environ))

/-- A sector configuration with every value it needs. -/
structure SectorConfig.Valid (cfg : Config) (environ : Environ) (rcfg : SectorConfig) : Prop where
  complete : rcfg.complete = true
  hotspot : rcfg.enable_hotspot = true → rcfg.hotspot_dns_name.isEmpty = false
  lease_script : ∃ script, build_lease_script cfg environ = .ok script

/-- A configuration on which no check of the code fails. -/
structure Config.Valid (cfg : Config) (environ : Environ) : Prop where
  sector : ∀ rcfg, applied_config cfg = some rcfg → SectorConfig.Valid cfg environ rcfg
  call_home : cfg.call_home.enabled = true → ∃ source, build_call_home_script cfg environ = .ok source

private theorem lan_port_performs (rcfg : SectorConfig) (port : String) (router : Router) :
    (routeros_apply_lan_port (mgmt_iface ip router) rcfg.lan_bridge port).Performs mikrotik router
      [port_step ip rcfg.lan_bridge port] () := by
  rw [routeros_apply_lan_port]
  cases hskip : !((mgmt_iface ip router).getD "").isEmpty && mgmt_iface ip router == some port with
  | true =>
    refine (Program.Performs.pure router ()).skip (if_pos hskip)
  | false =>
    refine (routeros_ensure_link_performs (by decide) (by decide) _ _ _ router).congr ?_
    rw [port_step, hskip, if_neg Bool.false_ne_true]

theorem lan_ports_performs (rcfg : SectorConfig) (router : Router) :
    (Program.forEach (routeros_apply_lan_port (mgmt_iface ip router) rcfg.lan_bridge) rcfg.lan_ports).Performs
      mikrotik router (rcfg.lan_ports.map (port_step ip rcfg.lan_bridge)) () := by
  rw [List.map_eq_flatMap]
  refine @Program.Performs.forEach _ _ _ _ _ _ _ _
    (fun reached => mgmt_iface ip reached = mgmt_iface ip router) _ ?_ ?_ _ rfl
  · intro port _ state hstate
    rw [← hstate]
    exact lan_port_performs rcfg port state
  · intro port _ state hstate
    rw [← hstate]
    exact mgmt_iface_congr (Spares.port_step (by decide) _ _ _ _)

private theorem hotspot_performs {environ : Environ} {rcfg : SectorConfig}
    (hvalid : SectorConfig.Valid cfg environ rcfg) (router : Router) :
    (routeros_apply_hotspot rcfg).Performs mikrotik router
      [when rcfg.enable_hotspot (entry_step .hotspot_profile "name" rcfg.hotspot_profile
        [("dns-name", rcfg.hotspot_dns_name), ("login-by", rcfg.hotspot_login_by),
          ("html-directory", rcfg.hotspot_html_dir)]),
      when rcfg.enable_hotspot (entry_step .hotspot "name" rcfg.hotspot_server
        [("interface", rcfg.lan_bridge), ("address-pool", rcfg.dhcp_pool), ("profile", rcfg.hotspot_profile)]),
      when (rcfg.enable_hotspot && !rcfg.hotspot_walled_garden.isEmpty)
        (ensure_step .walled_garden "comment" "ISP-WALLED-GARDEN"
          [("dst-host", rcfg.hotspot_walled_garden), ("comment", "ISP-WALLED-GARDEN")])] () := by
  rw [routeros_apply_hotspot]
  cases hhotspot : rcfg.enable_hotspot with
  | false =>
    refine (Program.Performs.pure router ()).of_replay (replay_fixed ?_)
    simp [Function.isFixedPt_id]
  | true =>
    have hname := hvalid.hotspot hhotspot
    simp only [hname, Bool.true_and, if_true, Bool.false_eq_true, if_false, when_true]
    refine Program.Performs.bind (routeros_ensure_named_performs (by decide) (by decide) _ _ router) ?_
    refine Program.Performs.bind (routeros_ensure_named_performs (by decide) (by decide) _ _ _) ?_
    exact Program.Performs.optional fun _ => routeros_ensure_performs (by decide) (by decide) _ _ _ _

/-- Once ensured, the DHCP server is there for its lease script. -/
theorem service_steps_server (cfg : Config) (environ : Environ) (rcfg : SectorConfig) (router : Router) :
    ((replay ((service_steps cfg environ rcfg).take 8) router).tables .dhcp_server).has
      (Fields.is "name" rcfg.dhcp_server) = true := by
  have hspare : ∀ step : Router → Router, Spares .dhcp_server step → ∀ state : Router,
      (state.tables .dhcp_server).has (Fields.is "name" rcfg.dhcp_server) = true →
      ((step state).tables .dhcp_server).has (Fields.is "name" rcfg.dhcp_server) = true :=
    fun step hstep state hstate => by rw [hstep state]; exact hstate
  have hserver : ∀ state : Router, ((entry_step .dhcp_server "name" rcfg.dhcp_server
      [("interface", rcfg.lan_bridge), ("address-pool", rcfg.dhcp_pool), ("lease-time", rcfg.dhcp_lease_time)]
      state).tables .dhcp_server).has (Fields.is "name" rcfg.dhcp_server) = true := by
    intro state
    obtain ⟨entry, hentry, _⟩ := @entry_step_ensured
      [("interface", rcfg.lan_bridge), ("address-pool", rcfg.dhcp_pool), ("lease-time", rcfg.dhcp_lease_time)]
      "name" rfl .dhcp_server rcfg.dhcp_server state
    exact Listing.has_of_first hentry
  refine @replay_establishes _ (fun _ => True)
    (fun state : Router => (state.tables .dhcp_server).has (Fields.is "name" rcfg.dhcp_server) = true) _ _
    (List.mem_cons_of_mem _ List.mem_cons_self) (fun _ _ _ _ => trivial) (fun state _ => hserver state) ?_ router
    trivial
  intro step hmem
  simp only [List.take_succ_cons, List.take_zero, List.mem_cons, List.not_mem_nil, or_false] at hmem
  obtain rfl | rfl | rfl | rfl | rfl | rfl | rfl | rfl := hmem
  · exact hspare _ (Spares.alter (by decide) _)
  · exact fun state _ => hserver state
  · exact hspare _ (Spares.alter (by decide) _)
  · exact hspare _ ((Spares.assign _ _ _).when _)
  · exact hspare _ (Spares.when (Spares.alter (by decide) _) _)
  · exact hspare _ (Spares.when (Spares.alter (by decide) _) _)
  · exact hspare _ (Spares.when (Spares.alter (by decide) _) _)
  · exact hspare _ (Spares.when (Spares.alter (by decide) _) _)

private theorem services_perform {environ : Environ} {rcfg : SectorConfig}
    (hvalid : SectorConfig.Valid cfg environ rcfg) (router : Router) :
    (do
      routeros_ensure_ip_pool rcfg.dhcp_pool rcfg.dhcp_range
      routeros_ensure_dhcp_server rcfg.dhcp_server rcfg.lan_bridge rcfg.dhcp_pool rcfg.dhcp_lease_time
      routeros_ensure_dhcp_network rcfg.dhcp_network rcfg.gateway (text_or rcfg.dns_server rcfg.gateway)
      if !rcfg.dns_server.isEmpty then
        routeros_ensure_dns rcfg.dns_server
      if rcfg.enable_nat then
        routeros_ensure_nat_masquerade rcfg.wan_interface "ISP-NAT"
      routeros_apply_hotspot rcfg
      let lease_script ← Program.ofExcept (build_lease_script cfg environ)
      routeros_set_dhcp_lease_script rcfg.dhcp_server lease_script cfg.webhook.clear_lease_script_on_disable :
        Session Unit).Performs mikrotik router (service_steps cfg environ rcfg) () := by
  obtain ⟨script, hscript⟩ := hvalid.lease_script
  have hof : lease_script_of cfg environ = script := by rw [lease_script_of, hscript]; rfl
  refine (routeros_ensure_ip_pool_performs _ _ router).bind ?_
  refine Program.Performs.bind (routeros_ensure_named_performs (by decide) (by decide) _ _ _) ?_
  refine Program.Performs.bind (routeros_ensure_entry_performs (by decide) (by decide) _ _ _ _) ?_
  refine Program.Performs.optional_bind (fun _ => ignored (assign_performs _ _ _)) ?_
  refine Program.Performs.optional_bind (fun _ => routeros_ensure_performs (by decide) (by decide) _ _ _ _) ?_
  refine Program.Performs.bind (hotspot_performs hvalid _) ?_
  rw [hscript, hof]
  exact routeros_set_dhcp_lease_script_performs (service_steps_server cfg environ rcfg router) _ _

theorem routeros_apply_sector_config_performs {environ : Environ} (hvalid : Config.Valid cfg environ)
    (happly : cfg.routeros.apply_sector_config = true) (router : Router) :
    (routeros_apply_sector_config cfg environ (mgmt_iface ip router)).Performs mikrotik router
      (sector_steps ip cfg environ) () := by
  have hsector := hvalid.sector
  rw [applied_config, happly, if_pos rfl] at hsector
  rw [routeros_apply_sector_config, sector_steps, applied_config, happly, if_pos rfl]
  cases hconfig : cfg.routeros.config with
  | none => exact .pure router ()
  | some rcfg =>
    have hrcfg := hsector rcfg hconfig
    simp only [hrcfg.complete, Bool.not_true, Bool.false_eq_true, if_false]
    refine Program.Performs.optional_bind
      (fun _ => routeros_ensure_performs (by decide) (by decide) _ _ _ router) ?_
    refine @Program.Performs.bind _ _ _ _ _ _ _ _ _ [_] _ _ _ _ (routeros_ensure_bridge_performs _ _) ?_
    generalize hbridged : replay [bridge_step rcfg.lan_bridge] _ = bridged
    have haddress : mgmt_iface ip bridged = mgmt_iface ip router := by
      refine mgmt_iface_congr ?_
      rw [← hbridged, replay_cons, replay_nil, Spares.bridge_step (by decide) (by decide)]
      exact Spares.when (Spares.alter (by decide) _) _ router
    rw [← haddress]
    refine (lan_ports_performs rcfg bridged).bind ?_
    refine @Program.Performs.bind _ _ _ _ _ _ _ _ _ [address_step rcfg] _ _ _ _
      (routeros_ensure_performs (by decide) (by decide) _ _ _ _) ?_
    exact services_perform hrcfg _

theorem routeros_onboard_sector_performs {environ : Environ} (hvalid : Config.Valid cfg environ)
    (ip mgmt_pass : String)
    (router : Router) :
    (routeros_onboard_sector ip cfg environ mgmt_pass).Performs mikrotik router (sector_steps ip cfg environ) () := by
  rw [routeros_onboard_sector]
  cases happly : cfg.routeros.apply_sector_config with
  | false =>
    have hnone : sector_steps ip cfg environ = [] := by
      rw [sector_steps, applied_config, happly, if_neg Bool.false_ne_true]
    rw [hnone]
    exact .pure router ()
  | true =>
    refine (routeros_get_mgmt_interface_performs ip router).bind ?_
    exact (routeros_apply_sector_config_performs hvalid happly router).attempt _

theorem routeros_apply_call_home_performs {environ : Environ} (hvalid : Config.Valid cfg environ)
    (router : Router) :
    (routeros_apply_call_home cfg environ).Performs mikrotik router (call_home_steps cfg environ) () := by
  rw [routeros_apply_call_home, call_home_steps]
  cases henabled : cfg.call_home.enabled with
  | false =>
    refine (Program.Performs.pure router ()).of_replay (replay_fixed ?_)
    simp [Function.isFixedPt_id]
  | true =>
    obtain ⟨source, hsource⟩ := hvalid.call_home henabled
    have hof : call_home_source cfg environ = source := by rw [call_home_source, hsource]; rfl
    rw [hof, hsource, Bool.true_and, when_true]
    have hscript : ∀ state, (routeros_ensure_script cfg.call_home.script_name source "read,write,test").Performs
        mikrotik state [when (!source.isEmpty) (entry_step .script "name" cfg.call_home.script_name
          [("source", source), ("policy", "read,write,test")])] () :=
      fun state => Program.Performs.optional fun _ =>
        routeros_ensure_entry_performs (by decide) (by decide) _ _ _ state
    have hrun : ∀ state : Router, (exceptRouteros (do let _ ← api_exec (.run cfg.call_home.script_name))
        (pure ())).Performs mikrotik state [] () := by
      intro state
      refine Program.Performs.tolerated ?_ ?_
      · change (perform state (.run cfg.call_home.script_name)).2 = state
        rw [perform]
        split <;> rfl
      · intro exception hexception
        change (perform state (.run cfg.call_home.script_name)).1 = _ at hexception
        rw [perform] at hexception
        split at hexception
        · cases hexception
        · cases hexception
          rfl
    refine (hscript router).bind ?_
    refine Program.Performs.bind (routeros_ensure_entry_performs (by decide) (by decide) _ _ _ _) ?_
    exact hrun _

/-- A run with a valid configuration takes the steps of its configuration. -/
theorem routeros_onboard_configuration_performs {environ : Environ} (hvalid : Config.Valid cfg environ)
    (ip mgmt_pass : String) (router : Router) :
    (routeros_onboard_configuration ip cfg environ mgmt_pass).Performs mikrotik router
      (configuration_steps ip cfg environ) () := by
  refine (routeros_onboard_discovery_performs ip cfg router).bind ?_
  refine (routeros_onboard_firewall_performs cfg environ _).bind ?_
  refine (routeros_onboard_sector_performs hvalid ip mgmt_pass _).bind ?_
  exact routeros_apply_call_home_performs hvalid _

private theorem sector_valid_of_returns {environ : Environ} {mgmt_iface : Option String} {rcfg : SectorConfig}
    (hconfig : cfg.routeros.config = some rcfg)
    (h : Program.Returns perform (routeros_apply_sector_config cfg environ mgmt_iface)) :
    SectorConfig.Valid cfg environ rcfg := by
  rw [routeros_apply_sector_config, hconfig] at h
  obtain ⟨hcomplete, h⟩ := h.of_optional
  obtain ⟨_, h⟩ := h.of_optional
  obtain ⟨_, _, h⟩ := h.of_bind
  obtain ⟨_, _, h⟩ := h.of_bind
  obtain ⟨_, _, h⟩ := h.of_bind
  obtain ⟨_, _, h⟩ := h.of_bind
  obtain ⟨_, _, h⟩ := h.of_bind
  obtain ⟨_, _, h⟩ := h.of_bind
  obtain ⟨_, h⟩ := h.of_optional
  obtain ⟨_, h⟩ := h.of_optional
  obtain ⟨hhotspot, _, h⟩ := h.of_bind
  obtain ⟨hlease, _⟩ := h.of_bind
  refine ⟨?_, ?_, hlease.of_ofExcept⟩
  · by_contra hnot
    exact Program.not_returns_raises _ _ (hcomplete (by simpa using hnot))
  · intro henabled
    rw [routeros_apply_hotspot, henabled, if_pos rfl] at hhotspot
    by_contra hnot
    rw [Bool.not_eq_false] at hnot
    exact Program.not_returns_raises _ _ (hhotspot.of_optional.1 hnot)

/-- A configuration with which some run completes is valid. -/
theorem valid_of_returns {environ : Environ} {ip mgmt_pass : String}
    (h : Program.Returns perform (routeros_onboard_configuration ip cfg environ mgmt_pass)) :
    Config.Valid cfg environ := by
  obtain ⟨_, _, h⟩ := h.of_bind
  obtain ⟨_, _, h⟩ := h.of_bind
  obtain ⟨hsector, _, hcall⟩ := h.of_bind
  refine ⟨fun rcfg happlied => ?_, fun henabled => ?_⟩
  · rw [applied_config] at happlied
    split at happlied
    · rename_i happly
      rw [routeros_onboard_sector, happly, if_pos rfl] at hsector
      obtain ⟨_, _, hattempt⟩ := hsector.of_bind
      cases hattempt.of_attempt with
      | inl hfirst => exact sector_valid_of_returns happlied hfirst
      | inr hretry =>
        obtain ⟨_, hretry⟩ := hretry
        obtain ⟨_, _, hretry⟩ := hretry.of_bind
        obtain ⟨_, _, hretry⟩ := hretry.of_bind
        exact sector_valid_of_returns happlied hretry
    · cases happlied
  · rw [routeros_apply_call_home, henabled, if_pos rfl] at hcall
    exact hcall.of_bind.1.of_ofExcept

/-- A run from the connection up to the configuration steps, with the identity and the
password it goes on with. -/
def routeros_onboard_login (cfg : Config) (environ : Environ) (ip mgmt_pass : String) :
    Session (Option (String × String)) := do
  let boot_user := text_or cfg.bootstrap.user "admin"
  let boot_pass := if cfg.bootstrap.pass.isEmpty && !cfg.bootstrap.pass_env.isEmpty then
    (environ cfg.bootstrap.pass_env).getD cfg.bootstrap.pass else cfg.bootstrap.pass
  let _ ← api_exec (.connect boot_user boot_pass)
  if ← routeros_is_target cfg.target_mac then
    let identity := cfg.naming.identity_format cfg.naming.identity_prefix cfg.sector_code
      ((split '.' ip).getLastD "")
    let _ ← api_exec (.assign .identity [("name", identity)])
    let _ ← api_exec (.set .service (.name "api") [("disabled", "no")])
    routeros_ensure_group "odoo_noc_group"
      "read,write,api,!local,!telnet,!ssh,!ftp,!reboot,!policy,!password,!sniff,!sensitive"
    routeros_ensure_user cfg.routeros.mgmt_user mgmt_pass "odoo_noc_group"
    return some (identity, mgmt_pass)
  else
    return none

/-- A run up to the configuration steps. -/
def routeros_onboard_user (cfg : Config) (environ : Environ) (ip : String) :
    Session (Option (String × String)) := do
  let mgmt_pass ← if cfg.routeros.mgmt_pass_value.isEmpty then
      Program.ofExcept (get_env_or_fail environ cfg.routeros.mgmt_pass_env)
    else pure cfg.routeros.mgmt_pass_value
  routeros_onboard_login cfg environ ip mgmt_pass

theorem routeros_onboard_eq (ip : String) (cfg : Config) (environ : Environ) :
    routeros_onboard ip cfg environ = (do
      match ← routeros_onboard_user cfg environ ip with
      | some (identity, mgmt_pass) =>
        routeros_onboard_configuration ip cfg environ mgmt_pass
        return some ⟨identity, ip, cfg.routeros.api_port⟩
      | none => return none) := by
  unfold routeros_onboard routeros_onboard_user routeros_onboard_login
  cases cfg.routeros.mgmt_pass_value.isEmpty with
  | true =>
    simp only [if_true, bind_assoc]
    refine bind_congr fun mgmt_pass => bind_congr fun _ => bind_congr fun target => ?_
    cases target <;> simp [bind_assoc]
  | false =>
    simp only [Bool.false_eq_true, if_false, pure_bind, bind_assoc]
    refine bind_congr fun _ => bind_congr fun target => ?_
    cases target <;> simp [bind_assoc]

end getupnet.mikrotik_preloader

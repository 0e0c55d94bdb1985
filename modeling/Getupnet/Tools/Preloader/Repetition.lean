import Getupnet.Tools.Preloader.Configuration

open interaction relational

namespace getupnet.mikrotik_preloader

/-- What a menu shows: a table, or one set of values. -/
inductive Place where
  | table (path : Path)
  | menu (menu : Menu)
  deriving DecidableEq

/-- A step that reads and changes one place, if anything. -/
inductive Within : Place → (Router → Router) → Prop where
  | table (path : Path) (condition : Bool) (change : Listing Fields → Listing Fields) :
      Within (.table path) (when condition (Router.alter path change))
  | menu (menu : Menu) (condition : Bool) (words : List (String × String)) :
      Within (.menu menu) (when condition (Router.assign menu words))

theorem Within.alter (path : Path) (change : Listing Fields → Listing Fields) :
    Within (.table path) (Router.alter path change) := Within.table path true change

theorem Within.ensure_step (path : Path) (field value : String) (words : List (String × String)) :
    Within (.table path) (ensure_step path field value words) := Within.alter path _

theorem Within.entry_step (path : Path) (field value : String) (words : List (String × String)) :
    Within (.table path) (entry_step path field value words) := Within.alter path _

theorem Within.spares {place : Place} {step : Router → Router} (h : Within place step) {path : Path}
    (hpath : place ≠ .table path) : Spares path step := by
  cases h with
  | table other condition change =>
    exact (Spares.alter (fun hsame => hpath (congrArg Place.table hsame.symm)) change).when condition
  | menu menu condition words => exact (Spares.assign path menu words).when condition

theorem Within.settings {place : Place} {step : Router → Router} (h : Within place step) {menu : Menu}
    (hmenu : place ≠ .menu menu) (router : Router) : (step router).settings menu = router.settings menu := by
  cases h with
  | table path condition change => cases condition <;> rfl
  | menu other condition words =>
    cases condition with
    | false => rfl
    | true => exact Router.assign_settings_of_ne (fun hsame => hmenu (congrArg Place.menu hsame.symm)) words router

/-- A step on one table is left alone by those that spare the table. -/
theorem undisturbed_of_spares {inv : Router → Prop} {path : Path} {step later : Router → Router}
    (h : Within (.table path) step) (hlater : Spares path later) : Undisturbed inv step later := by
  cases h with
  | table _ condition change =>
    refine Undisturbed.when (fun router _ hfixed => ?_) condition
    refine (Router.alter_eq_self_iff _ _ _).mpr ?_
    rw [hlater router]
    exact (Router.alter_eq_self_iff _ _ _).mp hfixed

/-- Steps within different menus leave each other alone. -/
theorem Within.undisturbed {inv : Router → Prop} {first second : Place} {step later : Router → Router}
    (hstep : Within first step) (hlater : Within second later) (h : first ≠ second) :
    Undisturbed inv step later := by
  cases hstep with
  | table path condition change =>
    exact undisturbed_of_spares (Within.table path condition change) (hlater.spares h.symm)
  | menu menu condition words =>
    refine Undisturbed.when (fun router _ hfixed => ?_) condition
    refine (Router.assign_eq_self_iff _ _ _).mpr ?_
    rw [hlater.settings h.symm router]
    exact (Router.assign_eq_self_iff _ _ _).mp hfixed

/-- Steps with the menu that each is within. -/
abbrev Located (places : List Place) (steps : List (Router → Router)) : Prop :=
  List.Forall₂ Within places steps

theorem Located.within {places : List Place} {steps : List (Router → Router)} (h : Located places steps)
    {step : Router → Router} (hmem : step ∈ steps) : ∃ place ∈ places, Within place step := by
  induction h with
  | nil => cases hmem
  | cons hhead _ ih =>
    cases List.mem_cons.mp hmem with
    | inl hsame => exact ⟨_, List.mem_cons_self, hsame ▸ hhead⟩
    | inr htail =>
      obtain ⟨place, hplace, hwithin⟩ := ih htail
      exact ⟨place, List.mem_cons_of_mem _ hplace, hwithin⟩

theorem Located.spares {places : List Place} {steps : List (Router → Router)} (h : Located places steps)
    {path : Path} (hpath : .table path ∉ places) : ∀ step ∈ steps, Spares path step := by
  intro step hmem
  obtain ⟨place, hplace, hwithin⟩ := h.within hmem
  exact hwithin.spares fun hsame => hpath (hsame ▸ hplace)

theorem Located.undisturbed {inv : Router → Prop} {places others : List Place}
    {steps later : List (Router → Router)} (h : Located places steps) (hlater : Located others later)
    (hdisjoint : List.Disjoint places others) : ∀ step ∈ steps, ∀ other ∈ later, Undisturbed inv step other := by
  intro step hstep other hother
  obtain ⟨place, hplace, hwithin⟩ := h.within hstep
  obtain ⟨second, hsecond, hotherWithin⟩ := hlater.within hother
  exact hwithin.undisturbed hotherWithin fun hsame => hdisjoint hplace (hsame ▸ hsecond)

theorem Located.pairwise {inv : Router → Prop} {places : List Place} {steps : List (Router → Router)}
    (h : Located places steps) (hnodup : places.Nodup) : steps.Pairwise (Undisturbed inv) := by
  induction h with
  | nil => exact .nil
  | cons hhead htail ih =>
    rw [List.nodup_cons] at hnodup
    refine List.Pairwise.cons (fun later hlater => ?_) (ih hnodup.2)
    obtain ⟨place, hplace, hwithin⟩ := Located.within htail hlater
    exact hhead.undisturbed hwithin fun hsame => hnodup.1 (hsame ▸ hplace)

/-- A step that finds nothing to do right after itself. -/
def Settles (step : Router → Router) : Prop := ∀ router, Function.IsFixedPt step (step router)

theorem Settles.when {step : Router → Router} (h : Settles step) (condition : Bool) :
    Settles (when condition step) := by
  cases condition with
  | false => exact fun _ => rfl
  | true => exact h

theorem ensure_step_settles {words : List (String × String)} {field value : String}
    (h : Fields.is field value (Fields.of words) = true) (path : Path) :
    Settles (ensure_step path field value words) := by
  intro router
  rw [ensure_step_fixed_iff, ensure_step, Router.alter_tables_self]
  exact Listing.has_ensure _ h

theorem entry_step_settles {words : List (String × String)} {field : String} (h : words.lookup field = none)
    (path : Path) (value : String) : Settles (entry_step path field value words) :=
  fun router => entry_step_fixed_iff.mpr (entry_step_ensured h path value router)

theorem amend_step_fixed_iff {path : Path} {name : String} {words : List (String × String)} {router : Router} :
    Function.IsFixedPt (amend_step path name words) router ↔
      ∀ entry, (router.tables path).first (Fields.is "name" name) = some entry →
        Fields.overwrite words entry.2 = entry.2 :=
  (Router.alter_eq_self_iff _ _ _).trans (Listing.amend_eq_self_iff _ _ _)

theorem amend_step_first {words : List (String × String)} (h : words.lookup "name" = none) (path : Path)
    (name : String) (router : Router) :
    ((amend_step path name words router).tables path).first (Fields.is "name" name) =
      ((router.tables path).first (Fields.is "name" name)).map
        (fun entry => (entry.1, Fields.overwrite words entry.2)) := by
  rw [amend_step, Router.alter_tables_self]
  exact Listing.first_amend _ (Fields.is_overwrite h name)

theorem amend_step_settles {words : List (String × String)} (h : words.lookup "name" = none) (path : Path)
    (name : String) : Settles (amend_step path name words) := by
  intro router
  rw [amend_step_fixed_iff, amend_step_first h]
  intro entry hentry
  obtain ⟨old, _, rfl⟩ := Option.map_eq_some_iff.mp hentry
  exact Fields.overwrite_overwrite words old.2

theorem assign_settles (menu : Menu) (words : List (String × String)) : Settles (Router.assign menu words) := by
  intro router
  refine (Router.assign_eq_self_iff _ _ _).mpr ?_
  rw [Router.assign_settings_self]
  exact Fields.overwrite_overwrite words _

/-- An entry whose contents were ensured stays as ensured when other fields of it are set. -/
theorem entry_step_undisturbed_amend {inv : Router → Prop} {words more : List (String × String)}
    (hname : more.lookup "name" = none) (h : ∀ name, words.lookup name = none ∨ more.lookup name = none)
    (path : Path) (name : String) :
    Undisturbed inv (entry_step path "name" name words) (amend_step path name more) := by
  intro router _ hfixed
  rw [entry_step_fixed_iff] at hfixed ⊢
  obtain ⟨entry, hentry, hsame⟩ := hfixed
  refine ⟨(entry.1, Fields.overwrite more entry.2), ?_, ?_⟩
  · rw [amend_step_first hname, hentry]
    rfl
  · change Fields.overwrite words (Fields.overwrite more entry.2) = Fields.overwrite more entry.2
    rw [Fields.overwrite_comm h, hsame]

theorem bridge_step_fixed_iff {name : String} {router : Router} :
    Function.IsFixedPt (bridge_step name) router ↔
      (router.tables .bridge).has (Fields.is "name" name) = true := by
  change bridge_step name router = router ↔ _
  rw [bridge_step]
  split
  · rename_i h
    exact ⟨fun _ => h, fun _ => rfl⟩
  · rename_i h
    refine ⟨fun hadd => ?_, fun hhas => absurd hhas h⟩
    have htables := congrFun (congrArg Router.tables hadd) .bridge
    rw [Router.add, if_pos rfl, Router.alter_tables_of_ne (by decide), Router.alter_tables_self] at htables
    exact absurd htables (Listing.add_ne _ _)

/-- The interfaces and bridges after the bridge was ensured. -/
theorem bridge_step_has (name : String) (router : Router) :
    ((bridge_step name router).tables .bridge).has (Fields.is "name" name) = true := by
  rw [bridge_step]
  split
  · assumption
  · rw [Router.add, if_pos rfl, Router.alter_tables_of_ne (by decide), Router.alter_tables_self, Listing.has_add]
    simp [Fields.is]

theorem link_step_fixed_iff {path : Path} {field value interface : String} {router : Router} :
    Function.IsFixedPt (link_step path field value interface) router ↔
      ((router.tables .interface).has (Fields.is "name" interface) = true →
        (router.tables path).has (linked field value interface) = true) := by
  change link_step path field value interface router = router ↔ _
  rw [link_step]
  split
  · rename_i h
    rw [Router.alter_eq_self_iff, Listing.ensure_eq_self_iff]
    exact ⟨fun hhas _ => hhas, fun hhas => hhas h⟩
  · rename_i h
    exact ⟨fun _ hexists => absurd hexists h, fun _ => rfl⟩

private theorem linked_words {field : String} (h : field ≠ "interface") (value interface : String) :
    linked field value interface (Fields.of (link_words field value interface)) = true := by
  simp [linked, Fields.is, link_words, h.symm]

theorem link_step_has {path : Path} {field value interface : String} (hfield : field ≠ "interface")
    {router : Router} (h : (router.tables .interface).has (Fields.is "name" interface) = true) :
    ((link_step path field value interface router).tables path).has (linked field value interface) = true := by
  rw [link_step, if_pos h, Router.alter_tables_self]
  exact Listing.has_ensure _ (linked_words hfield value interface)

/-- What one link step found or added, the others keep. -/
theorem link_step_keeps_has (path : Path) (field value interface : String) {router : Router} {other : Path}
    {domain : Fields → Bool} (h : (router.tables other).has domain = true) :
    ((link_step path field value interface router).tables other).has domain = true := by
  rw [link_step]
  split
  · by_cases hsame : other = path
    · rw [hsame] at h ⊢
      rw [Router.alter_tables_self]
      exact Listing.has_ensure_of_has h _ _
    · rw [Router.alter_tables_of_ne hsame]
      exact h
  · exact h

theorem port_step_fixed_iff {ip lan_bridge port : String} {router : Router} :
    Function.IsFixedPt (port_step ip lan_bridge port) router ↔
      ((!((mgmt_iface ip router).getD "").isEmpty && mgmt_iface ip router == some port) = false →
        (router.tables .interface).has (Fields.is "name" port) = true →
          (router.tables .bridge_port).has (linked "bridge" lan_bridge port) = true) := by
  change port_step ip lan_bridge port router = router ↔ _
  rw [port_step]
  split
  · rename_i h
    exact ⟨fun _ hnot => (Bool.false_ne_true (hnot.symm.trans h)).elim, fun _ => rfl⟩
  · rename_i h
    rw [Bool.not_eq_true] at h
    have hlink := @link_step_fixed_iff .bridge_port "bridge" lan_bridge port router
    exact ⟨fun hfixed _ => hlink.mp hfixed, fun hport => hlink.mpr (hport h)⟩

theorem allow_step_fixed_iff {port : Nat} {src_ip comment : String} {router : Router} :
    Function.IsFixedPt (allow_step port src_ip comment) router ↔
      ∃ entry, (router.tables .filter).entries.head? = some entry ∧
        Fields.is "comment" comment entry.2 = true := by
  have hrecord : Fields.is "comment" comment (Fields.of (allow_words port src_ip comment)) = true := by
    simp [Fields.is, allow_words]
  refine (Router.alter_eq_self_iff _ _ _).trans ?_
  constructor
  · intro h
    have hhead := Listing.raise_head ((router.tables .filter).has_ensure hrecord)
    rw [h] at hhead
    exact hhead
  · rintro ⟨entry, hhead, hentry⟩
    have hhas : (router.tables .filter).has (Fields.is "comment" comment) = true :=
      Listing.has_iff.mpr ⟨entry, List.mem_of_head? hhead, hentry⟩
    rw [Listing.ensure_of_has hhas]
    exact Listing.raise_of_head hhead hentry

theorem mem_firewall_steps {cfg : Config} {environ : Environ} {step : Router → Router}
    (h : step ∈ firewall_steps cfg environ) :
    (∃ allow_ip, step = allow_add_step cfg.routeros.api_port allow_ip "ALLOW ODOO/NOC API") ∨
      (∃ allow_ip, step = allow_step cfg.routeros.api_port allow_ip "ALLOW ODOO/NOC API") ∨
      step = drop_step cfg := by
  rw [firewall_steps, List.mem_append, List.mem_flatMap, List.mem_singleton] at h
  cases h with
  | inl hallow =>
    obtain ⟨allow_ip, _, hmem⟩ := hallow
    simp only [allow_steps, List.mem_cons, List.not_mem_nil, or_false] at hmem
    cases hmem with
    | inl hadd => exact Or.inl ⟨allow_ip, hadd⟩
    | inr hallow => exact Or.inr (Or.inl ⟨allow_ip, hallow⟩)
  | inr hdrop => exact Or.inr (Or.inr hdrop)

theorem firewall_steps_within {cfg : Config} {environ : Environ} {step : Router → Router}
    (h : step ∈ firewall_steps cfg environ) : Within (.table .filter) step := by
  obtain ⟨_, rfl⟩ | ⟨_, rfl⟩ | rfl := mem_firewall_steps h
  · exact Within.ensure_step .filter _ _ _
  · exact Within.alter .filter _
  · exact Within.ensure_step .filter _ _ _

/-- The firewall steps keep every rule that was there. -/
theorem firewall_steps_keep_has {cfg : Config} {environ : Environ} {step : Router → Router}
    (h : step ∈ firewall_steps cfg environ) {router : Router} {domain : Fields → Bool}
    (hhas : (router.tables .filter).has domain = true) : ((step router).tables .filter).has domain = true := by
  obtain ⟨_, rfl⟩ | ⟨_, rfl⟩ | rfl := mem_firewall_steps h
  · rw [allow_add_step, ensure_step, Router.alter_tables_self]
    exact Listing.has_ensure_of_has hhas _ _
  · rw [allow_step, Router.alter_tables_self, Listing.has_raise]
    exact Listing.has_ensure_of_has hhas _ _
  · rw [drop_step, ensure_step, Router.alter_tables_self]
    exact Listing.has_ensure_of_has hhas _ _

theorem firewall_steps_settle {cfg : Config} {environ : Environ} {step : Router → Router}
    (h : step ∈ firewall_steps cfg environ) : Settles step := by
  have hrecord : ∀ allow_ip, Fields.is "comment" "ALLOW ODOO/NOC API"
      (Fields.of (allow_words cfg.routeros.api_port allow_ip "ALLOW ODOO/NOC API")) = true :=
    fun allow_ip => by simp [Fields.is, allow_words]
  obtain ⟨allow_ip, rfl⟩ | ⟨allow_ip, rfl⟩ | rfl := mem_firewall_steps h
  · exact ensure_step_settles (hrecord allow_ip) _
  · intro router
    rw [allow_step_fixed_iff, allow_step, Router.alter_tables_self]
    exact Listing.raise_head (Listing.has_ensure _ (hrecord allow_ip))
  · exact ensure_step_settles (by simp [Fields.is, drop_words]) _

theorem firewall_steps_undisturbed {inv : Router → Prop} (cfg : Config) (environ : Environ) :
    (firewall_steps cfg environ).Pairwise (Undisturbed inv) := by
  refine List.pairwise_of_forall_mem_list fun step hstep later hlater router _ hfixed => ?_
  obtain ⟨allow_ip, rfl⟩ | ⟨allow_ip, rfl⟩ | rfl := mem_firewall_steps hstep
  · rw [allow_add_step, ensure_step_fixed_iff] at hfixed ⊢
    exact firewall_steps_keep_has hlater hfixed
  · rw [allow_step_fixed_iff] at hfixed ⊢
    obtain ⟨entry, hhead, hentry⟩ := hfixed
    have hhas : (router.tables .filter).has (Fields.is "comment" "ALLOW ODOO/NOC API") = true :=
      Listing.has_iff.mpr ⟨entry, List.mem_of_head? hhead, hentry⟩
    obtain ⟨_, rfl⟩ | ⟨_, rfl⟩ | rfl := mem_firewall_steps hlater
    · rw [allow_add_step, ensure_step_fixed_iff.mpr hhas]
      exact ⟨entry, hhead, hentry⟩
    · rw [allow_step_fixed_iff.mpr ⟨entry, hhead, hentry⟩]
      exact ⟨entry, hhead, hentry⟩
    · refine ⟨entry, ?_, hentry⟩
      rw [drop_step, ensure_step, Router.alter_tables_self, Listing.ensure]
      split
      · exact hhead
      · rw [Listing.add_entries, List.head?_append, hhead]
        rfl
  · rw [drop_step, ensure_step_fixed_iff] at hfixed ⊢
    exact firewall_steps_keep_has hlater hfixed

theorem lan_ports_undisturbed {inv : Router → Prop} (ip : String) (rcfg : SectorConfig) :
    (rcfg.lan_ports.map (port_step ip rcfg.lan_bridge)).Pairwise (Undisturbed inv) := by
  refine List.pairwise_of_forall_mem_list fun step hstep later hlater router _ hfixed => ?_
  obtain ⟨port, _, rfl⟩ := List.mem_map.mp hstep
  obtain ⟨other, _, rfl⟩ := List.mem_map.mp hlater
  rw [port_step_fixed_iff] at hfixed ⊢
  have haddress : mgmt_iface ip (port_step ip rcfg.lan_bridge other router) = mgmt_iface ip router :=
    mgmt_iface_congr (Spares.port_step (by decide) _ _ _ _)
  rw [haddress, Spares.port_step (by decide) ip rcfg.lan_bridge other router]
  intro hskip hexists
  rw [port_step]
  split
  · exact hfixed hskip hexists
  · exact link_step_keeps_has _ _ _ _ (hfixed hskip hexists)

/-- The first address entry that belongs to an IP address. -/
def mgmt_address (ip : String) (fields : Fields) : Bool := startswith ((fields "address").getD "") (ip ++ "/")

theorem mgmt_iface_eq (ip : String) (router : Router) :
    mgmt_iface ip router = ((router.tables .address).first (mgmt_address ip)).bind (fun entry => entry.2 "interface") :=
  rfl

/-- Once an IP address has an entry, a new address does not change its interface. -/
theorem mgmt_iface_address_step {ip : String} {router : Router}
    (h : (router.tables .address).has (mgmt_address ip) = true) (rcfg : SectorConfig) :
    mgmt_iface ip (address_step rcfg router) = mgmt_iface ip router := by
  rw [mgmt_iface_eq, mgmt_iface_eq, address_step, ensure_step, Router.alter_tables_self,
    Listing.first_ensure_of_has h]

theorem mgmt_iface_of_not_has {ip : String} {router : Router}
    (h : (router.tables .address).has (mgmt_address ip) = false) : mgmt_iface ip router = none := by
  rw [mgmt_iface_eq, Listing.first_eq_none_iff.mpr h]
  rfl

/-- A port that joined the bridge stays there when the LAN address is added. -/
theorem port_step_undisturbed_address {inv : Router → Prop} (ip port : String) (rcfg : SectorConfig) :
    Undisturbed inv (port_step ip rcfg.lan_bridge port) (address_step rcfg) := by
  intro router _ hfixed
  have hspares : ∀ path, path ≠ .address → (address_step rcfg router).tables path = router.tables path :=
    fun path hpath => Spares.ensure_step hpath _ _ _ router
  rw [port_step_fixed_iff] at hfixed ⊢
  rw [hspares .interface (by decide), hspares .bridge_port (by decide)]
  cases hhas : (router.tables .address).has (mgmt_address ip) with
  | true =>
    rw [mgmt_iface_address_step hhas]
    exact hfixed
  | false =>
    rw [mgmt_iface_of_not_has hhas] at hfixed
    exact fun _ => hfixed rfl

/-- The menus of the steps after the LAN address. -/
def service_places : List Place :=
  [.table .pool, .table .dhcp_server, .table .dhcp_network, .menu .dns, .table .nat, .table .hotspot_profile, .table .hotspot,
    .table .walled_garden, .table .dhcp_server]

theorem Located.services (cfg : Config) (environ : Environ) (rcfg : SectorConfig) :
    Located service_places (service_steps cfg environ rcfg) :=
  .cons (Within.entry_step _ _ _ _) (.cons (Within.entry_step _ _ _ _) (.cons (Within.entry_step _ _ _ _)
    (.cons (Within.menu _ _ _) (.cons (Within.table _ _ _) (.cons (Within.table _ _ _) (.cons (Within.table _ _ _)
      (.cons (Within.table _ _ _) (.cons (Within.table _ _ _) .nil))))))))

theorem Located.call_home (cfg : Config) (environ : Environ) :
    Located [.table .script, .table .scheduler] (call_home_steps cfg environ) :=
  .cons (Within.table _ _ _) (.cons (Within.table _ _ _) .nil)

/-- The lease script is set on the server without undoing what was ensured of it. -/
private theorem server_undisturbed_lease {inv : Router → Prop} (rcfg : SectorConfig) (condition : Bool)
    (script : String) :
    Undisturbed inv (entry_step .dhcp_server "name" rcfg.dhcp_server
      [("interface", rcfg.lan_bridge), ("address-pool", rcfg.dhcp_pool), ("lease-time", rcfg.dhcp_lease_time)])
      (when condition (amend_step .dhcp_server rcfg.dhcp_server [("lease-script", script)])) := by
  cases condition with
  | false => exact fun _ _ hfixed => hfixed
  | true =>
    refine entry_step_undisturbed_amend rfl (fun name => ?_) _ _
    by_cases hname : name = "lease-script"
    · exact Or.inl (hname ▸ rfl)
    · have hother : Fields.of [("lease-script", script)] name = none := by simp [hname]
      exact Or.inr hother

theorem service_steps_undisturbed {inv : Router → Prop} (cfg : Config) (environ : Environ) (rcfg : SectorConfig) :
    (service_steps cfg environ rcfg).Pairwise (Undisturbed inv) := by
  have hlocated := List.forall₂_take 8 (Located.services cfg environ rcfg)
  have hsplit : service_steps cfg environ rcfg = (service_steps cfg environ rcfg).take 8 ++
      [when (!(((lease_script_of cfg environ).getD "").isEmpty && !cfg.webhook.clear_lease_script_on_disable))
        (amend_step .dhcp_server rcfg.dhcp_server [("lease-script", (lease_script_of cfg environ).getD "")])] := rfl
  rw [hsplit, List.pairwise_append]
  refine ⟨Located.pairwise hlocated (by decide), List.pairwise_singleton _ _, fun step hstep later hlater => ?_⟩
  rw [List.mem_singleton.mp hlater]
  have hother : ∀ {place : Place} {step : Router → Router} {condition : Bool} {script : String},
      Within place step → place ≠ .table .dhcp_server →
      Undisturbed inv step (when condition (amend_step .dhcp_server rcfg.dhcp_server [("lease-script", script)])) :=
    fun hwithin hplace => hwithin.undisturbed (Within.table .dhcp_server _ _) hplace
  simp only [service_steps, List.take_succ_cons, List.take_zero, List.mem_cons, List.not_mem_nil, or_false] at hstep
  obtain rfl | rfl | rfl | rfl | rfl | rfl | rfl | rfl := hstep
  · exact hother (Within.entry_step .pool _ _ _) (by decide)
  · exact server_undisturbed_lease rcfg _ _
  · exact hother (Within.entry_step .dhcp_network _ _ _) (by decide)
  · exact hother (Within.menu .dns _ _) (by decide)
  · exact hother (Within.table .nat _ _) (by decide)
  · exact hother (Within.table .hotspot_profile _ _) (by decide)
  · exact hother (Within.table .hotspot _ _) (by decide)
  · exact hother (Within.table .walled_garden _ _) (by decide)

theorem service_steps_settle (cfg : Config) (environ : Environ) (rcfg : SectorConfig) :
    ∀ step ∈ service_steps cfg environ rcfg, Settles step := by
  intro step hmem
  simp only [service_steps, List.mem_cons, List.not_mem_nil, or_false] at hmem
  obtain rfl | rfl | rfl | rfl | rfl | rfl | rfl | rfl | rfl := hmem
  · exact entry_step_settles rfl _ _
  · exact entry_step_settles rfl _ _
  · exact entry_step_settles rfl _ _
  · exact (assign_settles _ _).when _
  · exact (ensure_step_settles (by simp [Fields.is]) _).when _
  · exact (entry_step_settles rfl _ _).when _
  · exact (entry_step_settles rfl _ _).when _
  · exact (ensure_step_settles (by simp [Fields.is]) _).when _
  · exact (amend_step_settles rfl _ _).when _

theorem call_home_steps_settle (cfg : Config) (environ : Environ) :
    ∀ step ∈ call_home_steps cfg environ, Settles step := by
  intro step hmem
  simp only [call_home_steps, List.mem_cons, List.not_mem_nil, or_false] at hmem
  obtain rfl | rfl := hmem
  · exact (entry_step_settles rfl _ _).when _
  · exact (entry_step_settles rfl _ _).when _

theorem port_step_settles (ip lan_bridge port : String) : Settles (port_step ip lan_bridge port) := by
  intro router
  have haddress : mgmt_iface ip (port_step ip lan_bridge port router) = mgmt_iface ip router :=
    mgmt_iface_congr (Spares.port_step (by decide) _ _ _ _)
  rw [port_step_fixed_iff, haddress, Spares.port_step (by decide) ip lan_bridge port router]
  intro hskip hexists
  rw [port_step, hskip, if_neg Bool.false_ne_true]
  exact link_step_has (by decide) hexists

/-- The steps of the sector configuration, by what they do. -/
theorem mem_sector_steps {ip : String} {cfg : Config} {environ : Environ} {step : Router → Router}
    (h : step ∈ sector_steps ip cfg environ) : ∃ rcfg, applied_config cfg = some rcfg ∧
      ((∃ condition words, step = when condition (ensure_step .dhcp_client "interface" rcfg.wan_interface
          (("interface", rcfg.wan_interface) :: words))) ∨
        step = bridge_step rcfg.lan_bridge ∨ (∃ port, step = port_step ip rcfg.lan_bridge port) ∨
        step = address_step rcfg ∨ step ∈ service_steps cfg environ rcfg) := by
  rw [sector_steps] at h
  cases happlied : applied_config cfg with
  | none =>
    rw [happlied] at h
    cases h
  | some rcfg =>
    rw [happlied] at h
    refine ⟨rcfg, rfl, ?_⟩
    simp only [lan_steps, List.cons_append, List.mem_cons, List.mem_append, List.mem_map] at h
    obtain rfl | rfl | ⟨port, _, rfl⟩ | rfl | hservice := h
    · exact Or.inl ⟨_, _, rfl⟩
    · exact Or.inr (Or.inl rfl)
    · exact Or.inr (Or.inr (Or.inl ⟨port, rfl⟩))
    · exact Or.inr (Or.inr (Or.inr (Or.inl rfl)))
    · exact Or.inr (Or.inr (Or.inr (Or.inr hservice)))

theorem sector_steps_settle (ip : String) (cfg : Config) (environ : Environ) :
    ∀ step ∈ sector_steps ip cfg environ, Settles step := by
  intro step hmem
  obtain ⟨rcfg, _, ⟨_, _, rfl⟩ | rfl | ⟨port, rfl⟩ | rfl | hservice⟩ := mem_sector_steps hmem
  · exact (ensure_step_settles (by simp [Fields.is]) _).when _
  · exact fun router => bridge_step_fixed_iff.mpr (bridge_step_has _ router)
  · exact port_step_settles _ _ _
  · exact ensure_step_settles (by simp [Fields.is]) _
  · exact service_steps_settle _ _ _ _ hservice

/-- The sector configuration leaves the other menus alone. -/
theorem sector_steps_spare {ip : String} {cfg : Config} {environ : Environ} {path : Path}
    (hpath : path ∈ [.filter, .script, .scheduler, .interface_list, .interface_list_member]) :
    ∀ step ∈ sector_steps ip cfg environ, Spares path step := by
  have hne : ∀ other, other ∉ [Path.filter, .script, .scheduler, .interface_list, .interface_list_member] →
      path ≠ other := fun other hother hsame => hother (hsame ▸ hpath)
  intro step hmem
  obtain ⟨rcfg, _, ⟨condition, _, rfl⟩ | rfl | ⟨port, rfl⟩ | rfl | hservice⟩ := mem_sector_steps hmem
  · exact (Spares.alter (hne .dhcp_client (by decide)) _).when condition
  · exact Spares.bridge_step (hne .bridge (by decide)) (hne .interface (by decide)) _
  · exact Spares.port_step (hne .bridge_port (by decide)) _ _ _
  · exact Spares.ensure_step (hne .address (by decide)) _ _ _
  · refine (Located.services cfg environ rcfg).spares ?_ step hservice
    intro hplace
    simp only [service_places, List.mem_cons, List.not_mem_nil, or_false, Place.table.injEq, reduceCtorEq,
      false_or] at hplace
    obtain rfl | rfl | rfl | rfl | rfl | rfl | rfl | rfl := hplace <;> exact absurd hpath (by decide)

theorem sector_steps_undisturbed {inv : Router → Prop} (ip : String) (cfg : Config) (environ : Environ) :
    (sector_steps ip cfg environ).Pairwise (Undisturbed inv) := by
  rw [sector_steps]
  cases applied_config cfg with
  | none => exact .nil
  | some rcfg =>
    have hports : ∀ {path : Path}, path ≠ .bridge_port →
        ∀ step ∈ rcfg.lan_ports.map (port_step ip rcfg.lan_bridge), Spares path step := by
      intro path hpath step hmem
      obtain ⟨port, _, rfl⟩ := List.mem_map.mp hmem
      exact Spares.port_step hpath _ _ _
    have hservices : ∀ {path : Path}, .table path ∉ service_places → ∀ step ∈ service_steps cfg environ rcfg,
      Spares path step :=
      fun hpath => (Located.services cfg environ rcfg).spares hpath
    have hservicesPair := @service_steps_undisturbed inv cfg environ rcfg
    dsimp only
    rw [lan_steps, List.cons_append, List.cons_append, List.pairwise_cons, List.pairwise_cons, List.pairwise_append,
      List.pairwise_cons]
    refine ⟨fun later hlater => ?_, fun later hlater => ?_, lan_ports_undisturbed ip rcfg,
      ⟨fun later hlater => ?_, hservicesPair⟩, fun step hstep later hlater => ?_⟩
    · refine undisturbed_of_spares (Within.table .dhcp_client _ _) ?_
      simp only [List.mem_cons, List.mem_append] at hlater
      obtain rfl | hport | rfl | hservice := hlater
      · exact Spares.bridge_step (by decide) (by decide) _
      · exact hports (by decide) later hport
      · exact Spares.ensure_step (by decide) _ _ _
      · exact hservices (by decide) later hservice
    · have hspares : Spares .bridge later := by
        simp only [List.mem_cons, List.mem_append] at hlater
        obtain hport | rfl | hservice := hlater
        · exact hports (by decide) later hport
        · exact Spares.ensure_step (by decide) _ _ _
        · exact hservices (by decide) later hservice
      intro router _ hfixed
      rw [bridge_step_fixed_iff] at hfixed ⊢
      rw [hspares router]
      exact hfixed
    · exact undisturbed_of_spares (Within.ensure_step .address _ _ _) (hservices (by decide) later hlater)
    · obtain ⟨port, _, rfl⟩ := List.mem_map.mp hstep
      cases List.mem_cons.mp hlater with
      | inl haddress =>
        rw [haddress]
        exact port_step_undisturbed_address ip port rcfg
      | inr hservice =>
        intro router _ hfixed
        rw [port_step_fixed_iff] at hfixed ⊢
        rw [mgmt_iface_congr (hservices (by decide) later hservice router),
          hservices (by decide) later hservice router, hservices (by decide) later hservice router]
        exact hfixed

end getupnet.mikrotik_preloader

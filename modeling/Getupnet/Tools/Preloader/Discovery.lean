import Getupnet.Tools.Preloader.Repetition

open interaction relational

namespace getupnet.mikrotik_preloader

def Router.has_interface (name : String) (self : Router) : Bool :=
  (self.tables .interface).has (Fields.is "name" name)

def Router.has_bridge (name : String) (self : Router) : Bool :=
  (self.tables .bridge).has (Fields.is "name" name)

/-- Whether an interface is in the list that neighbor discovery is open on. -/
def Router.has_member (interface : String) (self : Router) : Bool :=
  (self.tables .interface_list_member).has (linked "list" "LAN" interface)

def Router.has_list (self : Router) : Bool := (self.tables .interface_list).has (Fields.is "name" "LAN")

/-- The settings that name the list. -/
def discovery_settings : List (Menu × String) :=
  [(.discovery_settings, "discover-interface-list"), (.mac_server, "allowed-interface-list"),
    (.mac_winbox, "allowed-interface-list")]

/-- Neighbor discovery on an interface has nothing left to do, nor will it have
once a bridge of that name was ensured. -/
structure DiscoveryOpen (interface : String) (router : Router) : Prop where
  list : router.has_list = true
  settings : ∀ setting ∈ discovery_settings, router.settings setting.1 setting.2 = some "LAN"
  member : router.has_member interface = true ∨
    router.has_interface interface = false ∧ router.has_bridge interface = true

/-- Neighbor discovery foresees the sector configuration that comes after it:
the bridge and the address that this adds make no difference to it. -/
structure Foreseen (ip : String) (cfg : Config) (rcfg : SectorConfig) (router : Router) : Prop where
  bridge : rcfg.lan_bridge ∈ discovered ip cfg router →
    router.has_interface rcfg.lan_bridge = true ∨ router.has_bridge rcfg.lan_bridge = true ∨
      router.has_member rcfg.lan_bridge = true
  address : cfg.routeros.discovery_interfaces = [] → (router.tables .address).has (mgmt_address ip) = false →
    startswith rcfg.lan_address (ip ++ "/") = true → DiscoveryOpen rcfg.lan_bridge router

/-- A run from this router can be repeated. -/
def Resumable (ip : String) (cfg : Config) (router : Router) : Prop :=
  ∀ rcfg, applied_config cfg = some rcfg → Foreseen ip cfg rcfg router

/-- A step that adds at most to the list and its members and sets at most the
values that discovery itself sets. -/
structure Calm (step : Router → Router) : Prop where
  address : Spares .address step
  interface : Spares .interface step
  bridge : Spares .bridge step
  list : ∀ router : Router, router.has_list = true → (step router).has_list = true
  member : ∀ (router : Router) interface, router.has_member interface = true →
    (step router).has_member interface = true
  settings : ∀ (router : Router), ∀ setting ∈ discovery_settings,
    router.settings setting.1 setting.2 = some "LAN" → (step router).settings setting.1 setting.2 = some "LAN"

/-- The places that discovery looks at. -/
def watched : List Place :=
  [.table .address, .table .interface, .table .bridge, .table .interface_list, .table .interface_list_member,
    .menu .discovery_settings, .menu .mac_server, .menu .mac_winbox]

theorem Calm.of_spares {step : Router → Router} (haddress : Spares .address step)
    (hinterface : Spares .interface step) (hbridge : Spares .bridge step) (hlist : Spares .interface_list step)
    (hmember : Spares .interface_list_member step)
    (hsettings : ∀ router : Router, ∀ setting ∈ discovery_settings,
      (step router).settings setting.1 = router.settings setting.1) : Calm step where
  address := haddress
  interface := hinterface
  bridge := hbridge
  list router hhas := by rw [Router.has_list, hlist router]; exact hhas
  member router interface hhas := by rw [Router.has_member, hmember router]; exact hhas
  settings router setting hmem hset := by rw [hsettings router setting hmem]; exact hset

theorem Calm.of_within {place : Place} {step : Router → Router} (h : Within place step)
    (hplace : place ∉ watched) :
    Calm step := by
  have hne : ∀ other ∈ watched, place ≠ other := fun other hother hsame => hplace (hsame ▸ hother)
  refine Calm.of_spares (h.spares (hne _ (by decide))) (h.spares (hne _ (by decide)))
    (h.spares (hne _ (by decide))) (h.spares (hne _ (by decide))) (h.spares (hne _ (by decide))) ?_
  intro router setting hmem
  refine h.settings ?_ router
  simp only [discovery_settings, List.mem_cons, List.not_mem_nil, or_false] at hmem
  obtain rfl | rfl | rfl := hmem
  · exact hne _ (by decide)
  · exact hne _ (by decide)
  · exact hne _ (by decide)

theorem port_step_settings (ip lan_bridge port : String) (router : Router) :
    (port_step ip lan_bridge port router).settings = router.settings := by
  rw [port_step]
  split
  · rfl
  · rw [link_step]
    split <;> rfl

theorem member_step_settings (interface : String) (router : Router) :
    (member_step interface router).settings = router.settings := by
  rw [member_step, link_step]
  split <;> rfl

theorem Calm.port_step (ip lan_bridge port : String) : Calm (port_step ip lan_bridge port) :=
  Calm.of_spares (Spares.port_step (by decide) _ _ _) (Spares.port_step (by decide) _ _ _)
    (Spares.port_step (by decide) _ _ _) (Spares.port_step (by decide) _ _ _) (Spares.port_step (by decide) _ _ _)
    (fun router setting _ => congrFun (port_step_settings ip lan_bridge port router) setting.1)

theorem Calm.member_step (interface : String) : Calm (member_step interface) where
  address := Spares.link_step (by decide) _ _ _
  interface := Spares.link_step (by decide) _ _ _
  bridge := Spares.link_step (by decide) _ _ _
  list router hhas := link_step_keeps_has _ _ _ _ hhas
  member router other hhas := link_step_keeps_has _ _ _ _ hhas
  settings router setting _ hset := by rw [member_step_settings]; exact hset

/-- Calm steps are calm together. -/
theorem Calm.replay {steps : List (Router → Router)} (h : ∀ step ∈ steps, Calm step) :
    Calm (interaction.replay steps) where
  address := Spares.replay fun step hmem => (h step hmem).address
  interface := Spares.replay fun step hmem => (h step hmem).interface
  bridge := Spares.replay fun step hmem => (h step hmem).bridge
  list _ hhas := replay_keeps (fun step hmem => (h step hmem).list) hhas
  member _ interface hhas := @replay_keeps _ (fun reached : Router => reached.has_member interface = true) _
    (fun step hmem reached => (h step hmem).member reached interface) _ hhas
  settings _ setting hsetting hset :=
    @replay_keeps _ (fun reached : Router => reached.settings setting.1 setting.2 = some "LAN") _
      (fun step hmem reached => (h step hmem).settings reached setting hsetting) _ hset

theorem Calm.discovery_step {step : Router → Router} (h : Calm step) (ip : String) (cfg : Config) :
    Calm (discovery_step ip cfg step) where
  address := Spares.discovery_step h.address
  interface := Spares.discovery_step h.interface
  bridge := Spares.discovery_step h.bridge
  list router hhas := by
    rw [mikrotik_preloader.discovery_step]
    split
    · exact hhas
    · exact h.list router hhas
  member router interface hhas := by
    rw [mikrotik_preloader.discovery_step]
    split
    · exact hhas
    · exact h.member router interface hhas
  settings router setting hmem hset := by
    rw [mikrotik_preloader.discovery_step]
    split
    · exact hset
    · exact h.settings router setting hmem hset

theorem Calm.guess_step (ip : String) (cfg : Config) : Calm (guess_step ip cfg) := by
  have hmembers : ∀ interfaces : List String,
      Calm (interaction.replay (interfaces.map mikrotik_preloader.member_step)) := by
    intro interfaces
    refine Calm.replay fun step hmem => ?_
    obtain ⟨interface, _, rfl⟩ := List.mem_map.mp hmem
    exact Calm.member_step interface
  constructor
  · exact fun router => (hmembers _).address router
  · exact fun router => (hmembers _).interface router
  · exact fun router => (hmembers _).bridge router
  · exact fun router => (hmembers _).list router
  · exact fun router => (hmembers _).member router
  · exact fun router => (hmembers _).settings router

/-- Setting a value to the list's name keeps the values that are. -/
theorem Calm.assign {menu : Menu} (name : String) : Calm (Router.assign menu [(name, "LAN")]) where
  address := Spares.assign _ _ _
  interface := Spares.assign _ _ _
  bridge := Spares.assign _ _ _
  list _ hhas := hhas
  member _ _ hhas := hhas
  settings router setting _ hset := by
    by_cases hmenu : setting.1 = menu
    · subst hmenu
      rw [Router.assign_settings_self, Fields.overwrite, hset]
      cases hlookup : List.lookup setting.2 [(name, "LAN")] with
      | none => rfl
      | some value =>
        have hvalue : Fields.of [(name, "LAN")] setting.2 = some value := hlookup
        rw [Fields.of_cons] at hvalue
        split at hvalue
        · exact hvalue.symm
        · cases hvalue
    · rw [Router.assign_settings_of_ne hmenu]
      exact hset

/-- The steps of neighbor discovery, by what they do. -/
theorem mem_discovery_steps {ip : String} {cfg : Config} {step : Router → Router}
    (h : step ∈ discovery_steps ip cfg) :
    step = discovery_step ip cfg (ensure_step .interface_list "name" "LAN" [("name", "LAN")]) ∨
      (∃ interface ∈ cfg.routeros.discovery_interfaces, cfg.routeros.discovery_interfaces.isEmpty = false ∧
        step = member_step interface) ∨
      cfg.routeros.discovery_interfaces.isEmpty = true ∧ step = guess_step ip cfg ∨
      ∃ setting ∈ discovery_settings, step = discovery_step ip cfg (Router.assign setting.1 [(setting.2, "LAN")]) := by
  rw [discovery_steps, List.mem_cons, List.mem_append] at h
  obtain hlist | hmember | hsetting := h
  · exact Or.inl hlist
  · rw [member_steps] at hmember
    split at hmember
    · exact Or.inr (Or.inr (Or.inl ⟨by assumption, List.mem_singleton.mp hmember⟩))
    · rename_i hconfigured
      obtain ⟨interface, hmem, rfl⟩ := List.mem_map.mp hmember
      exact Or.inr (Or.inl ⟨interface, hmem, by simpa using hconfigured, rfl⟩)
  · have hmap : setting_steps ip cfg = discovery_settings.map
        (fun setting => discovery_step ip cfg (Router.assign setting.1 [(setting.2, "LAN")])) := rfl
    rw [hmap] at hsetting
    obtain ⟨setting, hmem, rfl⟩ := List.mem_map.mp hsetting
    exact Or.inr (Or.inr (Or.inr ⟨setting, hmem, rfl⟩))

theorem Calm.discovery_list (ip : String) (cfg : Config) :
    Calm (mikrotik_preloader.discovery_step ip cfg
      (ensure_step .interface_list "name" "LAN" [("name", "LAN")])) := by
  refine Calm.discovery_step ?_ ip cfg
  refine ⟨Spares.ensure_step (by decide) _ _ _, Spares.ensure_step (by decide) _ _ _,
    Spares.ensure_step (by decide) _ _ _, fun router hhas => ?_, fun router interface hhas => ?_,
    fun _ _ _ hset => hset⟩
  · rw [Router.has_list, ensure_step, Router.alter_tables_self]
    exact Listing.has_ensure_of_has hhas _ _
  · rw [Router.has_member, Spares.ensure_step (by decide)]
    exact hhas

theorem Calm.discovery_steps {ip : String} {cfg : Config} {step : Router → Router}
    (h : step ∈ mikrotik_preloader.discovery_steps ip cfg) : Calm step := by
  obtain rfl | ⟨interface, _, _, rfl⟩ | ⟨_, rfl⟩ | ⟨setting, _, rfl⟩ := mem_discovery_steps h
  · exact Calm.discovery_list ip cfg
  · exact Calm.member_step interface
  · exact Calm.guess_step ip cfg
  · exact (Calm.assign setting.2).discovery_step ip cfg

/-- What it takes for the step of an interface to have nothing left to do. -/
def MemberDone (interface : String) (router : Router) : Prop :=
  router.has_interface interface = true → router.has_member interface = true

theorem member_step_fixed_iff {interface : String} {router : Router} :
    Function.IsFixedPt (member_step interface) router ↔ MemberDone interface router := link_step_fixed_iff

theorem member_step_done (interface : String) (router : Router) :
    MemberDone interface (member_step interface router) := by
  intro hexists
  rw [Router.has_interface, (Calm.member_step interface).interface router] at hexists
  exact link_step_has (by decide) hexists

theorem discovered_guess {cfg : Config} (h : cfg.routeros.discovery_interfaces.isEmpty = true) (ip : String)
    (router : Router) : discovered ip cfg router = [] ∨ ∃ interface, discovered ip cfg router = [interface] := by
  rw [discovered, if_pos h]
  split
  · exact Or.inl rfl
  · exact Or.inr ⟨_, rfl⟩

theorem guess_step_fixed_iff {ip : String} {cfg : Config} (h : cfg.routeros.discovery_interfaces.isEmpty = true)
    {router : Router} : Function.IsFixedPt (guess_step ip cfg) router ↔
      ∀ interface ∈ discovered ip cfg router, MemberDone interface router := by
  change guess_step ip cfg router = router ↔ _
  rw [guess_step]
  obtain hnone | ⟨interface, hone⟩ := discovered_guess h ip router
  · simp [hnone]
  · rw [hone, List.map_singleton, replay_cons, replay_nil, List.forall_mem_singleton]
    exact member_step_fixed_iff

theorem discovery_step_fixed_iff {ip : String} {cfg : Config} {step : Router → Router} {router : Router} :
    Function.IsFixedPt (discovery_step ip cfg step) router ↔
      (discovered ip cfg router ≠ [] → Function.IsFixedPt step router) := by
  change discovery_step ip cfg step router = router ↔ (_ → step router = router)
  rw [discovery_step]
  cases hdiscovered : discovered ip cfg router with
  | nil => simp
  | cons interface rest => simp

theorem setting_fixed_iff {menu : Menu} {name : String} {router : Router} :
    Function.IsFixedPt (Router.assign menu [(name, "LAN")]) router ↔ router.settings menu name = some "LAN" := by
  refine (Router.assign_eq_self_iff _ _ _).trans ?_
  have hlookup : ∀ other, List.lookup other [(name, "LAN")] = if other = name then some "LAN" else none :=
    fun other => Fields.of_cons name "LAN" [] other
  constructor
  · intro h
    have hname := congrFun h name
    rw [Fields.overwrite, hlookup, if_pos rfl] at hname
    exact hname.symm
  · intro h
    funext other
    rw [Fields.overwrite, hlookup]
    split
    · rename_i hsame
      rw [hsame, h]
      rfl
    · rfl

/-- A change of the router that leaves done what discovery has done. -/
structure Unnoticed (ip : String) (cfg : Config) (before after : Router) : Prop where
  list : discovered ip cfg after ≠ [] → (discovered ip cfg before ≠ [] → before.has_list = true) →
    after.has_list = true
  settings : discovered ip cfg after ≠ [] → ∀ setting ∈ discovery_settings,
    (discovered ip cfg before ≠ [] → before.settings setting.1 setting.2 = some "LAN") →
    after.settings setting.1 setting.2 = some "LAN"
  members : ∀ interface ∈ discovered ip cfg after,
    (interface ∈ discovered ip cfg before → MemberDone interface before) → MemberDone interface after

theorem Unnoticed.fixed {ip : String} {cfg : Config} {before after : Router} (h : Unnoticed ip cfg before after)
    {step : Router → Router} (hmem : step ∈ discovery_steps ip cfg) (hfixed : Function.IsFixedPt step before) :
    Function.IsFixedPt step after := by
  obtain rfl | ⟨interface, hinterface, hconfigured, rfl⟩ | ⟨hguess, rfl⟩ | ⟨setting, hsetting, rfl⟩ :=
    mem_discovery_steps hmem
  · rw [discovery_step_fixed_iff] at hfixed ⊢
    intro hsome
    rw [ensure_step_fixed_iff]
    exact h.list hsome fun hbefore => ensure_step_fixed_iff.mp (hfixed hbefore)
  · rw [member_step_fixed_iff] at hfixed ⊢
    refine h.members interface ?_ fun _ => hfixed
    rw [discovered_of_configured hconfigured]
    exact hinterface
  · rw [guess_step_fixed_iff hguess] at hfixed ⊢
    exact fun interface hinterface => h.members interface hinterface (hfixed interface)
  · rw [discovery_step_fixed_iff] at hfixed ⊢
    intro hsome
    rw [setting_fixed_iff]
    exact h.settings hsome setting hsetting fun hbefore => setting_fixed_iff.mp (hfixed hbefore)

/-- A change after which the same interfaces are discovered. -/
theorem Unnoticed.of_same {ip : String} {cfg : Config} {before after : Router}
    (hdiscovered : discovered ip cfg after = discovered ip cfg before)
    (hlist : before.has_list = true → after.has_list = true)
    (hsettings : ∀ setting ∈ discovery_settings,
      before.settings setting.1 setting.2 = some "LAN" → after.settings setting.1 setting.2 = some "LAN")
    (hmembers : ∀ interface ∈ discovered ip cfg before, MemberDone interface before → MemberDone interface after) :
    Unnoticed ip cfg before after := by
  constructor
  · intro hsome hbefore
    rw [hdiscovered] at hsome
    exact hlist (hbefore hsome)
  · intro hsome setting hsetting hbefore
    rw [hdiscovered] at hsome
    exact hsettings setting hsetting (hbefore hsome)
  · intro interface hinterface hbefore
    rw [hdiscovered] at hinterface
    exact hmembers interface hinterface (hbefore hinterface)

/-- A change after which discovery finds at most one interface, and finds everything done. -/
theorem Unnoticed.of_open {ip : String} {cfg : Config} {before after : Router} {interface : String}
    (hdiscovered : ∀ other ∈ discovered ip cfg after, other = interface) (h : DiscoveryOpen interface after) :
    Unnoticed ip cfg before after := by
  refine ⟨fun _ _ => h.list, fun _ setting hsetting _ => h.settings setting hsetting, fun other hother _ hexists => ?_⟩
  rw [hdiscovered other hother] at hexists ⊢
  cases h.member with
  | inl hmember => exact hmember
  | inr hmissing => exact (Bool.false_ne_true (hmissing.1.symm.trans hexists)).elim

theorem Calm.unnoticed {step : Router → Router} (h : Calm step) (ip : String) (cfg : Config) (router : Router) :
    Unnoticed ip cfg router (step router) := by
  refine Unnoticed.of_same (discovered_congr (h.address router)) (h.list router) (h.settings router) ?_
  intro interface _ hdone hexists
  rw [Router.has_interface, h.interface router] at hexists
  exact h.member router interface (hdone hexists)

theorem bridge_step_settings (name : String) (router : Router) :
    (bridge_step name router).settings = router.settings := by
  rw [bridge_step]
  split
  · rfl
  · rw [Router.add, if_pos rfl]
    rfl

/-- An interface that is there after the bridge was ensured was there before, or
is the one of a bridge that was not. -/
theorem bridge_step_interface {name other : String} {router : Router}
    (h : (bridge_step name router).has_interface other = true) :
    router.has_interface other = true ∨ other = name ∧ router.has_bridge name = false := by
  rw [bridge_step] at h
  split at h
  · exact Or.inl h
  · rename_i hbridge
    rw [Bool.not_eq_true] at hbridge
    rw [Router.has_interface, Router.add, if_pos rfl, Router.alter_tables_self,
      Router.alter_tables_of_ne (by decide), Listing.has_add, Bool.or_eq_true] at h
    refine h.imp_right fun hnew => ⟨?_, hbridge⟩
    have hname : name = other := by simpa [Fields.is] using hnew
    exact hname.symm

theorem bridge_step_unnoticed {ip : String} {cfg : Config} {rcfg : SectorConfig} {router : Router}
    (h : Foreseen ip cfg rcfg router) : Unnoticed ip cfg router (bridge_step rcfg.lan_bridge router) := by
  have haddress : (bridge_step rcfg.lan_bridge router).tables .address = router.tables .address :=
    Spares.bridge_step (by decide) (by decide) _ _
  have hmember : ∀ interface, (bridge_step rcfg.lan_bridge router).has_member interface =
      router.has_member interface := by
    intro interface
    rw [Router.has_member, Router.has_member, Spares.bridge_step (by decide) (by decide)]
  refine Unnoticed.of_same (discovered_congr haddress) (fun hlist => ?_) (fun setting _ hset => ?_)
    (fun interface hinterface hdone hexists => ?_)
  · rw [Router.has_list, Spares.bridge_step (by decide) (by decide)]
    exact hlist
  · rw [bridge_step_settings]
    exact hset
  · rw [hmember]
    cases bridge_step_interface hexists with
    | inl hbefore => exact hdone hbefore
    | inr hnew =>
      obtain ⟨rfl, hbridge⟩ := hnew
      obtain hthere | hthere | hthere := h.bridge hinterface
      · exact hdone hthere
      · exact (Bool.false_ne_true (hbridge.symm.trans hthere)).elim
      · exact hthere

/-- The LAN address belongs to the IP address that the run is about. -/
theorem mgmt_address_of_lan {ip : String} {rcfg : SectorConfig} {fields : Fields}
    (h : Fields.is "address" rcfg.lan_address fields = true) :
    mgmt_address ip fields = startswith rcfg.lan_address (ip ++ "/") := by
  have haddress : fields "address" = some rcfg.lan_address := by simpa [Fields.is] using h
  rw [mgmt_address, haddress]
  rfl

private theorem lan_address_is (rcfg : SectorConfig) : Fields.is "address" rcfg.lan_address
    (Fields.of [("address", rcfg.lan_address), ("interface", rcfg.lan_bridge)]) = true := by
  simp [Fields.is]

/-- A LAN address of another IP address does not add a management interface. -/
theorem address_step_not_has {ip : String} {rcfg : SectorConfig} {router : Router}
    (hhas : (router.tables .address).has (mgmt_address ip) = false)
    (hlan : startswith rcfg.lan_address (ip ++ "/") = false) :
    ((address_step rcfg router).tables .address).has (mgmt_address ip) = false := by
  rw [address_step, ensure_step, Router.alter_tables_self, Listing.has_ensure_of_not]
  · exact hhas
  · rw [mgmt_address_of_lan (lan_address_is rcfg), hlan]

/-- A LAN address of this IP address makes the bridge the management interface. -/
theorem address_step_mgmt_iface {ip : String} {rcfg : SectorConfig} {router : Router}
    (hhas : (router.tables .address).has (mgmt_address ip) = false)
    (hlan : startswith rcfg.lan_address (ip ++ "/") = true) :
    ((address_step rcfg router).tables .address).has (mgmt_address ip) = true ∧
      mgmt_iface ip (address_step rcfg router) = some rcfg.lan_bridge := by
  have hnew : (router.tables .address).has (Fields.is "address" rcfg.lan_address) = false := by
    rw [Bool.eq_false_iff]
    intro hthere
    obtain ⟨entry, hentry, hlanEntry⟩ := Listing.has_iff.mp hthere
    have hmgmt : (router.tables .address).has (mgmt_address ip) = true :=
      Listing.has_iff.mpr ⟨entry, hentry, by rw [mgmt_address_of_lan hlanEntry, hlan]⟩
    exact Bool.false_ne_true (hhas.symm.trans hmgmt)
  have hrecord : mgmt_address ip
      (Fields.of [("address", rcfg.lan_address), ("interface", rcfg.lan_bridge)]) = true := by
    rw [mgmt_address_of_lan (lan_address_is rcfg), hlan]
  rw [mgmt_iface_eq, address_step, ensure_step, Router.alter_tables_self, Listing.ensure_of_not_has hnew,
    Listing.first_add_of_not_has _ hhas hrecord, Listing.has_add, hrecord, Bool.or_true]
  exact ⟨rfl, by simp⟩

/-- With an address entry or configured interfaces, a new address changes nothing
that is discovered. -/
theorem discovered_address_step {ip : String} {cfg : Config} {rcfg : SectorConfig} {router : Router}
    (h : cfg.routeros.discovery_interfaces = [] → (router.tables .address).has (mgmt_address ip) = true) :
    discovered ip cfg (address_step rcfg router) = discovered ip cfg router := by
  cases hconfigured : cfg.routeros.discovery_interfaces with
  | nil => rw [discovered, discovered, mgmt_iface_address_step (h hconfigured)]
  | cons interface rest =>
    have hnonempty : cfg.routeros.discovery_interfaces.isEmpty = false := by rw [hconfigured]; rfl
    rw [discovered_of_configured hnonempty, discovered_of_configured hnonempty]

theorem discovered_of_not_has {ip : String} {cfg : Config} {router : Router}
    (hconfigured : cfg.routeros.discovery_interfaces = [])
    (hhas : (router.tables .address).has (mgmt_address ip) = false) : discovered ip cfg router = [] := by
  rw [discovered, hconfigured, mgmt_iface_of_not_has hhas]
  rfl

theorem discovered_of_mgmt_iface {ip : String} {cfg : Config} {router : Router} {interface : String}
    (hconfigured : cfg.routeros.discovery_interfaces = []) (h : mgmt_iface ip router = some interface) :
    discovered ip cfg router = if interface.isEmpty then [] else [interface] := by
  rw [discovered, hconfigured, h]
  rfl

/-- What the address step leaves as it was. -/
theorem DiscoveryOpen.address_step {interface : String} {router : Router} (h : DiscoveryOpen interface router)
    (rcfg : SectorConfig) : DiscoveryOpen interface (address_step rcfg router) := by
  have hspares : ∀ path, path ≠ .address → (mikrotik_preloader.address_step rcfg router).tables path =
      router.tables path := fun path hpath => Spares.ensure_step hpath _ _ _ router
  refine ⟨?_, h.settings, ?_⟩
  · rw [Router.has_list, hspares _ (by decide)]
    exact h.list
  · rw [Router.has_member, Router.has_interface, Router.has_bridge, hspares .interface_list_member (by decide),
      hspares .interface (by decide), hspares .bridge (by decide)]
    exact h.member

theorem address_step_unnoticed {ip : String} {cfg : Config} {rcfg : SectorConfig} {router : Router}
    (h : Foreseen ip cfg rcfg router) : Unnoticed ip cfg router (address_step rcfg router) := by
  have hspares : ∀ path, path ≠ .address → (address_step rcfg router).tables path = router.tables path :=
    fun path hpath => Spares.ensure_step hpath _ _ _ router
  have hsame : discovered ip cfg (address_step rcfg router) = discovered ip cfg router →
      Unnoticed ip cfg router (address_step rcfg router) := by
    intro hdiscovered
    refine Unnoticed.of_same hdiscovered (fun hlist => ?_) (fun _ _ hset => hset) (fun interface _ hdone => ?_)
    · rw [Router.has_list, hspares _ (by decide)]
      exact hlist
    · rw [MemberDone, Router.has_interface, Router.has_member, hspares .interface (by decide),
        hspares .interface_list_member (by decide)]
      exact hdone
  by_cases hguess : cfg.routeros.discovery_interfaces = []
  · cases hhas : (router.tables .address).has (mgmt_address ip) with
    | true => exact hsame (discovered_address_step fun _ => hhas)
    | false =>
      cases hlan : startswith rcfg.lan_address (ip ++ "/") with
      | false =>
        refine hsame ?_
        rw [discovered_of_not_has hguess hhas, discovered_of_not_has hguess (address_step_not_has hhas hlan)]
      | true =>
        refine @Unnoticed.of_open _ _ _ _ rcfg.lan_bridge ?_ ((h.address hguess hhas hlan).address_step rcfg)
        intro other hother
        rw [discovered_of_mgmt_iface hguess (address_step_mgmt_iface hhas hlan).2] at hother
        split at hother
        · cases hother
        · exact List.mem_singleton.mp hother
  · exact hsame (discovered_address_step fun hnone => absurd hnone hguess)

end getupnet.mikrotik_preloader

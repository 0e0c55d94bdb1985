import Getupnet.Interaction.Trace
import Getupnet.Tools.Preloader.Repetition

open interaction relational

namespace getupnet.mikrotik_preloader

/-- An entry, by the field it is looked up by, with the values it is to carry. -/
structure Managed where
  path : Path
  field : String
  value : String
  words : List (String × String)

/-- Two configurations identify the entry in the same way. -/
def Managed.SameKey (self other : Managed) : Prop :=
  self.path = other.path ∧ self.field = other.field ∧ self.value = other.value

def noc_policy : String := "read,write,api,!local,!telnet,!ssh,!ftp,!reboot,!policy,!password,!sniff,!sensitive"

/-- The management password, where it is there. -/
def mgmt_pass_of (cfg : Config) (environ : Environ) : String :=
  if cfg.routeros.mgmt_pass_value.isEmpty then (get_env_or_fail environ cfg.routeros.mgmt_pass_env).toOption.getD ""
  else cfg.routeros.mgmt_pass_value

def managed_group : Managed := ⟨.user_group, "name", "odoo_noc_group", [("policy", noc_policy)]⟩

def managed_user (cfg : Config) (mgmt_pass : String) : Managed :=
  ⟨.user, "name", cfg.routeros.mgmt_user, [("password", mgmt_pass), ("group", "odoo_noc_group")]⟩

def managed_address (rcfg : SectorConfig) : Managed :=
  ⟨.address, "address", rcfg.lan_address, [("interface", rcfg.lan_bridge)]⟩

def managed_pool (rcfg : SectorConfig) : Managed := ⟨.pool, "name", rcfg.dhcp_pool, [("ranges", rcfg.dhcp_range)]⟩

def managed_dhcp_server (rcfg : SectorConfig) : Managed :=
  ⟨.dhcp_server, "name", rcfg.dhcp_server,
    [("interface", rcfg.lan_bridge), ("address-pool", rcfg.dhcp_pool), ("lease-time", rcfg.dhcp_lease_time)]⟩

def managed_lease_script (cfg : Config) (environ : Environ) (rcfg : SectorConfig) : Managed :=
  ⟨.dhcp_server, "name", rcfg.dhcp_server, [("lease-script", (lease_script_of cfg environ).getD "")]⟩

def managed_dhcp_network (rcfg : SectorConfig) : Managed :=
  ⟨.dhcp_network, "address", rcfg.dhcp_network,
    [("gateway", rcfg.gateway), ("dns-server", text_or rcfg.dns_server rcfg.gateway)]⟩

def managed_nat (rcfg : SectorConfig) : Managed :=
  ⟨.nat, "comment", "ISP-NAT",
    [("chain", "srcnat"), ("out-interface", rcfg.wan_interface), ("action", "masquerade")]⟩

def managed_hotspot_profile (rcfg : SectorConfig) : Managed :=
  ⟨.hotspot_profile, "name", rcfg.hotspot_profile,
    [("dns-name", rcfg.hotspot_dns_name), ("login-by", rcfg.hotspot_login_by),
      ("html-directory", rcfg.hotspot_html_dir)]⟩

def managed_hotspot (rcfg : SectorConfig) : Managed :=
  ⟨.hotspot, "name", rcfg.hotspot_server,
    [("interface", rcfg.lan_bridge), ("address-pool", rcfg.dhcp_pool), ("profile", rcfg.hotspot_profile)]⟩

def managed_walled_garden (rcfg : SectorConfig) : Managed :=
  ⟨.walled_garden, "comment", "ISP-WALLED-GARDEN", [("dst-host", rcfg.hotspot_walled_garden)]⟩

def managed_script (cfg : Config) (environ : Environ) : Managed :=
  ⟨.script, "name", cfg.call_home.script_name,
    [("source", call_home_source cfg environ), ("policy", "read,write,test")]⟩

def managed_scheduler (cfg : Config) : Managed :=
  ⟨.scheduler, "name", cfg.call_home.scheduler_name.getD cfg.call_home.script_name,
    [("interval", cfg.call_home.interval), ("on-event", "/system/script/run name=" ++ cfg.call_home.script_name),
      ("start-time", "startup"), ("disabled", "no")]⟩

/-- Whether a lease script is set, be it the empty one. -/
def sets_lease_script (cfg : Config) (environ : Environ) : Bool :=
  !(((lease_script_of cfg environ).getD "").isEmpty && !cfg.webhook.clear_lease_script_on_disable)

def walled (rcfg : SectorConfig) : Bool := rcfg.enable_hotspot && !rcfg.hotspot_walled_garden.isEmpty

/-- The entries of the sector configuration. -/
inductive SectorManaged (cfg : Config) (environ : Environ) (rcfg : SectorConfig) : Managed → Prop
  | address : SectorManaged cfg environ rcfg (managed_address rcfg)
  | pool : SectorManaged cfg environ rcfg (managed_pool rcfg)
  | dhcp_server : SectorManaged cfg environ rcfg (managed_dhcp_server rcfg)
  | lease_script (h : sets_lease_script cfg environ = true) :
      SectorManaged cfg environ rcfg (managed_lease_script cfg environ rcfg)
  | dhcp_network : SectorManaged cfg environ rcfg (managed_dhcp_network rcfg)
  | nat (h : rcfg.enable_nat = true) : SectorManaged cfg environ rcfg (managed_nat rcfg)
  | hotspot_profile (h : rcfg.enable_hotspot = true) : SectorManaged cfg environ rcfg (managed_hotspot_profile rcfg)
  | hotspot (h : rcfg.enable_hotspot = true) : SectorManaged cfg environ rcfg (managed_hotspot rcfg)
  | walled_garden (h : walled rcfg = true) : SectorManaged cfg environ rcfg (managed_walled_garden rcfg)

/-- The entries that a run identifies by a name, a comment or an address. -/
inductive Manages (cfg : Config) (environ : Environ) : Managed → Prop
  | group : Manages cfg environ managed_group
  | user : Manages cfg environ (managed_user cfg (mgmt_pass_of cfg environ))
  | sector {rcfg : SectorConfig} {entry : Managed} (happlied : applied_config cfg = some rcfg)
      (hentry : SectorManaged cfg environ rcfg entry) : Manages cfg environ entry
  | script (henabled : cfg.call_home.enabled = true) : Manages cfg environ (managed_script cfg environ)
  | scheduler (henabled : cfg.call_home.enabled = true) : Manages cfg environ (managed_scheduler cfg)

/-- The entry that is found has the values. -/
def Managed.CarriedIn (self : Managed) (table : Listing Fields) : Prop :=
  ∃ found, table.first (Fields.is self.field self.value) = some found ∧
    Fields.overwrite self.words found.2 = found.2

def Managed.Carried (self : Managed) (router : Router) : Prop := self.CarriedIn (router.tables self.path)

/-- The entries that both configurations manage carry the values of the second. -/
def LastWins (first : Config) (first_environ : Environ) (second : Config) (second_environ : Environ)
    (router : Router) : Prop :=
  ∀ entry other, Manages second second_environ entry → Manages first first_environ other →
    entry.SameKey other → entry.Carried router

/-- The entry that is found before both runs has the values; or there is none, and the
one that the first run adds is the same. -/
def Managed.Settled (self : Managed) (router : Router) (same : Prop) : Prop :=
  match (router.tables self.path).first (Fields.is self.field self.value) with
  | some found => Fields.overwrite self.words found.2 = found.2
  | none => same

/-- The entries that a run leaves alone once they are there are as the second
configuration wants them. -/
structure NothingStale (first second : Config) (router : Router) : Prop where
  group : managed_group.Settled router True
  address : ∀ old new, applied_config first = some old → applied_config second = some new →
    new.lan_address = old.lan_address → (managed_address new).Settled router (new.lan_bridge = old.lan_bridge)
  nat : ∀ old new, applied_config first = some old → applied_config second = some new →
    old.enable_nat = true → new.enable_nat = true →
    (managed_nat new).Settled router (new.wan_interface = old.wan_interface)
  walled_garden : ∀ old new, applied_config first = some old → applied_config second = some new →
    walled old = true → walled new = true →
    (managed_walled_garden new).Settled router (new.hotspot_walled_garden = old.hotspot_walled_garden)

/-- An entry with these values is there, or the first one found stays as it is. -/
def Managed.ensure (self : Managed) (table : Listing Fields) : Listing Fields :=
  table.ensure (Fields.is self.field self.value) (Fields.of ((self.field, self.value) :: self.words))

/-- The first entry found gets the values, or one with them is added. -/
def Managed.ensure_as (self : Managed) (table : Listing Fields) : Listing Fields :=
  table.ensure_as (Fields.is self.field self.value) (Fields.overwrite self.words)
    (Fields.of ((self.field, self.value) :: self.words))

/-- What the sector configuration does to each table of its entries. -/
def sector_change (cfg : Config) (environ : Environ) (rcfg : SectorConfig) :
    Path → Listing Fields → Listing Fields
  | .address => (managed_address rcfg).ensure
  | .pool => (managed_pool rcfg).ensure_as
  | .dhcp_server => when (sets_lease_script cfg environ) (managed_lease_script cfg environ rcfg).ensure_as ∘
      (managed_dhcp_server rcfg).ensure_as
  | .dhcp_network => (managed_dhcp_network rcfg).ensure_as
  | .nat => when rcfg.enable_nat (managed_nat rcfg).ensure
  | .hotspot_profile => when rcfg.enable_hotspot (managed_hotspot_profile rcfg).ensure_as
  | .hotspot => when rcfg.enable_hotspot (managed_hotspot rcfg).ensure_as
  | .walled_garden => when (walled rcfg) (managed_walled_garden rcfg).ensure
  | _ => id

/-- What call-home does to each table of its entries. -/
def call_home_change (cfg : Config) (environ : Environ) : Path → Listing Fields → Listing Fields
  | .script => when cfg.call_home.enabled (managed_script cfg environ).ensure_as
  | .scheduler => when cfg.call_home.enabled (managed_scheduler cfg).ensure_as
  | _ => id

/-- What comes before the configuration steps does to each table of its entries. -/
def login_change (cfg : Config) (mgmt_pass : String) : Path → Listing Fields → Listing Fields
  | .user_group => managed_group.ensure
  | .user => (managed_user cfg mgmt_pass).ensure_as
  | _ => id

/-- What a run does to each table of its entries. -/
def run_change (cfg : Config) (environ : Environ) (path : Path) : Listing Fields → Listing Fields :=
  call_home_change cfg environ path ∘ (applied_config cfg).elim id (fun rcfg => sector_change cfg environ rcfg path) ∘
    login_change cfg (mgmt_pass_of cfg environ) path

/-- The menus without such entries. -/
def other_paths : List Path :=
  [.service, .interface_list, .interface_list_member, .filter, .dhcp_client, .bridge, .interface, .bridge_port]

theorem when_alter_tables (condition : Bool) (path other : Path) (change : Listing Fields → Listing Fields)
    (router : Router) : (when condition (Router.alter path change) router).tables other =
      if other = path then when condition change (router.tables path) else router.tables other := by
  cases condition with
  | true => rfl
  | false =>
    split
    · rename_i h
      rw [h]
      rfl
    · rfl

theorem when_assign_tables (condition : Bool) (menu : Menu) (words : List (String × String)) (router : Router) :
    (when condition (Router.assign menu words) router).tables = router.tables := by
  cases condition <;> rfl

/-- Where the words stand does not matter, as long as they are about different fields. -/
theorem managed_nat_words (rcfg : SectorConfig) :
    Fields.of [("chain", "srcnat"), ("out-interface", rcfg.wan_interface), ("action", "masquerade"),
      ("comment", "ISP-NAT")] = Fields.of (("comment", "ISP-NAT") :: (managed_nat rcfg).words) := by
  funext name
  by_cases hname : name = "comment"
  · subst hname
    rfl
  · simp [managed_nat, hname]

theorem managed_walled_garden_words (rcfg : SectorConfig) :
    Fields.of [("dst-host", rcfg.hotspot_walled_garden), ("comment", "ISP-WALLED-GARDEN")] =
      Fields.of (("comment", "ISP-WALLED-GARDEN") :: (managed_walled_garden rcfg).words) := by
  funext name
  by_cases hname : name = "comment"
  · subst hname
    rfl
  · simp [managed_walled_garden, hname]

/-- The lease script is set on a server that is there. -/
theorem amend_ensure_as (server script : Managed) (hfield : server.field = script.field)
    (hvalue : server.value = script.value) (hwords : server.words.lookup server.field = none)
    (table : Listing Fields) :
    (server.ensure_as table).amend (Fields.is script.field script.value) (Fields.overwrite script.words) =
      script.ensure_as (server.ensure_as table) := by
  have hhas : (server.ensure_as table).has (Fields.is script.field script.value) = true := by
    obtain ⟨entry, hentry, _⟩ := table.first_ensure_as (Fields.is_overwrite hwords server.value)
      (show Fields.is server.field server.value (Fields.of ((server.field, server.value) :: server.words)) = true by
        simp [Fields.is])
      (Fields.overwrite_overwrite server.words) (Fields.overwrite_of hwords server.value)
    rw [← hfield, ← hvalue]
    exact Listing.has_of_first hentry
  generalize server.ensure_as table = ensured at hhas
  rw [Managed.ensure_as, Listing.ensure_as, if_pos hhas]

/-- What the service steps do to each table. -/
theorem service_steps_tables (cfg : Config) (environ : Environ) (rcfg : SectorConfig) {path : Path}
    (hpath : path ≠ .address) (router : Router) :
    (replay (service_steps cfg environ rcfg) router).tables path =
      sector_change cfg environ rcfg path (router.tables path) := by
  simp only [service_steps, replay_cons, replay_nil, entry_step, ensure_step, amend_step, when_alter_tables,
    when_assign_tables, managed_nat_words, managed_walled_garden_words]
  cases path with
  | address => exact absurd rfl hpath
  | dhcp_server =>
    change when (sets_lease_script cfg environ) (fun table => table.amend (Fields.is "name" rcfg.dhcp_server)
      (Fields.overwrite (managed_lease_script cfg environ rcfg).words))
      ((managed_dhcp_server rcfg).ensure_as (router.tables .dhcp_server)) = _
    rw [sector_change, Function.comp_apply]
    cases sets_lease_script cfg environ with
    | false => rfl
    | true => exact amend_ensure_as (managed_dhcp_server rcfg) (managed_lease_script cfg environ rcfg) rfl rfl rfl _
  | _ => rfl

theorem discovery_steps_spare {ip : String} {cfg : Config} {path : Path}
    (hpath : path ∉ [Path.interface_list, .interface_list_member]) :
    ∀ step ∈ discovery_steps ip cfg, Spares path step := by
  simp only [List.mem_cons, List.not_mem_nil, or_false, not_or] at hpath
  intro step hmem
  simp only [discovery_steps, setting_steps, List.mem_cons, List.mem_append, List.not_mem_nil, or_false] at hmem
  obtain rfl | hmember | rfl | rfl | rfl := hmem
  · exact Spares.discovery_step (Spares.ensure_step hpath.1 _ _ _)
  · exact Spares.member_steps hpath.2 step hmember
  · exact fun router => congrFun (setting_step_tables _ _ router) path
  · exact fun router => congrFun (setting_step_tables _ _ router) path
  · exact fun router => congrFun (setting_step_tables _ _ router) path

theorem lan_steps_spare {ip : String} {rcfg : SectorConfig} {path : Path}
    (hpath : path ∉ [Path.dhcp_client, .bridge, .interface, .bridge_port]) :
    ∀ step ∈ lan_steps ip rcfg, Spares path step := by
  simp only [List.mem_cons, List.not_mem_nil, or_false, not_or] at hpath
  intro step hmem
  simp only [lan_steps, List.mem_cons, List.mem_map] at hmem
  obtain rfl | rfl | ⟨port, _, rfl⟩ := hmem
  · exact (Spares.ensure_step hpath.1 _ _ _).when _
  · exact Spares.bridge_step hpath.2.1 hpath.2.2.1 _
  · exact Spares.port_step hpath.2.2.2 _ _ _

theorem managed_address_words (rcfg : SectorConfig) :
    address_step rcfg = Router.alter .address (managed_address rcfg).ensure := rfl

/-- What the sector configuration does to the tables of its entries. -/
theorem sector_steps_tables (ip : String) (cfg : Config) (environ : Environ) {path : Path}
    (hpath : path ∉ [Path.dhcp_client, .bridge, .interface, .bridge_port]) (router : Router) :
    (replay (sector_steps ip cfg environ) router).tables path =
      (applied_config cfg).elim id (fun rcfg => sector_change cfg environ rcfg path) (router.tables path) := by
  rw [sector_steps]
  cases applied_config cfg with
  | none => rfl
  | some rcfg =>
    have hlan := Spares.replay (@lan_steps_spare ip rcfg path hpath) router
    simp only [replay_append, replay_cons, Option.elim_some]
    by_cases haddress : path = .address
    · subst haddress
      have hservices := Spares.replay (@Located.spares _ _ (Located.services cfg environ rcfg) .address (by decide))
      rw [hservices, managed_address_words, Router.alter_tables_self, hlan]
      rfl
    · rw [service_steps_tables cfg environ rcfg haddress, managed_address_words,
        Router.alter_tables_of_ne haddress, hlan]

theorem call_home_steps_tables {cfg : Config} {environ : Environ}
    (hsource : cfg.call_home.enabled = true → (call_home_source cfg environ).isEmpty = false) (path : Path)
    (router : Router) :
    (replay (call_home_steps cfg environ) router).tables path =
      call_home_change cfg environ path (router.tables path) := by
  have hscript : (cfg.call_home.enabled && !(call_home_source cfg environ).isEmpty) = cfg.call_home.enabled := by
    cases henabled : cfg.call_home.enabled with
    | false => rfl
    | true => rw [hsource henabled, Bool.not_false, Bool.and_true]
  rw [call_home_steps, hscript]
  simp only [replay_cons, replay_nil, entry_step, when_alter_tables]
  cases path <;> rfl

/-- A call-home script that was built is not empty. -/
theorem call_home_source_nonempty {cfg : Config} {environ : Environ} {source : String}
    (h : build_call_home_script cfg environ = .ok source) : source.isEmpty = false := by
  rw [build_call_home_script] at h
  split at h
  · cases h
  · split at h
    · cases h
    · rw [← Except.ok.inj h, call_home_lines, String.intercalate_cons_cons]
      simp

/-- What the configuration steps do to the tables of the entries. -/
theorem configuration_steps_tables {cfg : Config} {environ : Environ} (hvalid : Config.Valid cfg environ)
    (ip : String)
    {path : Path} (hpath : path ∉ other_paths) (router : Router) :
    (replay (configuration_steps ip cfg environ) router).tables path =
      call_home_change cfg environ path
        ((applied_config cfg).elim id (fun rcfg => sector_change cfg environ rcfg path) (router.tables path)) := by
  have hother : ∀ paths : List Path, (∀ other ∈ paths, other ∈ other_paths) → path ∉ paths :=
    fun paths hpaths hmem => hpath (hpaths path hmem)
  have hsource : cfg.call_home.enabled = true → (call_home_source cfg environ).isEmpty = false := by
    intro henabled
    obtain ⟨source, hbuilt⟩ := hvalid.call_home henabled
    rw [call_home_source, hbuilt]
    exact call_home_source_nonempty hbuilt
  have hdiscovery := Spares.replay (@discovery_steps_spare ip cfg path (hother _ (by decide)))
  have hfirewall : Spares path (replay (firewall_steps cfg environ)) :=
    Spares.replay fun step hmem => (firewall_steps_within hmem).spares fun hsame =>
      hpath (by cases hsame; decide)
  rw [configuration_steps, replay_append, replay_append, replay_append, call_home_steps_tables hsource,
    sector_steps_tables ip cfg environ (hother _ (by decide)), hfirewall, hdiscovery]

/-- A command that changes nothing. -/
def Command.Reads (command : Command) : Prop := ∀ router : Router, (perform router command).2 = router

theorem routeros_ensure_user_exec (name password group : String) (router : Router) :
    (routeros_ensure_user name password group).exec perform router =
      (.ok (), entry_step .user "name" name [("password", password), ("group", group)] router) := by
  rw [routeros_ensure_user, exceptRouteros, api_exec, api_exec, Program.exec_bind, Program.exec_attempt,
    Program.exec_command, perform]
  cases hfirst : (router.tables .user).first (Fields.is "name" name) with
  | none =>
    have hhas := Listing.first_eq_none_iff.mp hfirst
    have hadd : ¬ (Path.user = .user ∧ (router.tables .user).has (Fields.is "name" (([("name", name),
        ("password", password), ("group", group)].lookup "name").getD "")) = true) :=
      fun h => Bool.false_ne_true (hhas.symm.trans h.2)
    rw [if_neg hadd]
    have hstep : router.add .user [("name", name), ("password", password), ("group", group)] =
        entry_step .user "name" name [("password", password), ("group", group)] router := by
      rw [Router.add, if_neg (by decide)]
      refine Router.alter_congr ?_
      rw [Listing.ensure_as, hhas, if_neg Bool.false_ne_true]
    exact congrArg (Prod.mk _) hstep
  | some entry =>
    have hhas := Listing.has_of_first hfirst
    rw [if_pos ⟨rfl, hhas⟩]
    simp only [Program.exec_command, perform, resolve_name hfirst]
    refine congrArg (Prod.mk _) (Router.alter_congr ?_)
    rw [Listing.ensure_as, if_pos hhas, Listing.amend, hfirst]

/-- The check of the MAC address reads and changes nothing. -/
theorem routeros_is_target_exec {target_mac : String} {router after : Router} {target : Bool}
    (h : (routeros_is_target target_mac).exec perform router = (.ok target, after)) : after = router := by
  have hprint : ∀ path, Command.Reads (.print path) := fun _ _ => rfl
  have honly : (routeros_is_target target_mac).Only Command.Reads := by
    rw [routeros_is_target]
    split
    · trivial
    · refine (Program.Only.command (hprint _)).bind fun ethernets => ?_
      split
      · trivial
      · exact (Program.Only.command (hprint _)).bind fun _ => trivial
  let Kept : Router → Prop := fun reached => reached = router
  have hkeeps : ∀ reached command, Command.Reads command → Kept reached → Kept (perform reached command).2 :=
    fun reached command hreads hreached => (hreads reached).trans hreached
  have hkept : Kept ((routeros_is_target target_mac).exec perform router).2 := honly.keeps hkeeps rfl
  rwa [h] at hkept

theorem perform_set_tables {path other : Path} (h : other ≠ path) (numbers : Numbers)
    (words : List (String × String))
    (router : Router) : (perform router (.set path numbers words)).2.tables other = router.tables other := by
  rw [perform]
  split
  · exact Router.alter_tables_of_ne h (fun table => table.set _ (Fields.overwrite words)) router
  · rfl

theorem routeros_onboard_login_exec {cfg : Config} {environ : Environ} {ip mgmt_pass : String}
    {router after : Router} {user : String × String}
    (h : (routeros_onboard_login cfg environ ip mgmt_pass).exec perform router = (.ok (some user), after))
    {path : Path} (hpath : path ≠ .service) :
    after.tables path = login_change cfg mgmt_pass path (router.tables path) := by
  rw [routeros_onboard_login] at h
  obtain ⟨_, connected, hconnect, h⟩ := Program.exists_exec_of_bind h
  rw [api_exec, Program.exec_command, perform] at hconnect
  cases hconnect
  obtain ⟨target, checked, htarget, h⟩ := Program.exists_exec_of_bind h
  cases routeros_is_target_exec htarget
  cases target with
  | false => cases h
  | true =>
    rw [if_pos rfl] at h
    obtain ⟨_, named, hnamed, h⟩ := Program.exists_exec_of_bind h
    obtain ⟨_, enabled, henabled, h⟩ := Program.exists_exec_of_bind h
    obtain ⟨_, grouped, hgrouped, h⟩ := Program.exists_exec_of_bind h
    obtain ⟨_, last, huser, h⟩ := Program.exists_exec_of_bind h
    cases h
    rw [api_exec, Program.exec_command] at hnamed henabled
    have hnamed_tables : named.tables = router.tables := by
      cases hnamed
      rfl
    have henabled_tables : ∀ other, other ≠ .service → enabled.tables other = router.tables other := by
      intro other hother
      have hset := perform_set_tables hother (.name "api") [("disabled", "no")] named
      rw [henabled] at hset
      exact hset.trans (congrFun hnamed_tables other)
    have hgroup := (@routeros_ensure_performs .user_group (by decide) (by decide) "name" "odoo_noc_group"
      [("name", "odoo_noc_group"), ("policy", noc_policy)] enabled).returns
    cases hgroup.symm.trans hgrouped
    cases (routeros_ensure_user_exec _ _ _ _).symm.trans huser
    rw [replay_cons, replay_nil]
    cases path with
    | user =>
      rw [entry_step, Router.alter_tables_self, ensure_step, Router.alter_tables_of_ne (by decide), henabled_tables _ hpath]
      rfl
    | user_group =>
      rw [entry_step, Router.alter_tables_of_ne (by decide), ensure_step, Router.alter_tables_self, henabled_tables _ hpath]
      rfl
    | _ => exact henabled_tables _ hpath

theorem routeros_onboard_user_exec {cfg : Config} {environ : Environ} {ip : String} {router after : Router}
    {user : String × String} (h : (routeros_onboard_user cfg environ ip).exec perform router = (.ok (some user), after))
    {path : Path} (hpath : path ≠ .service) :
    after.tables path = login_change cfg (mgmt_pass_of cfg environ) path (router.tables path) := by
  rw [routeros_onboard_user] at h
  rw [mgmt_pass_of]
  split at h
  · rename_i hvalue
    obtain ⟨mgmt_pass, started, hpass, hlogin⟩ := Program.exists_exec_of_bind h
    rw [if_pos hvalue]
    cases hfound : get_env_or_fail environ cfg.routeros.mgmt_pass_env with
    | error exception =>
      rw [hfound] at hpass
      cases hpass
    | ok found =>
      rw [hfound] at hpass
      cases hpass
      exact routeros_onboard_login_exec hlogin hpath
  · rename_i hvalue
    rw [if_neg hvalue]
    exact routeros_onboard_login_exec h hpath

/-- What a complete run does to the tables of the entries. -/
theorem routeros_onboard_tables {ip : String} {cfg : Config} {environ : Environ} {router after : Router}
    {onboarded : Onboarded}
    (h : (routeros_onboard ip cfg environ).exec perform router = (.ok (some onboarded), after)) {path : Path}
    (hpath : path ∉ other_paths) :
    after.tables path = run_change cfg environ path (router.tables path) := by
  rw [routeros_onboard_eq] at h
  obtain ⟨user, started, huser, h⟩ := Program.exists_exec_of_bind h
  cases user with
  | none => cases h
  | some user =>
    obtain ⟨_, configured, hconfigured, h⟩ := Program.exists_exec_of_bind h
    cases h
    have hvalid : Config.Valid cfg environ := valid_of_returns ⟨started, (), _, hconfigured⟩
    have hreplay := (routeros_onboard_configuration_performs hvalid ip user.2 started).returns
    cases hreplay.symm.trans hconfigured
    have hservice : path ≠ .service := fun hsame => hpath (hsame ▸ List.mem_cons_self)
    rw [configuration_steps_tables hvalid ip hpath, routeros_onboard_user_exec huser hservice]
    rfl

theorem is_managed (field value : String) (words : List (String × String)) :
    Fields.is field value (Fields.of ((field, value) :: words)) = true := by
  simp [Fields.is]

/-- An entry that is updated carries its values. -/
theorem Managed.carriedIn_ensure_as {entry : Managed} (hwords : entry.words.lookup entry.field = none)
    (table : Listing Fields) : entry.CarriedIn (entry.ensure_as table) :=
  table.first_ensure_as (Fields.is_overwrite hwords entry.value) (is_managed _ _ _)
    (Fields.overwrite_overwrite entry.words) (Fields.overwrite_of hwords entry.value)

/-- Other values of the same entry do not disturb those it carries. -/
theorem Managed.CarriedIn.ensure_as {entry other : Managed} {table : Listing Fields} (h : entry.CarriedIn table)
    (hkey : entry.SameKey other) (hother : other.words.lookup other.field = none)
    (hwords : ∀ name, entry.words.lookup name = none ∨ other.words.lookup name = none) :
    entry.CarriedIn (other.ensure_as table) := by
  obtain ⟨found, hfound, hcarried⟩ := h
  have hamend := table.first_amend (Fields.is_overwrite hother other.value)
  rw [Managed.CarriedIn, Managed.ensure_as, Listing.ensure_as]
  rw [hkey.2.1, hkey.2.2] at hfound ⊢
  rw [if_pos (Listing.has_of_first hfound), hamend, hfound]
  refine ⟨_, rfl, ?_⟩
  rw [Fields.overwrite_comm hwords, hcarried]

/-- An entry that is left alone carries the values of the second configuration only
where it had them, or where the first configuration had the same. -/
theorem Managed.carried_iff_settled {entry other : Managed} {router after : Router} {same : Prop}
    (hkey : entry.SameKey other)
    (hsame : Fields.overwrite entry.words (Fields.of ((other.field, other.value) :: other.words)) =
      Fields.of ((other.field, other.value) :: other.words) ↔ same)
    (htable : after.tables entry.path = entry.ensure (other.ensure (router.tables entry.path))) :
    entry.Carried after ↔ entry.Settled router same := by
  rw [Managed.Carried, Managed.CarriedIn, Managed.Settled, htable, Managed.ensure, Managed.ensure]
  rw [hkey.2.1, hkey.2.2]
  generalize router.tables entry.path = table
  cases hfirst : table.first (Fields.is other.field other.value) with
  | some found =>
    have hhas := Listing.has_of_first hfirst
    rw [Listing.ensure_of_has hhas, Listing.ensure_of_has hhas, hfirst]
    simp
  | none =>
    have hhas := Listing.first_eq_none_iff.mp hfirst
    have hadded := table.first_add_of_not_has hhas (is_managed other.field other.value other.words)
    rw [Listing.ensure_of_not_has hhas, Listing.ensure_of_has (Listing.has_of_first hadded), hadded]
    simpa using hsame

theorem managed_group_same :
    Fields.overwrite managed_group.words (Fields.of ((managed_group.field, managed_group.value) :: managed_group.words)) =
      Fields.of ((managed_group.field, managed_group.value) :: managed_group.words) ↔ True :=
  iff_true_intro (Fields.overwrite_of rfl _)

theorem managed_address_same (old new : SectorConfig) :
    Fields.overwrite (managed_address new).words
        (Fields.of (((managed_address old).field, (managed_address old).value) :: (managed_address old).words)) =
      Fields.of (((managed_address old).field, (managed_address old).value) :: (managed_address old).words) ↔
      new.lan_bridge = old.lan_bridge := by
  constructor
  · intro h
    exact Option.some.inj (congrFun h "interface")
  · intro h
    rw [managed_address, h]
    exact Fields.overwrite_of rfl _

theorem managed_nat_same (old new : SectorConfig) :
    Fields.overwrite (managed_nat new).words
        (Fields.of (((managed_nat old).field, (managed_nat old).value) :: (managed_nat old).words)) =
      Fields.of (((managed_nat old).field, (managed_nat old).value) :: (managed_nat old).words) ↔
      new.wan_interface = old.wan_interface := by
  constructor
  · intro h
    exact Option.some.inj (congrFun h "out-interface")
  · intro h
    rw [managed_nat, h]
    exact Fields.overwrite_of rfl _

theorem managed_walled_garden_same (old new : SectorConfig) :
    Fields.overwrite (managed_walled_garden new).words (Fields.of
        (((managed_walled_garden old).field, (managed_walled_garden old).value) :: (managed_walled_garden old).words)) =
      Fields.of
        (((managed_walled_garden old).field, (managed_walled_garden old).value) :: (managed_walled_garden old).words) ↔
      new.hotspot_walled_garden = old.hotspot_walled_garden := by
  constructor
  · intro h
    exact Option.some.inj (congrFun h "dst-host")
  · intro h
    rw [managed_walled_garden, h]
    exact Fields.overwrite_of rfl _

section

variable {cfg : Config} {environ : Environ} {entry : Managed}

theorem Manages.of_address (h : Manages cfg environ entry) (hpath : entry.path = .address) :
    ∃ rcfg, applied_config cfg = some rcfg ∧ entry = managed_address rcfg := by
  cases h with
  | sector happlied hentry =>
    cases hentry with
    | address => exact ⟨_, happlied, rfl⟩
    | _ => cases hpath
  | _ => cases hpath

theorem Manages.of_nat (h : Manages cfg environ entry) (hpath : entry.path = .nat) :
    ∃ rcfg, applied_config cfg = some rcfg ∧ rcfg.enable_nat = true ∧ entry = managed_nat rcfg := by
  cases h with
  | sector happlied hentry =>
    cases hentry with
    | nat henabled => exact ⟨_, happlied, henabled, rfl⟩
    | _ => cases hpath
  | _ => cases hpath

theorem Manages.of_walled_garden (h : Manages cfg environ entry) (hpath : entry.path = .walled_garden) :
    ∃ rcfg, applied_config cfg = some rcfg ∧ walled rcfg = true ∧ entry = managed_walled_garden rcfg := by
  cases h with
  | sector happlied hentry =>
    cases hentry with
    | walled_garden henabled => exact ⟨_, happlied, henabled, rfl⟩
    | _ => cases hpath
  | _ => cases hpath

end

section

variable {cfg : Config} {environ : Environ} {rcfg : SectorConfig}

theorem run_change_user_group (cfg : Config) (environ : Environ) :
    run_change cfg environ .user_group = managed_group.ensure := by
  rw [run_change]
  cases applied_config cfg <;> rfl

theorem run_change_user (cfg : Config) (environ : Environ) :
    run_change cfg environ .user = (managed_user cfg (mgmt_pass_of cfg environ)).ensure_as := by
  rw [run_change]
  cases applied_config cfg <;> rfl

theorem run_change_script (henabled : cfg.call_home.enabled = true) :
    run_change cfg environ .script = (managed_script cfg environ).ensure_as := by
  rw [run_change, call_home_change, henabled]
  cases applied_config cfg <;> rfl

theorem run_change_scheduler (henabled : cfg.call_home.enabled = true) :
    run_change cfg environ .scheduler = (managed_scheduler cfg).ensure_as := by
  rw [run_change, call_home_change, henabled]
  cases applied_config cfg <;> rfl

/-- The paths of the sector configuration. -/
def sector_paths : List Path :=
  [.address, .pool, .dhcp_server, .dhcp_network, .nat, .hotspot_profile, .hotspot, .walled_garden]

theorem run_change_sector (happlied : applied_config cfg = some rcfg) {path : Path}
    (hpath : path ∈ sector_paths) :
    run_change cfg environ path = sector_change cfg environ rcfg path := by
  rw [run_change, happlied]
  simp only [sector_paths, List.mem_cons, List.not_mem_nil, or_false] at hpath
  obtain rfl | rfl | rfl | rfl | rfl | rfl | rfl | rfl := hpath <;> rfl

/-- The entries that a run updates carry its values afterwards, whatever was there before.
Addresses, NAT rules and the walled garden are only added where none is found. -/
theorem SectorManaged.carriedIn {entry : Managed} (h : SectorManaged cfg environ rcfg entry)
    (haddress : entry.path ≠ .address) (hnat : entry.path ≠ .nat) (hwalled : entry.path ≠ .walled_garden)
    (table : Listing Fields) : entry.CarriedIn (sector_change cfg environ rcfg entry.path table) := by
  cases h with
  | address => exact absurd rfl haddress
  | nat => exact absurd rfl hnat
  | walled_garden => exact absurd rfl hwalled
  | pool => exact Managed.carriedIn_ensure_as rfl table
  | dhcp_network => exact Managed.carriedIn_ensure_as rfl table
  | dhcp_server =>
    have hserver : (managed_dhcp_server rcfg).CarriedIn ((managed_dhcp_server rcfg).ensure_as table) :=
      Managed.carriedIn_ensure_as rfl table
    change (managed_dhcp_server rcfg).CarriedIn (when (sets_lease_script cfg environ)
      (managed_lease_script cfg environ rcfg).ensure_as ((managed_dhcp_server rcfg).ensure_as table))
    cases sets_lease_script cfg environ with
    | false => exact hserver
    | true =>
      refine hserver.ensure_as ⟨rfl, rfl, rfl⟩ rfl fun name => ?_
      by_cases hname : name = "lease-script"
      · exact Or.inl (hname ▸ rfl)
      · have hother : Fields.of (managed_lease_script cfg environ rcfg).words name = none := by
          simp [managed_lease_script, hname]
        exact Or.inr hother
  | lease_script h =>
    change (managed_lease_script cfg environ rcfg).CarriedIn (when (sets_lease_script cfg environ)
      (managed_lease_script cfg environ rcfg).ensure_as ((managed_dhcp_server rcfg).ensure_as table))
    rw [h]
    exact Managed.carriedIn_ensure_as rfl _
  | hotspot_profile h =>
    change (managed_hotspot_profile rcfg).CarriedIn (when rcfg.enable_hotspot _ table)
    rw [h]
    exact Managed.carriedIn_ensure_as rfl table
  | hotspot h =>
    change (managed_hotspot rcfg).CarriedIn (when rcfg.enable_hotspot _ table)
    rw [h]
    exact Managed.carriedIn_ensure_as rfl table

theorem SectorManaged.path_mem {entry : Managed} (h : SectorManaged cfg environ rcfg entry) :
    entry.path ∈ sector_paths := by
  cases h <;> exact List.mem_of_elem_eq_true rfl

theorem not_other_of_sector {path : Path} (hpath : path ∈ sector_paths) : path ∉ other_paths := by
  simp only [sector_paths, List.mem_cons, List.not_mem_nil, or_false] at hpath
  obtain rfl | rfl | rfl | rfl | rfl | rfl | rfl | rfl := hpath <;> decide

end

section

variable {first second : Config} {first_environ second_environ : Environ} {router after : Router}

/-- The managed tables are what the changes of both runs make of them. -/
def ChangedTwice (first : Config) (first_environ : Environ) (second : Config) (second_environ : Environ)
    (router after : Router) : Prop :=
  ∀ path, path ∉ other_paths → after.tables path =
    run_change second second_environ path (run_change first first_environ path (router.tables path))

theorem ChangedTwice.group_iff (h : ChangedTwice first first_environ second second_environ router after) :
    managed_group.Carried after ↔ managed_group.Settled router True := by
  refine Managed.carried_iff_settled ⟨rfl, rfl, rfl⟩ managed_group_same ?_
  rw [h managed_group.path (by decide), managed_group, run_change_user_group, run_change_user_group]
  rfl

section

variable {old new : SectorConfig} (hold : applied_config first = some old) (hnew : applied_config second = some new)

include hold hnew

theorem ChangedTwice.address_iff (h : ChangedTwice first first_environ second second_environ router after)
    (hvalue : new.lan_address = old.lan_address) :
    (managed_address new).Carried after ↔
    (managed_address new).Settled router (new.lan_bridge = old.lan_bridge) := by
  refine @Managed.carried_iff_settled (managed_address new) (managed_address old) _ _ _ ⟨rfl, rfl, hvalue⟩
    (managed_address_same old new) ?_
  change after.tables .address = _
  rw [h .address (by decide), run_change_sector hold (by decide), run_change_sector hnew (by decide)]
  rfl

theorem ChangedTwice.nat_iff (h : ChangedTwice first first_environ second second_environ router after)
    (hold_enabled : old.enable_nat = true) (hnew_enabled : new.enable_nat = true) :
    (managed_nat new).Carried after ↔ (managed_nat new).Settled router (new.wan_interface = old.wan_interface) := by
  refine @Managed.carried_iff_settled (managed_nat new) (managed_nat old) _ _ _ ⟨rfl, rfl, rfl⟩
    (managed_nat_same old new) ?_
  change after.tables .nat = _
  rw [h .nat (by decide), run_change_sector hold (by decide), run_change_sector hnew (by decide), sector_change,
    sector_change, hold_enabled, hnew_enabled]
  rfl

theorem ChangedTwice.walled_garden_iff (h : ChangedTwice first first_environ second second_environ router after)
    (hold_walled : walled old = true) (hnew_walled : walled new = true) :
    (managed_walled_garden new).Carried after ↔
      (managed_walled_garden new).Settled router (new.hotspot_walled_garden = old.hotspot_walled_garden) := by
  refine @Managed.carried_iff_settled (managed_walled_garden new) (managed_walled_garden old) _ _ _ ⟨rfl, rfl, rfl⟩
    (managed_walled_garden_same old new) ?_
  change after.tables .walled_garden = _
  rw [h .walled_garden (by decide), run_change_sector hold (by decide), run_change_sector hnew (by decide),
    sector_change, sector_change, hold_walled, hnew_walled]
  rfl

end

/-- Every entry that the second run manages carries its values, where nothing that both
runs manage was stale. -/
theorem ChangedTwice.carried (h : ChangedTwice first first_environ second second_environ router after)
    (hstale : NothingStale first second router) : LastWins first first_environ second second_environ after := by
  intro entry other hentry hother hkey
  cases hentry with
  | group => exact h.group_iff.mpr hstale.group
  | user =>
    rw [Managed.Carried, managed_user, h .user (by decide), run_change_user]
    exact Managed.carriedIn_ensure_as rfl _
  | script henabled =>
    rw [Managed.Carried, managed_script, h .script (by decide), run_change_script henabled]
    exact Managed.carriedIn_ensure_as rfl _
  | scheduler henabled =>
    rw [Managed.Carried, managed_scheduler, h .scheduler (by decide), run_change_scheduler henabled]
    exact Managed.carriedIn_ensure_as rfl _
  | sector hnew hsector =>
    have hupdated : ∀ path, path = entry.path → path ≠ .address → path ≠ .nat → path ≠ .walled_garden →
        entry.Carried after := by
      rintro path rfl hpath_address hpath_nat hpath_walled
      have hmem := hsector.path_mem
      rw [Managed.Carried, h entry.path (not_other_of_sector hmem), run_change_sector hnew hmem]
      exact hsector.carriedIn hpath_address hpath_nat hpath_walled _
    cases hsector with
    | address =>
      obtain ⟨old, hold, rfl⟩ := hother.of_address hkey.1.symm
      exact (h.address_iff hold hnew hkey.2.2).mpr (hstale.address old _ hold hnew hkey.2.2)
    | nat hnew_enabled =>
      obtain ⟨old, hold, hold_enabled, rfl⟩ := hother.of_nat hkey.1.symm
      exact (h.nat_iff hold hnew hold_enabled hnew_enabled).mpr
        (hstale.nat old _ hold hnew hold_enabled hnew_enabled)
    | walled_garden hnew_walled =>
      obtain ⟨old, hold, hold_walled, rfl⟩ := hother.of_walled_garden hkey.1.symm
      exact (h.walled_garden_iff hold hnew hold_walled hnew_walled).mpr
        (hstale.walled_garden old _ hold hnew hold_walled hnew_walled)
    | _ => exact hupdated _ rfl nofun nofun nofun

end

/-- After two complete runs, the entries that both configurations manage carry the values
of the second, exactly when none that a run leaves alone was stale. Steps that only look
for an entry end where they find one, whatever its values. -/
theorem last_configuration_wins_iff {first second : Config} {first_environ second_environ : Environ}
    {first_ip second_ip : String} {router middle after : Router} {first_onboarded second_onboarded : Onboarded}
    (hfirst : (routeros_onboard first_ip first first_environ).exec perform router =
      (.ok (some first_onboarded), middle))
    (hsecond : (routeros_onboard second_ip second second_environ).exec perform middle =
      (.ok (some second_onboarded), after)) :
    LastWins first first_environ second second_environ after ↔ NothingStale first second router := by
  have htwice : ChangedTwice first first_environ second second_environ router after := by
    intro path hpath
    rw [routeros_onboard_tables hsecond hpath, routeros_onboard_tables hfirst hpath]
  refine ⟨fun h => ⟨?_, ?_, ?_, ?_⟩, htwice.carried⟩
  · exact htwice.group_iff.mp (h _ _ .group .group ⟨rfl, rfl, rfl⟩)
  · intro old new hold hnew hvalue
    exact (htwice.address_iff hold hnew hvalue).mp
      (h _ _ (.sector hnew .address) (.sector hold .address) ⟨rfl, rfl, hvalue⟩)
  · intro old new hold hnew hold_enabled hnew_enabled
    exact (htwice.nat_iff hold hnew hold_enabled hnew_enabled).mp
      (h _ _ (.sector hnew (.nat hnew_enabled)) (.sector hold (.nat hold_enabled)) ⟨rfl, rfl, rfl⟩)
  · intro old new hold hnew hold_walled hnew_walled
    exact (htwice.walled_garden_iff hold hnew hold_walled hnew_walled).mp
      (h _ _ (.sector hnew (.walled_garden hnew_walled)) (.sector hold (.walled_garden hold_walled)) ⟨rfl, rfl, rfl⟩)

/-- A configuration with the given uplink. -/
def uplinkConfig (wan_interface : String) : Config :=
  { routeros :=
      { mgmt_user := "odoo"
        mgmt_pass_value := "secret"
        discovery_interfaces := ["ether1"]
        config := some
          { wan_interface := wan_interface, lan_bridge := "br-pon", lan_address := "10.10.10.1/24"
            dhcp_pool := "pon_pool", dhcp_range := "10.10.10.100-10.10.10.200", dhcp_server := "pon_dhcp"
            dhcp_network := "10.10.10.0/24" } } }

/-- A run with that configuration. -/
def uplinkRun (wan_interface : String) : Session (Option Onboarded) :=
  routeros_onboard "192.168.88.1" (uplinkConfig wan_interface) (fun _ => none)

/-- A router with nothing but its API service. -/
def apiRouter : Router := Router.blank.add .service [("name", "api")]

theorem exists_onboarded {program : Session (Option Onboarded)} {router : Router}
    (h : (program.exec perform router).1.toOption.join.isSome = true) :
    ∃ onboarded, program.exec perform router = (.ok (some onboarded), (program.exec perform router).2) := by
  cases hexec : program.exec perform router with
  | mk result after =>
    rw [hexec] at h
    match result, h with
    | .ok (some onboarded), _ => exact ⟨onboarded, rfl⟩

/-- Both runs are complete. -/
theorem uplinkRuns :
    ∃ first_onboarded second_onboarded,
      (uplinkRun "ether1").exec perform apiRouter =
        (.ok (some first_onboarded), ((uplinkRun "ether1").exec perform apiRouter).2) ∧
      (uplinkRun "ether2").exec perform ((uplinkRun "ether1").exec perform apiRouter).2 =
        (.ok (some second_onboarded),
          ((uplinkRun "ether2").exec perform ((uplinkRun "ether1").exec perform apiRouter).2).2) := by
  have hfirst : ((uplinkRun "ether1").exec perform apiRouter).1.toOption.join.isSome = true := by decide +kernel
  have hsecond : ((uplinkRun "ether2").exec perform
      ((uplinkRun "ether1").exec perform apiRouter).2).1.toOption.join.isSome = true := by decide +kernel
  obtain ⟨first_onboarded, hfirst⟩ := exists_onboarded hfirst
  obtain ⟨second_onboarded, hsecond⟩ := exists_onboarded hsecond
  exact ⟨first_onboarded, second_onboarded, hfirst, hsecond⟩

theorem last_configuration_wins_iff_uplink :
    LastWins (uplinkConfig "ether1") (fun _ => none) (uplinkConfig "ether2") (fun _ => none)
        ((uplinkRun "ether2").exec perform ((uplinkRun "ether1").exec perform apiRouter).2).2 ↔
      NothingStale (uplinkConfig "ether1") (uplinkConfig "ether2") apiRouter := by
  obtain ⟨_, _, hfirst, hsecond⟩ := uplinkRuns
  exact last_configuration_wins_iff hfirst hsecond

/-- The rule made for the first uplink stays when the uplink changes. -/
theorem changed_uplink_keeps_nat :
    ∃ middle after first_onboarded second_onboarded,
      (routeros_onboard "192.168.88.1" (uplinkConfig "ether1") (fun _ => none)).exec perform apiRouter =
        (.ok (some first_onboarded), middle) ∧
      (routeros_onboard "192.168.88.1" (uplinkConfig "ether2") (fun _ => none)).exec perform middle =
        (.ok (some second_onboarded), after) ∧
      ¬ LastWins (uplinkConfig "ether1") (fun _ => none) (uplinkConfig "ether2") (fun _ => none) after := by
  have hstale : ((((uplinkRun "ether2").exec perform ((uplinkRun "ether1").exec perform apiRouter).2).2.tables
      .nat).first (Fields.is "comment" "ISP-NAT")).map (fun found => found.2 "out-interface") =
        some (some "ether1") := by
    decide +kernel
  obtain ⟨first_onboarded, second_onboarded, hfirst, hsecond⟩ := uplinkRuns
  refine ⟨_, _, first_onboarded, second_onboarded, hfirst, hsecond, fun h => ?_⟩
  obtain ⟨found, hfound, hwords⟩ := h _ _ (.sector rfl (.nat rfl)) (.sector rfl (.nat rfl)) ⟨rfl, rfl, rfl⟩
  have hvalue : some "ether2" = found.2 "out-interface" := congrFun hwords "out-interface"
  have hkept := (congrArg (Option.map fun entry : Nat × Fields => entry.2 "out-interface") hfound).symm.trans hstale
  exact absurd (hvalue.trans (Option.some.inj hkept)) (by decide)

end getupnet.mikrotik_preloader

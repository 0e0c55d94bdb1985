import Getupnet.Tools.Preloader

open interaction relational

namespace getupnet.mikrotik_preloader

def ensure_step (path : Path) (field value : String) (words : List (String × String)) : Router → Router :=
  Router.alter path (fun table => table.ensure (Fields.is field value) (Fields.of words))

/-- A bridge that is missing is added together with its interface. -/
def bridge_step (name : String) (router : Router) : Router :=
  if (router.tables .bridge).has (Fields.is "name" name) then router else router.add .bridge [("name", name)]

/-- The entries of an interface with a field of a given value. -/
def linked (field value interface : String) (fields : Fields) : Bool :=
  Fields.is "interface" interface fields && Fields.is field value fields

def link_words (field value interface : String) : List (String × String) :=
  [(field, value), ("interface", interface)]

def link_step (path : Path) (field value interface : String) (router : Router) : Router :=
  if (router.tables .interface).has (Fields.is "name" interface) then
    router.alter path (fun table =>
      table.ensure (linked field value interface) (Fields.of (link_words field value interface)))
  else
    router

def entry_step (path : Path) (field value : String) (words : List (String × String)) : Router → Router :=
  Router.alter path (fun table =>
    table.ensure_as (Fields.is field value) (Fields.overwrite words) (Fields.of ((field, value) :: words)))

def amend_step (path : Path) (name : String) (words : List (String × String)) : Router → Router :=
  Router.alter path (fun table => table.amend (Fields.is "name" name) (Fields.overwrite words))

/-- The words of an allow rule. -/
def allow_words (port : Nat) (src_ip comment : String) : List (String × String) :=
  [("chain", "input"), ("src-address", src_ip), ("protocol", "tcp"), ("dst-port", toString port),
    ("action", "accept"), ("comment", comment)]

def allow_add_step (port : Nat) (src_ip comment : String) : Router → Router :=
  ensure_step .filter "comment" comment (allow_words port src_ip comment)

/-- The rule is there and comes first. -/
def allow_step (port : Nat) (src_ip comment : String) : Router → Router :=
  Router.alter .filter (fun table =>
    (table.ensure (Fields.is "comment" comment) (Fields.of (allow_words port src_ip comment))).raise
      (Fields.is "comment" comment))

/-- The interface that the management address belongs to. -/
def mgmt_iface (ip : String) (router : Router) : Option String :=
  mgmt_interface ip (router.tables .address).entries

/-- A LAN port joins the bridge unless it is the management interface. -/
def port_step (ip lan_bridge port : String) (router : Router) : Router :=
  if !((mgmt_iface ip router).getD "").isEmpty && mgmt_iface ip router == some port then router
  else link_step .bridge_port "bridge" lan_bridge port router

/-- A step that leaves one table as it is. -/
def Spares (path : Path) (step : Router → Router) : Prop :=
  ∀ router, (step router).tables path = router.tables path

theorem Spares.alter {path other : Path} (h : path ≠ other) (change : Listing Fields → Listing Fields) :
    Spares path (Router.alter other change) := fun router => Router.alter_tables_of_ne h change router

theorem Spares.ensure_step {path other : Path} (h : path ≠ other) (field value : String)
    (words : List (String × String)) : Spares path (ensure_step other field value words) := Spares.alter h _

theorem Spares.assign (path : Path) (menu : Menu) (words : List (String × String)) :
    Spares path (Router.assign menu words) := fun _ => rfl

theorem Spares.when {path : Path} {step : Router → Router} (h : Spares path step) (condition : Bool) :
    Spares path (when condition step) := by
  cases condition with
  | false => exact fun _ => rfl
  | true => exact h

theorem Spares.link_step {path other : Path} (h : path ≠ other) (field value interface : String) :
    Spares path (link_step other field value interface) := by
  intro router
  rw [mikrotik_preloader.link_step]
  split
  · exact Router.alter_tables_of_ne h _ _
  · rfl

theorem Spares.bridge_step {path : Path} (hbridge : path ≠ .bridge) (hinterface : path ≠ .interface)
    (name : String) : Spares path (bridge_step name) := by
  intro router
  rw [mikrotik_preloader.bridge_step]
  split
  · rfl
  · rw [Router.add, if_pos rfl, Router.alter_tables_of_ne hinterface, Router.alter_tables_of_ne hbridge]

theorem Spares.port_step {path : Path} (h : path ≠ .bridge_port) (ip lan_bridge port : String) :
    Spares path (port_step ip lan_bridge port) := by
  intro router
  rw [mikrotik_preloader.port_step]
  split
  · rfl
  · exact Spares.link_step h _ _ _ _

/-- Steps that spare a table spare it together. -/
theorem Spares.replay {path : Path} {steps : List (Router → Router)} (h : ∀ step ∈ steps, Spares path step) :
    Spares path (replay steps) := fun router =>
  @replay_keeps _ (fun reached : Router => reached.tables path = router.tables path) _
    (fun step hmem reached hreached => (h step hmem reached).trans hreached) _ rfl

variable {router : Router}

theorem Router.alter_congr {path : Path} {first second : Listing Fields → Listing Fields}
    (h : first (router.tables path) = second (router.tables path)) :
    router.alter path first = router.alter path second := by
  rw [Router.alter, Router.alter, h]

/-- A step that ensures an entry has nothing to do where there is one. -/
theorem ensure_step_fixed_iff {path : Path} {field value : String} {words : List (String × String)} :
    Function.IsFixedPt (ensure_step path field value words) router ↔
      (router.tables path).has (Fields.is field value) = true :=
  (Router.alter_eq_self_iff _ _ _).trans (Listing.ensure_eq_self_iff _ _ _)

theorem ensure_step_of_not_has {path : Path} {field value : String}
    (h : (router.tables path).has (Fields.is field value) = false) (words : List (String × String)) :
    ensure_step path field value words router = router.alter path (fun table => table.add (Fields.of words)) :=
  Router.alter_congr (Listing.ensure_of_not_has h _)

/-- The contents of an entry have been ensured. -/
def Ensured (path : Path) (field value : String) (words : List (String × String)) (router : Router) : Prop :=
  ∃ entry, (router.tables path).first (Fields.is field value) = some entry ∧
    Fields.overwrite words entry.2 = entry.2

theorem entry_step_fixed_iff {path : Path} {field value : String} {words : List (String × String)} :
    Function.IsFixedPt (entry_step path field value words) router ↔ Ensured path field value words router :=
  (Router.alter_eq_self_iff _ _ _).trans (Listing.ensure_as_eq_self_iff _ _ _ _)

theorem entry_step_ensured {words : List (String × String)} {field : String} (h : words.lookup field = none)
    (path : Path) (value : String) (router : Router) :
    Ensured path field value words (entry_step path field value words router) := by
  have hrecord : Fields.is field value (Fields.of ((field, value) :: words)) = true := by simp [Fields.is]
  rw [Ensured, entry_step, Router.alter_tables_self]
  exact (router.tables path).first_ensure_as (Fields.is_overwrite h value) hrecord
    (Fields.overwrite_overwrite words) (Fields.overwrite_of h value)

private theorem isEmpty_found (path : Path) (domain : Fields → Bool) :
    ((router.tables path).entries.filter (fun entry => domain entry.2)).isEmpty =
      !(router.tables path).has domain := by
  rw [Bool.eq_iff_iff, List.isEmpty_iff, List.filter_eq_nil_iff, Bool.not_eq_true', ← Bool.not_eq_true,
    Listing.has_iff]
  push Not
  rfl

theorem routeros_find_performs (path : Path) (field value : String) (router : Router) :
    (routeros_find path field value).Performs mikrotik router []
      ((router.tables path).entries.filter (fun entry => Fields.is field value entry.2)) :=
  (Program.Performs.query rfl).attempt _

theorem routeros_get_id_performs (path : Path) (field value : String) (router : Router) :
    (routeros_get_id path field value).Performs mikrotik router []
      (((router.tables path).first (Fields.is field value)).map Prod.fst) := by
  have hfirst : ((router.tables path).entries.filter (fun entry => Fields.is field value entry.2)).head? =
      (router.tables path).first (Fields.is field value) := List.head?_filter
  refine (routeros_find_performs path field value router).bind ?_
  rw [hfirst]
  exact .pure router _

theorem routeros_interface_exists_performs (name : String) (router : Router) :
    (routeros_interface_exists name).Performs mikrotik router []
      ((router.tables .interface).has (Fields.is "name" name)) := by
  refine (routeros_find_performs .interface "name" name router).bind ?_
  rw [isEmpty_found, Bool.not_not]
  exact .pure router _

theorem add_performs {path : Path} (hpath : path ≠ .user) (hbridge : path ≠ .bridge)
    (words : List (String × String)) (router : Router) :
    (api_exec (.add path words)).Performs mikrotik router
      [Router.alter path (fun table => table.add (Fields.of words))] [] := by
  refine Program.Performs.command ?_
  change perform router (.add path words) = _
  rw [perform, if_neg (fun h => hpath h.1), Router.add, if_neg hbridge]

/-- A command whose response nothing reads. -/
theorem ignored {α : Type} {command : Session α} {steps : List (Router → Router)} {response : α}
    (h : command.Performs mikrotik router steps response) :
    (do let _ ← command; pure () : Session Unit).Performs mikrotik router steps () := by
  have hbind := @Program.Performs.bind _ _ _ _ _ _ mikrotik _ _ _ _ (fun _ => pure ()) _ _ h
    (Program.Performs.pure (replay steps router) ())
  rwa [List.append_nil] at hbind

theorem routeros_ensure_performs {path : Path} (hpath : path ≠ .user) (hbridge : path ≠ .bridge)
    (field value : String) (words : List (String × String)) (router : Router) :
    (routeros_ensure path field value words).Performs mikrotik router [ensure_step path field value words] () := by
  refine (routeros_find_performs path field value router).bind ?_
  rw [isEmpty_found, replay_nil]
  cases hhas : (router.tables path).has (Fields.is field value) with
  | true => exact (Program.Performs.pure router ()).skip (ensure_step_fixed_iff.mpr hhas)
  | false => exact (ignored (add_performs hpath hbridge words router)).congr (ensure_step_of_not_has hhas words)

theorem routeros_ensure_bridge_performs (name : String) (router : Router) :
    (routeros_ensure_bridge name).Performs mikrotik router [bridge_step name] () := by
  refine (routeros_find_performs .bridge "name" name router).bind ?_
  rw [isEmpty_found, replay_nil]
  cases hhas : (router.tables .bridge).has (Fields.is "name" name) with
  | true =>
    refine (Program.Performs.pure router ()).skip ?_
    exact if_pos hhas
  | false =>
    have hstep : bridge_step name router = router.add .bridge [("name", name)] := by
      rw [bridge_step, hhas, if_neg Bool.false_ne_true]
    have hadd : (api_exec (.add .bridge [("name", name)])).Performs mikrotik router [bridge_step name] [] :=
      Program.Performs.command (by rw [hstep]; rfl)
    exact ignored hadd

private theorem any_found (path : Path) (field value interface : String) :
    ((router.tables path).entries.filter (fun entry => Fields.is "interface" interface entry.2)).any
      (fun entry => Fields.is field value entry.2) = (router.tables path).has (linked field value interface) :=
  List.any_filter

theorem routeros_ensure_link_performs {path : Path} (hpath : path ≠ .user) (hbridge : path ≠ .bridge)
    (field value interface : String) (router : Router) :
    (routeros_ensure_link path field value interface).Performs mikrotik router
      [link_step path field value interface] () := by
  refine (routeros_interface_exists_performs interface router).bind ?_
  rw [replay_nil]
  cases hexists : (router.tables .interface).has (Fields.is "name" interface) with
  | false =>
    refine (Program.Performs.pure router ()).skip ?_
    exact if_neg (by rw [hexists]; exact Bool.false_ne_true)
  | true =>
    have hstep : link_step path field value interface router = router.alter path (fun table =>
        table.ensure (linked field value interface) (Fields.of (link_words field value interface))) := if_pos hexists
    refine (routeros_find_performs path "interface" interface router).bind ?_
    rw [any_found, replay_nil]
    cases hhas : (router.tables path).has (linked field value interface) with
    | true =>
      refine (Program.Performs.pure router ()).skip ?_
      exact hstep.trans ((Router.alter_eq_self_iff _ _ _).mpr (Listing.ensure_of_has hhas _))
    | false =>
      refine (ignored (add_performs hpath hbridge _ router)).congr ?_
      rw [hstep]
      exact Router.alter_congr (Listing.ensure_of_not_has hhas _)

/-- A `set` of an entry found by its identifier. -/
theorem set_performs {path : Path} {domain : Fields → Bool} {entry : Nat × Fields}
    (h : (router.tables path).first domain = some entry) (words : List (String × String)) {numbers : Numbers}
    (hnumbers : router.resolve path numbers = some entry.1) :
    (api_exec (.set path numbers words)).Performs mikrotik router
      [Router.alter path (fun table => table.amend domain (Fields.overwrite words))] [] := by
  have hamend : router.alter path (fun table => table.amend domain (Fields.overwrite words)) =
      router.alter path (fun table => table.set entry.1 (Fields.overwrite words)) :=
    Router.alter_congr (by rw [Listing.amend, h])
  refine Program.Performs.command ?_
  change perform router (.set path numbers words) = _
  rw [perform, hnumbers, hamend]

theorem resolve_id {path : Path} {entry : Nat × Fields} (h : entry ∈ (router.tables path).entries) :
    router.resolve path (.id entry.1) = some entry.1 := by
  have hany : (router.tables path).entries.any (fun other => other.1 == entry.1) = true :=
    List.any_eq_true.mpr ⟨entry, h, beq_self_eq_true _⟩
  rw [Router.resolve, hany, if_pos rfl]

theorem resolve_name {path : Path} {name : String} {entry : Nat × Fields}
    (h : (router.tables path).first (Fields.is "name" name) = some entry) :
    router.resolve path (.name name) = some entry.1 := by
  rw [Router.resolve, h]
  rfl

private theorem ensure_as_of_has {path : Path} {domain : Fields → Bool} {change : Fields → Fields}
    {record : Fields}
    (h : (router.tables path).has domain = true) :
    router.alter path (fun table => table.ensure_as domain change record) =
      router.alter path (fun table => table.amend domain change) :=
  Router.alter_congr (if_pos h)

private theorem ensure_as_of_not_has {path : Path} {domain : Fields → Bool} {change : Fields → Fields}
    {record : Fields} (h : (router.tables path).has domain = false) :
    router.alter path (fun table => table.ensure_as domain change record) =
      router.alter path (fun table => table.add record) :=
  Router.alter_congr (if_neg (by rw [h]; exact Bool.false_ne_true))

theorem routeros_ensure_named_performs {path : Path} (hpath : path ≠ .user) (hbridge : path ≠ .bridge)
    (name : String) (words : List (String × String)) (router : Router) :
    (routeros_ensure_named path name words).Performs mikrotik router [entry_step path "name" name words] () := by
  refine (routeros_find_performs path "name" name router).bind ?_
  rw [isEmpty_found, replay_nil]
  cases hfirst : (router.tables path).first (Fields.is "name" name) with
  | none =>
    have hhas := Listing.first_eq_none_iff.mp hfirst
    rw [hhas]
    exact (ignored (add_performs hpath hbridge _ router)).congr (ensure_as_of_not_has hhas)
  | some entry =>
    have hhas := Listing.has_of_first hfirst
    rw [hhas]
    refine (routeros_get_id_performs path "name" name router).bind ?_
    rw [hfirst, replay_nil]
    refine (ignored (set_performs hfirst words ?_)).congr (ensure_as_of_has hhas)
    exact resolve_id (Listing.mem_of_first hfirst)

theorem routeros_ensure_entry_performs {path : Path} (hpath : path ≠ .user) (hbridge : path ≠ .bridge)
    (field value : String) (words : List (String × String)) (router : Router) :
    (routeros_ensure_entry path field value words).Performs mikrotik router
      [entry_step path field value words] () := by
  refine (routeros_get_id_performs path field value router).bind ?_
  rw [replay_nil]
  cases hfirst : (router.tables path).first (Fields.is field value) with
  | none =>
    have hhas := Listing.first_eq_none_iff.mp hfirst
    exact (ignored (add_performs hpath hbridge _ router)).congr (ensure_as_of_not_has hhas)
  | some entry =>
    refine (ignored (set_performs hfirst words ?_)).congr (ensure_as_of_has (Listing.has_of_first hfirst))
    exact resolve_id (Listing.mem_of_first hfirst)

theorem routeros_ensure_ip_pool_performs (name ranges : String) (router : Router) :
    (routeros_ensure_ip_pool name ranges).Performs mikrotik router
      [entry_step .pool "name" name [("ranges", ranges)]] () := by
  refine (routeros_find_performs .pool "name" name router).bind ?_
  rw [isEmpty_found, replay_nil]
  cases hfirst : (router.tables .pool).first (Fields.is "name" name) with
  | none =>
    have hhas := Listing.first_eq_none_iff.mp hfirst
    rw [hhas]
    exact (ignored (add_performs (by decide) (by decide) _ router)).congr (ensure_as_of_not_has hhas)
  | some entry =>
    have hhas := Listing.has_of_first hfirst
    rw [hhas]
    exact (ignored (set_performs hfirst _ (resolve_name hfirst))).congr (ensure_as_of_has hhas)

/-- The server the lease script belongs to has to be there. -/
theorem routeros_set_dhcp_lease_script_performs {dhcp_server : String} {router : Router}
    (h : (router.tables .dhcp_server).has (Fields.is "name" dhcp_server) = true) (script : Option String)
    (clear_if_empty : Bool) :
    (routeros_set_dhcp_lease_script dhcp_server script clear_if_empty).Performs mikrotik router
      [when (!((script.getD "").isEmpty && !clear_if_empty))
        (amend_step .dhcp_server dhcp_server [("lease-script", script.getD "")])] () := by
  rw [routeros_set_dhcp_lease_script]
  cases (script.getD "").isEmpty && !clear_if_empty with
  | true => exact (Program.Performs.pure router ()).skip rfl
  | false =>
    obtain ⟨entry, hfirst⟩ := Listing.exists_first h
    refine (routeros_get_id_performs .dhcp_server "name" dhcp_server router).bind ?_
    rw [hfirst, replay_nil]
    exact ignored (set_performs hfirst _ (resolve_id (Listing.mem_of_first hfirst)))

theorem assign_performs (menu : Menu) (words : List (String × String)) (router : Router) :
    (api_exec (.assign menu words)).Performs mikrotik router [Router.assign menu words] [] :=
  Program.Performs.command rfl

theorem routeros_try_assign_performs (menu : Menu) (words : List (String × String)) (router : Router) :
    (routeros_try_assign menu words).Performs mikrotik router [Router.assign menu words] () :=
  (ignored (assign_performs menu words router)).attempt _

theorem routeros_get_mgmt_interface_performs (ip : String) (router : Router) :
    (routeros_get_mgmt_interface ip).Performs mikrotik router [] (mgmt_iface ip router) := by
  have hprint : (api_exec (.print .address)).Performs mikrotik router [] (router.tables .address).entries :=
    Program.Performs.query rfl
  exact (hprint.bind (Program.Performs.pure router (mgmt_iface ip router))).attempt _

theorem routeros_ensure_firewall_allow_performs (port : Nat) (src_ip comment : String) (router : Router) :
    (routeros_ensure_firewall_allow port src_ip comment).Performs mikrotik router
      [allow_add_step port src_ip comment, allow_step port src_ip comment] () := by
  have hfound : ∀ router : Router,
      ((router.tables .filter).entries.filter (fun entry => Fields.is "comment" comment entry.2)).head? =
        (router.tables .filter).first (Fields.is "comment" comment) := fun _ => List.head?_filter
  refine (routeros_find_performs .filter "comment" comment router).bind ?_
  rw [hfound, replay_nil]
  have hmove : ∀ {router : Router} {entry : Nat × Fields},
      (router.tables .filter).first (Fields.is "comment" comment) = some entry →
      (do let _ ← api_exec (.move .filter entry.1); pure () : Session Unit).Performs mikrotik router
        [allow_step port src_ip comment] () := by
    intro router entry hfirst
    have hstep : allow_step port src_ip comment router =
        router.alter .filter (fun table => table.move_to_front entry.1) := by
      refine Router.alter_congr ?_
      rw [Listing.ensure_of_has (Listing.has_of_first hfirst), Listing.raise, hfirst]
    have hmoved : (api_exec (.move .filter entry.1)).Performs mikrotik router [allow_step port src_ip comment] [] :=
      Program.Performs.command (by rw [hstep]; rfl)
    exact ignored hmoved
  cases hfirst : (router.tables .filter).first (Fields.is "comment" comment) with
  | some entry =>
    exact ((hmove hfirst).attempt _).after_skip (ensure_step_fixed_iff.mpr (Listing.has_of_first hfirst))
  | none =>
    have hhas := Listing.first_eq_none_iff.mp hfirst
    have hadd : (api_exec (.add .filter (allow_words port src_ip comment))).Performs mikrotik router
        [allow_add_step port src_ip comment] [] :=
      (add_performs (by decide) (by decide) _ router).congr (ensure_step_of_not_has hhas _)
    refine hadd.bind ?_
    have hadded : ((allow_add_step port src_ip comment router).tables .filter).has
        (Fields.is "comment" comment) = true := by
      rw [allow_add_step, ensure_step, Router.alter_tables_self]
      exact Listing.has_ensure _ (by simp [Fields.is, allow_words])
    obtain ⟨entry, hentry⟩ := Listing.exists_first hadded
    refine Program.Performs.attempt ?_ _
    refine (routeros_find_performs .filter "comment" comment _).bind ?_
    rw [hfound, replay_nil, replay_cons, replay_nil, hentry]
    exact hmove hentry

/-- The words of a drop rule. -/
def drop_words (port : Nat) (comment : String) : List (String × String) :=
  [("chain", "input"), ("protocol", "tcp"), ("dst-port", toString port), ("action", "drop"), ("comment", comment)]

def allow_steps (cfg : Config) (allow_ip : String) : List (Router → Router) :=
  [allow_add_step cfg.routeros.api_port allow_ip "ALLOW ODOO/NOC API",
    allow_step cfg.routeros.api_port allow_ip "ALLOW ODOO/NOC API"]

def drop_step (cfg : Config) : Router → Router :=
  ensure_step .filter "comment" "DROP API OTHERS" (drop_words cfg.routeros.api_port "DROP API OTHERS")

def firewall_steps (cfg : Config) (environ : Environ) : List (Router → Router) :=
  (allowed_ips cfg environ).flatMap (allow_steps cfg) ++ [drop_step cfg]

theorem routeros_onboard_firewall_performs (cfg : Config) (environ : Environ) (router : Router) :
    (routeros_onboard_firewall cfg environ).Performs mikrotik router (firewall_steps cfg environ) () := by
  have hallow : (Program.forEach (fun allow_ip => routeros_ensure_firewall_allow cfg.routeros.api_port allow_ip
      "ALLOW ODOO/NOC API") (allowed_ips cfg environ)).Performs mikrotik router
      ((allowed_ips cfg environ).flatMap (allow_steps cfg)) () := by
    refine @Program.Performs.forEach _ _ _ _ _ _ _ _ (fun _ => True) _ ?_ (fun _ _ _ _ => trivial) _ trivial
    intro allow_ip _ state _
    exact routeros_ensure_firewall_allow_performs _ _ _ state
  exact hallow.bind (routeros_ensure_performs (by decide) (by decide) _ _ _ _)

end getupnet.mikrotik_preloader

import Getupnet.Tools.Preloader.Discovery

open interaction relational

namespace getupnet.mikrotik_preloader

variable {ip : String} {cfg : Config} {environ : Environ} {rcfg : SectorConfig} {router : Router}

theorem Calm.foreseen {step : Router → Router} (hstep : Calm step) (h : Foreseen ip cfg rcfg router) :
    Foreseen ip cfg rcfg (step router) := by
  constructor
  · intro hmem
    rw [discovered_congr (hstep.address router)] at hmem
    rw [Router.has_interface, Router.has_bridge, hstep.interface router, hstep.bridge router]
    exact (h.bridge hmem).imp_right (Or.imp_right (hstep.member router _))
  · intro hguess hhas hlan
    rw [hstep.address router] at hhas
    have hopen := h.address hguess hhas hlan
    refine ⟨hstep.list router hopen.list, fun setting hsetting => ?_, ?_⟩
    · exact hstep.settings router setting hsetting (hopen.settings setting hsetting)
    · rw [Router.has_interface, Router.has_bridge, hstep.interface router, hstep.bridge router]
      exact hopen.member.imp_left (hstep.member router _)

theorem bridge_step_foreseen (h : Foreseen ip cfg rcfg router) :
    Foreseen ip cfg rcfg (bridge_step rcfg.lan_bridge router) := by
  have hbridge : (bridge_step rcfg.lan_bridge router).has_bridge rcfg.lan_bridge = true :=
    bridge_step_has _ router
  refine ⟨fun _ => Or.inr (Or.inl hbridge), fun hguess hhas hlan => ?_⟩
  rw [Spares.bridge_step (by decide) (by decide)] at hhas
  have hopen := h.address hguess hhas hlan
  refine ⟨?_, ?_, ?_⟩
  · rw [Router.has_list, Spares.bridge_step (by decide) (by decide)]
    exact hopen.list
  · rw [bridge_step_settings]
    exact hopen.settings
  · cases hopen.member with
    | inl hmember =>
      refine Or.inl ?_
      rw [Router.has_member, Spares.bridge_step (by decide) (by decide)]
      exact hmember
    | inr hmissing =>
      rw [bridge_step_fixed_iff.mpr hmissing.2]
      exact Or.inr hmissing

theorem address_step_foreseen (h : Foreseen ip cfg rcfg router) :
    Foreseen ip cfg rcfg (address_step rcfg router) := by
  have hspares : ∀ path, path ≠ .address → (address_step rcfg router).tables path = router.tables path :=
    fun path hpath => Spares.ensure_step hpath _ _ _ router
  have hbefore : ((address_step rcfg router).tables .address).has (mgmt_address ip) = false →
      (router.tables .address).has (mgmt_address ip) = false := by
    intro hafter
    rw [Bool.eq_false_iff] at hafter ⊢
    intro hhas
    refine hafter ?_
    rw [address_step, ensure_step, Router.alter_tables_self]
    exact Listing.has_ensure_of_has hhas _ _
  constructor
  · intro hmem
    rw [Router.has_interface, Router.has_bridge, Router.has_member, hspares .interface (by decide),
      hspares .bridge (by decide), hspares .interface_list_member (by decide)]
    by_cases hguess : cfg.routeros.discovery_interfaces = [] ∧
      (router.tables .address).has (mgmt_address ip) = false
    · obtain ⟨hnone, hhas⟩ := hguess
      cases hlan : startswith rcfg.lan_address (ip ++ "/") with
      | false =>
        rw [discovered_of_not_has hnone (address_step_not_has hhas hlan)] at hmem
        cases hmem
      | true =>
        cases (h.address hnone hhas hlan).member with
        | inl hmember => exact Or.inr (Or.inr hmember)
        | inr hmissing => exact Or.inr (Or.inl hmissing.2)
    · rw [discovered_address_step fun hnone => by simpa [hnone] using hguess] at hmem
      exact h.bridge hmem
  · exact fun hguess hhas hlan => (h.address hguess (hbefore hhas) hlan).address_step rcfg

/-- All steps are calm but the two that discovery has to foresee. -/
theorem configuration_steps_calm {step : Router → Router} (h : step ∈ configuration_steps ip cfg environ) :
    Calm step ∨ ∃ rcfg, applied_config cfg = some rcfg ∧
      (step = bridge_step rcfg.lan_bridge ∨ step = address_step rcfg) := by
  simp only [configuration_steps, List.mem_append] at h
  obtain hdiscovery | hfirewall | hsector | hcall := h
  · exact Or.inl (Calm.discovery_steps hdiscovery)
  · exact Or.inl (Calm.of_within (firewall_steps_within hfirewall) (by decide))
  · obtain ⟨rcfg, happlied, ⟨condition, words, rfl⟩ | hbridge | ⟨port, rfl⟩ | haddress | hservice⟩ :=
      mem_sector_steps hsector
    · exact Or.inl (Calm.of_within (Within.table .dhcp_client condition _) (by decide))
    · exact Or.inr ⟨rcfg, happlied, Or.inl hbridge⟩
    · exact Or.inl (Calm.port_step _ _ _)
    · exact Or.inr ⟨rcfg, happlied, Or.inr haddress⟩
    · obtain ⟨place, hplace, hwithin⟩ := (Located.services cfg environ rcfg).within hservice
      refine Or.inl (Calm.of_within hwithin ?_)
      exact (show ∀ place ∈ service_places, place ∉ watched by decide) place hplace
  · obtain ⟨place, hplace, hwithin⟩ := (Located.call_home cfg environ).within hcall
    refine Or.inl (Calm.of_within hwithin ?_)
    exact (show ∀ place ∈ [Place.table .script, .table .scheduler], place ∉ watched by decide) place hplace

theorem configuration_steps_keep {step : Router → Router} (h : step ∈ configuration_steps ip cfg environ)
    (hresumable : Resumable ip cfg router) : Resumable ip cfg (step router) := by
  intro rcfg happlied
  cases configuration_steps_calm h with
  | inl hcalm => exact hcalm.foreseen (hresumable rcfg happlied)
  | inr hnoticed =>
    obtain ⟨other, hother, rfl | rfl⟩ := hnoticed
    · obtain rfl : rcfg = other := Option.some.inj (happlied.symm.trans hother)
      exact bridge_step_foreseen (hresumable rcfg happlied)
    · obtain rfl : rcfg = other := Option.some.inj (happlied.symm.trans hother)
      exact address_step_foreseen (hresumable rcfg happlied)

theorem configuration_steps_unnoticed {step : Router → Router} (h : step ∈ configuration_steps ip cfg environ)
    (hresumable : Resumable ip cfg router) : Unnoticed ip cfg router (step router) := by
  cases configuration_steps_calm h with
  | inl hcalm => exact hcalm.unnoticed ip cfg router
  | inr hnoticed =>
    obtain ⟨rcfg, happlied, rfl | rfl⟩ := hnoticed
    · exact bridge_step_unnoticed (hresumable rcfg happlied)
    · exact address_step_unnoticed (hresumable rcfg happlied)

theorem discovery_steps_settle {step : Router → Router} (h : step ∈ discovery_steps ip cfg) : Settles step := by
  have hleft : ∀ inner : Router → Router, Spares .address inner → Settles inner →
      Settles (discovery_step ip cfg inner) := by
    intro inner hspares hsettles router
    rw [discovery_step_fixed_iff]
    intro hsome
    rw [discovered_congr (Spares.discovery_step hspares router)] at hsome
    rw [discovery_step, if_neg (by simpa using hsome)]
    exact hsettles router
  intro router
  obtain rfl | ⟨interface, _, _, rfl⟩ | ⟨hguess, rfl⟩ | ⟨setting, _, rfl⟩ := mem_discovery_steps h
  · exact hleft _ (Spares.ensure_step (by decide) _ _ _) (ensure_step_settles (by simp [Fields.is]) _) router
  · exact member_step_fixed_iff.mpr (member_step_done interface router)
  · rw [guess_step_fixed_iff hguess, discovered_congr ((Calm.guess_step ip cfg).address router), guess_step]
    obtain hnone | ⟨interface, hone⟩ := discovered_guess hguess ip router
    · simp [hnone]
    · rw [hone, List.map_singleton, replay_cons, replay_nil, List.forall_mem_singleton]
      exact member_step_done interface router
  · exact hleft _ (Spares.assign _ _ _) (assign_settles _ _) router

/-- The sector configuration and the call-home steps leave each other alone. -/
theorem sector_undisturbed_call_home {inv : Router → Prop} {step later : Router → Router}
    (hstep : step ∈ sector_steps ip cfg environ) (hlater : later ∈ call_home_steps cfg environ) :
    Undisturbed inv step later := by
  have hlocated := Located.call_home cfg environ
  obtain ⟨rcfg, _, ⟨condition, _, rfl⟩ | rfl | ⟨port, rfl⟩ | rfl | hservice⟩ := mem_sector_steps hstep
  · exact undisturbed_of_spares (Within.table .dhcp_client _ _) (hlocated.spares (by decide) later hlater)
  · intro router _ hfixed
    rw [bridge_step_fixed_iff] at hfixed ⊢
    rw [hlocated.spares (by decide) later hlater router]
    exact hfixed
  · intro router _ hfixed
    rw [port_step_fixed_iff] at hfixed ⊢
    rw [mgmt_iface_congr (hlocated.spares (by decide) later hlater router),
      hlocated.spares (by decide) later hlater router, hlocated.spares (by decide) later hlater router]
    exact hfixed
  · exact undisturbed_of_spares (Within.ensure_step .address _ _ _) (hlocated.spares (by decide) later hlater)
  · refine (Located.services cfg environ rcfg).undisturbed hlocated ?_ step hservice later hlater
    exact fun place hplace => (show ∀ place ∈ service_places, place ∉ [Place.table .script, .table .scheduler]
      by decide) place hplace

/-- The steps of a run that discovery foresees are repeatable. -/
theorem configuration_repeatable (ip : String) (cfg : Config) (environ : Environ) :
    Repeatable (Resumable ip cfg) (configuration_steps ip cfg environ) where
  keeps _ hmem _ hresumable := configuration_steps_keep hmem hresumable
  settles step hmem router _ := by
    simp only [configuration_steps, List.mem_append] at hmem
    obtain hdiscovery | hfirewall | hsector | hcall := hmem
    · exact discovery_steps_settle hdiscovery router
    · exact firewall_steps_settle hfirewall router
    · exact sector_steps_settle ip cfg environ step hsector router
    · exact call_home_steps_settle cfg environ step hcall router
  undisturbed := by
    have hdiscovery : ∀ step ∈ discovery_steps ip cfg, ∀ later ∈ configuration_steps ip cfg environ,
        Undisturbed (Resumable ip cfg) step later :=
      fun step hstep later hlater router hresumable hfixed =>
        (configuration_steps_unnoticed hlater hresumable).fixed hstep hfixed
    rw [configuration_steps, List.pairwise_append, List.pairwise_append, List.pairwise_append]
    refine ⟨?_, ⟨firewall_steps_undisturbed cfg environ, ⟨sector_steps_undisturbed ip cfg environ,
      (Located.call_home cfg environ).pairwise (by decide), ?_⟩, ?_⟩, ?_⟩
    · refine List.pairwise_of_forall_mem_list fun step hstep later hlater => ?_
      exact hdiscovery step hstep later (List.mem_append_left _ hlater)
    · exact fun step hstep later hlater => sector_undisturbed_call_home hstep hlater
    · intro step hstep later hlater
      refine undisturbed_of_spares (firewall_steps_within hstep) ?_
      cases List.mem_append.mp hlater with
      | inl hsector => exact sector_steps_spare (by decide) later hsector
      | inr hcall => exact (Located.call_home cfg environ).spares (by decide) later hcall
    · exact fun step hstep later hlater => hdiscovery step hstep later (List.mem_append_right _ hlater)

/-- No step removes what discovery looks for. -/
structure Kept (before after : Router) : Prop where
  list : before.has_list = true → after.has_list = true
  settings : ∀ setting ∈ discovery_settings,
    before.settings setting.1 setting.2 = some "LAN" → after.settings setting.1 setting.2 = some "LAN"
  member : ∀ interface, before.has_member interface = true → after.has_member interface = true
  interface : ∀ name, before.has_interface name = true → after.has_interface name = true
  bridge : ∀ name, before.has_bridge name = true → after.has_bridge name = true

theorem configuration_steps_kept {step : Router → Router} (h : step ∈ configuration_steps ip cfg environ)
    (router : Router) : Kept router (step router) := by
  cases configuration_steps_calm h with
  | inl hcalm =>
    refine ⟨hcalm.list router, hcalm.settings router, hcalm.member router, fun name hhas => ?_, fun name hhas => ?_⟩
    · rw [Router.has_interface, hcalm.interface router]
      exact hhas
    · rw [Router.has_bridge, hcalm.bridge router]
      exact hhas
  | inr hnoticed =>
    obtain ⟨rcfg, _, rfl | rfl⟩ := hnoticed
    · have hspares : ∀ path, path ≠ .bridge → path ≠ .interface →
          (bridge_step rcfg.lan_bridge router).tables path = router.tables path :=
        fun path hbridge hinterface => Spares.bridge_step hbridge hinterface _ router
      refine ⟨fun hhas => ?_, fun setting _ hset => ?_, fun name hhas => ?_, fun name hhas => ?_, fun name hhas => ?_⟩
      · rw [Router.has_list, hspares _ (by decide) (by decide)]
        exact hhas
      · rw [bridge_step_settings]
        exact hset
      · rw [Router.has_member, hspares _ (by decide) (by decide)]
        exact hhas
      · rw [bridge_step]
        split
        · exact hhas
        · rw [Router.has_interface, Router.add, if_pos rfl, Router.alter_tables_self,
            Router.alter_tables_of_ne (by decide), Listing.has_add]
          exact Bool.or_eq_true_iff.mpr (Or.inl hhas)
      · rw [bridge_step]
        split
        · exact hhas
        · rw [Router.has_bridge, Router.add, if_pos rfl, Router.alter_tables_of_ne (by decide),
            Router.alter_tables_self, Listing.has_add]
          exact Bool.or_eq_true_iff.mpr (Or.inl hhas)
    · have hspares : ∀ path, path ≠ .address → (address_step rcfg router).tables path = router.tables path :=
        fun path hpath => Spares.ensure_step hpath _ _ _ router
      refine ⟨fun hhas => ?_, fun _ _ hset => hset, fun name hhas => ?_, fun name hhas => ?_, fun name hhas => ?_⟩
      · rw [Router.has_list, hspares _ (by decide)]
        exact hhas
      · rw [Router.has_member, hspares _ (by decide)]
        exact hhas
      · rw [Router.has_interface, hspares _ (by decide)]
        exact hhas
      · rw [Router.has_bridge, hspares _ (by decide)]
        exact hhas

/-- What is discovered is certain: it is configured, or an address entry says it. -/
def Certain (ip : String) (cfg : Config) (router : Router) : Prop :=
  cfg.routeros.discovery_interfaces = [] → (router.tables .address).has (mgmt_address ip) = true

/-- What is discovered for certain stays discovered. -/
theorem configuration_steps_certain {step : Router → Router} (h : step ∈ configuration_steps ip cfg environ)
    (hcertain : Certain ip cfg router) :
    Certain ip cfg (step router) ∧ discovered ip cfg (step router) = discovered ip cfg router := by
  have hsame : ∀ other : Router, other.tables .address = router.tables .address →
      Certain ip cfg other ∧ discovered ip cfg other = discovered ip cfg router := by
    intro other haddress
    refine ⟨fun hguess => ?_, discovered_congr haddress⟩
    rw [haddress]
    exact hcertain hguess
  cases configuration_steps_calm h with
  | inl hcalm => exact hsame _ (hcalm.address router)
  | inr hnoticed =>
    obtain ⟨rcfg, _, rfl | rfl⟩ := hnoticed
    · exact hsame _ (Spares.bridge_step (by decide) (by decide) _ router)
    · refine ⟨fun hguess => ?_, discovered_address_step hcertain⟩
      rw [address_step, ensure_step, Router.alter_tables_self]
      exact Listing.has_ensure_of_has (hcertain hguess) _ _

/-- A run that changes nothing finds everything open on what is discovered: the interface
list, the settings of discovery and the membership of each interface are there already. -/
theorem open_of_fixed (hcertain : Certain ip cfg router) {interface : String}
    (hmem : interface ∈ discovered ip cfg router)
    (hfixed : replay (configuration_steps ip cfg environ) router = router) :
    router.has_list = true ∧
      (∀ setting ∈ discovery_settings, router.settings setting.1 setting.2 = some "LAN") ∧
      MemberDone interface router := by
  have hsome : discovered ip cfg router ≠ [] := List.ne_nil_of_mem hmem
  have hestablish : ∀ {goal : Router → Prop} {step : Router → Router}, step ∈ discovery_steps ip cfg →
      (∀ state : Router, discovered ip cfg (step state) = discovered ip cfg router →
        Kept router (step state) → Function.IsFixedPt step (step state) → goal (step state)) →
      (∀ other ∈ configuration_steps ip cfg environ, ∀ state, goal state → goal (other state)) → goal router := by
    intro goal step hstep hgoal hkeep
    have hinv : ∀ other ∈ configuration_steps ip cfg environ, ∀ state : Router,
        (Certain ip cfg state ∧ discovered ip cfg state = discovered ip cfg router) ∧ Kept router state →
        (Certain ip cfg (other state) ∧ discovered ip cfg (other state) = discovered ip cfg router) ∧
          Kept router (other state) := by
      rintro other hother state ⟨⟨hstate, hdiscovered⟩, hkept⟩
      have hnext := configuration_steps_certain hother hstate
      have hmore := configuration_steps_kept hother state
      refine ⟨⟨hnext.1, hnext.2.trans hdiscovered⟩, ?_⟩
      exact ⟨fun hhas => hmore.list (hkept.list hhas),
        fun setting hsetting hset => hmore.settings setting hsetting (hkept.settings setting hsetting hset),
        fun name hhas => hmore.member name (hkept.member name hhas),
        fun name hhas => hmore.interface name (hkept.interface name hhas),
        fun name hhas => hmore.bridge name (hkept.bridge name hhas)⟩
    have hin : step ∈ configuration_steps ip cfg environ := List.mem_append_left _ hstep
    have hself : Kept router router := ⟨id, fun _ _ => id, fun _ => id, fun _ => id, fun _ => id⟩
    rw [← hfixed]
    refine replay_establishes hin hinv (fun state hstate => ?_) hkeep ⟨⟨hcertain, rfl⟩, hself⟩
    have hafter := hinv step hin state hstate
    exact hgoal state hafter.1.2 hafter.2 (discovery_steps_settle hstep state)
  refine ⟨?_, fun setting hsetting => ?_, fun hexists => ?_⟩
  · refine @hestablish (fun state => state.has_list = true) _ List.mem_cons_self
      (fun state hdiscovered _ hsettled => ?_) (fun other hother state => (configuration_steps_kept hother state).list)
    rw [discovery_step_fixed_iff, hdiscovered] at hsettled
    exact ensure_step_fixed_iff.mp (hsettled hsome)
  · have hstep : discovery_step ip cfg (Router.assign setting.1 [(setting.2, "LAN")]) ∈ discovery_steps ip cfg := by
      refine List.mem_cons_of_mem _ (List.mem_append_right _ ?_)
      exact @List.mem_map_of_mem _ _ discovery_settings _
        (fun setting => discovery_step ip cfg (Router.assign setting.1 [(setting.2, "LAN")])) hsetting
    refine @hestablish (fun state => state.settings setting.1 setting.2 = some "LAN") _ hstep
      (fun state hdiscovered _ hsettled => ?_)
      (fun other hother state => (configuration_steps_kept hother state).settings setting hsetting)
    rw [discovery_step_fixed_iff, hdiscovered] at hsettled
    exact setting_fixed_iff.mp (hsettled hsome)
  · have hkeep : ∀ other ∈ configuration_steps ip cfg environ, ∀ state : Router,
        state.has_member interface = true → (other state).has_member interface = true :=
      fun other hother state => (configuration_steps_kept hother state).member interface
    cases hguess : cfg.routeros.discovery_interfaces.isEmpty with
    | true =>
      have hstep : guess_step ip cfg ∈ discovery_steps ip cfg := by
        refine List.mem_cons_of_mem _ (List.mem_append_left _ ?_)
        rw [member_steps, if_pos hguess]
        exact List.mem_singleton_self _
      refine @hestablish _ _ hstep (fun state hdiscovered hkept hsettled => ?_) hkeep
      rw [guess_step_fixed_iff hguess, hdiscovered] at hsettled
      exact hsettled interface hmem (hkept.interface interface hexists)
    | false =>
      have hstep : member_step interface ∈ discovery_steps ip cfg := by
        refine List.mem_cons_of_mem _ (List.mem_append_left _ ?_)
        rw [discovered_of_configured hguess] at hmem
        rw [member_steps, hguess, if_neg Bool.false_ne_true]
        exact List.mem_map_of_mem hmem
      refine @hestablish _ _ hstep (fun state _ hkept hsettled => ?_) hkeep
      exact member_step_fixed_iff.mp hsettled (hkept.interface interface hexists)

/-- What every calm step, the bridge step and the address step keep, a run keeps. -/
theorem configuration_keeps {inv : Router → Prop}
    (hcalm : ∀ step, Calm step → ∀ state, inv state → inv (step state))
    (hbridge : ∀ rcfg, applied_config cfg = some rcfg → ∀ state, inv state → inv (bridge_step rcfg.lan_bridge state))
    (haddress : ∀ rcfg, applied_config cfg = some rcfg → ∀ state, inv state → inv (address_step rcfg state)) :
    ∀ step ∈ configuration_steps ip cfg environ, ∀ state, inv state → inv (step state) := by
  intro step hmem state hinv
  cases configuration_steps_calm hmem with
  | inl hstep => exact hcalm step hstep state hinv
  | inr hnoticed =>
    obtain ⟨rcfg, happlied, rfl | rfl⟩ := hnoticed
    · exact hbridge rcfg happlied state hinv
    · exact haddress rcfg happlied state hinv

theorem sector_steps_in_configuration (happlied : applied_config cfg = some rcfg) :
    bridge_step rcfg.lan_bridge ∈ configuration_steps ip cfg environ ∧
      address_step rcfg ∈ configuration_steps ip cfg environ := by
  have hsector : ∀ {step}, step ∈ lan_steps ip rcfg ++ address_step rcfg :: service_steps cfg environ rcfg →
      step ∈ configuration_steps ip cfg environ := by
    intro step hmem
    refine List.mem_append_right _ (List.mem_append_right _ (List.mem_append_left _ ?_))
    rw [sector_steps, happlied]
    exact hmem
  refine ⟨hsector (List.mem_append_left _ ?_), hsector (List.mem_append_right _ List.mem_cons_self)⟩
  exact List.mem_cons_of_mem _ List.mem_cons_self

/-- The interface of the bridge is there at the end of a run, unless there was a
bridge without one before. -/
theorem bridge_interface_after_run (happlied : applied_config cfg = some rcfg)
    (h : router.has_interface rcfg.lan_bridge = true ∨ router.has_bridge rcfg.lan_bridge = false) :
    (replay (configuration_steps ip cfg environ) router).has_interface rcfg.lan_bridge = true := by
  have hbridge : ∀ state : Router,
      state.has_interface rcfg.lan_bridge = true ∨ state.has_bridge rcfg.lan_bridge = false →
      (bridge_step rcfg.lan_bridge state).has_interface rcfg.lan_bridge = true := by
    intro state hstate
    rw [bridge_step]
    split
    · rename_i hthere
      cases hstate with
      | inl hinterface => exact hinterface
      | inr hmissing => exact (Bool.false_ne_true (hmissing.symm.trans hthere)).elim
    · rw [Router.has_interface, Router.add, if_pos rfl, Router.alter_tables_self, Listing.has_add]
      simp [Fields.is]
  refine replay_establishes (sector_steps_in_configuration happlied).1
    (configuration_keeps (fun step hcalm state hstate => ?_) (fun other hother state hstate => ?_)
      (fun other _ state hstate => ?_)) hbridge
    (fun step hmem state => (configuration_steps_kept hmem state).interface rcfg.lan_bridge) h
  · rw [Router.has_interface, Router.has_bridge, hcalm.interface state, hcalm.bridge state]
    exact hstate
  · obtain rfl : rcfg = other := Option.some.inj (happlied.symm.trans hother)
    exact Or.inl (hbridge state hstate)
  · rw [Router.has_interface, Router.has_bridge, address_step, Spares.ensure_step (by decide),
      Spares.ensure_step (by decide)]
    exact hstate

private theorem member_step_absent {interface : String} (hinterface : router.has_interface interface = false)
    (hmember : router.has_member interface = false) (other : String) :
    (member_step other router).has_member interface = false := by
  rw [member_step, link_step]
  split
  · rename_i hexists
    have hne : other ≠ interface := by
      rintro rfl
      exact Bool.false_ne_true (hinterface.symm.trans hexists)
    rw [Router.has_member, Router.alter_tables_self, Listing.has_ensure_of_not]
    · exact hmember
    · simp [linked, Fields.is, link_words, hne]
  · exact hmember

/-- Discovery does not list an interface that is missing. -/
theorem member_after_discovery {interface : String} (hinterface : router.has_interface interface = false)
    (hmember : router.has_member interface = false) :
    (replay (discovery_steps ip cfg) router).has_member interface = false := by
  have hmembers : ∀ (others : List String) (state : Router),
      state.has_interface interface = false ∧ state.has_member interface = false →
      (replay (others.map member_step) state).has_member interface = false := by
    intro others state hstate
    refine (@replay_keeps _ (fun reached : Router => reached.has_interface interface = false ∧
      reached.has_member interface = false) _ (fun step hmem reached hreached => ?_) _ hstate).2
    obtain ⟨other, _, rfl⟩ := List.mem_map.mp hmem
    refine ⟨?_, member_step_absent hreached.1 hreached.2 other⟩
    rw [Router.has_interface, (Calm.member_step other).interface reached]
    exact hreached.1
  refine (@replay_keeps _ (fun reached : Router => reached.has_interface interface = false ∧
    reached.has_member interface = false) _ (fun step hmem reached hreached => ⟨?_, ?_⟩) _ ⟨hinterface, hmember⟩).2
  · rw [Router.has_interface, (Calm.discovery_steps hmem).interface reached]
    exact hreached.1
  · obtain rfl | ⟨other, _, _, rfl⟩ | ⟨_, rfl⟩ | ⟨setting, _, rfl⟩ := mem_discovery_steps hmem
    · rw [Router.has_member, Spares.discovery_step (Spares.ensure_step (by decide) _ _ _)]
      exact hreached.2
    · exact member_step_absent hreached.1 hreached.2 other
    · exact hmembers _ reached hreached
    · rw [Router.has_member, Spares.discovery_step (Spares.assign _ _ _)]
      exact hreached.2

/-- The steps after discovery. -/
def later_steps (ip : String) (cfg : Config) (environ : Environ) : List (Router → Router) :=
  firewall_steps cfg environ ++ (sector_steps ip cfg environ ++ call_home_steps cfg environ)

theorem later_steps_spare {path : Path} (hpath : path ∈ [Path.interface_list, .interface_list_member])
    {step : Router → Router} (h : step ∈ later_steps ip cfg environ) : Spares path step := by
  simp only [later_steps, List.mem_append] at h
  obtain hfirewall | hsector | hcall := h
  · exact (firewall_steps_within hfirewall).spares
      ((show ∀ path ∈ [Path.interface_list, .interface_list_member], Place.table .filter ≠ .table path by decide)
        path hpath)
  · exact sector_steps_spare
      ((show ∀ path ∈ [Path.interface_list, .interface_list_member],
        path ∈ [Path.filter, .script, .scheduler, .interface_list, .interface_list_member] by decide) path hpath)
      step hsector
  · exact (Located.call_home cfg environ).spares
      ((show ∀ path ∈ [Path.interface_list, .interface_list_member],
        Place.table path ∉ [Place.table .script, .table .scheduler] by decide) path hpath) step hcall

theorem later_steps_settings {setting : Menu × String} (hsetting : setting ∈ discovery_settings)
    {step : Router → Router} (h : step ∈ later_steps ip cfg environ) (state : Router) :
    (step state).settings setting.1 = state.settings setting.1 := by
  have hwithin : ∀ {place : Place}, Within place step → place ∉ watched →
      (step state).settings setting.1 = state.settings setting.1 := by
    intro place hplace hwatched
    refine hplace.settings (fun hsame => hwatched ?_) state
    rw [hsame]
    exact (show ∀ setting ∈ discovery_settings, Place.menu setting.1 ∈ watched by decide) setting hsetting
  simp only [later_steps, List.mem_append] at h
  obtain hfirewall | hsector | hcall := h
  · exact hwithin (firewall_steps_within hfirewall) (by decide)
  · obtain ⟨rcfg, _, ⟨condition, words, rfl⟩ | rfl | ⟨port, rfl⟩ | rfl | hservice⟩ := mem_sector_steps hsector
    · exact hwithin (Within.table .dhcp_client condition _) (by decide)
    · rw [bridge_step_settings]
    · rw [port_step_settings]
    · rfl
    · obtain ⟨place, hplace, hservice⟩ := (Located.services cfg environ rcfg).within hservice
      exact hwithin hservice ((show ∀ place ∈ service_places, place ∉ watched by decide) place hplace)
  · obtain ⟨place, hplace, hcall⟩ := (Located.call_home cfg environ).within hcall
    exact hwithin hcall
      ((show ∀ place ∈ [Place.table .script, .table .scheduler], place ∉ watched by decide) place hplace)

/-- A LAN address of the management address makes the bridge the management interface. -/
theorem mgmt_iface_after_run (happlied : applied_config cfg = some rcfg)
    (hhas : (router.tables .address).has (mgmt_address ip) = false)
    (hlan : startswith rcfg.lan_address (ip ++ "/") = true) :
    ((replay (configuration_steps ip cfg environ) router).tables .address).has (mgmt_address ip) = true ∧
      mgmt_iface ip (replay (configuration_steps ip cfg environ) router) = some rcfg.lan_bridge := by
  have haddress : ∀ state : Router, ((state.tables .address).has (mgmt_address ip) = true ∧
      mgmt_iface ip state = some rcfg.lan_bridge) →
      (((address_step rcfg state).tables .address).has (mgmt_address ip) = true ∧
        mgmt_iface ip (address_step rcfg state) = some rcfg.lan_bridge) := by
    intro state hstate
    rw [mgmt_iface_address_step hstate.1, address_step, ensure_step, Router.alter_tables_self]
    exact ⟨Listing.has_ensure_of_has hstate.1 _ _, hstate.2⟩
  have hgoal : ∀ step ∈ configuration_steps ip cfg environ, ∀ state : Router,
      ((state.tables .address).has (mgmt_address ip) = true ∧ mgmt_iface ip state = some rcfg.lan_bridge) →
      (((step state).tables .address).has (mgmt_address ip) = true ∧
        mgmt_iface ip (step state) = some rcfg.lan_bridge) := by
    refine configuration_keeps (fun step hcalm state hstate => ?_) (fun other hother state hstate => ?_)
      (fun other hother state hstate => ?_)
    · rw [mgmt_iface_congr (hcalm.address state), hcalm.address state]
      exact hstate
    · have hsame := Spares.bridge_step (show Path.address ≠ .bridge by decide) (by decide) other.lan_bridge state
      rw [mgmt_iface_congr hsame, hsame]
      exact hstate
    · obtain rfl : rcfg = other := Option.some.inj (happlied.symm.trans hother)
      exact haddress state hstate
  refine @replay_establishes _ (fun state : Router => (state.tables .address).has (mgmt_address ip) = false ∨
    ((state.tables .address).has (mgmt_address ip) = true ∧ mgmt_iface ip state = some rcfg.lan_bridge)) _ _ _
    (sector_steps_in_configuration happlied).2 ?_ (fun state hstate => ?_) hgoal _ (Or.inl hhas)
  · refine configuration_keeps (fun step hcalm state hstate => ?_) (fun other hother state hstate => ?_)
      (fun other hother state hstate => ?_)
    · rw [mgmt_iface_congr (hcalm.address state), hcalm.address state]
      exact hstate
    · have hsame := Spares.bridge_step (show Path.address ≠ .bridge by decide) (by decide) other.lan_bridge state
      rw [mgmt_iface_congr hsame, hsame]
      exact hstate
    · obtain rfl : rcfg = other := Option.some.inj (happlied.symm.trans hother)
      refine Or.inr ?_
      cases hstate with
      | inl hnone => exact address_step_mgmt_iface hnone hlan
      | inr hsome => exact haddress state hsome
  · cases hstate with
    | inl hnone => exact address_step_mgmt_iface hnone hlan
    | inr hsome => exact haddress state hsome

/-- A run whose repetition changes nothing was foreseen: whatever the repetition discovers
on top was open to discovery before the first run. -/
theorem resumable_of_fixed (hvalid : Config.Valid cfg environ)
    (h : replay (configuration_steps ip cfg environ) (replay (configuration_steps ip cfg environ) router) =
      replay (configuration_steps ip cfg environ) router) : Resumable ip cfg router := by
  have hsplit : replay (configuration_steps ip cfg environ) router =
      replay (later_steps ip cfg environ) (replay (discovery_steps ip cfg) router) := replay_append _ _ _
  have hmemberSame : ∀ interface, (replay (configuration_steps ip cfg environ) router).has_member interface =
      (replay (discovery_steps ip cfg) router).has_member interface := by
    intro interface
    rw [hsplit, Router.has_member, Spares.replay fun step hmem => later_steps_spare (by decide) hmem]
    rfl
  intro rcfg happlied
  constructor
  · intro hmem
    by_contra hnot
    simp only [not_or, Bool.not_eq_true] at hnot
    have hcertain : Certain ip cfg router := by
      intro hguess
      rw [← Bool.not_eq_false]
      intro hhas
      rw [discovered_of_not_has hguess hhas] at hmem
      cases hmem
    have hafter := @replay_keeps _ (fun state : Router => Certain ip cfg state ∧
      discovered ip cfg state = discovered ip cfg router) (configuration_steps ip cfg environ)
      (fun step hstep state hstate =>
        ⟨(configuration_steps_certain hstep hstate.1).1,
          (configuration_steps_certain hstep hstate.1).2.trans hstate.2⟩) router ⟨hcertain, rfl⟩
    obtain ⟨_, _, hdone⟩ := open_of_fixed hafter.1 (by rw [hafter.2]; exact hmem) h
    have hlisted := hdone (bridge_interface_after_run happlied (Or.inr hnot.2.1))
    rw [hmemberSame, member_after_discovery hnot.1 hnot.2.2] at hlisted
    cases hlisted
  · intro hguess hhas hlan
    have hnone : discovered ip cfg router = [] := discovered_of_not_has hguess hhas
    have hdiscovery : replay (discovery_steps ip cfg) router = router := by
      have hfixed := replay_fixed (discovery_steps_fixed hnone) (discovery_steps ip cfg).length
      rwa [List.take_length] at hfixed
    rw [hdiscovery] at hsplit hmemberSame
    obtain ⟨hmgmt, hiface⟩ := @mgmt_iface_after_run ip cfg environ rcfg router happlied hhas hlan
    have hname : rcfg.lan_bridge.isEmpty = false := by
      have hcomplete := (hvalid.sector rcfg happlied).complete
      simp only [SectorConfig.complete, List.all_cons, Bool.and_eq_true, Bool.not_eq_true'] at hcomplete
      exact hcomplete.2.1
    have hmem : rcfg.lan_bridge ∈ discovered ip cfg (replay (configuration_steps ip cfg environ) router) := by
      rw [discovered_of_mgmt_iface hguess hiface, hname, if_neg Bool.false_ne_true]
      exact List.mem_singleton_self _
    obtain ⟨hlist, hsettings, hdone⟩ := open_of_fixed (fun _ => hmgmt) hmem h
    refine ⟨?_, fun setting hsetting => ?_, ?_⟩
    · rw [Router.has_list, hsplit, Spares.replay fun step hstep => later_steps_spare (by decide) hstep] at hlist
      exact hlist
    · have hset := hsettings setting hsetting
      have hsame : (replay (later_steps ip cfg environ) router).settings setting.1 = router.settings setting.1 :=
        @replay_keeps _ (fun state : Router => state.settings setting.1 = router.settings setting.1) _
          (fun step hstep state hstate => (later_steps_settings hsetting hstep state).trans hstate) _ rfl
      rw [hsplit, hsame] at hset
      exact hset
    · rw [MemberDone, hmemberSame] at hdone
      cases hmember : router.has_member rcfg.lan_bridge with
      | true => exact Or.inl rfl
      | false =>
        refine Or.inr ?_
        by_contra hnot
        have hmissing : router.has_interface rcfg.lan_bridge = true ∨
          router.has_bridge rcfg.lan_bridge = false := by
          rw [not_and_or, Bool.not_eq_false, Bool.not_eq_true] at hnot
          exact hnot
        rw [hdone (bridge_interface_after_run happlied hmissing)] at hmember
        cases hmember

/-- Interrupted anywhere and run again, the configuration steps leave a router as one
uninterrupted run does, exactly when neighbor discovery foresees the sector configuration.
All other steps, when they are made again, leave what they have left before. -/
theorem configuration_resumes_iff (ip : String) (cfg : Config) (environ : Environ) (mgmt_pass : String)
    (router : Router) (hcompletes : ∃ after, (routeros_onboard_configuration ip cfg environ mgmt_pass).exec
      mikrotik.perform router = (.ok (), after)) :
    (∀ left, (routeros_onboard_configuration ip cfg environ mgmt_pass).exec mikrotik.perform
        ((routeros_onboard_configuration ip cfg environ mgmt_pass).cut mikrotik router left) =
      (routeros_onboard_configuration ip cfg environ mgmt_pass).exec mikrotik.perform router) ↔
      Resumable ip cfg router := by
  obtain ⟨after, hcompletes⟩ := hcompletes
  have hvalid : Config.Valid cfg environ := valid_of_returns ⟨router, (), after, hcompletes⟩
  have hperforms := routeros_onboard_configuration_performs hvalid ip mgmt_pass
  constructor
  · intro hagain
    obtain ⟨left, hleft⟩ := (routeros_onboard_configuration ip cfg environ mgmt_pass).exists_uncut mikrotik router
    have hsecond := hagain left
    rw [hleft, (hperforms router).returns, (hperforms _).returns] at hsecond
    exact resumable_of_fixed hvalid (congrArg Prod.snd hsecond)
  · exact fun hresumable left => Program.Performs.resume hperforms (configuration_repeatable ip cfg environ) hresumable left

/-- A sector with a bridge over its LAN ports. -/
def ponSector : SectorConfig where
  wan_interface := "ether2"
  lan_bridge := "br-pon"
  lan_ports := ["ether3", "ether4"]
  lan_address := "10.10.10.1/24"
  dhcp_pool := "pon_pool"
  dhcp_range := "10.10.10.100-10.10.10.200"
  dhcp_server := "pon_dhcp"
  dhcp_network := "10.10.10.0/24"
  dns_server := "10.10.10.1"

/-- Its configuration, with neighbor discovery open on the given interfaces. -/
def ponConfig (discovery_interfaces : List String) : Config :=
  { routeros := { discovery_interfaces := discovery_interfaces, config := some ponSector } }

theorem configuration_resumes_iff_pon :
    (∃ after, (routeros_onboard_configuration "192.168.88.1" (ponConfig ["ether3"]) (fun _ => none) "secret").exec
      mikrotik.perform Router.blank = (.ok (), after)) ∧
    ((∀ left, (routeros_onboard_configuration "192.168.88.1" (ponConfig ["ether3"]) (fun _ => none) "secret").exec
        mikrotik.perform ((routeros_onboard_configuration "192.168.88.1" (ponConfig ["ether3"]) (fun _ => none)
          "secret").cut mikrotik Router.blank left) =
      (routeros_onboard_configuration "192.168.88.1" (ponConfig ["ether3"]) (fun _ => none) "secret").exec
        mikrotik.perform Router.blank) ↔ Resumable "192.168.88.1" (ponConfig ["ether3"]) Router.blank) :=
  ⟨⟨_, rfl⟩, configuration_resumes_iff _ _ _ _ _ ⟨_, rfl⟩⟩

/-- Discovery on the bridge itself: the first complete run skips it as missing,
and the second one adds it. -/
theorem second_run_lists_bridge :
    ∃ first second,
      (routeros_onboard_configuration "192.168.88.1" (ponConfig ["br-pon"]) (fun _ => none) "secret").exec
        mikrotik.perform Router.blank = (.ok (), first) ∧
      (routeros_onboard_configuration "192.168.88.1" (ponConfig ["br-pon"]) (fun _ => none) "secret").exec
        mikrotik.perform first = (.ok (), second) ∧
      first.has_member "br-pon" = false ∧ second.has_member "br-pon" = true :=
  ⟨_, _, rfl, rfl, by decide, by decide⟩

end getupnet.mikrotik_preloader

import Getupnet.IspCore.DeviceRegistration
import Getupnet.Relational.Devices
import Getupnet.Tools.Preloader.Identity

open interaction
open relational
open getupnet.isp_core
open getupnet.isp_core.device_sector
open python.ipaddress

namespace getupnet.mikrotik_preloader

/-- The routers of a site, and the network that is registered in Odoo. -/
structure Site where
  routers : Nat → Router
  registry : Network

/-- What a run of the preloader goes by: its configuration and environment, the router that
an address leads to, how each router carries out a command, whether to register routers,
and what Odoo answers to its credentials. -/
structure Sweep where
  cfg : Config
  environ : Environ
  reaches : String → Nat
  perform : Nat → Router → Command → Except Exception Response × Router
  register_device : Bool
  order : NameOrder
  uid : Option ResUsers

/-- What is sent to Odoo of a router. -/
def Onboarded.registration (self : Onboarded) : device_sector.Onboarded where
  identity := self.identity
  ip := self.ip
  api_port := self.api_port

namespace Sweep

variable (self : Sweep)

/-- Onboarding what an address leads to. -/
def onboard (ip : String) (router : Router) : Except Exception (Option Onboarded) × Router :=
  (routeros_onboard ip self.cfg self.environ).exec (self.perform (self.reaches ip)) router

/-- The registry after a router was onboarded. What the registration raises is caught. -/
def register (registry : Network) (onboarded : Onboarded) : Network :=
  if self.register_device then
    ((odoo_register_device self.order self.uid self.cfg.sector_code onboarded.registration).exec registry).2
  else registry

/-- The body of the loop. What the onboarding raises is caught. -/
def visit (site : Site) (ip : String) : Site where
  routers := Function.update site.routers (self.reaches ip) (self.onboard ip (site.routers (self.reaches ip))).2
  registry :=
    match (self.onboard ip (site.routers (self.reaches ip))).1 with
    | .ok (some onboarded) => self.register site.registry onboarded
    | _ => site.registry

/-- `for ip in candidates` -/
def run (candidates : List String) (site : Site) : Site := candidates.foldl self.visit site

/-- The onboarding of an address returns a router. -/
def onboards (site : Site) (ip : String) : Prop :=
  ∃ onboarded, (self.onboard ip (site.routers (self.reaches ip))).1 = .ok (some onboarded)

/-- The sector that routers are registered in, if they are. -/
def sector (registry : Network) : Option Nat :=
  if self.register_device then self.uid.bind fun user => registry.search_sector self.order user self.cfg.sector_code
  else none

/-- The preloader sees the devices that are registered at some addresses already. -/
def Sees (registry : Network) (candidates : List String) : Prop :=
  ∀ user, self.uid = some user → ∀ ip ∈ candidates, registry.VisibleAt user ip

end Sweep

/-- Each router is left as its own onboardings leave it, in their order. Each address that
was onboarded has one device and one router record, with the name and port it was given,
and all other addresses are registered as before. -/
structure Sweep.Swept (sweep : Sweep) (candidates : List String) (site reached : Site) : Prop where
  routers : ∀ router, reached.routers router =
    (candidates.filter fun ip => decide (sweep.reaches ip = router)).foldl
      (fun state ip => (sweep.onboard ip state).2) (site.routers router)
  sound : Registry reached.registry
  kept : KeepsIdentities site.registry reached.registry
  registered : ∀ front ip rest sector, candidates = front ++ ip :: rest → sweep.onboards (sweep.run front site) ip →
    sweep.sector site.registry = some sector →
    reached.registry.registry ip = some ((onboarded_at sweep.cfg ip).registration.entry sector) ∧
      ∃ device router, reached.registry.devices.holding IspDevice.address ip = [device] ∧
        reached.registry.routersOf device = [router]
  others : ∀ ip, (∀ front rest, candidates = front ++ ip :: rest → sweep.onboards (sweep.run front site) ip →
      sweep.sector site.registry = none) →
    reached.registry.registry ip = site.registry.registry ip

section

variable {self : Sweep} {site : Site} {ip : String}

theorem Sweep.visit_of_not_onboards (h : ¬self.onboards site ip) : (self.visit site ip).registry = site.registry := by
  rw [Sweep.visit]
  split
  · rename_i onboarded hresult
    exact absurd ⟨onboarded, hresult⟩ h
  · rfl

theorem Sweep.visit_of_onboards (h : self.onboards site ip) :
    (self.visit site ip).registry = self.register site.registry (onboarded_at self.cfg ip) := by
  obtain ⟨onboarded, hresult⟩ := h
  have hreturned : onboarded = onboarded_at self.cfg ip := routeros_onboard_onboarded (Prod.ext hresult rfl)
  rw [← hreturned, Sweep.visit, hresult]

/-- The sectors stay as they are. -/
theorem Sweep.visit_sectors : (self.visit site ip).registry.sectors = site.registry.sectors := by
  by_cases hreturns : self.onboards site ip
  · rw [Sweep.visit_of_onboards hreturns, Sweep.register]
    split
    · exact odoo_register_device_keeps_sectors _ _ _ _ _
    · rfl
  · rw [Sweep.visit_of_not_onboards hreturns]

theorem Sweep.sector_congr {registry other : Network} (h : other.sectors = registry.sectors) :
    self.sector other = self.sector registry := by
  simp only [Sweep.sector, Network.search_sector, h]

/-- Without a sector nothing is registered. -/
theorem Sweep.visit_of_no_sector (h : self.sector site.registry = none) :
    (self.visit site ip).registry = site.registry := by
  by_cases hreturns : self.onboards site ip
  · rw [Sweep.visit_of_onboards hreturns, Sweep.register]
    rw [Sweep.sector] at h
    split at h
    · rename_i hregister
      rw [if_pos hregister]
      refine odoo_register_device_fails fun user huser => ?_
      rw [huser] at h
      exact h
    · rename_i hregister
      rw [if_neg hregister]
  · exact Sweep.visit_of_not_onboards hreturns

/-- One address: it is registered, and no other one has changed. -/
theorem Sweep.visit_registers {sector : Nat} (horder : ∀ name ids, (self.order name ids).Perm ids)
    (hregistry : Registry site.registry) (hsees : self.Sees site.registry [ip]) (hreturns : self.onboards site ip)
    (hsector : self.sector site.registry = some sector) :
    ∃ device router, Registers (onboarded_at self.cfg ip).registration sector device site.registry
        (self.visit site ip).registry ∧ (self.visit site ip).registry.routersOf device = [router] := by
  rw [Sweep.visit_of_onboards hreturns, Sweep.register]
  rw [Sweep.sector] at hsector
  split at hsector
  · rename_i hregister
    rw [if_pos hregister]
    obtain ⟨user, huser, hfound⟩ := Option.bind_eq_some_iff.mp hsector
    have hvisible := hsees user huser ip List.mem_cons_self
    have hsuccess := @odoo_register_device_registers self.order site.registry user self.cfg.sector_code
      (onboarded_at self.cfg ip).registration sector hregistry horder hvisible hfound
    obtain ⟨device, router, after, hexec, hregisters, hone⟩ := hsuccess
    rw [huser, hexec]
    exact ⟨device, router, hregisters, hone⟩
  · cases hsector

/-- What one address does to the registry. -/
theorem Sweep.visit_step (horder : ∀ name ids, (self.order name ids).Perm ids) (hregistry : Registry site.registry)
    (hsees : self.Sees site.registry [ip]) :
    Registry (self.visit site ip).registry ∧ KeepsIdentities site.registry (self.visit site ip).registry ∧
      ∀ other, other ≠ ip → (self.visit site ip).registry.registry other = site.registry.registry other := by
  by_cases hreturns : self.onboards site ip
  · cases hsector : self.sector site.registry with
    | none =>
      rw [Sweep.visit_of_no_sector hsector]
      exact ⟨hregistry, KeepsIdentities.refl _, fun _ _ => rfl⟩
    | some sector =>
      obtain ⟨device, router, hregisters, -⟩ := Sweep.visit_registers horder hregistry hsees hreturns hsector
      refine ⟨hregisters.sound, hregisters.kept, fun other hother => ?_⟩
      rw [hregisters.registry]
      exact if_neg hother
  · rw [Sweep.visit_of_not_onboards hreturns]
    exact ⟨hregistry, KeepsIdentities.refl _, fun _ _ => rfl⟩

theorem Sweep.Sees.head {registry : Network} {rest : List String} (h : self.Sees registry (ip :: rest)) :
    self.Sees registry [ip] := by
  intro user huser other hother
  exact h user huser other (List.mem_singleton.mp hother ▸ List.mem_cons_self)

/-- Whoever sees the devices of the other addresses sees them after one is registered. -/
theorem Sweep.visit_sees {rest : List String} (horder : ∀ name ids, (self.order name ids).Perm ids)
    (hregistry : Registry site.registry) (hsees : self.Sees site.registry (ip :: rest)) (hnot : ip ∉ rest) :
    self.Sees (self.visit site ip).registry rest := by
  obtain ⟨hsound, -, hothers⟩ := Sweep.visit_step horder hregistry hsees.head
  intro user huser other hother
  have hne : other ≠ ip := fun heq => hnot (heq ▸ hother)
  refine hsound.visibleAt_iff.mpr fun entry hentry => ?_
  rw [hothers other hne] at hentry
  exact hregistry.visibleAt_iff.mp (hsees user huser other (List.mem_cons_of_mem _ hother)) entry hentry

/-- Records that are alone stay so while they are kept. -/
theorem Registry.alone_of_kept {before after : Network} {device router : Nat} (hsound : Registry after)
    (hkept : KeepsIdentities before after) (hdevice : before.devices.holding IspDevice.address ip = [device])
    (hrouter : before.routersOf device = [router]) :
    after.devices.holding IspDevice.address ip = [device] ∧ after.routersOf device = [router] := by
  have hdevices := hkept.devices ip
  have hrouters := hkept.routers device
  rw [hdevice] at hdevices
  rw [hrouter] at hrouters
  exact ⟨hsound.devices.holding_eq (hdevices.subset List.mem_cons_self),
    hsound.routers.holding_eq (hrouters.subset List.mem_cons_self)⟩

/-- A sweep of distinct addresses, by induction on them: what comes after an address does
not change what it was registered as. -/
theorem Sweep.run_swept {candidates : List String} (horder : ∀ name ids, (self.order name ids).Perm ids)
    (hnodup : candidates.Nodup) (hregistry : Registry site.registry) (hsees : self.Sees site.registry candidates) :
    self.Swept candidates site (self.run candidates site) := by
  have hrouters := fun router =>
    @foldl_update_member _ _ _ _ _ Site.routers self.visit self.reaches
      (fun state ip => (self.onboard ip state).2) (fun _ _ => rfl) candidates site router
  induction candidates generalizing site with
  | nil =>
    refine ⟨hrouters, hregistry, KeepsIdentities.refl _, fun front ip rest sector heq => ?_, fun _ _ => rfl⟩
    exact absurd heq (by simp)
  | cons first rest ih =>
    obtain ⟨hnot, hrest⟩ := List.nodup_cons.mp hnodup
    obtain ⟨hsound, hkept, hothers⟩ := Sweep.visit_step horder hregistry hsees.head
    have hlater : self.Swept rest (self.visit site first) (self.run rest (self.visit site first)) :=
      ih hrest hsound (Sweep.visit_sees horder hregistry hsees hnot) fun router =>
        foldl_update_member (fun _ _ => rfl) rest (self.visit site first) router
    have hsector : self.sector (self.visit site first).registry = self.sector site.registry :=
      Sweep.sector_congr Sweep.visit_sectors
    have hfirst : (self.run rest (self.visit site first)).registry.registry first =
        (self.visit site first).registry.registry first := by
      refine hlater.others first fun front ending heq => absurd ?_ hnot
      rw [heq]
      exact List.mem_append_right _ List.mem_cons_self
    refine ⟨hrouters, hlater.sound, hkept.trans hlater.kept, fun front ip ending sector heq hreturns hfound => ?_,
      fun ip hnone => ?_⟩
    · cases front with
      | nil =>
        cases heq
        obtain ⟨device, router, hregisters, hrouter⟩ := Sweep.visit_registers horder hregistry hsees.head hreturns hfound
        refine ⟨hfirst.trans ((hregisters.registry _).trans (if_pos rfl)), device, router, ?_⟩
        exact Registry.alone_of_kept hlater.sound hlater.kept hregisters.found hrouter
      | cons earlier front =>
        cases heq
        exact hlater.registered front ip ending sector rfl hreturns (hsector.trans hfound)
    · by_cases hsame : ip = first
      · rw [hsame] at hnone ⊢
        refine hfirst.trans ?_
        by_cases hreturns : self.onboards site first
        · rw [Sweep.visit_of_no_sector (hnone [] rest rfl hreturns)]
        · rw [Sweep.visit_of_not_onboards hreturns]
      · refine (hlater.others ip fun front ending heq hreturns => ?_).trans (hothers ip hsame)
        rw [hsector]
        exact hnone (first :: front) ending (by rw [heq, List.cons_append]) hreturns

end

/-- A sweep of a subnet, of which some addresses answer, and whatever else happens to the
routers. -/
inductive SiteEvent where
  | sweep (self : Sweep) (subnet : String) (answers : String → Bool)
  | rewire (routers : Nat → Router)

/-- A subnet that is none ends the program before it has done anything. -/
def SiteEvent.next (site : Site) : SiteEvent → Site
  | .sweep self subnet answers => ((scan_subnet_for_api answers subnet).map fun candidates =>
      self.run candidates site).getD site
  | .rewire routers => { site with routers }

/-- A search orders what it finds, and who registers routers sees the devices that are
registered at their addresses. -/
def SiteEvent.Possible (site : Site) : SiteEvent → Prop
  | .sweep self subnet answers => (∀ name ids, (self.order name ids).Perm ids) ∧
      ∀ candidates, scan_subnet_for_api answers subnet = some candidates → self.Sees site.registry candidates
  | .rewire _ => True

def SiteStep (site : Site) (event : SiteEvent) (after : Site) : Prop := event.Possible site ∧ after = event.next site

/-- A sweep leaves what it should. -/
def SiteEvent.Sweeps (site : Site) (event : SiteEvent) : Prop :=
  ∀ self subnet answers candidates, event = .sweep self subnet answers →
    scan_subnet_for_api answers subnet = some candidates → self.Swept candidates site (event.next site)

theorem scan_subnet_for_api_nodup {answers : String → Bool} {subnet : String} {candidates : List String}
    (h : scan_subnet_for_api answers subnet = some candidates) : candidates.Nodup := by
  obtain ⟨net, -, rfl⟩ := Option.map_eq_some_iff.mp h
  exact (net.hosts_nodup.map IPv4Address.str_injective).filter _

/-- One event. -/
theorem SiteEvent.step {site after : Site} {event : SiteEvent} (hregistry : Registry site.registry)
    (hstep : SiteStep site event after) :
    Registry after.registry ∧ KeepsIdentities site.registry after.registry ∧ event.Sweeps site := by
  obtain ⟨hpossible, rfl⟩ := hstep
  cases event with
  | rewire routers => exact ⟨hregistry, KeepsIdentities.refl _, fun _ _ _ _ heq => by cases heq⟩
  | sweep self subnet answers =>
    cases hscan : scan_subnet_for_api answers subnet with
    | none =>
      have hnext : (SiteEvent.sweep self subnet answers).next site = site := by rw [SiteEvent.next, hscan]; rfl
      rw [hnext]
      refine ⟨hregistry, KeepsIdentities.refl _, fun other net found candidates heq hfound => ?_⟩
      cases heq
      cases hscan.symm.trans hfound
    | some candidates =>
      have hnext : (SiteEvent.sweep self subnet answers).next site = self.run candidates site := by
        rw [SiteEvent.next, hscan]
        rfl
      have hswept : self.Swept candidates site (self.run candidates site) :=
        Sweep.run_swept hpossible.1 (scan_subnet_for_api_nodup hscan) hregistry (hpossible.2 candidates hscan)
      rw [hnext]
      refine ⟨hswept.sound, hswept.kept, fun other net found listed heq hfound => ?_⟩
      cases heq
      cases hscan.symm.trans hfound
      rw [hnext]
      exact hswept

/-- Over every run of sweeps, with whatever configurations, answers, failures and changes
of the routers in between, each address has at most one device and each device at most one
router record, both keep their identifiers, and each sweep leaves every router as its own
onboardings do and registers exactly what it onboarded. -/
theorem sweeps_register_once {initial reached : Site} {taken : List (Site × SiteEvent)}
    (hinitial : Registry initial.registry) (run : Run SiteStep initial taken reached) :
    (∀ site ∈ Run.visited taken reached, Registry site.registry) ∧
      (Run.visited taken reached).Pairwise (fun before after => KeepsIdentities before.registry after.registry) ∧
      ∀ entry ∈ taken, entry.2.Sweeps entry.1 := by
  have hvisited := @Run.invariant_of_condition _ _ SiteStep initial (fun site => Registry site.registry)
    (fun _ _ => True) hinitial (fun _ _ _ hregistry _ hstep => (SiteEvent.step hregistry hstep).1) taken reached run
    (fun _ _ => trivial)
  have hmem : ∀ entry ∈ taken, entry.1 ∈ Run.visited taken reached := fun entry hentry =>
    List.mem_append_left _ (List.mem_map_of_mem hentry)
  refine ⟨hvisited, run.visited_pairwise (fun _ _ _ hfirst hsecond => hfirst.trans hsecond) ?_, ?_⟩
  · intro entry hentry after hstep
    exact (SiteEvent.step (hvisited entry.1 (hmem entry hentry)) hstep).2.1
  · intro entry hentry
    obtain ⟨after, hstep⟩ := run.exists_step entry hentry
    exact (SiteEvent.step (hvisited entry.1 (hmem entry hentry)) hstep).2.2

/-- Routers with their API service, which are not registered. -/
def newSite : Site where
  routers := fun _ => Router.blank.add .service [("name", "api")]
  registry := oneRouter

/-- A sweep by the superuser that leaves the sector configuration out. One address
leads to another router than the others. -/
def newSweep : Sweep where
  cfg := {
    sector_code := "C1"
    routeros := {
      mgmt_user := "odoo_noc", mgmt_pass_value := "secret", discovery_interfaces := ["ether1"]
      apply_sector_config := false } }
  environ := fun _ => none
  reaches := fun ip => if ip = "10.0.0.6" then 1 else 0
  perform := fun _ => perform
  register_device := true
  order := fun _ ids => ids
  uid := some ResUsers.superuser

theorem Sweep.onboards_of_found {self : Sweep} {site : Site} {ip : String}
    (h : (self.onboard ip (site.routers (self.reaches ip))).1.toOption.join.isSome = true) :
    self.onboards site ip := by
  cases hresult : (self.onboard ip (site.routers (self.reaches ip))).1 with
  | error exception =>
    rw [hresult] at h
    cases h
  | ok found =>
    cases found with
    | none =>
      rw [hresult] at h
      cases h
    | some onboarded => exact ⟨onboarded, hresult⟩

/-- The two new routers of a subnet are registered, each at its own address. -/
theorem sweeps_register_once_two :
    let event : SiteEvent := .sweep newSweep "10.0.0.4/30" fun _ => true
    ∀ ip ∈ ["10.0.0.5", "10.0.0.6"],
      (event.next newSite).registry.registry ip = some ((onboarded_at newSweep.cfg ip).registration.entry 0) ∧
        ∃ device router, (event.next newSite).registry.devices.holding IspDevice.address ip = [device] ∧
          (event.next newSite).registry.routersOf device = [router] := by
  intro event
  have hinitial : Registry newSite.registry := by
    refine ⟨.of_holding fun ip => ?_, .of_holding fun device => Nat.zero_le 1, fun router hrouter => ?_⟩
    · exact (List.length_filter_le _ _).trans (Nat.le_refl 1)
    · exact absurd hrouter List.not_mem_nil
  have hscan : scan_subnet_for_api (fun _ => true) "10.0.0.4/30" = some ["10.0.0.5", "10.0.0.6"] := by decide
  have hstep : SiteStep newSite event (event.next newSite) :=
    ⟨⟨fun _ ids => List.Perm.refl ids, fun _ _ user huser _ _ _ _ =>
      Option.some.inj huser ▸ ResUsers.superuser_sees _⟩, rfl⟩
  have hswept := (sweeps_register_once hinitial (.step .start hstep)).2.2 (newSite, event) List.mem_cons_self
    newSweep "10.0.0.4/30" (fun _ => true) _ rfl hscan
  have hfirst : newSweep.onboards (newSweep.run [] newSite) "10.0.0.5" := Sweep.onboards_of_found (by decide +kernel)
  have hsecond : newSweep.onboards (newSweep.run ["10.0.0.5"] newSite) "10.0.0.6" :=
    Sweep.onboards_of_found (by decide +kernel)
  intro ip hip
  obtain rfl | hip := List.mem_cons.mp hip
  · exact hswept.registered [] "10.0.0.5" ["10.0.0.6"] 0 rfl hfirst (by decide)
  · rw [List.mem_singleton.mp hip]
    exact hswept.registered ["10.0.0.5"] "10.0.0.6" [] 0 rfl hsecond (by decide)

end getupnet.mikrotik_preloader

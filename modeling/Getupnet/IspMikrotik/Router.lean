import Mathlib.Order.Defs.LinearOrder
import Mathlib.Logic.Function.Basic
import Getupnet.IspMikrotik.Dispatch

open relational
open calendar
open getupnet.isp_core

namespace getupnet.isp_mikrotik

variable {τ κ : Type}

structure IspDevice where
  name : String
  sector_id : Option Nat := none

inductive HealthcheckStatus where
  | ok
  | failed
  deriving DecidableEq

/-- A router record; its name and sector are those of its device. -/
structure IspMikrotikRouter where
  device_id : Nat
  routeros_version : CharField := none
  last_healthcheck_at : Option Nat := none
  last_healthcheck_status : Option HealthcheckStatus := none

/-- The devices and the routers. `provisioned` is not stored by the code: it
recalls the router of a subscription's last activation. -/
structure Registry where
  devices : Store IspDevice
  routers : Store IspMikrotikRouter
  provisioned : Nat → Option Nat

def Registry.device (self : Registry) (router : Nat) : IspDevice :=
  self.devices.row (self.routers.row router).device_id

/-- A search for one router record, in the order of the routers' device names. -/
abbrev Search : Type := Registry → (Nat → Bool) → Option Nat

/-- A search finds a router if there is one, and none with an earlier name is
left out. Routers of one name may be found in any order. -/
structure Search.Lawful [LE κ] (collate : String → κ) (search : Search) : Prop where
  found : ∀ registry domain router, search registry domain = some router →
    router ∈ registry.routers.ids ∧ domain router = true ∧
      ∀ other ∈ registry.routers.ids, domain other = true →
        collate (registry.device router).name ≤ collate (registry.device other).name
  missing : ∀ registry domain, search registry domain = none → ∀ router ∈ registry.routers.ids,
    domain router = false

/-- What a router replies to a healthcheck: the version and the identity name of
each row, or an exception. -/
structure Replies where
  resource : Except OdooError (List CharField)
  identity : Except OdooError (List CharField)

/-- A lifecycle job sent to a router, with the router that its subscription was
provisioned on at that time. -/
structure Sent where
  subscription_id : Nat
  job_type : JobType
  router : Nat
  provisioned : Option Nat
  deriving DecidableEq

/-- What an execution depends on besides the database: how searches are
answered, how the routers of the world `τ` are reached and what they reply. -/
structure Site (τ : Type) where
  search : Search
  connect : Nat → Except OdooError (Client τ)
  replies : Nat → Replies
  today : Date
  token_hex : String
  other_handler : IspProvisioningJob → Method τ OdooError Unit

/-- A method on the world of the routers, beside the list of what was sent. -/
def besideSent {α : Type} (method : Method τ OdooError α) : Method (List Sent × τ) OdooError α :=
  Method.focus Prod.snd (fun rest state => (state.1, rest)) method

/-- The routers as a job's handler finds them in the database. -/
def Site.surroundings (self : Site τ) (registry : Registry) : Surroundings (List Sent × τ) where
  network := {
    router_of_device := fun device =>
      self.search registry fun router => decide ((registry.routers.row router).device_id = device)
    router_of_sector := fun sector =>
      self.search registry fun router => decide ((registry.device router).sector_id = some sector)
    get_routeros_client := fun router =>
      (self.connect router).map fun client command => besideSent (client command) }
  today := self.today
  token_hex := self.token_hex
  other_handler := fun job => besideSent (self.other_handler job)

/-- `_get_router` of a job with or without a subscription. -/
def Site.job_router (self : Site τ) (records : Records Registry) (job : IspProvisioningJob) :
    Except OdooError Nat :=
  let network := (self.surroundings records.extension).network
  match job.subscription_id with
  | some sub => get_router network job (records.subscriptions.row sub)
  | none =>
    match job.device_id.bind network.router_of_device with
    | some router => .ok router
    | none => .error (.user "No MikroTik router found for this job.")

/-- A handler of jobs on the database, the list of what was sent and the routers. -/
abbrev RoutingHandler (τ α : Type) : Type := Method (Records Registry × List Sent × τ) OdooError α

def RoutingHandler.edit (change : Registry → Registry) : RoutingHandler τ Unit :=
  modify fun (records, rest) => ({ records with extension := change records.extension }, rest)

def Registry.rename (router : Nat) (name : String) (self : Registry) : Registry :=
  { self with devices := self.devices.write (self.routers.row router).device_id fun device => { device with name } }

def Registry.writeRouter (router : Nat) (change : IspMikrotikRouter → IspMikrotikRouter) (self : Registry) :
    Registry :=
  { self with routers := self.routers.write router change }

/-- The name under which a healthcheck stores the device of a router. -/
def Replies.name (self : Replies) : Option String :=
  match self.resource, self.identity with
  | .ok _, .ok (identity :: _) => if truthy identity then identity else none
  | _, _ => none

def handle_mikrotik_healthcheck (site : Site τ) (now : Nat) (job : IspProvisioningJob) :
    RoutingHandler τ Unit := do
  let records := (← get).1
  let router ← Method.ofExcept (site.job_router records job)
  let _ ← Method.ofExcept (site.connect router)
  let replies := site.replies router
  match replies.resource, replies.identity with
  | .ok resource, .ok _ => do
    RoutingHandler.edit fun registry =>
      match replies.name with
      | some name => registry.rename router name
      | none => registry
    RoutingHandler.edit (Registry.writeRouter router fun row => { row with
      routeros_version := (resource.head?).getD none
      last_healthcheck_at := some now
      last_healthcheck_status := some .ok })
  | .error exception, _ | .ok _, .error exception => do
    RoutingHandler.edit (Registry.writeRouter router fun row => { row with
      last_healthcheck_at := some now
      last_healthcheck_status := some .failed })
    throw exception

/-- The note that a job of a subscription has found its router. -/
def Sent.note (site : Site τ) (job : IspProvisioningJob) : RoutingHandler τ Unit :=
  modify fun (records, sent, rest) =>
    match job.subscription_id, site.job_router records job with
    | some sub, .ok router =>
      (records, sent ++ [⟨sub, job.job_type, router, records.extension.provisioned sub⟩], rest)
    | _, _ => (records, sent, rest)

def Registry.provision (sub router : Nat) (self : Registry) : Registry :=
  { self with provisioned := Function.update self.provisioned sub (some router) }

/-- The note that an activation has returned. -/
def Registry.note (site : Site τ) (job : IspProvisioningJob) : RoutingHandler τ Unit :=
  modify fun (records, rest) =>
    match job.job_type, job.subscription_id, site.job_router records job with
    | .activate_subscription, some sub, .ok router =>
      ({ records with extension := records.extension.provision sub router }, rest)
    | _, _, _ => (records, rest)

/-- The lookup of a job's handler, with the routers as the database has them. -/
def Site.dispatch (site : Site τ) (now : Nat) : Dispatch (Records Registry) (List Sent × τ) := fun id job =>
  match job.job_type with
  | .mikrotik_healthcheck => handle_mikrotik_healthcheck site now job
  | _ => do
    Sent.note site job
    let registry := (← get).1.extension
    isp_mikrotik.dispatch (site.surroundings registry) id job
    Registry.note site job

/-- The router of a sector whose device name comes before all others there. -/
def Registry.Leads [LT κ] (collate : String → κ) (sector router : Nat) (self : Registry) : Prop :=
  router ∈ self.routers.ids ∧ (self.device router).sector_id = some sector ∧
    ∀ other ∈ self.routers.ids, (self.device other).sector_id = some sector → other ≠ router →
      collate (self.device router).name < collate (self.device other).name

instance [LT κ] [DecidableLT κ] {collate : String → κ} {sector router : Nat} {self : Registry} :
    Decidable (self.Leads collate sector router) :=
  inferInstanceAs (Decidable (_ ∧ _ ∧ ∀ other ∈ self.routers.ids, _ → _ → _))

/-- Two routers cannot both come before all others. -/
theorem Registry.Leads.unique [Preorder κ] {collate : String → κ} {sector router other : Nat} {self : Registry}
    (h : self.Leads collate sector router) (hother : self.Leads collate sector other) : router = other := by
  by_contra hne
  have hbefore := h.2.2 other hother.1 hother.2.1 (Ne.symm hne)
  have hafter := hother.2.2 router h.1 h.2.1 hne
  exact lt_asymm hbefore hafter

section

variable {site : Site τ} {registry : Registry} {sector router : Nat}

theorem Registry.Leads.found [LinearOrder κ] {collate : String → κ} (h : registry.Leads collate sector router)
    (hlawful : site.search.Lawful collate) :
    (site.surroundings registry).network.router_of_sector sector = some router := by
  obtain ⟨hmem, hsector, hfirst⟩ := h
  cases hsearch : (site.surroundings registry).network.router_of_sector sector with
  | none =>
    have hnone := hlawful.missing registry _ hsearch router hmem
    rw [decide_eq_false_iff_not] at hnone
    exact absurd hsector hnone
  | some found =>
    obtain ⟨hfound, hdomain, hleast⟩ := hlawful.found registry _ found hsearch
    by_contra hne
    have hlt := hfirst found hfound (of_decide_eq_true hdomain) fun heq => hne (by rw [heq])
    exact absurd (hleast router hmem (decide_eq_true hsector)) (not_le_of_gt hlt)

end

/-- The router of a subscription whose jobs name no device: its own, or the one
that leads its sector. -/
def HomeOf [LT κ] (collate : String → κ) (record : IspSubscription) (registry : Registry) (router : Nat) : Prop :=
  record.router_id = some router ∨ record.router_id = none ∧ registry.Leads collate record.sector_id router

/-- A subscription that was provisioned has its router as its home. -/
def Settled [LT κ] (collate : String → κ) (sub : Nat) (records : Records Registry) : Prop :=
  ∀ router, records.extension.provisioned sub = some router →
    HomeOf collate (records.subscriptions.row sub) records.extension router

/-- The devices and routers as a healthcheck that goes through leaves them, but
for what it notes on the router. -/
def Site.edited (site : Site τ) (records : Records Registry) (job : IspProvisioningJob) : Registry :=
  match job.job_type, site.job_router records job with
  | .mikrotik_healthcheck, .ok router =>
    match site.connect router, (site.replies router).name with
    | .ok _, some name => records.extension.rename router name
    | _, _ => records.extension
  | _, _ => records.extension

section

variable [LinearOrder κ] {collate : String → κ} {site : Site τ} {records after : Records Registry}
  {sent : List Sent} {rest : τ} {later : List Sent × τ} {job : IspProvisioningJob} {now id sub router : Nat}

theorem Site.job_router_of_home (hlawful : site.search.Lawful collate) (hsub : job.subscription_id = some sub)
    (hdevice : job.device_id = none)
    (hhome : HomeOf collate (records.subscriptions.row sub) records.extension router) :
    site.job_router records job = .ok router := by
  simp only [Site.job_router, hsub, get_router, hdevice, Option.bind_none]
  obtain hown | ⟨hunset, hleads⟩ := hhome
  · rw [hown]
    rfl
  · rw [hunset, hleads.found hlawful]
    rfl

/-- A job that has found its router while the sector had a leader was sent home. -/
theorem Site.home_of_job_router (hlawful : site.search.Lawful collate) (hsub : job.subscription_id = some sub)
    (hdevice : job.device_id = none)
    (hlead : (records.subscriptions.row sub).router_id = none →
      ∃ leader, records.extension.Leads collate (records.subscriptions.row sub).sector_id leader)
    (hrouter : site.job_router records job = .ok router) :
    HomeOf collate (records.subscriptions.row sub) records.extension router := by
  have hhome : ∃ home, HomeOf collate (records.subscriptions.row sub) records.extension home := by
    cases hown : (records.subscriptions.row sub).router_id with
    | some own => exact ⟨own, Or.inl hown⟩
    | none =>
      obtain ⟨leader, hleads⟩ := hlead hown
      exact ⟨leader, Or.inr ⟨hown, hleads⟩⟩
  obtain ⟨home, hhome⟩ := hhome
  have hsame := (Site.job_router_of_home hlawful hsub hdevice hhome).symm.trans hrouter
  rwa [Except.ok.inj hsame] at hhome

/-- A healthcheck sends no job anywhere, whether it returns or raises. -/
theorem handle_mikrotik_healthcheck_sent :
    Method.Keeps (fun state : Records Registry × List Sent × τ => state.2)
      (handle_mikrotik_healthcheck site now job) := by
  have hedit : ∀ change : Registry → Registry, Method.Keeps
      (fun state : Records Registry × List Sent × τ => state.2) (RoutingHandler.edit change) := fun _ _ => rfl
  refine Method.Keeps.bind (fun _ => rfl) fun state => Method.Keeps.bind Method.Keeps.ofExcept fun router =>
    Method.Keeps.bind Method.Keeps.ofExcept fun _ => ?_
  dsimp only
  split
  · exact Method.Keeps.bind (hedit _) fun _ => hedit _
  · exact Method.Keeps.bind (hedit _) fun _ _ => rfl
  · exact Method.Keeps.bind (hedit _) fun _ _ => rfl

/-- What a healthcheck that returns has found and written. -/
theorem handle_mikrotik_healthcheck_returns
    (h : (handle_mikrotik_healthcheck site now job).exec (records, sent, rest) = (.ok (), after, later)) :
    ∃ router change, site.job_router records job = .ok router ∧ (∃ client, site.connect router = .ok client) ∧
      after = { records with
        extension := (match (site.replies router).name with
          | some name => records.extension.rename router name
          | none => records.extension).writeRouter router change } ∧
      ∀ row, (change row).device_id = row.device_id := by
  rw [handle_mikrotik_healthcheck, Method.exec_get_bind] at h
  obtain ⟨router, hrouter, hconnected⟩ := Method.ofExcept_bind_returns h
  obtain ⟨client, hclient, hreplied⟩ := Method.ofExcept_bind_returns hconnected
  dsimp only at hreplied
  split at hreplied
  · cases hreplied
    exact ⟨router, _, hrouter, ⟨client, hclient⟩, rfl, fun _ => rfl⟩
  · cases hreplied
  · cases hreplied

/-- A handler that notes nothing but where a job went. -/
theorem Site.dispatch_of_ne (h : job.job_type ≠ .mikrotik_healthcheck) :
    site.dispatch now id job = (do
      Sent.note site job
      let registry := (← get).1.extension
      isp_mikrotik.dispatch (site.surroundings registry) id job
      Registry.note site job) := by
  unfold Site.dispatch
  split
  · rename_i htype
    exact absurd htype h
  · rfl

theorem Site.dispatch_rest_keeps :
    Method.Keeps (fun state : Records Registry × List Sent × τ => state.2.1) (do
      let registry := (← get).1.extension
      isp_mikrotik.dispatch (site.surroundings registry) id job
      Registry.note site job) := by
  refine Method.Keeps.bind (fun _ => rfl) fun state => Method.Keeps.bind ?_ fun _ state => ?_
  · refine dispatch_keeps (fun router client hclient command => ?_) (fun _ _ => rfl) id job
    cases hconnect : site.connect router with
    | error exception =>
      simp only [Site.surroundings, hconnect] at hclient
      cases hclient
    | ok inner =>
      simp only [Site.surroundings, hconnect] at hclient
      cases hclient
      exact fun _ => rfl
  · rw [Registry.note, Method.exec_modify]
    dsimp only
    split <;> rfl

/-- What a handled job leaves of the list: nothing is taken away, and at most its
own entry is added. -/
theorem Site.dispatch_sent :
    ((site.dispatch now id job).exec (records, sent, rest)).2.2.1 = sent ∨
      ∃ own router, job.subscription_id = some own ∧ site.job_router records job = .ok router ∧
        ((site.dispatch now id job).exec (records, sent, rest)).2.2.1 =
          sent ++ [⟨own, job.job_type, router, records.extension.provisioned own⟩] := by
  by_cases htype : job.job_type = .mikrotik_healthcheck
  · left
    have hkeeps := @handle_mikrotik_healthcheck_sent τ site job now (records, sent, rest)
    simp only [Site.dispatch, htype]
    exact congrArg Prod.fst hkeeps
  · have hrest := @Site.dispatch_rest_keeps τ site job id
    rw [Site.dispatch_of_ne htype, Method.exec_bind, Sent.note, Method.exec_modify]
    dsimp only
    cases hsub : job.subscription_id with
    | none =>
      left
      exact hrest _
    | some own =>
      cases hrouter : site.job_router records job with
      | error exception =>
        left
        exact hrest _
      | ok router =>
        right
        exact ⟨own, router, rfl, rfl, hrest _⟩

/-- A healthcheck that notes something on a router moves no router to another
device. -/
theorem Registry.Leads.writeRouter {registry : Registry} {sector leader router : Nat}
    {change : IspMikrotikRouter → IspMikrotikRouter} (hchange : ∀ row, (change row).device_id = row.device_id)
    (h : registry.Leads collate sector leader) :
    (registry.writeRouter router change).Leads collate sector leader := by
  have hdevice : ∀ other, (registry.writeRouter router change).device other = registry.device other := by
    intro other
    have hrow : ((registry.routers.write router change).row other).device_id =
        (registry.routers.row other).device_id := by
      rw [Store.write_row]
      split
      · rename_i hsame
        rw [hsame, hchange]
      · rfl
    exact congrArg registry.devices.row hrow
  obtain ⟨hmem, hsector, hfirst⟩ := h
  refine ⟨hmem, by rw [hdevice]; exact hsector, fun other hother hdomain hne => ?_⟩
  rw [hdevice] at hdomain ⊢
  rw [hdevice]
  exact hfirst other hother hdomain hne

/-- The router of a job depends on two fields of its subscription, the devices
and the routers. -/
theorem Site.job_router_congr (hsector : ∀ own, (after.subscriptions.row own).sector_id =
      (records.subscriptions.row own).sector_id)
    (hrouter : ∀ own, (after.subscriptions.row own).router_id = (records.subscriptions.row own).router_id)
    (hextension : after.extension = records.extension) :
    site.job_router after job = site.job_router records job := by
  simp only [Site.job_router, hextension, get_router, hsector, hrouter]

theorem Sent.note_exec (site : Site τ) (job : IspProvisioningJob) (records : Records Registry) (sent : List Sent)
    (rest : τ) : ∃ noted, (Sent.note site job).exec (records, sent, rest) = (.ok (), records, noted, rest) := by
  rw [Sent.note, Method.exec_modify]
  dsimp only
  split
  · exact ⟨_, rfl⟩
  · exact ⟨sent, rfl⟩

/-- A job other than a healthcheck leaves the devices and the routers alone, and
an activation that returns was sent to the router noted. -/
theorem Site.dispatch_returns (htype : job.job_type ≠ .mikrotik_healthcheck)
    (h : (site.dispatch now id job).exec (records, sent, rest) = (.ok (), after, later)) :
    (∀ own, (after.subscriptions.row own).sector_id = (records.subscriptions.row own).sector_id) ∧
    (∀ own, (after.subscriptions.row own).router_id = (records.subscriptions.row own).router_id) ∧
    (after.extension = records.extension ∨
      ∃ own router, job.job_type = .activate_subscription ∧ job.subscription_id = some own ∧
        site.job_router records job = .ok router ∧
        after.extension = records.extension.provision own router) := by
  rw [Site.dispatch_of_ne htype] at h
  obtain ⟨middle, hnote, hrest⟩ := Method.exec_then_returns h
  obtain ⟨noted, hnoted⟩ := Sent.note_exec site job records sent rest
  cases hnoted.symm.trans hnote
  rw [Method.exec_get_bind] at hrest
  obtain ⟨⟨handled, outside⟩, hhandled, hprovisioned⟩ := Method.exec_then_returns hrest
  have hprovisions := isp_mikrotik.dispatch_returns hhandled
  have hsector : ∀ own, (handled.subscriptions.row own).sector_id = (records.subscriptions.row own).sector_id := by
    intro own
    obtain ⟨_, _, hvalues⟩ := hprovisions.row own
    rw [hvalues]
  have hrouter : ∀ own, (handled.subscriptions.row own).router_id = (records.subscriptions.row own).router_id := by
    intro own
    obtain ⟨_, _, hvalues⟩ := hprovisions.row own
    rw [hvalues]
  have hsame : site.job_router handled job = site.job_router records job :=
    Site.job_router_congr hsector hrouter hprovisions.extension
  rw [Registry.note, Method.exec_modify] at hprovisioned
  dsimp only at hprovisioned
  split at hprovisioned
  · rename_i own router hactivate hsub hfound
    cases hprovisioned
    rw [hsame] at hfound
    refine ⟨hsector, hrouter, Or.inr ⟨own, router, hactivate, hsub, hfound, ?_⟩⟩
    rw [hprovisions.extension]
  · cases hprovisioned
    exact ⟨hsector, hrouter, Or.inl hprovisions.extension⟩

/-- A job that returns leaves a settled subscription settled, if its activation
finds a leader and a renamed router leaves the lead to whom it was. -/
theorem Site.dispatch_settled (hlawful : site.search.Lawful collate) (hsettled : Settled collate sub records)
    (hdevice : job.subscription_id = some sub → job.device_id = none)
    (hlead : (records.subscriptions.row sub).router_id = none → job.job_type = .activate_subscription →
      job.subscription_id = some sub →
        ∃ leader, records.extension.Leads collate (records.subscriptions.row sub).sector_id leader)
    (hkeep : (records.subscriptions.row sub).router_id = none → (records.extension.provisioned sub).isSome = true →
      ∀ leader, records.extension.Leads collate (records.subscriptions.row sub).sector_id leader →
        (site.edited records job).Leads collate (records.subscriptions.row sub).sector_id leader)
    (h : (site.dispatch now id job).exec (records, sent, rest) = (.ok (), after, later)) :
    Settled collate sub after := by
  intro home hhome
  by_cases htype : job.job_type = .mikrotik_healthcheck
  · simp only [Site.dispatch, htype] at h
    obtain ⟨router, change, hrouter, ⟨client, hclient⟩, rfl, hchange⟩ := handle_mikrotik_healthcheck_returns h
    have hprovisioned : records.extension.provisioned sub = some home := by
      revert hhome
      dsimp only
      cases (site.replies router).name <;> exact fun hsame => hsame
    obtain hown | ⟨hunset, hleads⟩ := hsettled home hprovisioned
    · exact Or.inl hown
    · have hedited := hkeep hunset (by rw [hprovisioned]; rfl) home hleads
      simp only [Site.edited, htype, hrouter, hclient] at hedited
      refine Or.inr ⟨hunset, Registry.Leads.writeRouter hchange ?_⟩
      revert hedited
      cases (site.replies router).name <;> exact fun hleads => hleads
  · obtain ⟨hsector, hrouter, hextension⟩ := Site.dispatch_returns htype h
    rw [HomeOf, hsector, hrouter]
    obtain hsame | ⟨own, router, hactivate, hsub, hfound, hupdated⟩ := hextension
    · rw [hsame] at hhome ⊢
      exact hsettled home hhome
    · have hleads : ∀ sector leader, after.extension.Leads collate sector leader ↔
          records.extension.Leads collate sector leader := by
        rw [hupdated]
        exact fun _ _ => Iff.rfl
      rw [hleads]
      rw [hupdated, Registry.provision] at hhome
      dsimp only at hhome
      by_cases hown : own = sub
      · subst hown
        rw [Function.update_self] at hhome
        cases hhome
        exact Site.home_of_job_router hlawful hsub (hdevice hsub) (fun hunset => hlead hunset hactivate hsub) hfound
      · rw [Function.update_of_ne (Ne.symm hown)] at hhome
        exact hsettled home hhome

end

end getupnet.isp_mikrotik

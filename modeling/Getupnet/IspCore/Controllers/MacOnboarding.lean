import Getupnet.Relational.Runs
import Getupnet.Relational.Transaction
import Getupnet.Relational.Uniqueness
import Getupnet.IspCore.Records
import Getupnet.IspCaptivePortal.ProvisioningJob

open relational
open getupnet.isp_captive_portal

namespace getupnet.isp_core.onboarding

/-- The string methods of the language that the controller calls. -/
structure StrMethods where
  strip : String → String
  upper : String → String
  lower : String → String
  isdigit : String → Bool
  int : String → Except OdooError Nat

/-- Replacing a character by nothing. -/
def without (char : Char) (text : String) : String := String.ofList (text.toList.filter fun other => other ≠ char)

def IspMacProfile.normalize_mac (str : StrMethods) (mac : String) : String := str.upper (str.strip mac)

/-- A normalised MAC address without the separators, which equivalent addresses
have in common. -/
def macKey (norm_mac : String) : String := without '-' (without ':' norm_mac)

inductive OnlineState where
  | online
  | offline
  deriving DecidableEq

structure IspMacProfile where
  mac_address : String
  sector_id : Option Nat := none
  plan_id : Option Nat := none
  partner_id : Option Nat := none
  subscription_id : Option Nat := none
  state : OnlineState := .online
  last_seen_ip : CharField := none
  last_seen_at : Option Nat := none
  hostname : CharField := none

structure ResPartner where
  name : String
  is_isp_customer : Bool := false

/-- A job for a captive user, with the user that its payload names. -/
structure CaptiveJob where
  job : IspProvisioningJob
  captive_user_id : Nat

/-- A record beside the normalised MAC address that the controller created it for.
That is not stored by the code, and unset for the records of others. -/
structure Onboarded (α : Type) where
  record : α
  mac : Option String := none

structure Onboarding where
  profiles : Store IspMacProfile
  partners : Store (Onboarded ResPartner)
  subscriptions : Store (Onboarded IspSubscription)
  captive_users : Store (Onboarded IspCaptiveUser)
  jobs : Store (Onboarded CaptiveJob)

/-- The system parameters `isp_core.mac_…`. -/
structure Parameters where
  mac_onboarding_token : CharField := none
  mac_auto_create : CharField := none
  mac_default_plan_id : CharField := none
  mac_auto_create_captive_user : CharField := none
  mac_captive_default_profile : CharField := none
  mac_auto_provision_captive : CharField := none

/-- What a request meets besides the records it creates: the sectors and plans, the
first router of each sector with its device, whether the captive portal is
installed, the clock, and what the sequence and the secrets give. -/
structure Site where
  plans : Nat → IspServicePlan
  plan_exists : Nat → Bool
  sector_of_code : String → Option Nat
  router_of_sector : Nat → Option (Nat × Nat)
  captive_installed : Bool
  now : Nat
  next_by_code : Nat → CharField
  token_hex : String → String

/-- The parameters of a request, and its header `X-ISP-TOKEN`. -/
structure Request where
  token : CharField := none
  header_token : CharField := none
  mac : CharField := none
  leaseActMAC : CharField := none
  ip : CharField := none
  leaseActIP : CharField := none
  bound : CharField := none
  leaseBound : CharField := none
  sector : CharField := none
  hostname : CharField := none

structure Response where
  body : String
  status : Nat := 200
  deriving DecidableEq

/-- The values `"1"`, `"true"` and `"True"` of a system parameter. -/
def enabled (parameter : CharField) : Bool := decide (parameter ∈ [some "1", some "true", some "True"])

/-- The refusals of a request; one that is not refused is for a MAC address. -/
def Request.admitted (str : StrMethods) (params : Parameters) (kw : Request) : Except Response String :=
  if truthy params.mac_onboarding_token = false then
    .error { body := "mac_onboarding_token not configured", status := 403 }
  else if orElse kw.token kw.header_token ≠ params.mac_onboarding_token then
    .error { body := "unauthorized", status := 401 }
  else
    match orElse kw.mac kw.leaseActMAC with
    | some mac =>
      if mac = "" then .error { body := "mac required", status := 400 }
      else .ok (IspMacProfile.normalize_mac str mac)
    | none => .error { body := "mac required", status := 400 }

def Request.sector_id (site : Site) (kw : Request) : Option Nat :=
  if truthy kw.sector then kw.sector.bind site.sector_of_code else none

def Request.lease_ip (kw : Request) : CharField := orElse kw.ip kw.leaseActIP

def Request.state (str : StrMethods) (kw : Request) : OnlineState :=
  if str.lower (textOr (orElse kw.bound kw.leaseBound) "1") ∈ ["0", "false", "no"] then .offline else .online

/-- The values that a request writes on the profile. -/
def Request.values (str : StrMethods) (site : Site) (norm_mac : String) (kw : Request) (profile : IspMacProfile) :
    IspMacProfile :=
  { profile with
    mac_address := norm_mac
    sector_id := kw.sector_id site
    last_seen_ip := kw.lease_ip
    last_seen_at := some site.now
    hostname := kw.hostname
    state := kw.state str }

/-- A part of the handler. -/
abbrev Handler (α : Type) : Type := Method Onboarding OdooError α

/-- The profile of the address, written or created. -/
def recordProfile (str : StrMethods) (site : Site) (norm_mac : String) (kw : Request) : Handler Nat := do
  let db ← get
  match (db.profiles.search fun profile => decide (profile.mac_address = norm_mac)).head? with
  | some profile =>
    modify fun db => { db with profiles := db.profiles.write profile (kw.values str site norm_mac) }
    return profile
  | none =>
    modify fun db => { db with profiles := db.profiles.create (kw.values str site norm_mac { mac_address := norm_mac }) }
    return db.profiles.next_id

/-- The plan that the parameter names, if it is a number. -/
def Parameters.default_plan (str : StrMethods) (params : Parameters) : Except OdooError (Option Nat) :=
  match params.mac_default_plan_id with
  | some plan_id => if plan_id ≠ "" ∧ str.isdigit plan_id then (str.int plan_id).map some else .ok none
  | none => .ok none

/-- The partner of the profile, created where it has none. -/
def ensurePartner (norm_mac : String) (profile : Nat) : Handler Nat := do
  let db ← get
  match (db.profiles.row profile).partner_id with
  | some partner => return partner
  | none =>
    modify fun db => { db with
      partners := db.partners.create
        { record := { name := s!"Auto {norm_mac}", is_isp_customer := true }, mac := some norm_mac }
      profiles := db.profiles.write profile fun record => { record with partner_id := some db.partners.next_id } }
    return db.partners.next_id

/-- The subscription of the profile, created with its partner where it has none. A
response ends the request. -/
def autoCreate (str : StrMethods) (params : Parameters) (site : Site) (norm_mac : String) (kw : Request)
    (profile : Nat) :
    Handler (Option Response) := do
  let db ← get
  if enabled params.mac_auto_create && (db.profiles.row profile).subscription_id.isNone then
    match ← Method.ofExcept (params.default_plan str) with
    | none => return none
    | some plan =>
      match kw.sector_id site <|> (db.profiles.row profile).sector_id with
      | none => return some { body := "sector required for auto-create", status := 400 }
      | some sector_for_sub =>
        let partner ← ensurePartner norm_mac profile
        let router_id := (kw.sector_id site).bind fun sector => (site.router_of_sector sector).map Prod.fst
        if site.plan_exists plan = false then
          throw (.other "Record does not exist or has been deleted.")
        let subs ← Method.ofExcept (IspSubscription.create site.plans site.next_by_code site.token_hex
          [mac_onboarding_vals partner plan sector_for_sub router_id (some norm_mac) kw.lease_ip])
        let db ← get
        modify fun db => { db with
          subscriptions := db.subscriptions.createAll (subs.map fun record => { record, mac := some norm_mac }) }
        modify fun self => { self with
          profiles := self.profiles.write profile fun record =>
            { record with subscription_id := some db.subscriptions.next_id, plan_id := some plan } }
        return none
  else return none

def captiveUsername (str : StrMethods) (norm_mac : String) : String := "onu_" ++ str.lower (without ':' norm_mac)

/-- The captive user that a request creates, with the sector of its router. -/
def Request.captive_user (str : StrMethods) (params : Parameters) (site : Site) (norm_mac : String)
    (kw : Request) :
    IspCaptiveUser :=
  let router := (kw.sector_id site).bind site.router_of_sector
  { username := captiveUsername str norm_mac
    password := some (site.token_hex (captiveUsername str norm_mac))
    profile := some (textOr params.mac_captive_default_profile "default")
    router_id := router.map Prod.fst
    state := .disabled
    sector_id := router.bind fun _ => kw.sector_id site }

/-- The captive user of the address, created with a job where there is none. -/
def autoCaptive (str : StrMethods) (params : Parameters) (site : Site) (norm_mac : String) (kw : Request) :
    Handler Unit := do
  let db ← get
  if enabled params.mac_auto_create_captive_user && site.captive_installed then
    if (db.captive_users.search fun captive => decide (captive.record.username = captiveUsername str norm_mac)) = [] then
      let router := (kw.sector_id site).bind site.router_of_sector
      modify fun db => { db with
        captive_users := db.captive_users.create { record := kw.captive_user str params site norm_mac, mac := some norm_mac } }
      match enabled params.mac_auto_provision_captive, router with
      | true, some (_, device_id) =>
        modify fun self => { self with
          jobs := self.jobs.create {
            record := {
              job := {
                job_type := .captive_user_create
                sector_id := kw.sector_id site
                device_id := some device_id
                requested_at := site.now }
              captive_user_id := db.captive_users.next_id }
            mac := some norm_mac } }
      | _, _ => return

/-- `/isp/mac_onboarding`. -/
def mac_onboarding (str : StrMethods) (params : Parameters) (site : Site) (kw : Request) : Handler Response := do
  match kw.admitted str params with
  | .error response => return response
  | .ok norm_mac =>
    let profile ← recordProfile str site norm_mac kw
    match ← autoCreate str params site norm_mac kw profile with
    | some response => return response
    | none =>
      autoCaptive str params site norm_mac kw
      return { body := "ok" }

/-- The class of equivalent addresses that a profile is for. -/
def profileKey (profile : IspMacProfile) : Option String := some (macKey profile.mac_address)

/-- The class that a record was created for by the controller. -/
def onboardedKey {α : Type} (self : Onboarded α) : Option String := self.mac.map macKey

/-- The name of a captive user of the controller. -/
def captiveName (captive : Onboarded IspCaptiveUser) : Option String :=
  captive.mac.map fun _ => captive.record.username

/-- The captive user that a job of the controller is for. -/
def jobTarget (job : Onboarded CaptiveJob) : Option Nat := job.mac.map fun _ => job.record.captive_user_id

/-- Each class of equivalent addresses has at most one profile, and at most one
record of each kind that was created for it. -/
structure OnePerMac (db : Onboarding) : Prop where
  profiles : UniqueKey profileKey db.profiles
  partners : UniqueKey onboardedKey db.partners
  subscriptions : UniqueKey onboardedKey db.subscriptions
  captive_users : UniqueKey onboardedKey db.captive_users
  jobs : UniqueKey onboardedKey db.jobs

/-- The records that were created for an address belong to the profile of it, and
the jobs to the captive user. -/
structure Linked (str : StrMethods) (db : Onboarding) : Prop where
  partners : ∀ id ∈ db.partners.ids, ∀ norm_mac, (db.partners.row id).mac = some norm_mac →
    ∃ profile ∈ db.profiles.ids, (db.profiles.row profile).mac_address = norm_mac ∧
      (db.profiles.row profile).partner_id = some id
  subscriptions : ∀ id ∈ db.subscriptions.ids, ∀ norm_mac, (db.subscriptions.row id).mac = some norm_mac →
    ∃ profile ∈ db.profiles.ids, (db.profiles.row profile).mac_address = norm_mac ∧
      (db.profiles.row profile).subscription_id = some id
  captive_users : ∀ id ∈ db.captive_users.ids, ∀ norm_mac, (db.captive_users.row id).mac = some norm_mac →
    (∃ profile ∈ db.profiles.ids, (db.profiles.row profile).mac_address = norm_mac) ∧
      (db.captive_users.row id).record.username = captiveUsername str norm_mac
  usernames : UniqueKey captiveName db.captive_users
  jobs : ∀ id ∈ db.jobs.ids, ∀ norm_mac, (db.jobs.row id).mac = some norm_mac →
    (db.jobs.row id).record.captive_user_id ∈ db.captive_users.ids ∧
      (db.captive_users.row (db.jobs.row id).record.captive_user_id).mac = some norm_mac
  captive_jobs : UniqueKey jobTarget db.jobs

/-- No request has been answered yet. -/
structure Fresh (db : Onboarding) : Prop where
  profiles : db.profiles.ids = []
  partners : ∀ id ∈ db.partners.ids, (db.partners.row id).mac = none
  subscriptions : ∀ id ∈ db.subscriptions.ids, (db.subscriptions.row id).mac = none
  captive_users : ∀ id ∈ db.captive_users.ids, (db.captive_users.row id).mac = none
  jobs : ∀ id ∈ db.jobs.ids, (db.jobs.row id).mac = none

/-- A request is for an address whose class has no profile yet, or one with just
this normalised address. -/
def Request.SpelledAlike (str : StrMethods) (params : Parameters) (db : Onboarding) (kw : Request) : Prop :=
  ∀ norm_mac, kw.admitted str params = .ok norm_mac → ∀ profile ∈ db.profiles.ids,
    macKey (db.profiles.row profile).mac_address = macKey norm_mac →
      (db.profiles.row profile).mac_address = norm_mac

/-- A request that is answered. The transaction of one that raises is rolled back. -/
def RequestStep (str : StrMethods) (params : Parameters) (before : Onboarding) (request : Site × Request)
    (after : Onboarding) : Prop :=
  ∃ response, (mac_onboarding str params request.1 request.2).exec before = (.ok response, after)

section

variable {str : StrMethods} {params : Parameters} {site : Site} {kw : Request} {norm_mac : String}
  {before after : Onboarding}

theorem macKey_of_onboardedKey {α : Type} {record : Onboarded α} {key : String}
    (h : onboardedKey record = some key) :
    ∃ norm_mac, record.mac = some norm_mac ∧ macKey norm_mac = key := by
  rw [onboardedKey, Option.map_eq_some_iff] at h
  exact h

theorem onboardedKey_of_mac {α : Type} {record : Onboarded α} (h : record.mac = some norm_mac) :
    onboardedKey record = some (macKey norm_mac) := by
  rw [onboardedKey, h, Option.map_some]

theorem captiveName_of_mac {captive : Onboarded IspCaptiveUser} (h : captive.mac = some norm_mac) :
    captiveName captive = some captive.record.username := by
  rw [captiveName, h, Option.map_some]

theorem jobTarget_of_mac {job : Onboarded CaptiveJob} (h : job.mac = some norm_mac) :
    jobTarget job = some job.record.captive_user_id := by
  rw [jobTarget, h, Option.map_some]

/-- Records whose address has a profile are as unique as that, if there is one for
each address. -/
theorem unique_of_profile {α : Type} {table : Store (Onboarded α)}
    (hunique : UniqueKey profileKey before.profiles)
    (hprofile : ∀ id ∈ table.ids, ∀ norm_mac, (table.row id).mac = some norm_mac →
      ∃ profile ∈ before.profiles.ids, (before.profiles.row profile).mac_address = norm_mac)
    (hone : ∀ id ∈ table.ids, ∀ other ∈ table.ids, ∀ norm_mac, (table.row id).mac = some norm_mac →
      (table.row other).mac = some norm_mac → other = id) : UniqueKey onboardedKey table := by
  intro id hid other hother hkey hsame
  obtain ⟨key, hkey⟩ := Option.ne_none_iff_exists'.mp hkey
  obtain ⟨first, hfirst, hfirstKey⟩ := macKey_of_onboardedKey hkey
  obtain ⟨second, hsecond, hsecondKey⟩ := macKey_of_onboardedKey (hsame.trans hkey)
  obtain ⟨profile, hmem, hmac⟩ := hprofile id hid first hfirst
  obtain ⟨otherProfile, hotherMem, hotherMac⟩ := hprofile other hother second hsecond
  have hprofiles : otherProfile = profile := by
    refine hunique profile hmem otherProfile hotherMem (Option.some_ne_none _) ?_
    rw [profileKey, profileKey, hmac, hotherMac, hfirstKey, hsecondKey]
  rw [hprofiles, hmac] at hotherMac
  exact hone id hid other hother first hfirst (hotherMac ▸ hsecond)

/-- A link from the profile of an address leads to one record. -/
theorem one_of_linked {link : IspMacProfile → Option Nat} (hunique : UniqueKey profileKey before.profiles)
    {id other : Nat}
    (hid : ∃ profile ∈ before.profiles.ids, (before.profiles.row profile).mac_address = norm_mac ∧
      link (before.profiles.row profile) = some id)
    (hother : ∃ profile ∈ before.profiles.ids, (before.profiles.row profile).mac_address = norm_mac ∧
      link (before.profiles.row profile) = some other) : other = id := by
  obtain ⟨profile, hmem, hmac, hlink⟩ := hid
  obtain ⟨otherProfile, hotherMem, hotherMac, hotherLink⟩ := hother
  have hprofiles : otherProfile = profile := by
    refine hunique profile hmem otherProfile hotherMem (Option.some_ne_none _) ?_
    rw [profileKey, profileKey, hmac, hotherMac]
  rw [hprofiles, hlink] at hotherLink
  exact (Option.some.inj hotherLink).symm

theorem Linked.unique_captive_users (h : Linked str before) (hunique : UniqueKey profileKey before.profiles) :
    UniqueKey onboardedKey before.captive_users := by
  refine unique_of_profile hunique (fun id hid norm_mac hmac => (h.captive_users id hid norm_mac hmac).1) ?_
  intro id hid other hother norm_mac hmac hotherMac
  refine h.usernames id hid other hother ?_ ?_
  · rw [captiveName_of_mac hmac]
    exact Option.some_ne_none _
  · rw [captiveName_of_mac hmac, captiveName_of_mac hotherMac, (h.captive_users id hid norm_mac hmac).2,
      (h.captive_users other hother norm_mac hotherMac).2]

theorem Linked.onePerMac (h : Linked str before) (hunique : UniqueKey profileKey before.profiles) :
    OnePerMac before where
  profiles := hunique
  partners := by
    refine unique_of_profile hunique (fun id hid norm_mac hmac => ?_) fun id hid other hother norm_mac hmac hotherMac => ?_
    · obtain ⟨profile, hmem, hprofile, _⟩ := h.partners id hid norm_mac hmac
      exact ⟨profile, hmem, hprofile⟩
    · exact one_of_linked hunique (h.partners id hid norm_mac hmac) (h.partners other hother norm_mac hotherMac)
  subscriptions := by
    refine unique_of_profile hunique (fun id hid norm_mac hmac => ?_) fun id hid other hother norm_mac hmac hotherMac => ?_
    · obtain ⟨profile, hmem, hprofile, _⟩ := h.subscriptions id hid norm_mac hmac
      exact ⟨profile, hmem, hprofile⟩
    · exact one_of_linked hunique (h.subscriptions id hid norm_mac hmac) (h.subscriptions other hother norm_mac hotherMac)
  captive_users := h.unique_captive_users hunique
  jobs := by
    refine unique_of_profile hunique (fun id hid norm_mac hmac => ?_) fun id hid other hother norm_mac hmac hotherMac => ?_
    · obtain ⟨hcaptive, hmark⟩ := h.jobs id hid norm_mac hmac
      exact (h.captive_users _ hcaptive norm_mac hmark).1
    · obtain ⟨hcaptive, hmark⟩ := h.jobs id hid norm_mac hmac
      obtain ⟨hotherCaptive, hotherMark⟩ := h.jobs other hother norm_mac hotherMac
      have hsame : (before.jobs.row other).record.captive_user_id = (before.jobs.row id).record.captive_user_id := by
        refine h.unique_captive_users hunique _ hcaptive _ hotherCaptive ?_ ?_
        · rw [onboardedKey_of_mac hmark]
          exact Option.some_ne_none _
        · rw [onboardedKey_of_mac hmark, onboardedKey_of_mac hotherMark]
      refine h.captive_jobs id hid other hother ?_ ?_
      · rw [jobTarget_of_mac hmac]
        exact Option.some_ne_none _
      · rw [jobTarget_of_mac hmac, jobTarget_of_mac hotherMac, hsame]

theorem Fresh.linked (h : Fresh before) : Linked str before where
  partners id hid norm_mac hmac := by simp [h.partners id hid] at hmac
  subscriptions id hid norm_mac hmac := by simp [h.subscriptions id hid] at hmac
  captive_users id hid norm_mac hmac := by simp [h.captive_users id hid] at hmac
  usernames id hid other hother hkey hsame := by simp [captiveName, h.captive_users id hid] at hkey
  jobs id hid norm_mac hmac := by simp [h.jobs id hid] at hmac
  captive_jobs id hid other hother hkey hsame := by simp [jobTarget, h.jobs id hid] at hkey

theorem Fresh.unique (h : Fresh before) : UniqueKey profileKey before.profiles := by
  intro id hid
  rw [h.profiles] at hid
  exact absurd hid List.not_mem_nil

/-- The profiles stay, with their addresses and whatever they are linked to. -/
def ProfilesKept (before after : Store IspMacProfile) : Prop :=
  ∀ profile ∈ before.ids, profile ∈ after.ids ∧
    (after.row profile).mac_address = (before.row profile).mac_address ∧
    (∀ id, (before.row profile).partner_id = some id → (after.row profile).partner_id = some id) ∧
    ∀ id, (before.row profile).subscription_id = some id → (after.row profile).subscription_id = some id

theorem Linked.of_profiles {profiles : Store IspMacProfile} (h : Linked str before)
    (hkept : ProfilesKept before.profiles profiles) : Linked str { before with profiles := profiles } where
  partners id hid norm_mac hmac := by
    obtain ⟨profile, hmem, haddress, hlink⟩ := h.partners id hid norm_mac hmac
    obtain ⟨hstays, hsame, hpartner, _⟩ := hkept profile hmem
    exact ⟨profile, hstays, hsame.trans haddress, hpartner id hlink⟩
  subscriptions id hid norm_mac hmac := by
    obtain ⟨profile, hmem, haddress, hlink⟩ := h.subscriptions id hid norm_mac hmac
    obtain ⟨hstays, hsame, _, hsubscription⟩ := hkept profile hmem
    exact ⟨profile, hstays, hsame.trans haddress, hsubscription id hlink⟩
  captive_users id hid norm_mac hmac := by
    obtain ⟨⟨profile, hmem, haddress⟩, husername⟩ := h.captive_users id hid norm_mac hmac
    obtain ⟨hstays, hsame, _⟩ := hkept profile hmem
    exact ⟨⟨profile, hstays, hsame.trans haddress⟩, husername⟩
  usernames := h.usernames
  jobs := h.jobs
  captive_jobs := h.captive_jobs

/-- A write that keeps the address of a profile, and what it is linked to. -/
theorem ProfilesKept.write {table : Store IspMacProfile} {profile : Nat} {change : IspMacProfile → IspMacProfile}
    (hmac : (change (table.row profile)).mac_address = (table.row profile).mac_address)
    (hpartner : ∀ id, (table.row profile).partner_id = some id → (change (table.row profile)).partner_id = some id)
    (hsubscription : ∀ id, (table.row profile).subscription_id = some id →
      (change (table.row profile)).subscription_id = some id) :
    ProfilesKept table (table.write profile change) := by
  intro other hother
  refine ⟨hother, ?_⟩
  by_cases hsame : other = profile
  · rw [hsame, Store.write_row_self]
    exact ⟨hmac, hpartner, hsubscription⟩
  · rw [Store.write_row_ne _ hsame]
    exact ⟨rfl, fun _ h => h, fun _ h => h⟩

theorem ProfilesKept.create (table : Store IspMacProfile) (record : IspMacProfile) :
    ProfilesKept table (table.create record) := by
  intro profile hprofile
  rw [Store.create_ids, Store.create_row_of_lt _ (table.ids_fresh profile hprofile)]
  exact ⟨List.mem_append_left _ hprofile, rfl, fun _ h => h, fun _ h => h⟩

/-- What `recordProfile` leaves: the profile of the address, which is the first of
its class exactly if the request is spelled like those before it. -/
structure Recorded (before : Onboarding) (norm_mac : String) (profile : Nat)
    (profiles : Store IspMacProfile) : Prop where
  kept : ProfilesKept before.profiles profiles
  mem : profile ∈ profiles.ids
  mac_address : (profiles.row profile).mac_address = norm_mac
  unique_iff : UniqueKey profileKey before.profiles →
    (UniqueKey profileKey profiles ↔ ∀ other ∈ before.profiles.ids,
      macKey (before.profiles.row other).mac_address = macKey norm_mac →
        (before.profiles.row other).mac_address = norm_mac)

theorem recordProfile_outcome (before : Onboarding) :
    ∃ profile profiles, (recordProfile str site norm_mac kw).exec before =
      (.ok profile, { before with profiles := profiles }) ∧ Recorded before norm_mac profile profiles := by
  cases hfound : (before.profiles.search fun profile => decide (profile.mac_address = norm_mac)).head? with
  | some profile =>
    obtain ⟨hmem, haddress⟩ := (Store.mem_search _ _ _).mp (List.mem_of_head? hfound)
    have hmac : (before.profiles.row profile).mac_address = norm_mac := of_decide_eq_true haddress
    refine ⟨profile, before.profiles.write profile (kw.values str site norm_mac), ?_, ?_⟩
    · simp [recordProfile, Method.exec_map, hfound]
    · refine ⟨ProfilesKept.write hmac.symm (fun _ h => h) fun _ h => h, hmem, ?_, fun hunique => ?_⟩
      · rw [Store.write_row_self]
        rfl
      · refine iff_of_true (hunique.of_kept fun id hid => ⟨hid, ?_⟩) fun other hother hkey => ?_
        · by_cases hsame : id = profile
          · rw [hsame, Store.write_row_self, profileKey, profileKey, hmac]
            rfl
          · rw [Store.write_row_ne _ hsame]
        · have hprofiles : other = profile := by
            refine hunique profile hmem other hother (Option.some_ne_none _) ?_
            rw [profileKey, profileKey, hmac, hkey]
          rw [hprofiles, hmac]
  | none =>
    have hnone : ∀ other ∈ before.profiles.ids, (before.profiles.row other).mac_address ≠ norm_mac := by
      intro other hother hsame
      have hmem := (Store.mem_search before.profiles (fun profile => decide (profile.mac_address = norm_mac)) other).mpr
        ⟨hother, decide_eq_true hsame⟩
      rw [List.head?_eq_none_iff.mp hfound] at hmem
      exact absurd hmem List.not_mem_nil
    refine ⟨before.profiles.next_id, before.profiles.create (kw.values str site norm_mac { mac_address := norm_mac }),
      ?_, ?_⟩
    · simp [recordProfile, Method.exec_map, hfound]
    · refine ⟨ProfilesKept.create _ _, ?_, ?_, fun hunique => ?_⟩
      · rw [Store.create_ids]
        exact List.mem_append_right _ (List.mem_singleton_self _)
      · rw [Store.create_row_new]
        rfl
      · rw [hunique.create_iff]
        constructor
        · intro hfree other hother hkey
          exact absurd (congrArg some hkey) (hfree (Option.some_ne_none _) other hother)
        · intro halike _ other hother hkey
          exact hnone other hother (halike other hother (Option.some.inj hkey))

/-- Writes that leave the profiles their addresses. -/
def SameMacs (before after : Store IspMacProfile) : Prop :=
  after.ids = before.ids ∧ ∀ profile, (after.row profile).mac_address = (before.row profile).mac_address

theorem SameMacs.write {table : Store IspMacProfile} {profile : Nat} {change : IspMacProfile → IspMacProfile}
    (h : ∀ record, (change record).mac_address = record.mac_address) :
    SameMacs table (table.write profile change) := by
  refine ⟨rfl, fun other => ?_⟩
  by_cases hsame : other = profile
  · rw [hsame, Store.write_row_self, h]
  · rw [Store.write_row_ne _ hsame]

theorem SameMacs.trans {first second third : Store IspMacProfile} (h : SameMacs first second)
    (hthen : SameMacs second third) : SameMacs first third :=
  ⟨hthen.1.trans h.1, fun profile => (hthen.2 profile).trans (h.2 profile)⟩

theorem SameMacs.unique_iff {first second : Store IspMacProfile} (h : SameMacs first second) :
    UniqueKey profileKey second ↔ UniqueKey profileKey first := by
  have hkey : ∀ profile, profileKey (second.row profile) = profileKey (first.row profile) := by
    intro profile
    rw [profileKey, profileKey, h.2]
  constructor
  · intro hunique
    exact hunique.of_kept fun id hid => ⟨h.1 ▸ hid, (hkey id).symm⟩
  · intro hunique
    exact hunique.of_kept fun id hid => ⟨h.1 ▸ hid, hkey id⟩

/-- A new record, with the link to it set in a profile that had none. -/
theorem linked_create {α : Type} {table : Store (Onboarded α)} {profiles : Store IspMacProfile}
    {link : IspMacProfile → Option Nat} {change : IspMacProfile → IspMacProfile} {profile : Nat}
    {record : Onboarded α}
    (hlinked : ∀ id ∈ table.ids, ∀ norm_mac, (table.row id).mac = some norm_mac →
      ∃ profile ∈ profiles.ids, (profiles.row profile).mac_address = norm_mac ∧
        link (profiles.row profile) = some id)
    (hprofile : profile ∈ profiles.ids) (hmac : (profiles.row profile).mac_address = norm_mac)
    (hunset : link (profiles.row profile) = none) (hrecord : record.mac = some norm_mac)
    (hchange : ∀ other, (change other).mac_address = other.mac_address)
    (hlink : ∀ other, link (change other) = some table.next_id) :
    ∀ id ∈ (table.create record).ids, ∀ norm_mac, ((table.create record).row id).mac = some norm_mac →
      ∃ other ∈ (profiles.write profile change).ids,
        ((profiles.write profile change).row other).mac_address = norm_mac ∧
        link ((profiles.write profile change).row other) = some id := by
  intro id hid address haddress
  rw [Store.create_ids] at hid
  obtain hid | hid := List.mem_append.mp hid
  · rw [Store.create_row_of_lt _ (table.ids_fresh id hid)] at haddress
    obtain ⟨other, hother, hotherMac, hotherLink⟩ := hlinked id hid address haddress
    have hne : other ≠ profile := by
      intro hsame
      rw [hsame, hunset] at hotherLink
      cases hotherLink
    refine ⟨other, hother, ?_⟩
    rw [Store.write_row_ne _ hne]
    exact ⟨hotherMac, hotherLink⟩
  · rw [List.mem_singleton.mp hid, Store.create_row_new, hrecord] at haddress
    refine ⟨profile, hprofile, ?_⟩
    rw [Store.write_row_self, hchange, hlink, List.mem_singleton.mp hid]
    exact ⟨hmac.trans (Option.some.inj haddress), rfl⟩

theorem ensurePartner_outcome {profile : Nat} (h : Linked str before) (hprofile : profile ∈ before.profiles.ids)
    (hmac : (before.profiles.row profile).mac_address = norm_mac) :
    ∃ partner after, (ensurePartner norm_mac profile).exec before = (.ok partner, after) ∧ Linked str after ∧
      SameMacs before.profiles after.profiles ∧
      (after.profiles.row profile).subscription_id = (before.profiles.row profile).subscription_id := by
  cases hpartner : (before.profiles.row profile).partner_id with
  | some partner =>
    exact ⟨partner, before, by simp [ensurePartner, hpartner], h, ⟨rfl, fun _ => rfl⟩, rfl⟩
  | none =>
    have hkept : ProfilesKept before.profiles (before.profiles.write profile fun record =>
        { record with partner_id := some before.partners.next_id }) :=
      ProfilesKept.write rfl (fun id hid => by simp [hpartner] at hid) fun _ hid => hid
    have hprofiles := h.of_profiles hkept
    refine ⟨before.partners.next_id, { before with
      partners := before.partners.create
        { record := { name := s!"Auto {norm_mac}", is_isp_customer := true }, mac := some norm_mac }
      profiles := before.profiles.write profile fun record =>
        { record with partner_id := some before.partners.next_id } }, ?_, ?_, SameMacs.write fun _ => rfl, ?_⟩
    · simp [ensurePartner, Method.exec_map, hpartner]
    · exact {
        partners := linked_create h.partners hprofile hmac hpartner rfl (fun _ => rfl) fun _ => rfl
        subscriptions := hprofiles.subscriptions
        captive_users := hprofiles.captive_users
        usernames := hprofiles.usernames
        jobs := hprofiles.jobs
        captive_jobs := hprofiles.captive_jobs }
    · rw [Store.write_row_self]

/-- Creating one subscription gives one record. -/
theorem create_single {plans : Nat → IspServicePlan} {next_by_code : Nat → CharField}
    {token_hex : String → String}
    {vals : SubscriptionVals} {subs : List IspSubscription}
    (h : IspSubscription.create plans next_by_code token_hex [vals] = .ok subs) : ∃ sub, subs = [sub] := by
  obtain ⟨records, hrecords, hensured⟩ := bind_ok_iff.mp h
  have hone : ∀ {α β : Type} {f : α → Except OdooError β} {argument : α} {results : List β},
      [argument].mapM f = .ok results → ∃ result, results = [result] := by
    intro α β f argument results hresults
    rw [List.mapM_cons] at hresults
    obtain ⟨result, _, hrest⟩ := bind_ok_iff.mp hresults
    obtain ⟨others, hothers, hlast⟩ := bind_ok_iff.mp hrest
    cases hothers
    cases hlast
    exact ⟨result, rfl⟩
  obtain ⟨record, rfl⟩ := hone hrecords
  exact hone hensured

theorem autoCreate_returns {profile : Nat} {response : Option Response} (h : Linked str before)
    (hprofile : profile ∈ before.profiles.ids) (hmac : (before.profiles.row profile).mac_address = norm_mac)
    (hexec : (autoCreate str params site norm_mac kw profile).exec before = (.ok response, after)) :
    Linked str after ∧ SameMacs before.profiles after.profiles := by
  unfold autoCreate at hexec
  rw [Method.exec_get_bind] at hexec
  split at hexec
  · rename_i hwanted
    obtain ⟨plan, hplan, hexec⟩ := Method.ofExcept_bind_returns hexec
    cases plan with
    | none =>
      cases hexec
      exact ⟨h, rfl, fun _ => rfl⟩
    | some plan =>
      cases hsector : kw.sector_id site <|> (before.profiles.row profile).sector_id with
      | none =>
        simp only [hsector] at hexec
        cases hexec
        exact ⟨h, rfl, fun _ => rfl⟩
      | some sector_for_sub =>
        simp only [hsector] at hexec
        obtain ⟨partner, middle, hpartner, hlinked, hsame, hsubscription⟩ := ensurePartner_outcome h hprofile hmac
        rw [Method.exec_bind, hpartner] at hexec
        by_cases hplanExists : site.plan_exists plan = false
        · simp [hplanExists] at hexec
        · rw [Bool.not_eq_false] at hplanExists
          simp only [hplanExists, Bool.true_eq_false, if_false] at hexec
          obtain ⟨subs, hsubs, hexec⟩ := Method.ofExcept_bind_returns hexec
          obtain ⟨sub, rfl⟩ := create_single hsubs
          simp only [Method.exec_bind, Method.exec_get, Method.exec_modify, Method.exec_pure, Prod.mk.injEq] at hexec
          obtain ⟨_, rfl⟩ := hexec
          have hmiddleMem : profile ∈ middle.profiles.ids := hsame.1 ▸ hprofile
          have hmiddleMac : (middle.profiles.row profile).mac_address = norm_mac := (hsame.2 profile).trans hmac
          rw [Bool.and_eq_true, Option.isNone_iff_eq_none] at hwanted
          have hunset : (middle.profiles.row profile).subscription_id = none := hsubscription.trans hwanted.2
          refine ⟨?_, hsame.trans (SameMacs.write fun _ => rfl)⟩
          have hkept : ProfilesKept middle.profiles (middle.profiles.write profile fun record =>
              { record with subscription_id := some middle.subscriptions.next_id, plan_id := some plan }) :=
            ProfilesKept.write rfl (fun _ hid => hid) fun id hid => by simp [hunset] at hid
          have hprofiles := hlinked.of_profiles hkept
          exact {
            partners := hprofiles.partners
            subscriptions := linked_create hlinked.subscriptions hmiddleMem hmiddleMac hunset rfl (fun _ => rfl) fun _ => rfl
            captive_users := hprofiles.captive_users
            usernames := hprofiles.usernames
            jobs := hprofiles.jobs
            captive_jobs := hprofiles.captive_jobs }
  · cases hexec
    exact ⟨h, rfl, fun _ => rfl⟩

/-- A captive user is created for an address with a profile, under a new name. -/
theorem Linked.create_captive {captive : IspCaptiveUser} (h : Linked str before)
    (hprofile : ∃ profile ∈ before.profiles.ids, (before.profiles.row profile).mac_address = norm_mac)
    (husername : captive.username = captiveUsername str norm_mac)
    (hnew : ∀ id ∈ before.captive_users.ids, (before.captive_users.row id).record.username ≠ captive.username) :
    Linked str { before with captive_users := before.captive_users.create { record := captive, mac := some norm_mac } } where
  partners := h.partners
  subscriptions := h.subscriptions
  captive_users id hid address haddress := by
    rw [Store.create_ids] at hid
    obtain hid | hid := List.mem_append.mp hid
    · rw [Store.create_row_of_lt _ (before.captive_users.ids_fresh id hid)] at haddress ⊢
      exact h.captive_users id hid address haddress
    · rw [List.mem_singleton.mp hid, Store.create_row_new] at haddress ⊢
      cases haddress
      exact ⟨hprofile, husername⟩
  usernames := by
    refine h.usernames.create_iff.mpr fun _ id hid hsame => ?_
    rw [captiveName, captiveName, Option.map_some, Option.map_eq_some_iff] at hsame
    obtain ⟨_, _, hname⟩ := hsame
    exact hnew id hid hname
  jobs id hid address haddress := by
    obtain ⟨hcaptive, hmark⟩ := h.jobs id hid address haddress
    refine ⟨List.mem_append_left _ hcaptive, ?_⟩
    rw [Store.create_row_of_lt _ (before.captive_users.ids_fresh _ hcaptive)]
    exact hmark
  captive_jobs := h.captive_jobs

/-- A job is created for a captive user that has none. -/
theorem Linked.create_job {job : CaptiveJob} (h : Linked str before)
    (hcaptive : job.captive_user_id ∈ before.captive_users.ids)
    (hmark : (before.captive_users.row job.captive_user_id).mac = some norm_mac)
    (hnew : ∀ id ∈ before.jobs.ids, ∀ address, (before.jobs.row id).mac = some address →
      (before.jobs.row id).record.captive_user_id ≠ job.captive_user_id) :
    Linked str { before with jobs := before.jobs.create { record := job, mac := some norm_mac } } where
  partners := h.partners
  subscriptions := h.subscriptions
  captive_users := h.captive_users
  usernames := h.usernames
  jobs id hid address haddress := by
    rw [Store.create_ids] at hid
    obtain hid | hid := List.mem_append.mp hid
    · rw [Store.create_row_of_lt _ (before.jobs.ids_fresh id hid)] at haddress ⊢
      exact h.jobs id hid address haddress
    · rw [List.mem_singleton.mp hid, Store.create_row_new] at haddress ⊢
      cases haddress
      exact ⟨hcaptive, hmark⟩
  captive_jobs := by
    refine h.captive_jobs.create_iff.mpr fun _ id hid hsame => ?_
    rw [jobTarget, jobTarget, Option.map_some, Option.map_eq_some_iff] at hsame
    obtain ⟨address, haddress, htarget⟩ := hsame
    exact hnew id hid address haddress htarget

theorem autoCaptive_returns (h : Linked str before)
    (hprofile : ∃ profile ∈ before.profiles.ids, (before.profiles.row profile).mac_address = norm_mac)
    (hexec : (autoCaptive str params site norm_mac kw).exec before = (.ok (), after)) :
    Linked str after ∧ after.profiles = before.profiles := by
  unfold autoCaptive at hexec
  rw [Method.exec_get_bind] at hexec
  split at hexec
  · split at hexec
    · rename_i hnone
      have hnew : ∀ id ∈ before.captive_users.ids,
          (before.captive_users.row id).record.username ≠ captiveUsername str norm_mac := by
        intro id hid hsame
        have hmem := (Store.mem_search before.captive_users
          (fun captive => decide (captive.record.username = captiveUsername str norm_mac)) id).mpr
          ⟨hid, decide_eq_true hsame⟩
        rw [hnone] at hmem
        exact absurd hmem List.not_mem_nil
      simp only [Method.exec_bind, Method.exec_modify] at hexec
      have hcreated : Linked str { before with
          captive_users := before.captive_users.create
            { record := kw.captive_user str params site norm_mac, mac := some norm_mac } } :=
        h.create_captive hprofile rfl hnew
      split at hexec
      · cases hexec
        refine ⟨hcreated.create_job (List.mem_append_right _ (List.mem_singleton_self _)) ?_ ?_, rfl⟩
        · rw [Store.create_row_new]
        · intro id hid address haddress
          exact Nat.ne_of_lt (before.captive_users.ids_fresh _ (h.jobs id hid address haddress).1)
      · cases hexec
        exact ⟨hcreated, rfl⟩
    · cases hexec
      exact ⟨h, rfl⟩
  · cases hexec
    exact ⟨h, rfl⟩

/-- An answered request keeps the links, and the profiles unique exactly when it is
spelled like those before it. The other records are found by way of the profile, so
nothing else can be doubled. -/
theorem Linked.step_iff {request : Site × Request} (h : Linked str before)
    (hunique : UniqueKey profileKey before.profiles) (hstep : RequestStep str params before request after) :
    Linked str after ∧ (UniqueKey profileKey after.profiles ↔ request.2.SpelledAlike str params before) := by
  obtain ⟨response, hexec⟩ := hstep
  unfold mac_onboarding at hexec
  cases hadmitted : request.2.admitted str params with
  | error refusal =>
    rw [hadmitted] at hexec
    cases hexec
    refine ⟨h, iff_of_true hunique fun norm_mac hnorm => ?_⟩
    cases hadmitted.symm.trans hnorm
  | ok norm_mac =>
    rw [hadmitted] at hexec
    obtain ⟨profile, profiles, hrecord, hrecorded⟩ :=
      @recordProfile_outcome str request.1 request.2 norm_mac before
    have hrecordedLinked := h.of_profiles hrecorded.kept
    have halike : request.2.SpelledAlike str params before ↔ UniqueKey profileKey profiles := by
      rw [hrecorded.unique_iff hunique]
      refine ⟨fun hspelled => hspelled norm_mac hadmitted, fun hspelled other hother => ?_⟩
      cases hadmitted.symm.trans hother
      exact hspelled
    rw [halike]
    simp only [Method.exec_bind, hrecord] at hexec
    cases hcreate : (autoCreate str params request.1 norm_mac request.2 profile).exec
        { before with profiles := profiles } with
    | mk result middle =>
      rw [hcreate] at hexec
      cases result with
      | error exception => cases hexec
      | ok answer =>
        obtain ⟨hcreated, hmacs⟩ := autoCreate_returns hrecordedLinked hrecorded.mem hrecorded.mac_address hcreate
        cases answer with
        | some refusal =>
          cases hexec
          exact ⟨hcreated, hmacs.unique_iff⟩
        | none =>
          simp only [Method.exec_bind] at hexec
          cases hcaptive : (autoCaptive str params request.1 norm_mac request.2).exec middle with
          | mk result final =>
            rw [hcaptive] at hexec
            cases result with
            | error exception => cases hexec
            | ok _ =>
              cases hexec
              have hprofile : ∃ other ∈ middle.profiles.ids, (middle.profiles.row other).mac_address = norm_mac :=
                ⟨profile, hmacs.1 ▸ hrecorded.mem, (hmacs.2 profile).trans hrecorded.mac_address⟩
              obtain ⟨hlinked, hsame⟩ := autoCaptive_returns hcreated hprofile hcaptive
              refine ⟨hlinked, ?_⟩
              rw [hsame]
              exact hmacs.unique_iff

/-- A request that is run and answered makes a step to what the run leaves. -/
theorem RequestStep.of_result {request : Site × Request} {response : Response}
    (h : ((mac_onboarding str params request.1 request.2).exec before).1.toOption = some response) :
    RequestStep str params before request ((mac_onboarding str params request.1 request.2).exec before).2 := by
  refine ⟨response, Prod.ext ?_ rfl⟩
  cases hresult : ((mac_onboarding str params request.1 request.2).exec before).1 with
  | ok answer =>
    rw [hresult] at h
    exact congrArg Except.ok (Option.some.inj h)
  | error exception =>
    rw [hresult] at h
    cases h

/-- Throughout any sequence of answered requests there is at most one of each record
for a class of equivalent addresses exactly when every request spells its address
like those of its class before it, up to what is normalised. -/
theorem one_per_mac_iff {initial reached : Onboarding} {taken : List (Onboarding × Site × Request)}
    (hfresh : Fresh initial) (run : Run (RequestStep str params) initial taken reached) :
    (∀ db ∈ Run.visited taken reached, OnePerMac db) ↔
    ∀ entry ∈ taken, entry.2.2.SpelledAlike str params entry.1 :=
  @Run.property_iff_condition _ _ (RequestStep str params) initial
    (fun db => Linked str db ∧ UniqueKey profileKey db.profiles) OnePerMac
    (fun db request => request.2.SpelledAlike str params db) ⟨hfresh.linked, hfresh.unique⟩
    (fun _ h => h.1.onePerMac h.2)
    (fun _ _ _ h halike hstep => ⟨(h.1.step_iff h.2 hstep).1, (h.1.step_iff h.2 hstep).2.mpr halike⟩)
    (fun _ _ _ h hnot hstep hafter => hnot ((h.1.step_iff h.2 hstep).2.mp hafter.profiles)) taken reached run

end

/-- The string methods on ASCII text. -/
def asciiText : StrMethods where
  strip text := String.ofList ((text.toList.dropWhile Char.isWhitespace).reverse.dropWhile Char.isWhitespace).reverse
  upper text := String.ofList (text.toList.map Char.toUpper)
  lower text := String.ofList (text.toList.map Char.toLower)
  isdigit text := decide (text ≠ "") && text.toList.all Char.isDigit
  int text :=
    if text ≠ "" ∧ text.toList.all Char.isDigit = true then
      .ok (text.toList.foldl (fun value digit => 10 * value + (digit.toNat - '0'.toNat)) 0)
    else .error (.other "invalid literal for int()")

/-- Onboarding with subscriptions on plan 0 and captive users. -/
def autoParameters : Parameters where
  mac_onboarding_token := some "secret"
  mac_auto_create := some "1"
  mac_default_plan_id := some "0"
  mac_auto_create_captive_user := some "1"

def oneSector : Site where
  plans _ := { name := "Basic", service_type := .dhcp }
  plan_exists _ := true
  sector_of_code _ := some 0
  router_of_sector _ := none
  captive_installed := true
  now := 0
  next_by_code _ := some "SUB0001"
  token_hex _ := "00"

def nothingOnboarded : Onboarding where
  profiles := Store.empty { mac_address := "" }
  partners := Store.empty { record := { name := "" } }
  subscriptions := Store.empty { record := IspSubscription.blank }
  captive_users := Store.empty { record := { username := "" } }
  jobs := Store.empty { record := { job := { job_type := .captive_user_create, requested_at := 0 }, captive_user_id := 0 } }

theorem nothingOnboarded_fresh : Fresh nothingOnboarded where
  profiles := rfl
  partners := fun _ hid => absurd hid List.not_mem_nil
  subscriptions := fun _ hid => absurd hid List.not_mem_nil
  captive_users := fun _ hid => absurd hid List.not_mem_nil
  jobs := fun _ hid => absurd hid List.not_mem_nil

/-- A lease of a device, as a DHCP script reports it. -/
def leaseOf (mac : String) : Request where
  token := some "secret"
  mac := some mac
  sector := some "C1"

def afterRequest (kw : Request) (db : Onboarding) : Onboarding :=
  ((mac_onboarding asciiText autoParameters oneSector kw).exec db).2

/-- The records after the first lease of a device. -/
def onceOnboarded : Onboarding := afterRequest (leaseOf "AA:BB") nothingOnboarded

theorem onceOnboarded_step :
    RequestStep asciiText autoParameters nothingOnboarded (oneSector, leaseOf "AA:BB") onceOnboarded :=
  .of_result (show _ = some { body := "ok" } by decide +kernel)

/-- The next lease of the device is reported in small letters, which are normalised. -/
theorem one_per_mac_iff_renewed : OnePerMac (afterRequest (leaseOf "aa:bb") onceOnboarded) := by
  have hsecond : RequestStep asciiText autoParameters onceOnboarded (oneSector, leaseOf "aa:bb")
      (afterRequest (leaseOf "aa:bb") onceOnboarded) := .of_result (show _ = some { body := "ok" } by decide +kernel)
  refine (one_per_mac_iff nothingOnboarded_fresh (.step (.step .start onceOnboarded_step) hsecond)).mpr ?_ _
    (Run.reached_mem_visited _ _)
  intro entry hentry
  obtain hfirst | hsecond := List.mem_append.mp hentry
  · rw [List.mem_singleton.mp hfirst]
    exact fun _ _ _ hprofile => absurd hprofile List.not_mem_nil
  · rw [List.mem_singleton.mp hsecond]
    intro norm_mac hnorm
    cases hnorm
    decide +kernel

/-- A device whose address is reported with either separator has two profiles. -/
theorem mac_spelled_twice :
    ∃ taken reached, Run (RequestStep asciiText autoParameters) nothingOnboarded taken reached ∧
      Fresh nothingOnboarded ∧ ¬ OnePerMac reached := by
  have hsecond : RequestStep asciiText autoParameters onceOnboarded (oneSector, leaseOf "AA-BB")
      (afterRequest (leaseOf "AA-BB") onceOnboarded) := .of_result (show _ = some { body := "ok" } by decide +kernel)
  refine ⟨_, _, .step (.step .start onceOnboarded_step) hsecond, nothingOnboarded_fresh, fun h => ?_⟩
  exact absurd h.profiles (by decide +kernel)

end getupnet.isp_core.onboarding

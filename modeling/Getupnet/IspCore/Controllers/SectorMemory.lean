import Getupnet.Relational.Frame
import Getupnet.IspCore.Controllers.MacOnboarding

open relational

namespace getupnet.isp_core.onboarding

/-- The profile of an address, as a request finds it. -/
def Onboarding.profileOf (norm_mac : String) (db : Onboarding) : Option Nat :=
  (db.profiles.search fun profile => decide (profile.mac_address = norm_mac)).head?

/-- The sector on the profile of an address. -/
def Onboarding.recordedSector (norm_mac : String) (db : Onboarding) : Option Nat :=
  (db.profileOf norm_mac).bind fun profile => (db.profiles.row profile).sector_id

/-- A request with the parameters and the site it meets. -/
structure Call where
  params : Parameters
  site : Site
  kw : Request

/-- The database, and beside it the sector that was recorded for an address first or
by the last request that named a known one. -/
structure Remembered where
  db : Onboarding
  sector : Option Nat

/-- An authorised request for an address that is answered. -/
structure CallStep (str : StrMethods) (norm_mac : String) (before : Remembered) (call : Call)
    (after : Remembered) :
    Prop where
  admitted : call.kw.admitted str call.params = .ok norm_mac
  answered : RequestStep str call.params before.db (call.site, call.kw) after.db
  sector : after.sector = (call.kw.sector_id call.site <|> before.sector)

/-- The profile has the sector that was recorded for it last. -/
def Remembers (norm_mac : String) (state : Remembered) : Prop :=
  Onboarding.recordedSector norm_mac state.db = state.sector

/-- With auto-creation a request without a known sector, for a profile with a sector
and without a subscription, is not refused and creates the subscription in that sector. -/
def FallsBack (str : StrMethods) (norm_mac : String) (db : Onboarding) (call : Call) : Prop :=
  call.kw.sector_id call.site = none → ∀ profile sector plan, db.profileOf norm_mac = some profile →
    (db.profiles.row profile).sector_id = some sector → (db.profiles.row profile).subscription_id = none →
    enabled call.params.mac_auto_create = true → call.params.default_plan str = .ok (some plan) →
    ∀ response after, (mac_onboarding str call.params call.site call.kw).exec db = (.ok response, after) →
      response.status ≠ 400 ∧ ∃ sub ∈ after.subscriptions.ids,
        (after.profiles.row profile).subscription_id = some sub ∧
          (after.subscriptions.row sub).record.sector_id = sector

/-- A request without a known sector finds none on the profile. -/
def LosesNoSector (norm_mac : String) (state : Remembered) (call : Call) : Prop :=
  call.kw.sector_id call.site = none → Onboarding.recordedSector norm_mac state.db = none

section

variable {str : StrMethods} {params : Parameters} {site : Site} {kw : Request} {norm_mac : String}
  {before after : Onboarding}

/-- The profiles with their addresses and sectors. -/
def Onboarding.places (db : Onboarding) : List Nat × (Nat → String × Option Nat) :=
  (db.profiles.ids, fun profile => ((db.profiles.row profile).mac_address, (db.profiles.row profile).sector_id))

theorem Onboarding.recordedSector_of_places (h : after.places = before.places) :
    after.recordedSector norm_mac = before.recordedSector norm_mac := by
  have hids : after.profiles.ids = before.profiles.ids := congrArg Prod.fst h
  have hrow : ∀ profile, (after.profiles.row profile).mac_address = (before.profiles.row profile).mac_address ∧
      (after.profiles.row profile).sector_id = (before.profiles.row profile).sector_id :=
    fun profile => Prod.mk.inj (congrFun (congrArg Prod.snd h) profile)
  have hfound : after.profileOf norm_mac = before.profileOf norm_mac := by
    simp only [Onboarding.profileOf, Store.search, hids, (hrow _).1]
  simp only [Onboarding.recordedSector, hfound, (hrow _).2]

/-- A write of other fields moves no profile. -/
theorem places_write (profile : Nat) (change : IspMacProfile → IspMacProfile)
    (hafter : after.profiles = before.profiles.write profile change)
    (h : ∀ record, (change record).mac_address = record.mac_address ∧ (change record).sector_id = record.sector_id) :
    after.places = before.places := by
  unfold Onboarding.places
  rw [hafter]
  refine Prod.ext rfl (funext fun other => ?_)
  simp only [Store.write_row]
  split
  · rename_i hsame
    rw [hsame, (h _).1, (h _).2]
  · rfl

theorem ensurePartner_places (profile : Nat) :
    Method.Keeps Onboarding.places (ensurePartner norm_mac profile) := by
  refine .bind .get fun db => ?_
  split
  · exact .pure
  · refine .bind (.modify fun db => ?_) fun _ => .pure
    exact places_write profile (fun record => { record with partner_id := some db.partners.next_id }) rfl
      fun _ => ⟨rfl, rfl⟩

theorem autoCreate_places (profile : Nat) :
    Method.Keeps Onboarding.places (autoCreate str params site norm_mac kw profile) := by
  unfold autoCreate
  refine .bind .get fun db => ?_
  split
  · refine .bind .ofExcept fun plan => ?_
    cases plan with
    | none => exact .pure
    | some plan =>
      dsimp only
      split
      · exact .pure
      · refine .bind (ensurePartner_places profile) fun partner => ?_
        split
        · exact .throw_bind
        · refine .bind .ofExcept fun subs => .bind .get fun db => .bind (.modify fun _ => rfl) fun _ => ?_
          refine .bind (.modify fun _ => ?_) fun _ => .pure
          exact places_write profile
            (fun record => { record with subscription_id := some db.subscriptions.next_id, plan_id := some plan }) rfl
            fun _ => ⟨rfl, rfl⟩
  · exact .pure

theorem autoCaptive_places : Method.Keeps Onboarding.places (autoCaptive str params site norm_mac kw) := by
  unfold autoCaptive
  refine .bind .get fun db => ?_
  split
  · split
    · refine .bind (.modify fun _ => rfl) fun _ => ?_
      split
      · exact .modify fun _ => rfl
      · exact .pure
    · exact .pure
  · exact .pure

theorem recordProfile_recorded (db : Onboarding) :
    ∃ profile middle, (recordProfile str site norm_mac kw).exec db = (.ok profile, middle) ∧
      middle.recordedSector norm_mac = kw.sector_id site := by
  cases hfound : (db.profiles.search fun profile => decide (profile.mac_address = norm_mac)).head? with
  | some profile =>
    obtain ⟨_, haddress⟩ := (Store.mem_search _ _ _).mp (List.mem_of_head? hfound)
    have hmac : (db.profiles.row profile).mac_address = norm_mac := of_decide_eq_true haddress
    have hmacs : ∀ other, ((db.profiles.write profile (kw.values str site norm_mac)).row other).mac_address =
        (db.profiles.row other).mac_address := by
      intro other
      by_cases hsame : other = profile
      · rw [hsame, Store.write_row_self, hmac]
        rfl
      · rw [Store.write_row_ne _ hsame]
    refine ⟨profile, { db with profiles := db.profiles.write profile (kw.values str site norm_mac) }, ?_, ?_⟩
    · simp [recordProfile, Method.exec_map, hfound]
    · have hstill : ((db.profiles.write profile (kw.values str site norm_mac)).search
          fun profile => decide (profile.mac_address = norm_mac)).head? = some profile := by
        simp only [Store.search, Store.write_ids, hmacs]
        exact hfound
      rw [Onboarding.recordedSector, Onboarding.profileOf, hstill, Option.bind_some, Store.write_row_self]
      rfl
  | none =>
    let created := db.profiles.create (kw.values str site norm_mac { mac_address := norm_mac })
    have hnew : created.row db.profiles.next_id = kw.values str site norm_mac { mac_address := norm_mac } :=
      db.profiles.create_row_new _
    have hold : db.profiles.ids.filter (fun id => decide ((created.row id).mac_address = norm_mac)) = [] := by
      rw [List.filter_eq_nil_iff]
      intro id hid
      rw [db.profiles.create_row_of_lt (db.profiles.ids_fresh id hid)]
      exact List.filter_eq_nil_iff.mp (List.head?_eq_none_iff.mp hfound) id hid
    refine ⟨db.profiles.next_id, { db with profiles := created }, ?_, ?_⟩
    · simp [recordProfile, Method.exec_map, hfound, created]
    · have hfirst : (created.search fun profile => decide (profile.mac_address = norm_mac)).head? =
          some db.profiles.next_id := by
        rw [Store.search, db.profiles.create_ids, List.filter_append, hold, List.filter_singleton, hnew]
        simp [Request.values]
      rw [Onboarding.recordedSector, Onboarding.profileOf, hfirst, Option.bind_some, hnew]
      rfl

/-- A request for an address leaves the profile of it in the sector that it names. -/
theorem mac_onboarding_recordedSector (hadmitted : kw.admitted str params = .ok norm_mac) (db : Onboarding) :
    ((mac_onboarding str params site kw).exec db).2.recordedSector norm_mac = kw.sector_id site := by
  obtain ⟨profile, middle, hrecord, hsector⟩ := @recordProfile_recorded str site kw norm_mac db
  unfold mac_onboarding
  rw [hadmitted]
  dsimp only
  rw [Method.exec_bind, hrecord, ← hsector]
  refine Onboarding.recordedSector_of_places ?_
  refine Method.Keeps.bind (autoCreate_places profile) (fun answer => ?_) middle
  cases answer with
  | some response => exact .pure
  | none => exact .bind autoCaptive_places fun _ => .pure

/-- What was recorded last is still on the profile after a request exactly if that
names a known sector or there was none. -/
theorem CallStep.remembers_iff {before after : Remembered} {call : Call} (hbefore : Remembers norm_mac before)
    (hstep : CallStep str norm_mac before call after) :
    Remembers norm_mac after ↔ LosesNoSector norm_mac before call := by
  obtain ⟨response, hexec⟩ := hstep.answered
  have hrecorded := @mac_onboarding_recordedSector str call.params call.site call.kw norm_mac hstep.admitted
    before.db
  rw [hexec] at hrecorded
  rw [Remembers, hrecorded, hstep.sector, LosesNoSector, hbefore]
  cases hsector : call.kw.sector_id call.site with
  | some sector => simp
  | none => simp [eq_comm]

/-- Throughout any sequence of answered requests for an address its profile keeps
the sector recorded last, and auto-creation falls back on that, exactly when no
request without a known sector is made for a profile that has one. -/
theorem sectors_kept_iff {initial : Onboarding} {taken : List (Remembered × Call)} {reached : Remembered}
    (run : Run (CallStep str norm_mac) ⟨initial, initial.recordedSector norm_mac⟩ taken reached) :
    ((∀ state ∈ Run.visited taken reached, Remembers norm_mac state) ∧
        ∀ entry ∈ taken, FallsBack str norm_mac entry.1.db entry.2) ↔
      ∀ entry ∈ taken, LosesNoSector norm_mac entry.1 entry.2 := by
  have hremembers : (∀ state ∈ Run.visited taken reached, Remembers norm_mac state) ↔
      ∀ entry ∈ taken, LosesNoSector norm_mac entry.1 entry.2 :=
    @Run.property_iff_condition _ _ (CallStep str norm_mac) ⟨initial, initial.recordedSector norm_mac⟩
      (Remembers norm_mac) (Remembers norm_mac) (LosesNoSector norm_mac) rfl (fun _ h => h)
      (fun _ _ _ h hkeeps hstep => (hstep.remembers_iff h).mpr hkeeps)
      (fun _ _ _ h hloses hstep hafter => hloses ((hstep.remembers_iff h).mp hafter)) taken reached run
  rw [hremembers]
  refine and_iff_left_of_imp fun hkept entry hentry hnone profile sector plan hprofile hsector => ?_
  have hrecorded := hkept entry hentry hnone
  rw [Onboarding.recordedSector, hprofile, Option.bind_some, hsector] at hrecorded
  cases hrecorded

end

/-- A lease that is reported without a sector. -/
def unplacedLeaseOf (mac : String) : Request := { leaseOf mac with sector := none }

/-- Onboarding that only records profiles. -/
def manualParameters : Parameters where
  mac_onboarding_token := some "secret"

/-- What a lease leaves without auto-creation. -/
def afterReport (kw : Request) (db : Onboarding) : Onboarding :=
  ((mac_onboarding asciiText manualParameters oneSector kw).exec db).2

/-- The first lease of a device, with a sector. -/
def placed : Onboarding := afterReport (leaseOf "AA:BB") nothingOnboarded

theorem placed_step : CallStep asciiText "AA:BB" ⟨nothingOnboarded, none⟩
    ⟨manualParameters, oneSector, leaseOf "AA:BB"⟩ ⟨placed, some 0⟩ where
  admitted := rfl
  answered := .of_result (show _ = some { body := "ok" } by decide +kernel)
  sector := rfl

/-- A device is reported without a sector first, and then with one, in which its
subscription is created. -/
theorem sectors_kept_iff_placed_later :
    Remembers "AA:BB"
      ⟨afterRequest (leaseOf "AA:BB") (afterReport (unplacedLeaseOf "AA:BB") nothingOnboarded), some 0⟩ := by
  have hfirst : CallStep asciiText "AA:BB" ⟨nothingOnboarded, none⟩
      ⟨manualParameters, oneSector, unplacedLeaseOf "AA:BB"⟩
      ⟨afterReport (unplacedLeaseOf "AA:BB") nothingOnboarded, none⟩ :=
    ⟨rfl, .of_result (show _ = some { body := "ok" } by decide +kernel), rfl⟩
  have hsecond : CallStep asciiText "AA:BB" ⟨afterReport (unplacedLeaseOf "AA:BB") nothingOnboarded, none⟩
      ⟨autoParameters, oneSector, leaseOf "AA:BB"⟩
      ⟨afterRequest (leaseOf "AA:BB") (afterReport (unplacedLeaseOf "AA:BB") nothingOnboarded), some 0⟩ :=
    ⟨rfl, .of_result (show _ = some { body := "ok" } by decide +kernel), rfl⟩
  have hrun : Run (CallStep asciiText "AA:BB") ⟨nothingOnboarded, nothingOnboarded.recordedSector "AA:BB"⟩ _ _ :=
    .step (.step .start hfirst) hsecond
  refine ((sectors_kept_iff hrun).mpr ?_).1 _ (Run.reached_mem_visited _ _)
  intro entry hentry
  obtain hfirst | hsecond := List.mem_append.mp hentry
  · rw [List.mem_singleton.mp hfirst]
    exact fun _ => rfl
  · rw [List.mem_singleton.mp hsecond]
    exact fun hnone => nomatch hnone

/-- The next lease of the device comes without a sector: that on the profile is
erased, and auto-creation refuses the request for want of one. -/
theorem sector_erased :
    ∃ taken reached, Run (CallStep asciiText "AA:BB") ⟨nothingOnboarded, nothingOnboarded.recordedSector "AA:BB"⟩
      taken reached ∧ ¬ Remembers "AA:BB" reached ∧
      ∃ entry ∈ taken, ¬ FallsBack asciiText "AA:BB" entry.1.db entry.2 := by
  have hsecond : CallStep asciiText "AA:BB" ⟨placed, some 0⟩ ⟨autoParameters, oneSector, unplacedLeaseOf "AA:BB"⟩
      ⟨afterRequest (unplacedLeaseOf "AA:BB") placed, some 0⟩ :=
    ⟨rfl, ⟨{ body := "sector required for auto-create", status := 400 }, rfl⟩, rfl⟩
  refine ⟨_, _, .step (.step .start placed_step) hsecond, fun h => ?_,
    (⟨placed, some 0⟩, ⟨autoParameters, oneSector, unplacedLeaseOf "AA:BB"⟩), ?_, fun h => ?_⟩
  · have herased : none = some 0 := h
    cases herased
  · exact List.mem_append_right _ (List.mem_singleton_self _)
  · have hfalls := h rfl 0 0 0 rfl rfl rfl rfl rfl { body := "sector required for auto-create", status := 400 }
      (afterRequest (unplacedLeaseOf "AA:BB") placed) rfl
    exact hfalls.1 rfl

end getupnet.isp_core.onboarding

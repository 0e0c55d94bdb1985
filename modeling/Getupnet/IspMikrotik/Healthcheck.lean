import Getupnet.Relational.Runs
import Getupnet.IspMikrotik.Routing

open relational
open calendar
open getupnet.isp_core

namespace getupnet.isp_mikrotik

variable {τ : Type}

/-- A router is reached and gives both of its replies. -/
def Site.reaches (site : Site τ) (router : Nat) : Bool :=
  (site.connect router).isOk && (site.replies router).resource.isOk && (site.replies router).identity.isOk

/-- The execution of a job at a time, and what it depends on besides the database. -/
structure JobRun (τ : Type) where
  site : Site τ
  now : Nat
  job : Nat

/-- The database and the routers, and beside them for each router whether its most
recent healthcheck reached it, `none` before the first. -/
structure Monitored (τ : Type) where
  world : World (Records Registry) (List Sent × τ)
  last_run : Nat → Option Bool

/-- The router that an execution of a job checks, if it is a healthcheck that runs and
finds one. -/
def JobRun.checked (run : JobRun τ) (world : World (Records Registry) (List Sent × τ)) : Option Nat :=
  if (world.jobs.row run.job).Runnable ∧ (world.jobs.row run.job).job_type = .mikrotik_healthcheck then
    (run.site.job_router world.records (world.jobs.row run.job)).toOption
  else none

/-- One execution of a job in its transaction. -/
def Monitored.execute (run : JobRun τ) (self : Monitored τ) : Monitored τ where
  world := (IspProvisioningJob.execute (run.site.dispatch run.now) run.now run.job).commit World.rollback self.world
  last_run :=
    match run.checked self.world with
    | some router => Function.update self.last_run router (some (run.site.reaches router))
    | none => self.last_run

def World.health_status (self : World (Records Registry) (List Sent × τ)) (router : Nat) :
    Option HealthcheckStatus :=
  (self.records.extension.routers.row router).last_healthcheck_status

/-- The status of a router shows its most recent healthcheck. -/
def StatusShown (state : Monitored τ) : Prop :=
  ∀ router reached, state.last_run router = some reached →
    World.health_status state.world router = some (if reached then .ok else .failed)

/-- A healthcheck that does not reach its router finds it shown as failed already. -/
def FailsOnFailed (state : Monitored τ) (run : JobRun τ) : Prop :=
  ∀ router, run.checked state.world = some router → run.site.reaches router = false →
    World.health_status state.world router = some .failed

section

variable {site : Site τ} {records : Records Registry} {sent : List Sent} {rest : τ} {job : IspProvisioningJob}
  {now id router : Nat}

/-- A healthcheck that reaches its router returns and stores that on the router, and
changes the status of no other one. -/
theorem handle_mikrotik_healthcheck_reached (hrouter : site.job_router records job = .ok router)
    (hreaches : site.reaches router = true) :
    ∃ after, (handle_mikrotik_healthcheck site now job).exec (records, sent, rest) = (.ok (), after, sent, rest) ∧
      ∀ other, (after.extension.routers.row other).last_healthcheck_status =
        if other = router then some .ok else (records.extension.routers.row other).last_healthcheck_status := by
  unfold Site.reaches at hreaches
  cases hclient : site.connect router with
  | error exception => simp [hclient, Except.isOk, Except.toBool] at hreaches
  | ok client =>
    cases hresource : (site.replies router).resource with
    | error exception => simp [hclient, hresource, Except.isOk, Except.toBool] at hreaches
    | ok resource =>
      cases hidentity : (site.replies router).identity with
      | error exception => simp [hclient, hresource, hidentity, Except.isOk, Except.toBool] at hreaches
      | ok identity =>
        simp only [handle_mikrotik_healthcheck, Method.exec_bind, Method.exec_get, Method.exec_ofExcept, hrouter,
          hclient, hresource, hidentity, RoutingHandler.edit, Method.exec_modify]
        refine ⟨_, rfl, fun other => ?_⟩
        cases (site.replies router).name with
        | some name =>
          simp only [Registry.writeRouter, Registry.rename, Store.write_row]
          split <;> rfl
        | none =>
          simp only [Registry.writeRouter, Store.write_row]
          split <;> rfl

/-- A healthcheck that does not reach its router raises. -/
theorem handle_mikrotik_healthcheck_unreached (hrouter : site.job_router records job = .ok router)
    (hreaches : site.reaches router = false) :
    ∃ exception after, (handle_mikrotik_healthcheck site now job).exec (records, sent, rest) =
      (.error exception, after) := by
  simp only [handle_mikrotik_healthcheck, Method.exec_bind, Method.exec_get, Method.exec_ofExcept, hrouter]
  unfold Site.reaches at hreaches
  cases hclient : site.connect router with
  | error exception => exact ⟨exception, _, rfl⟩
  | ok client =>
    cases hresource : (site.replies router).resource with
    | error exception => exact ⟨exception, _, rfl⟩
    | ok resource =>
      cases hidentity : (site.replies router).identity with
      | error exception => exact ⟨exception, _, rfl⟩
      | ok identity => simp [hclient, hresource, hidentity, Except.isOk, Except.toBool] at hreaches

theorem handle_mikrotik_healthcheck_lost {exception : OdooError}
    (hrouter : site.job_router records job = .error exception) :
    (handle_mikrotik_healthcheck site now job).exec (records, sent, rest) =
      (.error exception, records, sent, rest) := by
  simp only [handle_mikrotik_healthcheck, Method.exec_bind, Method.exec_get, Method.exec_ofExcept, hrouter]

end

section

variable {run : JobRun τ} {world : World (Records Registry) (List Sent × τ)} {state : Monitored τ} {router : Nat}

/-- An execution that raises keeps every stored status. -/
theorem health_status_of_error {exception : OdooError} {after : World (Records Registry) (List Sent × τ)}
    (h : (IspProvisioningJob.execute (run.site.dispatch run.now) run.now run.job).exec world =
      (.error exception, after)) :
    World.health_status ((IspProvisioningJob.execute (run.site.dispatch run.now) run.now run.job).commit World.rollback
      world) router = World.health_status world router := by
  rw [Method.commit_of_error h]
  rfl

/-- A handler that returns on a job that is no healthcheck changes no status. -/
theorem health_status_of_other {site : Site τ} {now id : Nat} {job : IspProvisioningJob}
    {records after : Records Registry} {outside later : List Sent × τ}
    (htype : job.job_type ≠ .mikrotik_healthcheck)
    (h : (site.dispatch now id job).exec (records, outside) = (.ok (), after, later)) :
    (after.extension.routers.row router).last_healthcheck_status =
      (records.extension.routers.row router).last_healthcheck_status := by
  obtain ⟨sent, rest⟩ := outside
  obtain ⟨-, -, hsame | ⟨own, home, -, -, -, hprovisioned⟩⟩ := Site.dispatch_returns htype h
  · rw [hsame]
  · rw [hprovisioned]
    rfl

/-- An execution that checks no router changes no status. -/
theorem health_status_of_unchecked (hchecked : run.checked world = none) :
    World.health_status ((IspProvisioningJob.execute (run.site.dispatch run.now) run.now run.job).commit World.rollback
      world) router = World.health_status world router := by
  cases hexec : (IspProvisioningJob.execute (run.site.dispatch run.now) run.now run.job).exec world with
  | mk result after =>
    cases result with
    | error exception => exact health_status_of_error hexec
    | ok value =>
      rw [Method.commit_of_ok hexec]
      obtain ⟨-, ⟨hrunnable, hdispatch⟩ | ⟨-, hrecords, -⟩⟩ := IspProvisioningJob.execute_returns hexec
      · by_cases htype : ((world.jobs.row run.job).started run.now).job_type = .mikrotik_healthcheck
        · have hlost : ∃ exception, run.site.job_router world.records (world.jobs.row run.job) = .error exception := by
            rw [JobRun.checked, if_pos ⟨hrunnable, htype⟩] at hchecked
            cases hrouter : run.site.job_router world.records (world.jobs.row run.job) with
            | ok found =>
              rw [hrouter] at hchecked
              cases hchecked
            | error exception => exact ⟨exception, rfl⟩
          obtain ⟨exception, hrouter⟩ := hlost
          obtain ⟨jobs, records, sent, rest⟩ := world
          have hstarted : run.site.job_router records ((jobs.row run.job).started run.now) = .error exception :=
            hrouter
          simp only [Site.dispatch, htype] at hdispatch
          rw [handle_mikrotik_healthcheck_lost hstarted] at hdispatch
          cases hdispatch
        · exact health_status_of_other htype hdispatch
      · rw [World.health_status, hrecords]
        rfl

/-- A healthcheck stores that it has reached its router, and nothing when it has not. -/
theorem health_status_of_checked {checked : Nat} (hchecked : run.checked world = some checked) :
    World.health_status ((IspProvisioningJob.execute (run.site.dispatch run.now) run.now run.job).commit World.rollback
        world) router =
      if run.site.reaches checked = true ∧ router = checked then some .ok else World.health_status world router := by
  unfold JobRun.checked at hchecked
  split at hchecked
  · rename_i hrun
    obtain ⟨hrunnable, htype⟩ := hrun
    obtain ⟨jobs, records, sent, rest⟩ := world
    have hrouter : run.site.job_router records ((jobs.row run.job).started run.now) = .ok checked := by
      cases hfound : run.site.job_router records (jobs.row run.job) with
      | ok found =>
        simp only [hfound, Except.toOption, Option.some.injEq] at hchecked
        exact hchecked ▸ hfound
      | error exception => simp only [hfound, Except.toOption, reduceCtorEq] at hchecked
    have hdispatch : run.site.dispatch run.now run.job ((jobs.row run.job).started run.now) =
        handle_mikrotik_healthcheck run.site run.now ((jobs.row run.job).started run.now) := by
      have hstarted : ((jobs.row run.job).started run.now).job_type = .mikrotik_healthcheck := htype
      simp only [Site.dispatch, hstarted]
    cases hreaches : run.site.reaches checked with
    | true =>
      obtain ⟨after, hafter, hstatus⟩ := @handle_mikrotik_healthcheck_reached τ run.site records sent rest
        ((jobs.row run.job).started run.now) run.now checked hrouter hreaches
      rw [← hdispatch] at hafter
      rw [Method.commit_of_ok (IspProvisioningJob.execute_of_runnable _ run.now run.job hrunnable hafter)]
      simpa only [World.health_status, true_and] using hstatus router
    | false =>
      obtain ⟨exception, ⟨after, outside⟩, hafter⟩ :=
        @handle_mikrotik_healthcheck_unreached τ run.site records sent rest
        ((jobs.row run.job).started run.now) run.now checked hrouter hreaches
      rw [← hdispatch] at hafter
      rw [health_status_of_error (IspProvisioningJob.execute_of_runnable _ run.now run.job hrunnable hafter), if_neg]
      simp
  · cases hchecked

/-- One execution keeps every status shown exactly when it does not fail on a router that
shows another status. A healthcheck that fails raises, and the status that it has written
is undone. -/
theorem statusShown_execute_iff (hshown : StatusShown state) :
    StatusShown (state.execute run) ↔ FailsOnFailed state run := by
  cases hchecked : run.checked state.world with
  | none =>
    have hworld : ∀ router, World.health_status (state.execute run).world router = World.health_status state.world router :=
      fun router => health_status_of_unchecked hchecked
    have hlast : (state.execute run).last_run = state.last_run := by
      simp only [Monitored.execute, hchecked]
    refine iff_of_true (fun router reached hrun => ?_) fun router hrouter => ?_
    · rw [hlast] at hrun
      rw [hworld]
      exact hshown router reached hrun
    · rw [hchecked] at hrouter
      cases hrouter
  | some checked =>
    have hworld : ∀ router, World.health_status (state.execute run).world router =
        if run.site.reaches checked = true ∧ router = checked then some .ok
        else World.health_status state.world router := fun router => health_status_of_checked hchecked
    have hlast : (state.execute run).last_run =
        Function.update state.last_run checked (some (run.site.reaches checked)) := by
      simp only [Monitored.execute, hchecked]
    have hothers : ∀ router reached, router ≠ checked → (state.execute run).last_run router = some reached →
        World.health_status (state.execute run).world router = some (if reached then .ok else .failed) := by
      intro router reached hne hrun
      rw [hlast, Function.update_of_ne hne] at hrun
      rw [hworld, if_neg fun h => hne h.2]
      exact hshown router reached hrun
    constructor
    · intro h router hrouter hfails
      rw [hchecked] at hrouter
      cases hrouter
      have hown := h checked false (by rw [hlast, Function.update_self, hfails])
      rw [hworld, hfails] at hown
      simpa using hown
    · intro h router reached hrun
      by_cases hsame : router = checked
      · subst hsame
        rw [hlast, Function.update_self, Option.some.injEq] at hrun
        subst hrun
        rw [hworld]
        cases hreaches : run.site.reaches router with
        | true => simp
        | false => simpa using h router hchecked hreaches
      · exact hothers router reached hsame hrun

end

/-- In every run of jobs from a database before its first healthcheck, each router's
status shows its most recent healthcheck throughout exactly when no healthcheck fails
on a router that is not shown as failed already. -/
theorem status_shown_iff (initial : Monitored τ) (hfresh : ∀ router, initial.last_run router = none)
    {taken : List (Monitored τ × JobRun τ)} {reached : Monitored τ}
    (run : Run (fun state job after => after = state.execute job) initial taken reached) :
    (∀ state ∈ Run.visited taken reached, StatusShown state) ↔
    ∀ entry ∈ taken, FailsOnFailed entry.1 entry.2 := by
  have hinitial : StatusShown initial := by
    intro router reached hrun
    rw [hfresh] at hrun
    cases hrun
  refine @Run.property_iff_condition _ _ _ initial StatusShown StatusShown FailsOnFailed hinitial
    (fun _ hshown => hshown) ?_ ?_ taken reached run
  · rintro state job _ hshown hcondition rfl
    exact (statusShown_execute_iff hshown).mpr hcondition
  · rintro state job _ hshown hcondition rfl hafter
    exact hcondition ((statusShown_execute_iff hshown).mp hafter)

/-- A router that answers. -/
def answeringSite : Site Unit := { quietSite with replies := fun _ => ⟨.ok [], .ok []⟩ }

def healthcheck : IspProvisioningJob :=
  { job_type := .mikrotik_healthcheck, device_id := some 0, requested_at := 0 }

/-- One router and two healthchecks of it in the queue. -/
def twoHealthchecks : Monitored Unit where
  world := { oneRouter with jobs := (Store.empty healthcheck).createAll [healthcheck, healthcheck] }
  last_run := fun _ => none

def answeredCheck : JobRun Unit := ⟨answeringSite, 1, 0⟩

theorem status_shown_iff_answered :
    (∀ state ∈ Run.visited [(twoHealthchecks, answeredCheck)] (twoHealthchecks.execute answeredCheck),
        StatusShown state) ↔
      ∀ entry ∈ [(twoHealthchecks, answeredCheck)], FailsOnFailed entry.1 entry.2 :=
  status_shown_iff twoHealthchecks (fun _ => rfl) (.step .start rfl)

/-- A router that answers once and then times out is still shown as reached. -/
theorem unreached_router_shown_ok :
    (∀ router, twoHealthchecks.last_run router = none) ∧
      ∃ taken reached, Run (fun state job after => after = Monitored.execute job state) twoHealthchecks taken reached ∧
        ¬ ∀ state ∈ Run.visited taken reached, StatusShown state := by
  let answered := twoHealthchecks.execute answeredCheck
  let timed_out := answered.execute ⟨quietSite, 2, 1⟩
  refine ⟨fun _ => rfl, _, timed_out, .step (.step .start rfl) rfl, fun h => ?_⟩
  have hshown := h timed_out (Run.reached_mem_visited _ _) 0 false rfl
  have hstatus : World.health_status timed_out.world 0 = some .ok := rfl
  rw [hstatus] at hshown
  cases hshown

end getupnet.isp_mikrotik

import Getupnet.IspCore.Fields
import Getupnet.Relational.Store
import Getupnet.Relational.Transaction

open relational

namespace getupnet.isp_core

inductive JobType where
  | activate_subscription
  | suspend_subscription
  | reconnect_subscription
  | terminate_subscription
  | change_plan
  | disconnect_session
  | mikrotik_healthcheck
  | captive_user_create
  | captive_user_disable
  | walled_garden_apply
  | export_config_snapshot
  | activate_pppoe
  | activate_dhcp
  | ensure_queue
  deriving DecidableEq

inductive JobState where
  | queued
  | running
  | success
  | failed
  deriving DecidableEq

structure IspProvisioningJob where
  job_type : JobType
  subscription_id : Option Nat := none
  device_id : Option Nat := none
  sector_id : Option Nat := none
  state : JobState := .queued
  attempts : Nat := 0
  max_attempts : Nat := 3
  error_message : CharField := none
  traceback : CharField := none
  requested_at : Nat
  executed_at : Option Nat := none
  deriving DecidableEq

/-- The database and the world around it: the job queue, the other records,
and whatever a handler acts on that no transaction undoes. -/
structure World (σ ρ : Type) where
  jobs : Store IspProvisioningJob
  records : σ
  outside : ρ

variable {σ ρ : Type}

/-- What an escaping exception restores. -/
def World.rollback (before after : World σ ρ) : World σ ρ := { before with outside := after.outside }

def World.writeJob (self : World σ ρ) (id : Nat) (change : IspProvisioningJob → IspProvisioningJob) :
    World σ ρ :=
  { self with jobs := self.jobs.write id change }

/-- `_dispatch`: the handler of a job, which reads and writes the other records
and acts outside. No handler of the source touches the job table. -/
abbrev Dispatch (σ ρ : Type) : Type := Nat → IspProvisioningJob → Method (σ × ρ) OdooError Unit

def Dispatch.call (dispatch : Dispatch σ ρ) (id : Nat) (job : IspProvisioningJob) :
    Method (World σ ρ) OdooError Unit :=
  Method.focus (fun world => (world.records, world.outside))
    (fun rest world => { world with records := rest.1, outside := rest.2 }) (dispatch id job)

/-- The first write of an execution. -/
def IspProvisioningJob.started (now : Nat) (self : IspProvisioningJob) : IspProvisioningJob :=
  { self with
    state := .running
    attempts := self.attempts + 1
    executed_at := some now
    error_message := none
    traceback := none }

/-- The write that follows the handler. -/
def IspProvisioningJob.closed (result : Except OdooError Unit) (self : IspProvisioningJob) :
    IspProvisioningJob :=
  match result with
  | .ok () => { self with state := .success }
  | .error exception => { self with state := .failed, error_message := some exception.str }

def IspProvisioningJob.exhausted (self : IspProvisioningJob) : IspProvisioningJob :=
  { self with state := .failed, error_message := some "Max attempts reached" }

def IspProvisioningJob.execute (dispatch : Dispatch σ ρ) (now id : Nat) :
    Method (World σ ρ) OdooError Unit := do
  let self := (← get).jobs.row id
  if self.state ≠ .queued then
    return
  if self.attempts ≥ self.max_attempts then
    modify (World.writeJob · id IspProvisioningJob.exhausted)
    return
  modify (World.writeJob · id (IspProvisioningJob.started now))
  try
    dispatch.call id (self.started now)
    modify (World.writeJob · id (IspProvisioningJob.closed (.ok ())))
  catch exception =>
    modify (World.writeJob · id (IspProvisioningJob.closed (.error exception)))
    throw exception

/-- The jobs that a cron pass may pick: the twenty oldest queued ones. -/
def World.Pending (self : World σ ρ) (found : List Nat) : Prop :=
  self.jobs.Selects (fun job => job.state = .queued) (fun job => job.requested_at) 20 found

def IspProvisioningJob.action_run (dispatch : Dispatch σ ρ) (now : Nat) (self : List Nat) :
    Method (World σ ρ) OdooError Unit :=
  Method.forEach (IspProvisioningJob.execute dispatch now) self

/-- `_cron_run_pending_jobs`, given the jobs that its search found. -/
def IspProvisioningJob.cron_run_pending_jobs (dispatch : Dispatch σ ρ) (now : Nat) (jobs : List Nat) :
    Method (World σ ρ) OdooError Unit :=
  Method.forEach (IspProvisioningJob.execute dispatch now) jobs

/-- A job whose handler an execution would call. -/
def IspProvisioningJob.Runnable (self : IspProvisioningJob) : Prop :=
  self.state = .queued ∧ self.attempts < self.max_attempts

instance (self : IspProvisioningJob) : Decidable self.Runnable := inferInstanceAs (Decidable (_ ∧ _))

theorem IspProvisioningJob.execute_of_not_queued (dispatch : Dispatch σ ρ) (now id : Nat) {world : World σ ρ}
    (h : (world.jobs.row id).state ≠ .queued) :
    (IspProvisioningJob.execute dispatch now id).exec world = (.ok (), world) := by
  simp [IspProvisioningJob.execute, h]

theorem IspProvisioningJob.execute_of_exhausted (dispatch : Dispatch σ ρ) (now id : Nat) {world : World σ ρ}
    (hqueued : (world.jobs.row id).state = .queued)
    (hattempts : (world.jobs.row id).max_attempts ≤ (world.jobs.row id).attempts) :
    (IspProvisioningJob.execute dispatch now id).exec world =
      (.ok (), world.writeJob id IspProvisioningJob.exhausted) := by
  simp [IspProvisioningJob.execute, hqueued, hattempts]

/-- A runnable job is dispatched once; the call returns or raises as its
handler does, and the record is closed accordingly. -/
theorem IspProvisioningJob.execute_of_runnable (dispatch : Dispatch σ ρ) (now id : Nat) {world : World σ ρ}
    (h : (world.jobs.row id).Runnable) {result : Except OdooError Unit} {records : σ} {outside : ρ}
    (hdispatch : (dispatch id ((world.jobs.row id).started now)).exec (world.records, world.outside) =
      (result, records, outside)) :
    (IspProvisioningJob.execute dispatch now id).exec world =
      (result, { jobs := world.jobs.write id (fun job => (job.started now).closed result), records, outside }) := by
  have hattempts := Nat.not_le.mpr h.2
  cases result with
  | ok value =>
    simp [IspProvisioningJob.execute, h.1, hattempts, Dispatch.call, World.writeJob, hdispatch,
      Store.write_write]
  | error exception =>
    simp [IspProvisioningJob.execute, h.1, hattempts, Dispatch.call, World.writeJob, hdispatch,
      Store.write_write]

/-- A runnable job that an execution leaves in success was handled without an
exception, and the handler's changes stand. -/
theorem IspProvisioningJob.handled_of_success {dispatch : Dispatch σ ρ} {now id : Nat} {world after : World σ ρ}
    {result : Except OdooError Unit} (hrunnable : (world.jobs.row id).Runnable)
    (hexec : (IspProvisioningJob.execute dispatch now id).exec world = (result, after))
    (hsuccess : (after.jobs.row id).state = .success) :
    (dispatch id ((world.jobs.row id).started now)).exec (world.records, world.outside) =
      (.ok (), after.records, after.outside) := by
  cases hdispatch : (dispatch id ((world.jobs.row id).started now)).exec (world.records, world.outside) with
  | mk outcome rest =>
    rw [IspProvisioningJob.execute_of_runnable dispatch now id hrunnable hdispatch] at hexec
    obtain ⟨_, rfl⟩ := Prod.mk.inj hexec
    cases outcome with
    | ok value => rfl
    | error exception =>
      rw [Store.write_row_self] at hsuccess
      cases hsuccess

end getupnet.isp_core

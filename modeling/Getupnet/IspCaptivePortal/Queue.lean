import Mathlib.Logic.Function.Basic
import Getupnet.Relational.Runs
import Getupnet.IspCore.ProvisioningJob.Batch
import Getupnet.IspCore.ProvisioningJob.Payload
import Getupnet.IspCaptivePortal.Outcome

open relational
open calendar
open python
open getupnet.isp_core
open getupnet.isp_mikrotik

namespace getupnet.isp_captive_portal

/-- The database with the texts that its jobs have in `payload_json`. -/
structure Database where
  world : World (Records CaptivePortal) Fleet
  payload_json : Nat → CharField

/-- The record that a payload names under a key, if any. -/
def recordUnder (key : String) : Value → Option Nat
  | .dict entries =>
    match entries.lookup key with
    | some (.int id) => if id = 0 then none else some id.toNat
    | _ => none
  | _ => none

def Payload.of (payload : Value) : Payload where
  captive_user_id := recordUnder "captive_user_id" payload
  walled_garden_id := recordUnder "walled_garden_id" payload

/-- What the handlers find: the payloads of the jobs are read from their texts. -/
def Database.load (float : String → Value) (self : Database) : World (Records CaptivePortal) Fleet :=
  { self.world with
    records := { self.world.records with
      extension := { self.world.records.extension with
        payload := fun job => Payload.of (IspProvisioningJob.get_payload float (self.payload_json job)) } } }

def Database.rollback (before after : Database) : Database :=
  { before with world := World.rollback before.world after.world }

/-- Creating a job with a payload. -/
def Database.queue (job : IspProvisioningJob) (payload_json : CharField) (self : Database) : Database where
  world := { self.world with jobs := self.world.jobs.create job }
  payload_json := Function.update self.payload_json self.world.jobs.next_id payload_json

/-- The device and the sector of each router. -/
structure Wiring where
  device_of_router : Nat → Option Nat
  sector_of_router : Nat → Option Nat

/-- What a job of the portal is queued for. -/
inductive PortalOrder where
  | enable (user : Nat)
  | disable (user : Nat)
  | apply (walled_garden : Nat)

def PortalOrder.record : PortalOrder → Nat
  | .enable user | .disable user => user
  | .apply walled_garden => walled_garden

def PortalOrder.job_type : PortalOrder → JobType
  | .enable _ => .captive_user_create
  | .disable _ => .captive_user_disable
  | .apply _ => .walled_garden_apply

def PortalOrder.payload : PortalOrder → Value
  | .enable user | .disable user => .dict [("captive_user_id", .int user)]
  | .apply walled_garden => .dict [("walled_garden_id", .int walled_garden)]

/-- The sector and the device on the job. -/
def PortalOrder.target (wiring : Wiring) (portal : CaptivePortal) : PortalOrder → Option Nat × Option Nat
  | .enable user | .disable user =>
    ((portal.users.row user).sector_id, (portal.users.row user).router_id.bind wiring.device_of_router)
  | .apply walled_garden =>
    ((portal.walled_gardens.row walled_garden).router_id.bind wiring.sector_of_router,
      (portal.walled_gardens.row walled_garden).router_id.bind wiring.device_of_router)

def PortalOrder.job (self : PortalOrder) (target : Option Nat × Option Nat) (requested_at : Nat) :
    IspProvisioningJob where
  job_type := self.job_type
  sector_id := target.1
  device_id := target.2
  requested_at

/-- Queueing a job for an order, with the payload that names the record. -/
def Database.place (clock : Nat → Nat) (order : PortalOrder) (target : Option Nat × Option Nat)
    (self : Database) : Database :=
  self.queue (order.job target (clock self.world.jobs.next_id)) (some (json.dumps order.payload))

/-- What the buttons of the portal share. -/
def Database.placeAll (wiring : Wiring) (clock : Nat → Nat) (orders : List PortalOrder) (self : Database) :
    Database :=
  orders.foldl (fun database order =>
    database.place clock order (order.target wiring database.world.records.extension)) self

def IspCaptiveUser.action_enable (wiring : Wiring) (clock : Nat → Nat) (users : List Nat) (self : Database) :
    Database :=
  self.placeAll wiring clock (users.map .enable)

def IspCaptiveUser.action_disable (wiring : Wiring) (clock : Nat → Nat) (users : List Nat) (self : Database) :
    Database :=
  self.placeAll wiring clock (users.map .disable)

def IspCaptiveWalledGarden.action_apply (wiring : Wiring) (clock : Nat → Nat) (walled_gardens : List Nat)
    (self : Database) : Database :=
  self.placeAll wiring clock (walled_gardens.map .apply)

/-- `_queue_job` with a payload. -/
def Database.queue_job (clock : Nat → Nat) (sub : Nat) (job_type : JobType) (payload : Value) (self : Database) :
    Database :=
  self.queue ((self.world.subscription sub).job sub job_type (clock self.world.jobs.next_id))
    (IspSubscription.payload_json payload)

def Database.create_user (user : IspCaptiveUser) (self : Database) : Database :=
  let portal := self.world.records.extension
  { self with
    world := { self.world with
      records := { self.world.records with
        extension := { portal with users := portal.users.create user } } } }

/-- The captive user that the MAC onboarding creates, with a job to provision it. -/
def Database.onboard (clock : Nat → Nat) (user : IspCaptiveUser) (target : Option Nat × Option Nat)
    (self : Database) : Database :=
  (self.create_user user).place clock (.enable self.world.records.extension.users.next_id) target

/-- One execution of a job, with the payloads as its handler reads them. -/
def Database.execute (float : String → Value) (dispatch : Dispatch (Records CaptivePortal) Fleet) (now id : Nat) :
    Method Database OdooError Unit :=
  Method.focus (Database.load float) (fun world database => { database with world })
    (IspProvisioningJob.execute dispatch now id)

/-- The calls that queue and run the portal's jobs, and any change of the other records. -/
inductive PortalEvent where
  | action_enable (wiring : Wiring) (clock : Nat → Nat) (users : List Nat)
  | action_disable (wiring : Wiring) (clock : Nat → Nat) (users : List Nat)
  | action_apply (wiring : Wiring) (clock : Nat → Nat) (walled_gardens : List Nat)
  | mac_onboarding (clock : Nat → Nat) (user : IspCaptiveUser) (target : Option Nat × Option Nat)
  | queue_job (clock : Nat → Nat) (sub : Nat) (job_type : JobType) (payload : Value)
  | action_run (site : Site) (now : Nat) (jobs : List Nat)
  | cron_run_pending_jobs (site : Site) (now : Nat) (jobs : List Nat)
  | edit (change : Records CaptivePortal → Records CaptivePortal)

/-- The database after a call, with a given lookup of the handlers. -/
def PortalEvent.call (float : String → Value) (dispatch : Site → Dispatch (Records CaptivePortal) Fleet)
    (self : Database) : PortalEvent → Database
  | .action_enable wiring clock users => IspCaptiveUser.action_enable wiring clock users self
  | .action_disable wiring clock users => IspCaptiveUser.action_disable wiring clock users self
  | .action_apply wiring clock walled_gardens =>
    IspCaptiveWalledGarden.action_apply wiring clock walled_gardens self
  | .mac_onboarding clock user target => self.onboard clock user target
  | .queue_job clock sub job_type payload => self.queue_job clock sub job_type payload
  | .action_run site now jobs | .cron_run_pending_jobs site now jobs =>
    (Method.forEach (Database.execute float (dispatch site) now) jobs).commit Database.rollback self
  | .edit change => { self with world := { self.world with records := change self.world.records } }

/-- The records of a call exist, and have positive identifiers; `_queue_job` is called
for jobs of subscriptions. -/
def PortalEvent.Possible (self : Database) : PortalEvent → Prop
  | .action_enable _ _ ids | .action_disable _ _ ids | .action_apply _ _ ids => ∀ id ∈ ids, 0 < id
  | .mac_onboarding _ _ _ => 0 < self.world.records.extension.users.next_id
  | .queue_job _ _ job_type _ => ∀ order : PortalOrder, job_type ≠ order.job_type
  | .action_run _ _ jobs | .cron_run_pending_jobs _ _ jobs => ∀ job ∈ jobs, job ∈ self.world.jobs.ids
  | .edit _ => True

def PortalStep (float : String → Value) (before : Database) (event : PortalEvent) (after : Database) : Prop :=
  event.Possible before ∧ after = event.call float dispatch before

/-- What a handler does once it has the record of its payload. -/
def PortalOrder.carry_out (routers : Routers) : PortalOrder → PortalHandler Unit
  | .enable user_id => do
    let portal := (← get).1.extension
    let user ← Method.ofExcept (browse portal.users user_id)
    let router ← Method.ofExcept (get_router_for_captive routers user.router_id user.sector_id)
    let client ← Method.ofExcept (routers.get_routeros_client router)
    let profile := textOr user.profile "default"
    let comment := (user.sector_id.map portal.sector_code).getD ""
    PortalHandler.send
      (exceptRouteros
        (client (.inr (.hotspot_user_add user.username (textOr user.password "") profile comment)))
        (client (.inr (.hotspot_user_set user.username (some profile) false))))
    PortalHandler.write_user user_id .active
  | .disable user_id => do
    let portal := (← get).1.extension
    let user ← Method.ofExcept (browse portal.users user_id)
    let router ← Method.ofExcept (get_router_for_captive routers user.router_id user.sector_id)
    let client ← Method.ofExcept (routers.get_routeros_client router)
    let accepted ← PortalHandler.send
      (exceptRouteros
        (do client (.inr (.hotspot_user_set user.username none true)); pure true)
        (pure false))
    if accepted then PortalHandler.write_user user_id .disabled
  | .apply wg_id => do
    let portal := (← get).1.extension
    let wg ← Method.ofExcept (browse portal.walled_gardens wg_id)
    let router ← Method.ofExcept (get_router_for_captive routers wg.router_id wg.sector_id)
    let client ← Method.ofExcept (routers.get_routeros_client router)
    PortalHandler.send (exceptRouteros (client (.inr (.walled_garden_add wg.domain))) (pure ()))

/-- The database and the orders that its jobs are for, kept beside them. -/
structure OrderBook where
  database : Database
  orders : Nat → Option PortalOrder

/-- A job with an order carries it out. No payload is read. -/
def deliver (orders : Nat → Option PortalOrder) (site : Site) : Dispatch (Records CaptivePortal) Fleet :=
  fun id job =>
    match orders id with
    | some order => order.carry_out site.routers
    | none => isp_mikrotik.dispatch site.surroundings id job

def OrderBook.place (clock : Nat → Nat) (target : Option Nat × Option Nat) (self : OrderBook)
    (order : PortalOrder) : OrderBook where
  database := self.database.place clock order target
  orders := Function.update self.orders self.database.world.jobs.next_id (some order)

def OrderBook.placeAll (wiring : Wiring) (clock : Nat → Nat) (orders : List PortalOrder) (self : OrderBook) :
    OrderBook :=
  orders.foldl (fun book order =>
    book.place clock (order.target wiring book.database.world.records.extension) order) self

def OrderBook.call (float : String → Value) (self : OrderBook) : PortalEvent → OrderBook
  | .action_enable wiring clock users => self.placeAll wiring clock (users.map .enable)
  | .action_disable wiring clock users => self.placeAll wiring clock (users.map .disable)
  | .action_apply wiring clock walled_gardens => self.placeAll wiring clock (walled_gardens.map .apply)
  | .mac_onboarding clock user target =>
    { database := self.database.onboard clock user target
      orders := Function.update self.orders self.database.world.jobs.next_id
        (some (.enable self.database.world.records.extension.users.next_id)) }
  | .queue_job clock sub job_type payload =>
    { database := self.database.queue_job clock sub job_type payload
      orders := Function.update self.orders self.database.world.jobs.next_id none }
  | event => { self with database := event.call float (deliver self.orders) self.database }

/-- The texts of the jobs say what the order book says. -/
structure OrderBook.Agrees (book : OrderBook) : Prop where
  ordered : ∀ job ∈ book.database.world.jobs.ids, ∀ order, book.orders job = some order →
    (book.database.world.jobs.row job).job_type = order.job_type ∧ 0 < order.record ∧
      book.database.payload_json job = some (json.dumps order.payload)
  others : ∀ job ∈ book.database.world.jobs.ids, book.orders job = none →
    ∀ order : PortalOrder, (book.database.world.jobs.row job).job_type ≠ order.job_type

section

variable {float : String → Value} {book : OrderBook} {after : Database} {site : Site} {now id : Nat}

theorem Database.load_payload (float : String → Value) (database : Database) (job : Nat) :
    (database.load float).records.extension.payload job =
      Payload.of (IspProvisioningJob.get_payload float (database.payload_json job)) := rfl

theorem PortalOrder.payload_isJson (order : PortalOrder) : json.IsJson order.payload := by
  cases order <;> exact ⟨List.nodup_singleton _, trivial, trivial⟩

theorem recordUnder_self (key : String) {id : Nat} (h : 0 < id) :
    recordUnder key (.dict [(key, .int id)]) = some id := by
  have hne : id ≠ 0 := Nat.ne_of_gt h
  simp [recordUnder, hne]

theorem handle_captive_user_create_exec {routers : Routers} {records : Records CaptivePortal} {fleet : Fleet}
    {user : Nat} (h : (records.extension.payload id).captive_user_id = some user) :
    (handle_captive_user_create routers id).exec (records, fleet) =
      (PortalOrder.carry_out routers (.enable user)).exec (records, fleet) := by
  rw [handle_captive_user_create, PortalOrder.carry_out, Method.exec_get_bind, Method.exec_get_bind]
  simp only [h, required, Method.ofExcept_ok_bind]

theorem handle_captive_user_disable_exec {routers : Routers} {records : Records CaptivePortal} {fleet : Fleet}
    {user : Nat} (h : (records.extension.payload id).captive_user_id = some user) :
    (handle_captive_user_disable routers id).exec (records, fleet) =
      (PortalOrder.carry_out routers (.disable user)).exec (records, fleet) := by
  rw [handle_captive_user_disable, PortalOrder.carry_out, Method.exec_get_bind, Method.exec_get_bind]
  simp only [h, required, Method.ofExcept_ok_bind]

theorem handle_walled_garden_apply_exec {routers : Routers} {records : Records CaptivePortal} {fleet : Fleet}
    {walled_garden : Nat} (h : (records.extension.payload id).walled_garden_id = some walled_garden) :
    (handle_walled_garden_apply routers id).exec (records, fleet) =
      (PortalOrder.carry_out routers (.apply walled_garden)).exec (records, fleet) := by
  rw [handle_walled_garden_apply, PortalOrder.carry_out, Method.exec_get_bind, Method.exec_get_bind]
  simp only [h, required, Method.ofExcept_ok_bind]

/-- A handler that finds the payload of an order carries the order out. -/
theorem dispatch_of_payload {order : PortalOrder} {records : Records CaptivePortal} {fleet : Fleet}
    {job : IspProvisioningJob} (htype : job.job_type = order.job_type) (hrecord : 0 < order.record)
    (hpayload : records.extension.payload id = Payload.of order.payload) :
    (dispatch site id job).exec (records, fleet) = (order.carry_out site.routers).exec (records, fleet) := by
  unfold dispatch
  rw [htype]
  cases order with
  | enable user =>
    apply handle_captive_user_create_exec
    rw [hpayload]
    exact recordUnder_self "captive_user_id" hrecord
  | disable user =>
    apply handle_captive_user_disable_exec
    rw [hpayload]
    exact recordUnder_self "captive_user_id" hrecord
  | apply walled_garden =>
    apply handle_walled_garden_apply_exec
    rw [hpayload]
    exact recordUnder_self "walled_garden_id" hrecord

/-- Jobs of no order are the other addon's. -/
theorem dispatch_of_other {job : IspProvisioningJob} (h : ∀ order : PortalOrder, job.job_type ≠ order.job_type) :
    dispatch site id job = isp_mikrotik.dispatch site.surroundings id job := by
  unfold dispatch
  split
  · rename_i htype
    exact absurd htype (h (.enable 0))
  · rename_i htype
    exact absurd htype (h (.disable 0))
  · rename_i htype
    exact absurd htype (h (.apply 0))
  · rfl

theorem OrderBook.Agrees.dispatch_eq (h : book.Agrees) (hid : id ∈ book.database.world.jobs.ids)
    (job : IspProvisioningJob) (htype : job.job_type = (book.database.world.jobs.row id).job_type) :
    (dispatch site id job).exec ((book.database.load float).records, (book.database.load float).outside) =
      (deliver book.orders site id job).exec
        ((book.database.load float).records, (book.database.load float).outside) := by
  unfold deliver
  split
  · rename_i order horder
    obtain ⟨hordered, hrecord, htext⟩ := h.ordered id hid order horder
    apply dispatch_of_payload (htype.trans hordered) hrecord
    rw [Database.load_payload, htext, IspProvisioningJob.get_payload_dumps float order.payload_isJson]
  · rename_i hnone
    rw [dispatch_of_other fun order => htype ▸ h.others id hid hnone order]

/-- Executing a job by its text is executing it by its order. -/
theorem OrderBook.Agrees.execute_eq (h : book.Agrees) (hid : id ∈ book.database.world.jobs.ids) :
    (Database.execute float (dispatch site) now id).exec book.database =
      (Database.execute float (deliver book.orders site) now id).exec book.database := by
  have hdispatch := @OrderBook.Agrees.dispatch_eq float book site id h hid
    ((book.database.world.jobs.row id).started now) rfl
  have hexec : (IspProvisioningJob.execute (dispatch site) now id).exec (book.database.load float) =
      (IspProvisioningJob.execute (deliver book.orders site) now id).exec (book.database.load float) := by
    cases hdelivered : (deliver book.orders site id ((book.database.world.jobs.row id).started now)).exec
        ((book.database.load float).records, (book.database.load float).outside) with
    | mk result rest =>
      rw [IspProvisioningJob.execute_exec (dispatch site) now id (hdispatch.trans hdelivered),
        IspProvisioningJob.execute_exec (deliver book.orders site) now id hdelivered]
  rw [Database.execute, Database.execute, Method.exec_focus, Method.exec_focus, hexec]

/-- An execution that returns keeps each job's type and text. -/
theorem OrderBook.Agrees.execute (h : book.Agrees)
    (hexec : (Database.execute float (dispatch site) now id).exec book.database = (.ok (), after)) :
    OrderBook.Agrees ⟨after, book.orders⟩ ∧ after.world.jobs.ids = book.database.world.jobs.ids := by
  rw [Database.execute, Method.exec_focus] at hexec
  obtain ⟨hresult, rfl⟩ := Prod.mk.inj hexec
  have hjobs := (IspProvisioningJob.execute_returns (Prod.ext hresult rfl)).1
  have hids : ((IspProvisioningJob.execute (dispatch site) now id).exec (book.database.load float)).2.jobs.ids =
      book.database.world.jobs.ids := by
    rw [hjobs]
    rfl
  have htypes : ∀ job, (((IspProvisioningJob.execute (dispatch site) now id).exec
      (book.database.load float)).2.jobs.row job).job_type = (book.database.world.jobs.row job).job_type := by
    intro job
    rw [hjobs, Store.write_row]
    split
    · rename_i hsame
      rw [hsame]
      exact (IspProvisioningJob.settled_target now _ _).1
    · rfl
  refine ⟨⟨fun job hjob order horder => ?_, fun job hjob hnone => ?_⟩, hids⟩
  · obtain ⟨htype, hrest⟩ := h.ordered job (hids ▸ hjob) order horder
    exact ⟨(htypes job).trans htype, hrest⟩
  · intro order
    rw [htypes job]
    exact h.others job (hids ▸ hjob) hnone order

/-- A pass by the texts is a pass by the orders, to its end or to its exception. -/
theorem OrderBook.Agrees.executeAll_eq {jobs : List Nat} (h : book.Agrees)
    (hjobs : ∀ job ∈ jobs, job ∈ book.database.world.jobs.ids) :
    (Method.forEach (Database.execute float (dispatch site) now) jobs).exec book.database =
      (Method.forEach (Database.execute float (deliver book.orders site) now) jobs).exec book.database := by
  induction jobs generalizing book with
  | nil => rfl
  | cons job jobs ih =>
    have hfirst := @OrderBook.Agrees.execute_eq float book site now job h (hjobs job List.mem_cons_self)
    rw [Method.exec_forEach_cons, Method.exec_forEach_cons, ← hfirst]
    cases hexec : (Database.execute float (dispatch site) now job).exec book.database with
    | mk result middle =>
      cases result with
      | error exception => rfl
      | ok value =>
        obtain ⟨hmiddle, hids⟩ := h.execute hexec
        exact @ih ⟨middle, book.orders⟩ hmiddle fun other hother =>
          hids.symm ▸ hjobs other (List.mem_cons_of_mem job hother)

theorem OrderBook.Agrees.executeAll {jobs : List Nat} (h : book.Agrees)
    (hexec : (Method.forEach (Database.execute float (dispatch site) now) jobs).exec book.database =
      (.ok (), after)) :
    OrderBook.Agrees ⟨after, book.orders⟩ := by
  have hstep := @Method.forEach_invariant Database OdooError Nat (Database.execute float (dispatch site) now)
    (fun database => OrderBook.Agrees ⟨database, book.orders⟩) jobs
    (fun _ _ database next hdatabase hnext =>
      (@OrderBook.Agrees.execute float ⟨database, book.orders⟩ next site now _ hdatabase hnext).1)
    book.database after
  exact hstep h hexec

theorem OrderBook.Agrees.commit {jobs : List Nat} (h : book.Agrees) :
    OrderBook.Agrees ⟨(Method.forEach (Database.execute float (dispatch site) now) jobs).commit Database.rollback
      book.database, book.orders⟩ :=
  @Method.commit_relates _ _ _ Database.rollback _ (fun _ database => OrderBook.Agrees ⟨database, book.orders⟩)
    book.database (fun _ _ hexec => h.executeAll hexec) fun _ => ⟨h.ordered, h.others⟩

theorem OrderBook.Agrees.commit_eq {jobs : List Nat} (h : book.Agrees)
    (hjobs : ∀ job ∈ jobs, job ∈ book.database.world.jobs.ids) :
    (Method.forEach (Database.execute float (deliver book.orders site) now) jobs).commit Database.rollback
        book.database =
      (Method.forEach (Database.execute float (dispatch site) now) jobs).commit Database.rollback
        book.database := by
  rw [Method.commit, Method.commit, h.executeAll_eq hjobs]

/-- A new job is for the order that is entered for it, or for none. -/
theorem OrderBook.Agrees.queue (h : book.Agrees) {job : IspProvisioningJob} {text : CharField}
    {entry : Option PortalOrder}
    (hentry : ∀ order, entry = some order →
      job.job_type = order.job_type ∧ 0 < order.record ∧ text = some (json.dumps order.payload))
    (hnone : entry = none → ∀ order : PortalOrder, job.job_type ≠ order.job_type) :
    OrderBook.Agrees ⟨book.database.queue job text,
      Function.update book.orders book.database.world.jobs.next_id entry⟩ := by
  have hcases : ∀ other ∈ (book.database.queue job text).world.jobs.ids,
      other = book.database.world.jobs.next_id ∨ other ∈ book.database.world.jobs.ids ∧
        other ≠ book.database.world.jobs.next_id ∧ other < book.database.world.jobs.next_id := by
    intro other hother
    obtain hold | hnew := List.mem_append.mp hother
    · have hlt := book.database.world.jobs.ids_fresh other hold
      exact .inr ⟨hold, Nat.ne_of_lt hlt, hlt⟩
    · exact .inl (List.mem_singleton.mp hnew)
  refine ⟨fun other hother order horder => ?_, fun other hother hother_none => ?_⟩
  · obtain rfl | ⟨hold, hne, hlt⟩ := hcases other hother
    · simp only [Function.update_self] at horder
      simp only [Database.queue, Store.create_row_new, Function.update_self]
      exact hentry order horder
    · simp only [Function.update_of_ne hne] at horder
      simp only [Database.queue, Store.create_row_of_lt _ hlt, Function.update_of_ne hne]
      exact h.ordered other hold order horder
  · obtain rfl | ⟨hold, hne, hlt⟩ := hcases other hother
    · simp only [Function.update_self] at hother_none
      simp only [Database.queue, Store.create_row_new]
      exact hnone hother_none
    · simp only [Function.update_of_ne hne] at hother_none
      simp only [Database.queue, Store.create_row_of_lt _ hlt]
      exact h.others other hold hother_none

theorem OrderBook.Agrees.place (h : book.Agrees) (clock : Nat → Nat) (target : Option Nat × Option Nat)
    {order : PortalOrder} (hrecord : 0 < order.record) : (book.place clock target order).Agrees := by
  apply h.queue
  · rintro _ ⟨rfl⟩
    exact ⟨rfl, hrecord, rfl⟩
  · nofun

/-- Placing orders enters each of them, and creates the same jobs. -/
theorem OrderBook.Agrees.placeAll (h : book.Agrees) (wiring : Wiring) (clock : Nat → Nat)
    {placed : List PortalOrder} (hplaced : ∀ order ∈ placed, 0 < order.record) :
    (book.placeAll wiring clock placed).Agrees ∧
      (book.placeAll wiring clock placed).database = book.database.placeAll wiring clock placed := by
  induction placed generalizing book with
  | nil => exact ⟨h, rfl⟩
  | cons order placed ih =>
    have hfirst := h.place clock (order.target wiring book.database.world.records.extension)
      (hplaced order List.mem_cons_self)
    exact ih hfirst fun other hother => hplaced other (List.mem_cons_of_mem order hother)

/-- One call, made on the database and in the book alike, keeps the two in agreement: the
payloads that the database stores as texts read back as the orders that the book carries
along. -/
theorem OrderBook.Agrees.step {event : PortalEvent} (h : book.Agrees)
    (hstep : PortalStep float book.database event after) :
    (book.call float event).Agrees ∧ (book.call float event).database = after := by
  obtain ⟨hpossible, rfl⟩ := hstep
  cases event with
  | action_enable wiring clock users =>
    exact h.placeAll wiring clock (List.forall_mem_map.mpr hpossible)
  | action_disable wiring clock users =>
    exact h.placeAll wiring clock (List.forall_mem_map.mpr hpossible)
  | action_apply wiring clock walled_gardens =>
    exact h.placeAll wiring clock (List.forall_mem_map.mpr hpossible)
  | mac_onboarding clock user target =>
    have hcreated : OrderBook.Agrees ⟨book.database.create_user user, book.orders⟩ := ⟨h.ordered, h.others⟩
    have hplaced := @OrderBook.Agrees.place _ hcreated clock target
      (.enable book.database.world.records.extension.users.next_id) hpossible
    exact ⟨hplaced, rfl⟩
  | queue_job clock sub job_type payload =>
    exact ⟨h.queue nofun fun _ => hpossible, rfl⟩
  | action_run site now jobs =>
    have hcommit := @OrderBook.Agrees.commit_eq float book site now jobs h hpossible
    have hbook : book.call float (.action_run site now jobs) = ⟨_, book.orders⟩ :=
      congrArg (OrderBook.mk · book.orders) hcommit
    rw [hbook]
    exact ⟨h.commit, rfl⟩
  | cron_run_pending_jobs site now jobs =>
    have hcommit := @OrderBook.Agrees.commit_eq float book site now jobs h hpossible
    have hbook : book.call float (.cron_run_pending_jobs site now jobs) = ⟨_, book.orders⟩ :=
      congrArg (OrderBook.mk · book.orders) hcommit
    rw [hbook]
    exact ⟨h.commit, rfl⟩
  | edit change => exact ⟨⟨h.ordered, h.others⟩, rfl⟩

end

/-- Over every run of the queue the database is that of the same calls in which each
job of the portal carries its order along: what a handler finds in its payload is what
the job was queued for, whatever was queued, executed, undone or changed in between. -/
theorem orders_carried_out (float : String → Value) {first reached : Database}
    {taken : List (Database × PortalEvent)}
    (hfirst : ∀ job ∈ first.world.jobs.ids, ∀ order : PortalOrder,
      (first.world.jobs.row job).job_type ≠ order.job_type)
    (run : Run (PortalStep float) first taken reached) :
    ((taken.map Prod.snd).foldl (OrderBook.call float) ⟨first, fun _ => none⟩).database = reached := by
  have hagrees : ((taken.map Prod.snd).foldl (OrderBook.call float) ⟨first, fun _ => none⟩).Agrees ∧
      ((taken.map Prod.snd).foldl (OrderBook.call float) ⟨first, fun _ => none⟩).database = reached := by
    induction run with
    | start => exact ⟨⟨fun _ _ _ => nofun, fun job hjob _ => hfirst job hjob⟩, rfl⟩
    | @step taken state after event before hstep ih =>
      obtain ⟨hbefore, hstate⟩ := ih
      rw [← hstate] at hstep
      rw [List.map_append, List.foldl_append]
      exact hbefore.step hstep
  exact hagrees.2

/-- Two guests on router 0, and the suspension of a customer in the queue. -/
def twoGuests : Database where
  world := { suspending with
    records := { suspending.records with
      extension := { suspending.records.extension with
        users := (Store.empty { username := "" }).createAll
          [{ username := "first", router_id := some 0 }, { username := "second", router_id := some 0 }] } } }
  payload_json := fun _ => none

/-- The button on the second guest, and its job. -/
def enableSecond : PortalEvent := .action_enable ⟨fun _ => none, fun _ => none⟩ (fun _ => 0) [1]

def runSecond : PortalEvent := .action_run (oneRouter fun _ _ => none) 0 [1]

def secondQueued : Database := enableSecond.call (fun _ => .none) dispatch twoGuests

def secondRun : Database := runSecond.call (fun _ => .none) dispatch secondQueued

/-- The second guest is enabled, and the first is not. -/
theorem orders_carried_out_second :
    (secondRun.world.records.extension.users.row 1).state = .active ∧
      (secondRun.world.records.extension.users.row 0).state = .disabled := by
  have hfirst : ∀ job ∈ twoGuests.world.jobs.ids, ∀ order : PortalOrder,
      (twoGuests.world.jobs.row job).job_type ≠ order.job_type := by
    intro job hjob order
    rw [List.mem_singleton.mp hjob]
    cases order <;> nofun
  have hpressed : PortalStep (fun _ => .none) twoGuests enableSecond secondQueued :=
    ⟨fun id hid => by rw [List.mem_singleton.mp hid]; omega, rfl⟩
  have hran : PortalStep (fun _ => .none) secondQueued runSecond secondRun := by
    have hids : secondQueued.world.jobs.ids = [0, 1] := rfl
    refine ⟨fun job hjob => ?_, rfl⟩
    rw [List.mem_singleton.mp hjob, hids]
    exact List.mem_cons_of_mem 0 List.mem_cons_self
  rw [← orders_carried_out (fun _ => .none) hfirst (.step (.step .start hpressed) hran)]
  exact ⟨rfl, rfl⟩

end getupnet.isp_captive_portal

import Getupnet.IspMikrotik.Access
import Getupnet.IspMikrotik.Dispatch
import Getupnet.IspMikrotik.Frame

open relational
open calendar
open getupnet.isp_core

namespace getupnet.isp_mikrotik

variable {μ : Type}

/-- The unique constraint on usernames, which does not compare unset ones. -/
def UniqueUsername (table : Store IspSubscription) : Prop :=
  ∀ a ∈ table.ids, ∀ b ∈ table.ids, a ≠ b →
    (table.row a).pppoe_username = (table.row b).pppoe_username → (table.row a).pppoe_username = none

/-- What `_check_unique_static_ip` is about. -/
def StaticDhcp (sub : IspSubscription) : Prop :=
  sub.auth_method = .dhcp ∧ sub.dhcp_mode = .static ∧ truthy sub.service_ip = true

def UniqueStaticIp (table : Store IspSubscription) : Prop :=
  ∀ a ∈ table.ids, ∀ b ∈ table.ids, a ≠ b → StaticDhcp (table.row a) → StaticDhcp (table.row b) →
    (table.row a).service_ip ≠ (table.row b).service_ip

/-- The jobs that work on a subscription. -/
def subscriptionJobs : List JobType :=
  [.activate_subscription, .suspend_subscription, .reconnect_subscription, .terminate_subscription, .change_plan,
    .disconnect_session, .activate_pppoe, .activate_dhcp, .ensure_queue]

/-- The router after a job of a subscription, whether it returned or raised. -/
def job_outcome (plan : IspServicePlan) (sub : IspSubscription) (today : Date) (token_hex : String)
    (job_type : JobType) (tables : RouterTables) : RouterTables :=
  match subscription_handler plan today token_hex (.ok RouterTables.cmd) job_type with
  | some handler => (handler.exec (sub, tables)).2.2
  | none => tables

/-- A router on which an activation created the entries of a subscription, and
on which further jobs of the subscription may have run since, under any plan. -/
inductive ServedBy (plan : IspServicePlan) (sub : IspSubscription) : RouterTables → Prop where
  | activated {tables : RouterTables} (today : Date) (token_hex : String)
      (hfree : ∀ key ∈ activationKeys plan sub, tables.entry key = none) :
      ServedBy plan sub (job_outcome plan sub today token_hex .activate_subscription tables)
  | job {tables : RouterTables} (later_plan : IspServicePlan) (today : Date) (token_hex : String)
      (job_type : JobType) (h : ServedBy plan sub tables) :
      ServedBy plan sub (job_outcome later_plan sub today token_hex job_type tables)

/-- A job of `a` is about no entry that an activation of `b` creates, or about
its lease only, which it labels with the name it has. -/
def Apart (plan_a plan_b : IspServicePlan) (a b : IspSubscription) (job_type : JobType) : Prop :=
  ∀ key ∈ jobKeys plan_a a job_type, key ∈ activationKeys plan_b b →
    (∃ address, key = .lease address) ∧ a.name = b.name

/-- What the commands of a job make of a router that accepts them where it can. -/
def RouterTables.serve (plan : IspServicePlan) (sub : IspSubscription) (job_type : JobType)
    (self : RouterTables) :
    RouterTables :=
  match job_type with
  | .activate_subscription =>
    (match plan.service_type with
      | .pppoe => self.ensureSecret plan sub
      | .dhcp => self.ensureLease sub
      | .hotspot => self).ensureQueue plan sub
  | .suspend_subscription => (if plan.service_type = .pppoe then self.flagSecret true sub else self).disableQueue sub
  | .reconnect_subscription =>
    (if plan.service_type = .pppoe then self.flagSecret false sub else self).ensureQueue plan sub
  | .terminate_subscription => (if plan.service_type = .pppoe then self.flagSecret true sub else self).removeQueue sub
  | .change_plan => (if plan.service_type = .pppoe then self.ensureSecret plan sub else self).ensureQueue plan sub
  | .activate_pppoe => self.ensureSecret plan sub
  | .activate_dhcp => self.ensureLease sub
  | .ensure_queue => self.ensureQueue plan sub
  | _ => self

section

variable {plan : IspServicePlan} {sub : IspSubscription} {tables : RouterTables} {key : EntryKey}
  {job_type : JobType} {today : Date} {token_hex : String}

theorem RouterTables.serve_pppoe (h : plan.service_type = .pppoe) :
    RouterTables.serve plan sub .activate_subscription =
      fun tables => (tables.ensureSecret plan sub).ensureQueue plan sub := by
  funext tables
  simp only [RouterTables.serve, h]

theorem RouterTables.serve_dhcp (h : plan.service_type = .dhcp) :
    RouterTables.serve plan sub .activate_subscription =
      fun tables => (tables.ensureLease sub).ensureQueue plan sub := by
  funext tables
  simp only [RouterTables.serve, h]

theorem RouterTables.serve_hotspot (h : plan.service_type = .hotspot) :
    RouterTables.serve plan sub .activate_subscription = RouterTables.ensureQueue plan sub := by
  funext tables
  simp only [RouterTables.serve, h]

theorem RouterTables.cmd_shows : Client.Shows RouterTables.cmd key (RouterTables.entry key) :=
  fun _ hkey => RouterTables.cmd_keeps hkey

theorem job_commands_exec (hdisconnect : job_type ≠ .disconnect_session) :
    (job_commands RouterTables.cmd plan sub job_type).exec tables = (.ok (), tables.serve plan sub job_type) := by
  have hswitch : ∀ {secret queue : Method RouterTables OdooError Unit} {onSecret onQueue : RouterTables → RouterTables},
      (∀ before, secret.exec before = (.ok (), onSecret before)) →
      (∀ before, queue.exec before = (.ok (), onQueue before)) →
      (do if plan.service_type = .pppoe then secret
          queue : Method RouterTables OdooError Unit).exec tables =
        (.ok (), onQueue (if plan.service_type = .pppoe then onSecret tables else tables)) := by
    intro secret queue onSecret onQueue hsecret hqueue
    by_cases hpppoe : plan.service_type = .pppoe
    · rw [if_pos hpppoe, if_pos hpppoe, Method.exec_bind, hsecret]
      exact hqueue _
    · rw [if_neg hpppoe, if_neg hpppoe]
      exact hqueue _
  cases job_type with
  | activate_subscription =>
    rw [job_commands, RouterTables.serve]
    cases hservice : plan.service_type with
    | pppoe =>
      simp only [Method.exec_bind, routeros_pppoe_ensure_secret_exec]
      exact routeros_queue_ensure_exec plan sub _
    | dhcp =>
      simp only [Method.exec_bind, routeros_dhcp_ensure_lease_exec]
      exact routeros_queue_ensure_exec plan sub _
    | hotspot => exact routeros_queue_ensure_exec plan sub tables
  | suspend_subscription => exact hswitch (routeros_pppoe_disable_exec sub) (routeros_queue_disable_exec sub)
  | reconnect_subscription => exact hswitch (routeros_pppoe_enable_exec sub) (routeros_queue_ensure_exec plan sub)
  | terminate_subscription => exact hswitch (routeros_pppoe_disable_exec sub) (routeros_queue_remove_exec sub)
  | change_plan => exact hswitch (routeros_pppoe_ensure_secret_exec plan sub) (routeros_queue_ensure_exec plan sub)
  | disconnect_session => exact absurd rfl hdisconnect
  | activate_pppoe => exact routeros_pppoe_ensure_secret_exec plan sub tables
  | activate_dhcp => exact routeros_dhcp_ensure_lease_exec sub tables
  | ensure_queue => exact routeros_queue_ensure_exec plan sub tables
  | _ => rfl

theorem job_outcome_eq :
    job_outcome plan sub today token_hex job_type tables =
      ((job_commands RouterTables.cmd plan sub job_type).exec tables).2 := by
  unfold job_outcome
  cases hhandler : subscription_handler plan today token_hex (.ok RouterTables.cmd) job_type with
  | some handler => exact subscription_handler_outside hhandler
  | none => cases job_type <;> first | rfl | cases hhandler

theorem job_outcome_serve (hdisconnect : job_type ≠ .disconnect_session) :
    job_outcome plan sub today token_hex job_type tables = tables.serve plan sub job_type := by
  rw [job_outcome_eq, job_commands_exec hdisconnect]

theorem job_outcome_entry (hkey : key ∉ jobKeys plan sub job_type) :
    (job_outcome plan sub today token_hex job_type tables).entry key = tables.entry key := by
  rw [job_outcome_eq]
  exact job_commands_keeps RouterTables.cmd_shows hkey tables

end

def Entry.disabled : Entry → Bool
  | .secret record => record.disabled
  | .lease record => record.disabled
  | .queue record => record.disabled

/-- Whether an entry is disabled, `none` if it is absent. -/
def RouterTables.status (key : EntryKey) (self : RouterTables) : Option Bool :=
  (self.entry key).map Entry.disabled

/-- A change after which an entry that was there has one status whatever it had. -/
def Settles (key : EntryKey) (change : RouterTables → RouterTables) : Prop :=
  ∃ status, ∀ tables : RouterTables, (tables.entry key).isSome = true → (change tables).status key = status

def Spares (key : EntryKey) (change : RouterTables → RouterTables) : Prop :=
  ∀ tables, (change tables).entry key = tables.entry key

section

variable {plan : IspServicePlan} {sub : IspSubscription} {tables : RouterTables} {key : EntryKey}
  {job_type : JobType} {first second : RouterTables → RouterTables}

theorem Settles.then_spares (hfirst : Settles key first) (hsecond : Spares key second) :
    Settles key fun tables => second (first tables) := by
  obtain ⟨status, hstatus⟩ := hfirst
  refine ⟨status, fun tables hentry => ?_⟩
  rw [RouterTables.status, hsecond]
  exact hstatus tables hentry

theorem Spares.then_settles (hfirst : Spares key first) (hsecond : Settles key second) :
    Settles key fun tables => second (first tables) := by
  obtain ⟨status, hstatus⟩ := hsecond
  refine ⟨status, fun tables hentry => hstatus (first tables) ?_⟩
  rw [hfirst]
  exact hentry

theorem RouterTables.ensureSecret_status :
    (tables.ensureSecret plan sub).status (.secret sub.pppoe_username) = some false := by
  simp only [RouterTables.status, RouterTables.entry, RouterTables.ensureSecret, KeyedTable.ensure_find_self]
  cases tables.ppp_secrets.find sub.pppoe_username <;> rfl

theorem RouterTables.flagSecret_status (flag : Bool) :
    (tables.flagSecret flag sub).status (.secret sub.pppoe_username) =
      (tables.entry (.secret sub.pppoe_username)).map fun _ => flag := by
  simp only [RouterTables.status, RouterTables.entry, RouterTables.flagSecret, KeyedTable.adjust_find_self]
  cases tables.ppp_secrets.find sub.pppoe_username <;> rfl

theorem RouterTables.ensureQueue_status (hip : truthy sub.service_ip = true) :
    (tables.ensureQueue plan sub).status (.queue sub.name) = some false := by
  have hsent : ¬ truthy sub.service_ip = false := by simp [hip]
  simp only [RouterTables.status, RouterTables.entry, RouterTables.ensureQueue, if_neg hsent,
    KeyedTable.ensure_find_self]
  cases tables.simple_queues.find sub.name <;> rfl

theorem RouterTables.disableQueue_status :
    (tables.disableQueue sub).status (.queue sub.name) = (tables.entry (.queue sub.name)).map fun _ => true := by
  simp only [RouterTables.status, RouterTables.entry, RouterTables.disableQueue, KeyedTable.adjust_find_self]
  cases tables.simple_queues.find sub.name <;> rfl

theorem RouterTables.removeQueue_status : (tables.removeQueue sub).status (.queue sub.name) = none := by
  simp only [RouterTables.status, RouterTables.entry, RouterTables.removeQueue, KeyedTable.discard,
    KeyedTable.update_find_self, Option.map_none]

theorem ensureSecret_settles : Settles (.secret sub.pppoe_username) (RouterTables.ensureSecret plan sub) :=
  ⟨some false, fun _ _ => RouterTables.ensureSecret_status⟩

theorem flagSecret_settles (flag : Bool) :
    Settles (.secret sub.pppoe_username) (RouterTables.flagSecret flag sub) := by
  refine ⟨some flag, fun tables hentry => ?_⟩
  obtain ⟨entry, hsome⟩ := Option.isSome_iff_exists.mp hentry
  rw [RouterTables.flagSecret_status, hsome, Option.map_some]

theorem ensureQueue_settles (hip : truthy sub.service_ip = true) :
    Settles (.queue sub.name) (RouterTables.ensureQueue plan sub) :=
  ⟨some false, fun _ _ => RouterTables.ensureQueue_status hip⟩

theorem disableQueue_settles : Settles (.queue sub.name) (RouterTables.disableQueue sub) := by
  refine ⟨some true, fun tables hentry => ?_⟩
  obtain ⟨entry, hsome⟩ := Option.isSome_iff_exists.mp hentry
  rw [RouterTables.disableQueue_status, hsome, Option.map_some]

theorem removeQueue_settles : Settles (.queue sub.name) (RouterTables.removeQueue sub) :=
  ⟨none, fun _ _ => RouterTables.removeQueue_status⟩

theorem ensureQueue_spares (h : ∀ name, key ≠ .queue name) : Spares key (RouterTables.ensureQueue plan sub) := by
  intro tables
  unfold RouterTables.ensureQueue
  split
  · rfl
  · exact RouterTables.entry_of_queues fun name hname => absurd hname (h name)

theorem ensureLease_spares (h : ∀ address, key ≠ .lease address) : Spares key (RouterTables.ensureLease sub) := by
  intro tables
  unfold RouterTables.ensureLease
  split
  · rfl
  · exact RouterTables.entry_of_leases fun address haddress => absurd haddress (h address)

/-- A job leaves every secret or queue that it is about, if there, with one status, which
depends on the type of the job and not on what the entry was before. -/
theorem serve_settles (hkey : key ∈ jobKeys plan sub job_type) (hlease : ∀ address, key ≠ .lease address) :
    Settles key (RouterTables.serve plan sub job_type) := by
  have hqueueKey : ∀ {name : CharField}, ∀ queue, EntryKey.secret name ≠ .queue queue := by simp
  -- a change of the secret of a PPPoE plan, then one of the queue
  have hsecret : ∀ {onSecret onQueue : RouterTables → RouterTables}, key ∈ secretKeys plan sub →
      Settles (.secret sub.pppoe_username) onSecret → (∀ name : CharField, Spares (.secret name) onQueue) →
      Settles key fun tables => onQueue (if plan.service_type = .pppoe then onSecret tables else tables) := by
    intro onSecret onQueue hmem hsettles hspares
    obtain ⟨hpppoe, rfl⟩ := mem_secretKeys.mp hmem
    simp only [hpppoe, if_true]
    exact hsettles.then_spares (hspares _)
  have hqueue : ∀ {onSecret onQueue : RouterTables → RouterTables}, key = .queue sub.name →
      (∀ name, Spares (.queue name) onSecret) → Settles (.queue sub.name) onQueue →
      Settles key fun tables => onQueue (if plan.service_type = .pppoe then onSecret tables else tables) := by
    rintro onSecret onQueue rfl hspares hsettles
    by_cases hpppoe : plan.service_type = .pppoe
    · simp only [hpppoe, if_true]
      exact (hspares _).then_settles hsettles
    · simp only [hpppoe, if_false]
      exact hsettles
  cases job_type with
  | activate_subscription =>
    cases hservice : plan.service_type with
    | pppoe =>
      simp only [jobKeys, activationKeys, hservice, List.mem_cons] at hkey
      rw [RouterTables.serve_pppoe hservice]
      obtain rfl | hname := hkey
      · exact ensureSecret_settles.then_spares (ensureQueue_spares hqueueKey)
      · obtain ⟨hip, rfl⟩ := mem_queueKeys.mp hname
        have hspares : Spares (.queue sub.name) (RouterTables.ensureSecret plan sub) := fun _ => rfl
        exact hspares.then_settles (ensureQueue_settles hip)
    | dhcp =>
      simp only [jobKeys, activationKeys, hservice, List.mem_append] at hkey
      rw [RouterTables.serve_dhcp hservice]
      obtain hname | hname := hkey
      · exact absurd (mem_leaseKeys.mp hname).2.2 (hlease _)
      · obtain ⟨hip, rfl⟩ := mem_queueKeys.mp hname
        exact (ensureLease_spares hlease).then_settles (ensureQueue_settles hip)
    | hotspot =>
      simp only [jobKeys, activationKeys, hservice] at hkey
      rw [RouterTables.serve_hotspot hservice]
      obtain ⟨hip, rfl⟩ := mem_queueKeys.mp hkey
      exact ensureQueue_settles hip
  | suspend_subscription =>
    rw [jobKeys, List.mem_append, List.mem_singleton] at hkey
    obtain hmem | hname := hkey
    · exact hsecret hmem (flagSecret_settles true) fun _ _ => rfl
    · exact hqueue hname (fun _ _ => rfl) disableQueue_settles
  | terminate_subscription =>
    rw [jobKeys, List.mem_append, List.mem_singleton] at hkey
    obtain hmem | hname := hkey
    · exact hsecret hmem (flagSecret_settles true) fun _ _ => rfl
    · exact hqueue hname (fun _ _ => rfl) removeQueue_settles
  | reconnect_subscription =>
    rw [jobKeys, List.mem_append] at hkey
    obtain hmem | hname := hkey
    · exact hsecret hmem (flagSecret_settles false) fun _ => ensureQueue_spares hqueueKey
    · obtain ⟨hip, hname⟩ := mem_queueKeys.mp hname
      exact hqueue hname (fun _ _ => rfl) (ensureQueue_settles hip)
  | change_plan =>
    rw [jobKeys, List.mem_append] at hkey
    obtain hmem | hname := hkey
    · exact hsecret hmem ensureSecret_settles fun _ => ensureQueue_spares hqueueKey
    · obtain ⟨hip, hname⟩ := mem_queueKeys.mp hname
      exact hqueue hname (fun _ _ => rfl) (ensureQueue_settles hip)
  | activate_pppoe =>
    cases List.mem_singleton.mp hkey
    exact ensureSecret_settles
  | activate_dhcp =>
    obtain ⟨_, _, hname⟩ := mem_leaseKeys.mp hkey
    exact absurd hname (hlease _)
  | ensure_queue =>
    obtain ⟨hip, rfl⟩ := mem_queueKeys.mp hkey
    exact ensureQueue_settles hip
  | _ => exact absurd hkey List.not_mem_nil

/-- An activation leaves the secret and the queue that it ensures enabled. -/
theorem activated_status (hkey : key ∈ activationKeys plan sub) (hlease : ∀ address, key ≠ .lease address) :
    (tables.serve plan sub .activate_subscription).status key = some false := by
  have hspares : ∀ {name : CharField}, Spares (.secret name) (RouterTables.ensureQueue plan sub) :=
    ensureQueue_spares (by simp)
  cases hservice : plan.service_type with
  | pppoe =>
    simp only [activationKeys, hservice, List.mem_cons] at hkey
    rw [RouterTables.serve_pppoe hservice]
    obtain rfl | hname := hkey
    · rw [RouterTables.status, hspares]
      exact RouterTables.ensureSecret_status
    · obtain ⟨hip, rfl⟩ := mem_queueKeys.mp hname
      exact RouterTables.ensureQueue_status hip
  | dhcp =>
    simp only [activationKeys, hservice, List.mem_append] at hkey
    rw [RouterTables.serve_dhcp hservice]
    obtain hname | hname := hkey
    · exact absurd (mem_leaseKeys.mp hname).2.2 (hlease _)
    · obtain ⟨hip, rfl⟩ := mem_queueKeys.mp hname
      exact RouterTables.ensureQueue_status hip
  | hotspot =>
    simp only [activationKeys, hservice] at hkey
    rw [RouterTables.serve_hotspot hservice]
    obtain ⟨hip, rfl⟩ := mem_queueKeys.mp hkey
    exact RouterTables.ensureQueue_status hip

/-- A suspension disables them. -/
theorem suspended_status (hkey : key ∈ activationKeys plan sub) (hlease : ∀ address, key ≠ .lease address)
    (hentry : (tables.entry key).isSome = true) :
    (tables.serve plan sub .suspend_subscription).status key = some true := by
  obtain ⟨entry, hsome⟩ := Option.isSome_iff_exists.mp hentry
  have hqueue : ∀ {before : RouterTables}, key ∈ queueKeys sub → before.entry key = tables.entry key →
      (before.disableQueue sub).status key = some true := by
    intro before hname hsame
    obtain ⟨_, rfl⟩ := mem_queueKeys.mp hname
    rw [RouterTables.disableQueue_status, hsame, hsome, Option.map_some]
  cases hservice : plan.service_type with
  | pppoe =>
    simp only [activationKeys, hservice, List.mem_cons] at hkey
    simp only [RouterTables.serve, hservice, if_true]
    obtain rfl | hname := hkey
    · have hflag := @RouterTables.flagSecret_status sub tables true
      rw [hsome, Option.map_some] at hflag
      exact hflag
    · obtain ⟨_, hkey⟩ := mem_queueKeys.mp hname
      exact hqueue hname (by rw [hkey]; rfl)
  | dhcp =>
    simp only [activationKeys, hservice, List.mem_append] at hkey
    obtain hname | hname := hkey
    · exact absurd (mem_leaseKeys.mp hname).2.2 (hlease _)
    · simp only [RouterTables.serve, hservice, reduceCtorEq, if_false]
      exact hqueue hname rfl
  | hotspot =>
    simp only [activationKeys, hservice] at hkey
    simp only [RouterTables.serve, hservice, reduceCtorEq, if_false]
    exact hqueue hkey rfl

theorem RouterTables.ensureLease_entry (hip : truthy sub.service_ip = true)
    (hmac : truthy sub.service_mac = true) :
    (tables.ensureLease sub).entry (.lease sub.service_ip) =
      some (.lease ((tables.dhcp_leases.find sub.service_ip).elim
        { mac_address := sub.service_mac, comment := sub.name, disabled := false }
        fun lease => { lease with comment := sub.name, disabled := false })) := by
  have hsent : ¬ (truthy sub.service_ip = false ∨ truthy sub.service_mac = false) := by simp [hip, hmac]
  simp only [RouterTables.entry, RouterTables.ensureLease, if_neg hsent, KeyedTable.ensure_find_self, Option.map_some]

theorem RouterTables.find_of_entry {address : CharField} {lease : DhcpLease}
    (h : tables.entry (.lease address) = some (.lease lease)) : tables.dhcp_leases.find address = some lease :=
  Option.map_injective (fun _ _ heq => Entry.lease.inj heq) h

/-- A job that is about a lease ensures it, and spares it otherwise. -/
theorem serve_lease_eq {address : CharField} (hkey : .lease address ∈ jobKeys plan sub job_type) :
    truthy sub.service_ip = true ∧ truthy sub.service_mac = true ∧ address = sub.service_ip ∧
      ∀ tables : RouterTables, (tables.serve plan sub job_type).entry (.lease address) =
        (tables.ensureLease sub).entry (.lease address) := by
  have hsecret : EntryKey.lease address ∉ secretKeys plan sub := by simp [mem_secretKeys]
  have hqueue : EntryKey.lease address ∉ queueKeys sub := by simp [mem_queueKeys]
  cases job_type with
  | activate_subscription =>
    cases hservice : plan.service_type with
    | pppoe => simp [jobKeys, activationKeys, hservice, hqueue] at hkey
    | dhcp =>
      simp only [jobKeys, activationKeys, hservice, List.mem_append, hqueue, or_false] at hkey
      obtain ⟨hip, hmac, haddress⟩ := mem_leaseKeys.mp hkey
      refine ⟨hip, hmac, EntryKey.lease.inj haddress, fun tables => ?_⟩
      rw [RouterTables.serve_dhcp hservice]
      exact ensureQueue_spares (by simp) _
    | hotspot => simp [jobKeys, activationKeys, hservice, hqueue] at hkey
  | activate_dhcp =>
    obtain ⟨hip, hmac, haddress⟩ := mem_leaseKeys.mp hkey
    exact ⟨hip, hmac, EntryKey.lease.inj haddress, fun _ => rfl⟩
  | _ => simp [jobKeys, hsecret, hqueue] at hkey

/-- A job about a lease that is there changes nothing of it but its label and
its flag. -/
theorem serve_lease {address : CharField} {lease : DhcpLease} (hkey : .lease address ∈ jobKeys plan sub job_type)
    (hlease : tables.entry (.lease address) = some (.lease lease)) :
    (tables.serve plan sub job_type).entry (.lease address) =
      some (.lease { lease with comment := sub.name, disabled := false }) := by
  obtain ⟨hip, hmac, rfl, hserve⟩ := serve_lease_eq hkey
  rw [hserve, RouterTables.ensureLease_entry hip hmac, RouterTables.find_of_entry hlease, Option.elim_some]

theorem isSome_of_status {flag : Bool} (h : tables.status key = some flag) :
    (tables.entry key).isSome = true := by
  obtain ⟨entry, hentry, _⟩ := Option.map_eq_some_iff.mp h
  rw [hentry, Option.isSome_some]

theorem not_disconnect_of_mem (hkey : key ∈ jobKeys plan sub job_type) : job_type ≠ .disconnect_session := by
  rintro rfl
  exact List.not_mem_nil hkey

/-- The lease that an activation created stays as it was through further jobs of
its subscription. -/
theorem ServedBy.lease (hserved : ServedBy plan sub tables) {address : CharField}
    (hkey : .lease address ∈ activationKeys plan sub) :
    tables.entry (.lease address) =
      some (.lease { mac_address := sub.service_mac, comment := sub.name, disabled := false }) := by
  induction hserved with
  | @activated before today token_hex hfree =>
    have hjob : EntryKey.lease address ∈ jobKeys plan sub .activate_subscription := hkey
    have habsent : before.dhcp_leases.find address = none := Option.map_eq_none_iff.mp (hfree _ hkey)
    obtain ⟨hip, hmac, rfl, hserve⟩ := serve_lease_eq hjob
    rw [job_outcome_serve (not_disconnect_of_mem hjob), hserve, RouterTables.ensureLease_entry hip hmac, habsent,
      Option.elim_none]
  | job later_plan today token_hex job_type hbefore ih =>
    by_cases hjob : EntryKey.lease address ∈ jobKeys later_plan sub job_type
    · rw [job_outcome_serve (not_disconnect_of_mem hjob), serve_lease hjob ih]
    · rw [job_outcome_entry hjob, ih]

end

section

variable {plan_a plan_b : IspServicePlan} {a b : IspSubscription} {job_type : JobType} {today : Date}
  {token_hex : String}

/-- A job of one subscription leaves all the entries of another one unchanged, on
every router that serves it, exactly when the two are apart. -/
theorem job_outcome_isolated_iff :
    (∀ tables, ServedBy plan_b b tables → ∀ key ∈ activationKeys plan_b b,
      (job_outcome plan_a a today token_hex job_type tables).entry key = tables.entry key) ↔
      Apart plan_a plan_b a b job_type := by
  constructor
  · intro hisolated key hkey hentry
    have hdisconnect := not_disconnect_of_mem hkey
    let activated := RouterTables.empty.serve plan_b b .activate_subscription
    have hactivated : ServedBy plan_b b activated := by
      have hserved : ServedBy plan_b b _ := @ServedBy.activated plan_b b RouterTables.empty today token_hex
        fun key _ => by cases key <;> rfl
      rwa [job_outcome_serve (by simp)] at hserved
    by_cases hlease : ∃ address, key = .lease address
    · obtain ⟨address, rfl⟩ := hlease
      have hbefore := hactivated.lease hentry
      have hafter := hisolated activated hactivated _ hentry
      rw [job_outcome_serve hdisconnect, serve_lease hkey hbefore, hbefore] at hafter
      exact ⟨⟨address, rfl⟩, by simpa using hafter⟩
    · rw [not_exists] at hlease
      let suspended := activated.serve plan_b b .suspend_subscription
      have hsuspended : ServedBy plan_b b suspended := by
        have hserved := ServedBy.job plan_b today token_hex .suspend_subscription hactivated
        rwa [job_outcome_serve (by simp)] at hserved
      -- the job settles one status, so it cannot keep both an enabled and a disabled entry
      obtain ⟨status, hsettles⟩ := serve_settles hkey hlease
      have hkept : ∀ tables flag, ServedBy plan_b b tables → tables.status key = some flag →
        some flag = status := by
        intro tables flag hserved hflag
        have hentries := hisolated tables hserved key hentry
        rw [job_outcome_serve hdisconnect] at hentries
        rw [← hflag, ← hsettles tables (isSome_of_status hflag), RouterTables.status, RouterTables.status, hentries]
      have henabled : activated.status key = some false := activated_status hentry hlease
      have hdisabled := suspended_status hentry hlease (isSome_of_status henabled)
      have heq := (hkept activated false hactivated henabled).trans (hkept suspended true hsuspended hdisabled).symm
      cases heq
  · intro hapart tables hserved key hentry
    by_cases hkey : key ∈ jobKeys plan_a a job_type
    · obtain ⟨⟨address, rfl⟩, hname⟩ := hapart key hkey hentry
      rw [job_outcome_serve (not_disconnect_of_mem hkey), serve_lease hkey (hserved.lease hentry),
        hserved.lease hentry, hname]
    · exact job_outcome_entry hkey

/-- The checks keep two customers apart who have different names, when the
secret's owner has a username and the lease's address is a checked one. -/
theorem apart_of_checks {table : Store IspSubscription} (husername : UniqueUsername table)
    (hip : UniqueStaticIp table) {a b : Nat} (ha : a ∈ table.ids) (hb : b ∈ table.ids) (hne : a ≠ b)
    (hname : (table.row a).name ≠ (table.row b).name)
    (hsecret : plan_b.service_type = .pppoe → (table.row b).pppoe_username ≠ none)
    (hlease : plan_b.service_type = .dhcp → StaticDhcp (table.row a) ∧ StaticDhcp (table.row b)) :
    Apart plan_a plan_b (table.row a) (table.row b) job_type := by
  intro key hkey hentry
  obtain rfl | rfl | rfl := eq_of_mem_jobKeys hkey
  · obtain hsame | hsame | hsame := eq_of_mem_activationKeys hentry
    · have hunset := husername b hb a ha hne.symm (EntryKey.secret.inj hsame.2).symm
      exact absurd hunset (hsecret hsame.1)
    · cases hsame.2
    · cases hsame
  · obtain hsame | hsame | hsame := eq_of_mem_activationKeys hentry
    · cases hsame.2
    · obtain ⟨hfirst, hsecond⟩ := hlease hsame.1
      exact absurd (EntryKey.lease.inj hsame.2) (hip a ha b hb hne hfirst hsecond)
    · cases hsame
  · obtain hsame | hsame | hsame := eq_of_mem_activationKeys hentry
    · cases hsame.2
    · cases hsame.2
    · exact absurd (EntryKey.queue.inj hsame) hname

end

section

variable {surroundings : Surroundings RouterTables} {now id a : Nat} {world : World (Records μ) RouterTables}

/-- A job that reaches the router leaves there what its handler leaves. -/
theorem execute_outside (hsub : (world.jobs.row id).subscription_id = some a)
    (htype : (world.jobs.row id).job_type ∈ subscriptionJobs) (hrunnable : (world.jobs.row id).Runnable)
    (hconnection : surroundings.connection (world.jobs.row id) (world.subscription a) = .ok RouterTables.cmd) :
    ((IspProvisioningJob.execute (dispatch surroundings) now id).exec world).2.outside =
      job_outcome (world.planOf a) (world.subscription a) surroundings.today surroundings.token_hex
        (world.jobs.row id).job_type world.outside := by
  let job := (world.jobs.row id).started now
  obtain ⟨handler, hhandler⟩ : ∃ handler, subscription_handler (world.planOf a) surroundings.today
      surroundings.token_hex (.ok RouterTables.cmd) (world.jobs.row id).job_type = some handler := by
    simp only [subscriptionJobs, List.mem_cons, List.not_mem_nil, or_false] at htype
    rcases htype with h | h | h | h | h | h | h | h | h <;> exact ⟨_, by rw [h]; rfl⟩
  have hdispatch : (dispatch surroundings id job : Method (Records μ × RouterTables) OdooError Unit) =
      handle_subscription surroundings job := by
    unfold dispatch
    split
    case h_1 h => exact absurd (h ▸ htype) (by simp [subscriptionJobs])
    case h_2 h => exact absurd (h ▸ htype) (by simp [subscriptionJobs])
    case h_3 h => exact absurd (h ▸ htype) (by simp [subscriptionJobs])
    case h_4 h => exact absurd (h ▸ htype) (by simp [subscriptionJobs])
    case h_5 h => exact absurd (h ▸ htype) (by simp [subscriptionJobs])
    case h_6 => rfl
  have hstarted : surroundings.connection job (world.subscription a) = .ok RouterTables.cmd := hconnection
  have houtside := @handle_subscription_outside μ _ surroundings job world.records world.outside a handler hsub
    (by rw [← hhandler, ← hstarted]; rfl)
  cases hexec : (dispatch surroundings id job).exec (world.records, world.outside) with
  | mk result rest =>
    rw [IspProvisioningJob.execute_of_runnable (dispatch surroundings) now id hrunnable hexec, job_outcome, hhandler]
    rw [hdispatch] at hexec
    rw [hexec] at houtside
    exact houtside

end

/-- An executed job of one subscription leaves the entries that an activation
created for another one unchanged if and only if it is about none of them, or
about the lease of a namesake only. -/
theorem isolation_iff (surroundings : Surroundings RouterTables) {now id a b : Nat}
    {world : World (Records μ) RouterTables} {plan_b : IspServicePlan}
    (hsub : (world.jobs.row id).subscription_id = some a)
    (htype : (world.jobs.row id).job_type ∈ subscriptionJobs) (hrunnable : (world.jobs.row id).Runnable)
    (hconnection : surroundings.connection (world.jobs.row id) (world.subscription a) = .ok RouterTables.cmd) :
    (∀ tables, ServedBy plan_b (world.subscription b) tables → ∀ key ∈ activationKeys plan_b (world.subscription b),
      ((IspProvisioningJob.execute (dispatch surroundings) now id).exec
        { world with outside := tables }).2.outside.entry key = tables.entry key) ↔
      Apart (world.planOf a) plan_b (world.subscription a) (world.subscription b) (world.jobs.row id).job_type := by
  have houtside : ∀ tables, ((IspProvisioningJob.execute (dispatch surroundings) now id).exec
      { world with outside := tables }).2.outside =
        job_outcome (world.planOf a) (world.subscription a) surroundings.today surroundings.token_hex
          (world.jobs.row id).job_type tables := by
    intro tables
    exact @execute_outside μ surroundings now id a { world with outside := tables } hsub htype hrunnable hconnection
  simp only [houtside]
  exact job_outcome_isolated_iff

/-- Two customers of one router, and a queued job of the first. -/
def twoCustomers (first second : IspSubscription) (job_type : JobType) : World (Records Unit) RouterTables where
  jobs := (Store.empty { job_type, requested_at := 0 }).create
    { job_type, subscription_id := some 0, requested_at := 0 }
  records := {
    subscriptions := (Store.empty first).createAll [first, second]
    plans := twoServices
    plan_change_requests := Store.empty { subscription_id := 0, requested_plan_id := 0 }
    extension := () }
  outside := RouterTables.empty

/-- One router for everybody. -/
def sharedRouter : Surroundings RouterTables where
  network := {
    router_of_device := fun _ => none
    router_of_sector := fun _ => some 0
    get_routeros_client := fun _ => .ok RouterTables.cmd }
  today := firstDay
  token_hex := ""
  other_handler := fun _ => pure ()

/-- Suspending a fiber customer leaves the leased one with another name alone. -/
theorem isolation_iff_strangers :
    Apart (twoServices 1) (twoServices 0) fiberCustomer leasedCustomer .suspend_subscription ∧
      ∀ tables, ServedBy (twoServices 0) leasedCustomer tables →
        ∀ key ∈ activationKeys (twoServices 0) leasedCustomer,
          ((IspProvisioningJob.execute (dispatch sharedRouter) 0 0).exec
            { twoCustomers fiberCustomer leasedCustomer .suspend_subscription with
              outside := tables }).2.outside.entry key = tables.entry key := by
  have hapart : Apart (twoServices 1) (twoServices 0) fiberCustomer leasedCustomer .suspend_subscription := by
    intro key hkey hentry
    obtain rfl | rfl | rfl := eq_of_mem_jobKeys hkey
    · obtain ⟨hservice, _⟩ | ⟨_, hsame⟩ | hsame := eq_of_mem_activationKeys hentry
      · cases hservice
      · cases hsame
      · cases hsame
    · obtain ⟨hservice, _⟩ | ⟨_, hsame⟩ | hsame := eq_of_mem_activationKeys hentry
      · cases hservice
      · exact absurd (EntryKey.lease.inj hsame) (by decide)
      · cases hsame
    · obtain ⟨hservice, _⟩ | ⟨_, hsame⟩ | hsame := eq_of_mem_activationKeys hentry
      · cases hservice
      · cases hsame
      · exact absurd (EntryKey.queue.inj hsame) (by decide)
  refine ⟨hapart, (@isolation_iff Unit sharedRouter 0 0 0 1
    (twoCustomers fiberCustomer leasedCustomer .suspend_subscription) (twoServices 0) rfl ?_ (by decide) rfl).mpr hapart⟩
  simp [subscriptionJobs, twoCustomers, Store.create, Store.empty]

def namesake : IspSubscription where
  toSubscriptionValues := { leasedCustomer.toSubscriptionValues with
    service_ip := some "10.0.0.3"
    service_mac := some "AA:BB:CC:00:00:02" }
  checked := rfl

/-- Names are not unique: the suspension of one customer disables the queue of a
namesake. -/
theorem suspension_disables_queue_of_namesake :
    let world := twoCustomers leasedCustomer namesake .suspend_subscription
    UniqueUsername world.records.subscriptions ∧ UniqueStaticIp world.records.subscriptions ∧
      (0 ∈ world.records.subscriptions.ids ∧ 1 ∈ world.records.subscriptions.ids ∧ (0 : Nat) ≠ 1) ∧
      ∃ tables, ServedBy (twoServices 0) (world.subscription 1) tables ∧
        .queue "SUB0001" ∈ activationKeys (twoServices 0) (world.subscription 1) ∧
        ((IspProvisioningJob.execute (dispatch sharedRouter) 0 0).exec { world with outside := tables }).2.outside.entry
          (.queue "SUB0001") ≠ tables.entry (.queue "SUB0001") := by
  intro world
  have hserved : ServedBy (twoServices 0) (world.subscription 1) _ :=
    @ServedBy.activated (twoServices 0) (world.subscription 1) RouterTables.empty firstDay ""
      fun key _ => by cases key <;> rfl
  refine ⟨?_, ?_, by decide, _, hserved, by decide, fun hsame => ?_⟩
  · intro a ha b hb _ _
    have hunset : ∀ id ∈ [0, 1], (world.subscription id).pppoe_username = none := by decide
    exact hunset a ha
  · intro a ha b hb _ hstatic _
    have hdynamic : ∀ id ∈ [0, 1], (world.subscription id).dhcp_mode = .dynamic := by decide
    cases hstatic.2.1.symm.trans (hdynamic a ha)
  · have hflags : some true = some false := congrArg (Option.map Entry.disabled) hsame
    cases hflags

end getupnet.isp_mikrotik

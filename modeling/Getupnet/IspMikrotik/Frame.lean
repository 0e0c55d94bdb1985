import Getupnet.Relational.Frame
import Getupnet.IspMikrotik.ProvisioningJob

open relational
open calendar
open getupnet.isp_core

namespace getupnet.isp_mikrotik

/-- The place of an entry that provisioning keeps on a router. -/
inductive EntryKey where
  | secret (name : CharField)
  | lease (address : CharField)
  | queue (name : String)
  deriving DecidableEq

inductive Entry where
  | secret (secret : PppSecret)
  | lease (lease : DhcpLease)
  | queue (queue : SimpleQueue)
  deriving DecidableEq

def RouterTables.entry (key : EntryKey) (self : RouterTables) : Option Entry :=
  match key with
  | .secret name => (self.ppp_secrets.find name).map Entry.secret
  | .lease address => (self.dhcp_leases.find address).map Entry.lease
  | .queue name => (self.simple_queues.find name).map Entry.queue

/-- The entry that a command adds, changes or removes. -/
def Command.key : Command → Option EntryKey
  | .ppp_secret_add name _ _ _ => some (.secret name)
  | .ppp_secret_set numbers _ _ _ => some (.secret numbers)
  | .dhcp_lease_add address _ _ => some (.lease address)
  | .dhcp_lease_set numbers _ _ => some (.lease numbers)
  | .simple_queue_add name _ _ _ => some (.queue name)
  | .simple_queue_set numbers _ _ => some (.queue numbers)
  | .simple_queue_remove numbers => some (.queue numbers)
  | .ppp_active_remove _ => none
  | .hotspot_active_remove _ => none

theorem RouterTables.apply_keeps {κ ν μ : Type} {change : RouterTables → Option (KeyedTable κ ν)}
    {put : KeyedTable κ ν → RouterTables → RouterTables} {rejection : String} {view : RouterTables → μ}
    (h : ∀ tables table, change tables = some table → view (put table tables) = view tables) :
    (RouterTables.apply change put rejection).Keeps view := by
  intro tables
  rw [RouterTables.apply, Method.exec_ofFun]
  cases hchange : change tables with
  | none => rfl
  | some table => exact h tables table hchange

section

variable {tables : RouterTables} {key : EntryKey}

theorem RouterTables.entry_of_secrets {ppp_secrets : KeyedTable CharField PppSecret}
    (h : ∀ name, key = .secret name → ppp_secrets.find name = tables.ppp_secrets.find name) :
    RouterTables.entry key { tables with ppp_secrets } = tables.entry key := by
  cases key with
  | secret name => exact congrArg (Option.map Entry.secret) (h name rfl)
  | lease address => rfl
  | queue name => rfl

theorem RouterTables.entry_of_leases {dhcp_leases : KeyedTable CharField DhcpLease}
    (h : ∀ address, key = .lease address → dhcp_leases.find address = tables.dhcp_leases.find address) :
    RouterTables.entry key { tables with dhcp_leases } = tables.entry key := by
  cases key with
  | secret name => rfl
  | lease address => exact congrArg (Option.map Entry.lease) (h address rfl)
  | queue name => rfl

theorem RouterTables.entry_of_queues {simple_queues : KeyedTable String SimpleQueue}
    (h : ∀ name, key = .queue name → simple_queues.find name = tables.simple_queues.find name) :
    RouterTables.entry key { tables with simple_queues } = tables.entry key := by
  cases key with
  | secret name => rfl
  | lease address => rfl
  | queue name => exact congrArg (Option.map Entry.queue) (h name rfl)

end

/-- A command on a router touches no entry but its own. -/
theorem RouterTables.cmd_keeps {command : Command} {key : EntryKey} (h : command.key ≠ some key) :
    (RouterTables.cmd command).Keeps (RouterTables.entry key) := by
  have hne : ∀ {own : EntryKey}, command.key = some own → key ≠ own := by
    rintro own hown rfl
    exact h hown
  cases command with
  | ppp_secret_add name password profile service =>
    refine RouterTables.apply_keeps fun tables table hadd => RouterTables.entry_of_secrets fun other hkey => ?_
    exact KeyedTable.add_find_ne hadd fun heq => hne rfl (by rw [hkey, heq])
  | ppp_secret_set numbers password profile disabled =>
    refine RouterTables.apply_keeps fun tables table hset => RouterTables.entry_of_secrets fun other hkey => ?_
    exact KeyedTable.set_find_ne hset fun heq => hne rfl (by rw [hkey, heq])
  | dhcp_lease_add address mac_address comment =>
    refine RouterTables.apply_keeps fun tables table hadd => RouterTables.entry_of_leases fun other hkey => ?_
    exact KeyedTable.add_find_ne hadd fun heq => hne rfl (by rw [hkey, heq])
  | dhcp_lease_set numbers comment disabled =>
    refine RouterTables.apply_keeps fun tables table hset => RouterTables.entry_of_leases fun other hkey => ?_
    exact KeyedTable.set_find_ne hset fun heq => hne rfl (by rw [hkey, heq])
  | simple_queue_add name target max_limit comment =>
    refine RouterTables.apply_keeps fun tables table hadd => RouterTables.entry_of_queues fun other hkey => ?_
    exact KeyedTable.add_find_ne hadd fun heq => hne rfl (by rw [hkey, heq])
  | simple_queue_set numbers max_limit disabled =>
    refine RouterTables.apply_keeps fun tables table hset => RouterTables.entry_of_queues fun other hkey => ?_
    exact KeyedTable.set_find_ne hset fun heq => hne rfl (by rw [hkey, heq])
  | simple_queue_remove numbers =>
    refine RouterTables.apply_keeps fun tables table hremove => RouterTables.entry_of_queues fun other hkey => ?_
    exact KeyedTable.remove_find_ne hremove fun heq => hne rfl (by rw [hkey, heq])
  | ppp_active_remove numbers => exact RouterTables.apply_keeps fun tables table hremove => by cases key <;> rfl
  | hotspot_active_remove numbers => exact RouterTables.apply_keeps fun tables table hremove => by cases key <;> rfl

section

variable {ρ ν : Type} {client : Client ρ} {view : ρ → ν} {key : EntryKey} {plan : IspServicePlan}
  {sub : IspSubscription}

/-- Only commands about one entry may change a view of the router's state. -/
def Client.Shows (client : Client ρ) (key : EntryKey) (view : ρ → ν) : Prop :=
  ∀ command : Command, command.key ≠ some key → (client command).Keeps view

theorem exceptRouteros_keeps {α : Type} {body handler : Method ρ OdooError α} (hbody : body.Keeps view)
    (hhandler : handler.Keeps view) : (exceptRouteros body handler).Keeps view := by
  refine Method.Keeps.tryCatch hbody fun exception => ?_
  cases exception with
  | routeros message => exact hhandler
  | user message => exact fun _ => rfl
  | validation message => exact fun _ => rfl
  | other message => exact fun _ => rfl

theorem routeros_pppoe_ensure_secret_keeps (hclient : client.Shows key view)
    (h : key ≠ .secret sub.pppoe_username) : (routeros_pppoe_ensure_secret client plan sub).Keeps view := by
  have hkey : some (EntryKey.secret sub.pppoe_username) ≠ some key := fun heq => h (Option.some.inj heq).symm
  exact exceptRouteros_keeps (hclient _ hkey) (hclient _ hkey)

theorem routeros_pppoe_disable_keeps (hclient : client.Shows key view) (h : key ≠ .secret sub.pppoe_username) :
    (routeros_pppoe_disable client sub).Keeps view := by
  have hkey : some (EntryKey.secret sub.pppoe_username) ≠ some key := fun heq => h (Option.some.inj heq).symm
  exact exceptRouteros_keeps (hclient _ hkey) Method.Keeps.pure

theorem routeros_pppoe_enable_keeps (hclient : client.Shows key view) (h : key ≠ .secret sub.pppoe_username) :
    (routeros_pppoe_enable client sub).Keeps view := by
  have hkey : some (EntryKey.secret sub.pppoe_username) ≠ some key := fun heq => h (Option.some.inj heq).symm
  exact exceptRouteros_keeps (hclient _ hkey) Method.Keeps.pure

/-- Without an address or a MAC the lease helper sends nothing. -/
theorem routeros_dhcp_ensure_lease_keeps (hclient : client.Shows key view)
    (h : truthy sub.service_ip = true → truthy sub.service_mac = true → key ≠ .lease sub.service_ip) :
    (routeros_dhcp_ensure_lease client sub).Keeps view := by
  unfold routeros_dhcp_ensure_lease
  split
  · exact Method.Keeps.pure
  · rename_i hsent
    rw [not_or, Bool.not_eq_false, Bool.not_eq_false] at hsent
    have hkey : some (EntryKey.lease sub.service_ip) ≠ some key :=
      fun heq => h hsent.1 hsent.2 (Option.some.inj heq).symm
    exact exceptRouteros_keeps (hclient _ hkey) (hclient _ hkey)

theorem routeros_queue_ensure_keeps (hclient : client.Shows key view)
    (h : truthy sub.service_ip = true → key ≠ .queue sub.name) :
    (routeros_queue_ensure client plan sub).Keeps view := by
  unfold routeros_queue_ensure
  split
  · exact Method.Keeps.pure
  · rename_i hsent
    have hkey : some (EntryKey.queue sub.name) ≠ some key :=
      fun heq => h (Bool.not_eq_false _ ▸ hsent) (Option.some.inj heq).symm
    exact exceptRouteros_keeps (hclient _ hkey) (hclient _ hkey)

theorem routeros_queue_disable_keeps (hclient : client.Shows key view) (h : key ≠ .queue sub.name) :
    (routeros_queue_disable client sub).Keeps view := by
  have hkey : some (EntryKey.queue sub.name) ≠ some key := fun heq => h (Option.some.inj heq).symm
  exact exceptRouteros_keeps (hclient _ hkey) Method.Keeps.pure

theorem routeros_queue_remove_keeps (hclient : client.Shows key view) (h : key ≠ .queue sub.name) :
    (routeros_queue_remove client sub).Keeps view := by
  have hkey : some (EntryKey.queue sub.name) ≠ some key := fun heq => h (Option.some.inj heq).symm
  exact exceptRouteros_keeps (hclient _ hkey) Method.Keeps.pure

end

/-- The entry of the lease helper, which skips a subscription without an address
or a MAC. -/
def leaseKeys (sub : IspSubscription) : List EntryKey :=
  if truthy sub.service_ip = true ∧ truthy sub.service_mac = true then [.lease sub.service_ip] else []

/-- The entry of the queue helper, which skips a subscription without an address. -/
def queueKeys (sub : IspSubscription) : List EntryKey :=
  if truthy sub.service_ip = true then [.queue sub.name] else []

def secretKeys (plan : IspServicePlan) (sub : IspSubscription) : List EntryKey :=
  if plan.service_type = .pppoe then [.secret sub.pppoe_username] else []

theorem mem_leaseKeys {key : EntryKey} {sub : IspSubscription} :
    key ∈ leaseKeys sub ↔
      truthy sub.service_ip = true ∧ truthy sub.service_mac = true ∧ key = .lease sub.service_ip := by
  unfold leaseKeys
  split <;> simp_all

theorem mem_queueKeys {key : EntryKey} {sub : IspSubscription} :
    key ∈ queueKeys sub ↔ truthy sub.service_ip = true ∧ key = .queue sub.name := by
  unfold queueKeys
  split <;> simp_all

theorem mem_secretKeys {key : EntryKey} {plan : IspServicePlan} {sub : IspSubscription} :
    key ∈ secretKeys plan sub ↔ plan.service_type = .pppoe ∧ key = .secret sub.pppoe_username := by
  unfold secretKeys
  split <;> simp_all

/-- The entries that an activation ensures. -/
def activationKeys (plan : IspServicePlan) (sub : IspSubscription) : List EntryKey :=
  match plan.service_type with
  | .pppoe => .secret sub.pppoe_username :: queueKeys sub
  | .dhcp => leaseKeys sub ++ queueKeys sub
  | .hotspot => queueKeys sub

/-- The entries that the commands of a job are about. -/
def jobKeys (plan : IspServicePlan) (sub : IspSubscription) : JobType → List EntryKey
  | .activate_subscription => activationKeys plan sub
  | .suspend_subscription | .terminate_subscription => secretKeys plan sub ++ [.queue sub.name]
  | .reconnect_subscription | .change_plan => secretKeys plan sub ++ queueKeys sub
  | .activate_pppoe => [.secret sub.pppoe_username]
  | .activate_dhcp => leaseKeys sub
  | .ensure_queue => queueKeys sub
  | _ => []

/-- The commands of a job on a connected router. -/
def job_commands {ρ : Type} (client : Client ρ) (plan : IspServicePlan) (sub : IspSubscription) :
    JobType → Method ρ OdooError Unit
  | .activate_subscription => do
    match plan.service_type with
    | .pppoe => routeros_pppoe_ensure_secret client plan sub
    | .dhcp => routeros_dhcp_ensure_lease client sub
    | .hotspot => pure ()
    routeros_queue_ensure client plan sub
  | .suspend_subscription => do
    if plan.service_type = .pppoe then routeros_pppoe_disable client sub
    routeros_queue_disable client sub
  | .reconnect_subscription => do
    if plan.service_type = .pppoe then routeros_pppoe_enable client sub
    routeros_queue_ensure client plan sub
  | .terminate_subscription => do
    if plan.service_type = .pppoe then routeros_pppoe_disable client sub
    routeros_queue_remove client sub
  | .change_plan => do
    if plan.service_type = .pppoe then routeros_pppoe_ensure_secret client plan sub
    routeros_queue_ensure client plan sub
  | .disconnect_session =>
    if plan.service_type = .pppoe then client (.ppp_active_remove sub.pppoe_username)
    else client (.hotspot_active_remove sub.pppoe_username)
  | .activate_pppoe => routeros_pppoe_ensure_secret client plan sub
  | .activate_dhcp => routeros_dhcp_ensure_lease client sub
  | .ensure_queue => routeros_queue_ensure client plan sub
  | _ => pure ()

section

variable {ρ ν : Type} {client : Client ρ} {view : ρ → ν} {key : EntryKey} {plan : IspServicePlan}
  {sub : IspSubscription} {today : Date} {token_hex : String} {job_type : JobType} {handler : Handler ρ Unit}
  {router : ρ}

/-- A connected handler leaves on the router what its commands leave, whether it
returns or raises. -/
theorem subscription_handler_outside
    (h : subscription_handler plan today token_hex (.ok client) job_type = some handler) :
    (handler.exec (sub, router)).2.2 = ((job_commands client plan sub job_type).exec router).2 := by
  cases job_type <;> cases h
  case activate_subscription =>
    rw [handle_activate_subscription, Method.exec_bind, Handler.exec_ensure_pppoe_credentials]
    simp only [Handler.exec_connected, Handler.commands_write_outside]
    rfl
  case suspend_subscription =>
    rw [handle_suspend_subscription, Handler.switch, Handler.exec_connected, Handler.commands_write_outside]
    rfl
  case reconnect_subscription =>
    rw [handle_reconnect_subscription, Handler.switch, Handler.exec_connected, Handler.commands_write_outside]
    rfl
  case terminate_subscription =>
    rw [handle_terminate_subscription, Handler.switch, Handler.exec_connected, Handler.commands_write_outside]
    rfl
  case change_plan => rfl
  case disconnect_session =>
    rw [handle_disconnect_session, Handler.exec_connected, Handler.exec_commands]
    rfl
  case activate_pppoe =>
    rw [handle_activate_pppoe, Method.exec_bind, Handler.exec_ensure_pppoe_credentials]
    rfl
  case activate_dhcp => rfl
  case ensure_queue => rfl

/-- The frame of a job: an entry that it is not about looks as before, however the router
answers. The view may be of any kind, as long as the router shows it by its key. -/
theorem job_commands_keeps (hclient : client.Shows key view) (hkey : key ∉ jobKeys plan sub job_type) :
    (job_commands client plan sub job_type).Keeps view := by
  have hsecret : key ∉ secretKeys plan sub → plan.service_type = .pppoe → key ≠ .secret sub.pppoe_username :=
    fun hnot hpppoe heq => hnot (mem_secretKeys.mpr ⟨hpppoe, heq⟩)
  have hqueue : key ∉ queueKeys sub → truthy sub.service_ip = true → key ≠ .queue sub.name :=
    fun hnot hip heq => hnot (mem_queueKeys.mpr ⟨hip, heq⟩)
  have hlease : key ∉ leaseKeys sub → truthy sub.service_ip = true → truthy sub.service_mac = true →
      key ≠ .lease sub.service_ip :=
    fun hnot hip hmac heq => hnot (mem_leaseKeys.mpr ⟨hip, hmac, heq⟩)
  -- a command for the secret of a PPPoE plan, then one for the queue
  have hswitch : ∀ {secret queue : Method ρ OdooError Unit},
      (plan.service_type = .pppoe → secret.Keeps view) → queue.Keeps view →
      (do if plan.service_type = .pppoe then secret
          queue : Method ρ OdooError Unit).Keeps view := by
    intro secret queue hkeeps hrest
    by_cases hpppoe : plan.service_type = .pppoe
    · rw [if_pos hpppoe]
      exact Method.Keeps.bind (hkeeps hpppoe) fun _ => hrest
    · rw [if_neg hpppoe]
      exact hrest
  cases job_type with
  | activate_subscription =>
    rw [jobKeys, activationKeys] at hkey
    rw [job_commands]
    cases hservice : plan.service_type with
    | pppoe =>
      simp only [hservice, List.mem_cons, not_or] at hkey
      exact Method.Keeps.bind (routeros_pppoe_ensure_secret_keeps hclient hkey.1) fun _ =>
        routeros_queue_ensure_keeps hclient (hqueue hkey.2)
    | dhcp =>
      simp only [hservice, List.mem_append, not_or] at hkey
      exact Method.Keeps.bind (routeros_dhcp_ensure_lease_keeps hclient (hlease hkey.1)) fun _ =>
        routeros_queue_ensure_keeps hclient (hqueue hkey.2)
    | hotspot =>
      rw [hservice] at hkey
      exact routeros_queue_ensure_keeps hclient (hqueue hkey)
  | suspend_subscription =>
    rw [jobKeys, List.mem_append, not_or, List.mem_singleton] at hkey
    exact hswitch (fun hpppoe => routeros_pppoe_disable_keeps hclient (hsecret hkey.1 hpppoe))
      (routeros_queue_disable_keeps hclient hkey.2)
  | terminate_subscription =>
    rw [jobKeys, List.mem_append, not_or, List.mem_singleton] at hkey
    exact hswitch (fun hpppoe => routeros_pppoe_disable_keeps hclient (hsecret hkey.1 hpppoe))
      (routeros_queue_remove_keeps hclient hkey.2)
  | reconnect_subscription =>
    rw [jobKeys, List.mem_append, not_or] at hkey
    exact hswitch (fun hpppoe => routeros_pppoe_enable_keeps hclient (hsecret hkey.1 hpppoe))
      (routeros_queue_ensure_keeps hclient (hqueue hkey.2))
  | change_plan =>
    rw [jobKeys, List.mem_append, not_or] at hkey
    exact hswitch (fun hpppoe => routeros_pppoe_ensure_secret_keeps hclient (hsecret hkey.1 hpppoe))
      (routeros_queue_ensure_keeps hclient (hqueue hkey.2))
  | disconnect_session =>
    rw [job_commands]
    split
    · exact hclient _ (by simp [Command.key])
    · exact hclient _ (by simp [Command.key])
  | activate_pppoe =>
    exact routeros_pppoe_ensure_secret_keeps hclient fun heq => hkey (List.mem_singleton.mpr heq)
  | activate_dhcp => exact routeros_dhcp_ensure_lease_keeps hclient (hlease hkey)
  | ensure_queue => exact routeros_queue_ensure_keeps hclient (hqueue hkey)
  | _ => exact Method.Keeps.pure

theorem eq_of_mem_activationKeys (h : key ∈ activationKeys plan sub) :
    plan.service_type = .pppoe ∧ key = .secret sub.pppoe_username ∨
      plan.service_type = .dhcp ∧ key = .lease sub.service_ip ∨ key = .queue sub.name := by
  cases hservice : plan.service_type <;> simp only [activationKeys, hservice, List.mem_cons, List.mem_append,
    mem_queueKeys, mem_leaseKeys] at h <;> tauto

theorem eq_of_mem_jobKeys (h : key ∈ jobKeys plan sub job_type) :
    key = .secret sub.pppoe_username ∨ key = .lease sub.service_ip ∨ key = .queue sub.name := by
  cases job_type with
  | activate_subscription =>
    have hown := eq_of_mem_activationKeys h
    tauto
  | _ =>
    simp only [jobKeys, List.mem_append, List.mem_singleton, List.not_mem_nil, mem_secretKeys, mem_queueKeys,
      mem_leaseKeys] at h <;> tauto

/-- A handler leaves alone what no command of its client touches. -/
theorem subscription_handler_keeps {connection : Except OdooError (Client ρ)}
    (hclient : ∀ client, connection = .ok client → ∀ command, (client command).Keeps view)
    (h : subscription_handler plan today token_hex connection job_type = some handler) :
    handler.Keeps fun state => view state.2 := by
  rintro ⟨sub, router⟩
  cases connection with
  | ok client =>
    have hfree : EntryKey.queue (sub.name ++ "'") ∉ jobKeys plan sub job_type := by
      intro hmem
      obtain hkey | hkey | hkey := eq_of_mem_jobKeys hmem
      · cases hkey
      · cases hkey
      · have hlength := congrArg String.length (EntryKey.queue.inj hkey)
        rw [String.length_append] at hlength
        exact absurd hlength (Nat.ne_of_gt (Nat.lt_add_of_pos_right (by decide)))
    have houtside : (handler.exec (sub, router)).2.2 = _ := subscription_handler_outside h
    have hkeeps := job_commands_keeps (fun command _ => hclient client rfl command) hfree router
    simp only [houtside, hkeeps]
  | error exception =>
    cases job_type <;> cases h
    case error.activate_subscription.refl =>
      rw [handle_activate_subscription, Method.exec_bind, Handler.exec_ensure_pppoe_credentials]
      rfl
    case error.activate_pppoe.refl =>
      rw [handle_activate_pppoe, Method.exec_bind, Handler.exec_ensure_pppoe_credentials]
      rfl
    all_goals rfl

end

end getupnet.isp_mikrotik

import Getupnet.Relational.Replay
import Getupnet.IspMikrotik.Dispatch

open relational
open calendar
open getupnet.isp_core

namespace getupnet.isp_core

variable {σ ρ : Type}

/-- What the server stores, with nothing outside. -/
def World.database (self : World σ ρ) : World σ Unit where
  jobs := self.jobs
  records := self.records
  outside := ()

/-- A job that is executed is settled alike by another lookup of handlers whose handlers
store the same whenever the first ones return. -/
theorem IspProvisioningJob.execute_replayed {dispatch : Dispatch σ ρ} {replay : Dispatch σ Unit}
    (h : ∀ id job, Method.ReplayedBy (fun state : σ × ρ => (state.1, ())) (dispatch id job) (replay id job))
    (now id : Nat) :
    Method.ReplayedBy World.database (IspProvisioningJob.execute dispatch now id)
      (IspProvisioningJob.execute replay now id) := by
  rintro world ⟨⟩ after hexec
  by_cases hqueued : (world.jobs.row id).state = .queued
  · by_cases hattempts : (world.jobs.row id).max_attempts ≤ (world.jobs.row id).attempts
    · rw [IspProvisioningJob.execute_of_exhausted dispatch now id hqueued hattempts] at hexec
      obtain ⟨-, rfl⟩ := Prod.mk.inj hexec
      exact IspProvisioningJob.execute_of_exhausted replay now id hqueued hattempts
    · have hrunnable : (world.jobs.row id).Runnable := ⟨hqueued, Nat.not_le.mp hattempts⟩
      obtain ⟨hjobs, ⟨-, hdispatch⟩ | ⟨hnot, -⟩⟩ := IspProvisioningJob.execute_returns hexec
      · have hreplay := h id ((world.jobs.row id).started now) _ _ _ hdispatch
        have hstored : (world.database.jobs.row id).Runnable := hrunnable
        rw [IspProvisioningJob.execute_exec replay now id hreplay]
        simp only [if_pos hstored]
        rw [World.database, World.database, hjobs]
      · exact absurd hrunnable hnot
  · rw [IspProvisioningJob.execute_of_not_queued dispatch now id hqueued] at hexec
    obtain ⟨-, rfl⟩ := Prod.mk.inj hexec
    exact IspProvisioningJob.execute_of_not_queued replay now id hqueued

end getupnet.isp_core

namespace getupnet.isp_mikrotik

variable {μ ρ : Type}

/-- The same routers in dry-run mode, where nothing is connected. -/
def Network.dry_run (self : Network ρ) : Network Unit where
  router_of_device := self.router_of_device
  router_of_sector := self.router_of_sector
  get_routeros_client := fun _ => .ok Client.dry_run

/-- The same server in dry-run mode. The handlers that work on no subscription (the
healthcheck and those of the captive portal) return there as well; what they write on
devices and captive users is no part of a `World`. -/
def Surroundings.dry_run (self : Surroundings ρ) : Surroundings Unit where
  network := self.network.dry_run
  today := self.today
  token_hex := self.token_hex
  other_handler := fun _ => pure ()

section

variable (plan : IspServicePlan) (sub : IspSubscription)

theorem routeros_pppoe_ensure_secret_dry_run :
    (routeros_pppoe_ensure_secret Client.dry_run plan sub).exec () = (.ok (), ()) := rfl

theorem routeros_dhcp_ensure_lease_dry_run :
    (routeros_dhcp_ensure_lease Client.dry_run sub).exec () = (.ok (), ()) := by
  unfold routeros_dhcp_ensure_lease
  split <;> rfl

theorem routeros_queue_ensure_dry_run :
    (routeros_queue_ensure Client.dry_run plan sub).exec () = (.ok (), ()) := by
  unfold routeros_queue_ensure
  split <;> rfl

end

/-- What a handler sees and stores. -/
def Handler.stored (state : IspSubscription × ρ) : IspSubscription × Unit := (state.1, ())

section

variable {plan : IspServicePlan} {today : Date} {token_hex : String} {connection : Except OdooError (Client ρ)}
  {dry : Except OdooError (Client Unit)}

/-- Commands leave the record alone, so commands that get through replay any others. -/
theorem Handler.commands_replayed (send : IspSubscription → Method ρ OdooError Unit)
    {quiet : IspSubscription → Method Unit OdooError Unit} (hquiet : ∀ sub, (quiet sub).exec () = (.ok (), ())) :
    Method.ReplayedBy Handler.stored (Handler.commands send) (Handler.commands quiet) := by
  rintro ⟨sub, router⟩ ⟨⟩ ⟨after, later⟩ h
  obtain ⟨rfl, -⟩ := Handler.commands_returns h
  rw [Handler.stored, Handler.exec_commands, hquiet]
  rfl

theorem Handler.write_replayed (change : SubscriptionValues → SubscriptionValues) :
    Method.ReplayedBy Handler.stored (Handler.write change : Handler ρ Unit) (Handler.write change) := by
  rintro ⟨sub, router⟩ ⟨⟩ after h
  simp only [Handler.write, Method.exec_ofFun, Handler.stored] at h ⊢
  cases hwrite : sub.write change with
  | error exception =>
    rw [hwrite] at h
    cases h
  | ok record =>
    rw [hwrite] at h
    cases h
    rfl

theorem Handler.ensure_pppoe_credentials_replayed (plan : IspServicePlan) (token_hex : String) :
    Method.ReplayedBy Handler.stored (Handler.ensure_pppoe_credentials plan token_hex : Handler ρ Unit)
      (Handler.ensure_pppoe_credentials plan token_hex) := by
  rintro ⟨sub, router⟩ ⟨⟩ after h
  rw [Handler.exec_ensure_pppoe_credentials] at h
  cases h
  rw [Handler.stored, Handler.exec_ensure_pppoe_credentials]
  rfl

/-- Once a router can be connected it can be in dry-run mode. -/
theorem Handler.connected_replayed {next : Client ρ → Handler ρ Unit} {later : Client Unit → Handler Unit Unit}
    (hdry : ∀ client, connection = .ok client → dry = .ok Client.dry_run)
    (hnext : ∀ client, Method.ReplayedBy Handler.stored (next client) (later Client.dry_run)) :
    Method.ReplayedBy Handler.stored (Method.ofExcept connection >>= next) (Method.ofExcept dry >>= later) :=
  .ofExcept_bind fun client hclient => ⟨Client.dry_run, hdry client hclient, hnext client⟩

theorem Handler.switch_replayed (hdry : ∀ client, connection = .ok client → dry = .ok Client.dry_run)
    (secret queue : Client ρ → IspSubscription → Method ρ OdooError Unit)
    {quiet_secret quiet_queue : Client Unit → IspSubscription → Method Unit OdooError Unit}
    (hsecret : ∀ sub, (quiet_secret Client.dry_run sub).exec () = (.ok (), ()))
    (hqueue : ∀ sub, (quiet_queue Client.dry_run sub).exec () = (.ok (), ())) (state : SubscriptionState) :
    Method.ReplayedBy Handler.stored (Handler.switch plan connection secret queue state)
      (Handler.switch plan dry quiet_secret quiet_queue state) := by
  refine Handler.connected_replayed hdry fun client => ?_
  refine (Handler.commands_replayed _ fun sub => ?_).bind fun _ => Handler.write_replayed _
  split
  · rw [Method.exec_bind_of_ok (hsecret sub), hqueue]
  · exact hqueue sub

/-- Each handler stores in dry-run mode what it stores after it has reached its router. -/
theorem subscription_handler_replayed (hdry : ∀ client, connection = .ok client → dry = .ok Client.dry_run)
    (job_type : JobType) :
    Method.ReplayedBy Handler.stored ((subscription_handler plan today token_hex connection job_type).getD (pure ()))
      ((subscription_handler plan today token_hex dry job_type).getD (pure ())) := by
  cases job_type
  case activate_subscription =>
    refine (Handler.ensure_pppoe_credentials_replayed plan token_hex).bind fun _ => ?_
    refine Handler.connected_replayed hdry fun client => ?_
    refine (Handler.commands_replayed _ fun sub => ?_).bind fun _ => Handler.write_replayed _
    cases plan.service_type with
    | pppoe =>
      rw [Method.exec_bind_of_ok (routeros_pppoe_ensure_secret_dry_run plan sub)]
      exact routeros_queue_ensure_dry_run plan sub
    | dhcp =>
      rw [Method.exec_bind_of_ok (routeros_dhcp_ensure_lease_dry_run sub)]
      exact routeros_queue_ensure_dry_run plan sub
    | hotspot => exact routeros_queue_ensure_dry_run plan sub
  case suspend_subscription => exact Handler.switch_replayed hdry _ _ (fun _ => rfl) (fun _ => rfl) _
  case reconnect_subscription =>
    exact Handler.switch_replayed hdry _ _ (fun _ => rfl) (routeros_queue_ensure_dry_run plan) _
  case terminate_subscription => exact Handler.switch_replayed hdry _ _ (fun _ => rfl) (fun _ => rfl) _
  case change_plan =>
    refine Handler.connected_replayed hdry fun client => Handler.commands_replayed _ fun sub => ?_
    split
    · rw [Method.exec_bind_of_ok (routeros_pppoe_ensure_secret_dry_run plan sub)]
      exact routeros_queue_ensure_dry_run plan sub
    · exact routeros_queue_ensure_dry_run plan sub
  case disconnect_session =>
    refine Handler.connected_replayed hdry fun client => Handler.commands_replayed _ fun sub => ?_
    split <;> rfl
  case activate_pppoe =>
    refine (Handler.ensure_pppoe_credentials_replayed plan token_hex).bind fun _ => ?_
    exact Handler.connected_replayed hdry fun client =>
      Handler.commands_replayed _ (routeros_pppoe_ensure_secret_dry_run plan)
  case activate_dhcp =>
    exact Handler.connected_replayed hdry fun client =>
      Handler.commands_replayed _ routeros_dhcp_ensure_lease_dry_run
  case ensure_queue =>
    exact Handler.connected_replayed hdry fun client =>
      Handler.commands_replayed _ (routeros_queue_ensure_dry_run plan)
  all_goals exact .pure ()

end

section

variable {surroundings : Surroundings ρ} {job : IspProvisioningJob}

/-- A router that is found is found in dry-run mode. -/
theorem Surroundings.connection_dry_run {sub : IspSubscription} {client : Client ρ}
    (h : surroundings.connection job sub = .ok client) :
    surroundings.dry_run.connection job sub = .ok Client.dry_run := by
  unfold Surroundings.connection at h ⊢
  have hsame : get_router surroundings.dry_run.network job sub = get_router surroundings.network job sub := rfl
  rw [hsame]
  cases hrouter : get_router surroundings.network job sub with
  | error exception =>
    rw [hrouter] at h
    cases h
  | ok router => rfl

theorem handle_subscription_replayed :
    Method.ReplayedBy (fun state : Records μ × ρ => (state.1, ())) (handle_subscription surroundings job)
      (handle_subscription surroundings.dry_run job) := by
  unfold handle_subscription
  cases job.subscription_id with
  | none => exact .throw _
  | some id =>
    refine .get_bind fun state => ?_
    exact .focus (fun _ => rfl) (fun _ _ => rfl)
      (subscription_handler_replayed (fun _ hclient => Surroundings.connection_dry_run hclient) job.job_type)

/-- Whatever a job stores when its handler returns, it stores in dry-run mode. -/
theorem dispatch_replayed (id : Nat) (job : IspProvisioningJob) :
    Method.ReplayedBy (fun state : Records μ × ρ => (state.1, ())) (dispatch surroundings id job)
      (dispatch surroundings.dry_run id job) := by
  have hother : Method.ReplayedBy (fun state : Records μ × ρ => (state.1, ()))
      (Method.focus Prod.snd (fun outside (state : Records μ × ρ) => (state.1, outside))
        (surroundings.other_handler job))
      (Method.focus Prod.snd (fun outside (state : Records μ × Unit) => (state.1, outside))
        (surroundings.dry_run.other_handler job)) := by
    rintro state ⟨⟩ after h
    obtain ⟨-, rfl⟩ := Prod.mk.inj h
    rfl
  unfold dispatch
  cases job.job_type with
  | export_config_snapshot => exact .throw _
  | mikrotik_healthcheck => exact hother
  | captive_user_create => exact hother
  | captive_user_disable => exact hother
  | walled_garden_apply => exact hother
  | _ => exact handle_subscription_replayed

end

end getupnet.isp_mikrotik

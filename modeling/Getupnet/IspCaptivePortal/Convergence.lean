import Getupnet.IspCaptivePortal.ProvisioningJob
import Getupnet.IspMikrotik.Access

open relational
open getupnet.isp_core
open getupnet.isp_mikrotik

namespace getupnet.isp_captive_portal

/-- The commands of `_handle_captive_user_create`. -/
def captive_user_ensure {ρ : Type} (client : HotspotCommand → Method ρ OdooError Unit) (user : IspCaptiveUser)
    (comment : String) : Method ρ OdooError Unit :=
  let profile := textOr user.profile "default"
  exceptRouteros (client (.hotspot_user_add user.username (textOr user.password "") profile comment))
    (client (.hotspot_user_set user.username (some profile) false))

/-- The handler finds its user and router, sends those commands and stores the state. -/
theorem handle_captive_user_create_eq (routers : Routers) (job : Nat) :
    handle_captive_user_create routers job = (do
      let portal := (← get).1.extension
      let user_id ← Method.ofExcept
        (required (portal.payload job).captive_user_id "captive_user_id missing in payload.")
      let user ← Method.ofExcept (browse portal.users user_id)
      let router ← Method.ofExcept (get_router_for_captive routers user.router_id user.sector_id)
      let client ← Method.ofExcept (routers.get_routeros_client router)
      PortalHandler.send (captive_user_ensure (fun command => client (.inr command)) user
        ((user.sector_id.map portal.sector_code).getD ""))
      PortalHandler.write_user user_id .active) := rfl

/-- RouterOS reads a limit as upload and then download. -/
def MaxLimit.upload (self : MaxLimit) : ℚ := self.first

def MaxLimit.download (self : MaxLimit) : ℚ := self.second

/-- The helpers that add an entry and fall back to changing the one there is. -/
inductive EnsureHelper where
  | pppoe_ensure_secret
  | dhcp_ensure_lease
  | queue_ensure
  | captive_user_create

/-- A subscription with its plan, a captive user with the code of its sector, and the
routers that serve them. -/
structure Ensured where
  plan : IspServicePlan
  sub : IspSubscription
  tables : RouterTables
  user : IspCaptiveUser
  sector_code : String
  hotspot : HotspotTables

/-- A helper that succeeds leaves an enabled entry with the values on record, whichever
path it took. -/
def Ensured.Converges (self : Ensured) : EnsureHelper → Prop
  | .pppoe_ensure_secret => ∀ after,
    (routeros_pppoe_ensure_secret RouterTables.cmd self.plan self.sub).exec self.tables = (.ok (), after) →
    ∃ secret, after.ppp_secrets.find self.sub.pppoe_username = some secret ∧
      secret.password = self.sub.pppoe_password ∧ secret.profile = textOr self.plan.mikrotik_profile "default" ∧
      secret.disabled = false
  | .dhcp_ensure_lease => ∀ after,
    (routeros_dhcp_ensure_lease RouterTables.cmd self.sub).exec self.tables = (.ok (), after) →
    truthy self.sub.service_ip = true → truthy self.sub.service_mac = true →
    ∃ lease, after.dhcp_leases.find self.sub.service_ip = some lease ∧ lease.mac_address = self.sub.service_mac ∧
      lease.disabled = false
  | .queue_ensure => ∀ after,
    (routeros_queue_ensure RouterTables.cmd self.plan self.sub).exec self.tables = (.ok (), after) →
    truthy self.sub.service_ip = true →
    ∃ queue, after.simple_queues.find self.sub.name = some queue ∧
      queue.target = self.sub.service_ip.getD "" ++ "/32" ∧ MaxLimit.upload queue.max_limit = self.plan.up_mbps ∧
      MaxLimit.download queue.max_limit = self.plan.down_mbps ∧ queue.disabled = false
  | .captive_user_create => ∀ after,
    (captive_user_ensure HotspotTables.cmd self.user self.sector_code).exec self.hotspot = (.ok (), after) →
    ∃ user, after.hotspot_users.find self.user.username = some user ∧
      user.password = textOr self.user.password "" ∧
      user.profile = textOr self.user.profile "default" ∧ user.disabled = false

/-- An entry that is there has the values on record that the fallback does not write,
and a queue's two speeds are the same. -/
def Ensured.Agrees (self : Ensured) : EnsureHelper → Prop
  | .pppoe_ensure_secret => True
  | .dhcp_ensure_lease => truthy self.sub.service_ip = true → truthy self.sub.service_mac = true →
    ∀ lease, self.tables.dhcp_leases.find self.sub.service_ip = some lease →
      lease.mac_address = self.sub.service_mac
  | .queue_ensure => truthy self.sub.service_ip = true → self.plan.up_mbps = self.plan.down_mbps ∧
    ∀ queue, self.tables.simple_queues.find self.sub.name = some queue →
      queue.target = self.sub.service_ip.getD "" ++ "/32"
  | .captive_user_create => ∀ user, self.hotspot.hotspot_users.find self.user.username = some user →
    user.password = textOr self.user.password ""

section

variable {self : Ensured}

theorem captive_user_ensure_exec (user : IspCaptiveUser) (comment : String) (hotspot : HotspotTables) :
    (captive_user_ensure HotspotTables.cmd user comment).exec hotspot =
      (.ok (), { hotspot with
        hotspot_users := hotspot.hotspot_users.ensure user.username
          { password := textOr user.password "", profile := textOr user.profile "default", comment, disabled := false }
          fun present => { present with profile := textOr user.profile "default", disabled := false } }) := by
  obtain hadd | ⟨hadd, hset⟩ := hotspot.hotspot_users.add_or_set user.username
    { password := textOr user.password "", profile := textOr user.profile "default", comment, disabled := false }
    fun present => { present with profile := textOr user.profile "default", disabled := false }
  · simp [captive_user_ensure, exceptRouteros, HotspotTables.cmd, HotspotTables.apply, hadd]
  · simp [captive_user_ensure, exceptRouteros, HotspotTables.cmd, HotspotTables.apply, hadd, hset]

theorem returns_iff {ρ : Type} {method : Method ρ OdooError Unit} {state result : ρ} {property : ρ → Prop}
    (hexec : method.exec state = (.ok (), result)) :
    (∀ after, method.exec state = (.ok (), after) → property after) ↔ property result := by
  constructor
  · exact fun h => h result hexec
  · intro h after hafter
    rw [hexec] at hafter
    cases hafter
    exact h

theorem pppoe_ensure_secret_converges : self.Converges .pppoe_ensure_secret := by
  rw [Ensured.Converges, returns_iff (routeros_pppoe_ensure_secret_exec self.plan self.sub self.tables)]
  refine ⟨_, KeyedTable.ensure_find_self _ _ _ _, ?_⟩
  cases self.tables.ppp_secrets.find self.sub.pppoe_username <;> exact ⟨rfl, rfl, rfl⟩

/-- The fallback of the lease helper does not write the MAC address. -/
theorem dhcp_ensure_lease_converges_iff : self.Converges .dhcp_ensure_lease ↔ self.Agrees .dhcp_ensure_lease := by
  rw [Ensured.Converges, returns_iff (routeros_dhcp_ensure_lease_exec self.sub self.tables), Ensured.Agrees]
  refine imp_congr_right fun hip => imp_congr_right fun hmac => ?_
  have hsent : ¬ (truthy self.sub.service_ip = false ∨ truthy self.sub.service_mac = false) := by simp [hip, hmac]
  rw [RouterTables.ensureLease, if_neg hsent]
  simp only [KeyedTable.ensure_find_self]
  cases self.tables.dhcp_leases.find self.sub.service_ip with
  | none => simp
  | some lease => simp

/-- The fallback of the queue helper does not write the target, and both paths write
the download speed first. -/
theorem queue_ensure_converges_iff : self.Converges .queue_ensure ↔ self.Agrees .queue_ensure := by
  rw [Ensured.Converges, returns_iff (routeros_queue_ensure_exec self.plan self.sub self.tables), Ensured.Agrees]
  refine imp_congr_right fun hip => ?_
  have hsent : ¬ truthy self.sub.service_ip = false := by simp [hip]
  rw [RouterTables.ensureQueue, if_neg hsent]
  simp only [KeyedTable.ensure_find_self, MaxLimit.upload, MaxLimit.download]
  have hspeeds : self.plan.down_mbps = self.plan.up_mbps ∧ self.plan.up_mbps = self.plan.down_mbps ↔
      self.plan.up_mbps = self.plan.down_mbps := ⟨And.right, fun h => ⟨h.symm, h⟩⟩
  cases self.tables.simple_queues.find self.sub.name with
  | none => simpa using hspeeds
  | some queue =>
    simp only [Option.elim_some, Option.some.injEq, exists_eq_left', forall_eq', and_true]
    rw [hspeeds, and_comm]

/-- The fallback of the captive user helper does not write the password. -/
theorem captive_user_create_converges_iff :
    self.Converges .captive_user_create ↔ self.Agrees .captive_user_create := by
  rw [Ensured.Converges, returns_iff (captive_user_ensure_exec self.user self.sector_code self.hotspot), Ensured.Agrees]
  simp only [KeyedTable.ensure_find_self]
  cases self.hotspot.hotspot_users.find self.user.username with
  | none => simp
  | some user => simp

end

/-- A helper leaves the entry with the values on record exactly when an entry that is
there has those that the fallback does not write, and for a queue the plan is as fast
up as down. -/
theorem ensure_helpers_converge_iff (ensured : Ensured) (helper : EnsureHelper) :
    ensured.Converges helper ↔ ensured.Agrees helper := by
  cases helper with
  | pppoe_ensure_secret => exact iff_of_true pppoe_ensure_secret_converges trivial
  | dhcp_ensure_lease => exact dhcp_ensure_lease_converges_iff
  | queue_ensure => exact queue_ensure_converges_iff
  | captive_user_create => exact captive_user_create_converges_iff

/-- A DHCP customer whose MAC and address have changed since, on a plan that is faster
down than up, and a captive user with a new password. -/
def staleEntries : Ensured where
  plan := { name := "Basic", service_type := .dhcp, down_mbps := 100, up_mbps := 20 }
  sub := leasedCustomer
  tables := { RouterTables.empty with
    dhcp_leases := RouterTables.empty.dhcp_leases.update (some "10.0.0.2")
      (some { mac_address := some "AA:BB:CC:00:00:09", comment := "SUB0001", disabled := false })
    simple_queues := RouterTables.empty.simple_queues.update "SUB0001"
      (some { target := "10.0.0.9/32", max_limit := ⟨100, 20⟩, comment := "SUB0001", disabled := false }) }
  user := { username := "guest", password := some "new" }
  sector_code := ""
  hotspot := { HotspotTables.empty with
    hotspot_users := HotspotTables.empty.hotspot_users.update "guest"
      (some { password := "old", profile := "default", comment := "", disabled := false }) }

theorem stale_entries_stay :
    ¬ staleEntries.Converges .dhcp_ensure_lease ∧ ¬ staleEntries.Converges .queue_ensure ∧
      ¬ staleEntries.Converges .captive_user_create := by
  refine ⟨fun h => ?_, fun h => ?_, fun h => ?_⟩
  · have hmac : some "AA:BB:CC:00:00:09" = some "AA:BB:CC:00:00:01" :=
      dhcp_ensure_lease_converges_iff.mp h rfl rfl _ rfl
    exact absurd hmac (by decide)
  · have hspeed : (20 : ℚ) = 100 := (queue_ensure_converges_iff.mp h rfl).1
    exact absurd hspeed (by decide)
  · have hpassword : "old" = "new" := captive_user_create_converges_iff.mp h _ rfl
    exact absurd hpassword (by decide)

end getupnet.isp_captive_portal

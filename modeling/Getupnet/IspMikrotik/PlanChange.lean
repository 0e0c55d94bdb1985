import Getupnet.IspMikrotik.Delivery

open relational
open getupnet.isp_core

namespace getupnet.isp_mikrotik

/-- Two states of a secret that differ in the profile at most. -/
def PppSecret.SameAccess (self later : PppSecret) : Prop :=
  later.password = self.password ∧ later.service = self.service ∧ later.disabled = self.disabled

/-- Two states of a queue that differ in the speed at most. -/
def SimpleQueue.SameAccess (self later : SimpleQueue) : Prop :=
  later.target = self.target ∧ later.comment = self.comment ∧ later.disabled = self.disabled

/-- A change of nothing but the speed of queues and the profile of secrets: what was
disabled stays disabled, what was enabled stays enabled, and nothing is added for a
stopped customer. -/
structure AccessNeutral (before after : Provisioned) : Prop where
  record : after.1 = before.1
  secrets : ∀ name secret, before.2.ppp_secrets.find name = some secret →
    ∃ later, after.2.ppp_secrets.find name = some later ∧ secret.SameAccess later
  queues : ∀ name queue, before.2.simple_queues.find name = some queue →
    ∃ later, after.2.simple_queues.find name = some later ∧ queue.SameAccess later
  leases : after.2.dhcp_leases = before.2.dhcp_leases
  sessions : after.2.ppp_active = before.2.ppp_active ∧ after.2.hotspot_active = before.2.hotspot_active
  no_new_secret : Stopped before.1 →
    ∀ name, before.2.ppp_secrets.find name = none → after.2.ppp_secrets.find name = none
  no_new_queue : Stopped before.1 →
    ∀ name, before.2.simple_queues.find name = none → after.2.simple_queues.find name = none

/-- What a plan change job ensures is enabled already, the secret with the password on
record; for a stopped customer it is there. -/
structure RouterTables.InService (plan : IspServicePlan) (sub : IspSubscription) (tables : RouterTables) :
    Prop where
  secret : plan.service_type = .pppoe → ∀ secret, tables.ppp_secrets.find sub.pppoe_username = some secret →
    secret.password = sub.pppoe_password ∧ secret.disabled = false
  queue : truthy sub.service_ip = true → ∀ queue, tables.simple_queues.find sub.name = some queue →
    queue.disabled = false
  secret_there : Stopped sub → plan.service_type = .pppoe → tables.ppp_secrets.find sub.pppoe_username ≠ none
  queue_there : Stopped sub → truthy sub.service_ip = true → tables.simple_queues.find sub.name ≠ none

section

variable {plan : IspServicePlan} {sub : IspSubscription} {tables : RouterTables}

/-- Ensuring a secret changes at most its profile exactly when it is enabled and has
the password on record, if it is there. -/
theorem RouterTables.ensureSecret_access_iff :
    (∀ name secret, tables.ppp_secrets.find name = some secret →
        ∃ later, (tables.ensureSecret plan sub).ppp_secrets.find name = some later ∧ secret.SameAccess later) ↔
      ∀ secret, tables.ppp_secrets.find sub.pppoe_username = some secret →
        secret.password = sub.pppoe_password ∧ secret.disabled = false := by
  refine (tables.ppp_secrets.ensure_changes_iff sub.pppoe_username _ _ PppSecret.SameAccess
    fun _ => ⟨rfl, rfl, rfl⟩).trans ?_
  refine forall_congr' fun secret => imp_congr_right fun _ => ?_
  constructor
  · rintro ⟨hpassword, -, hdisabled⟩
    exact ⟨hpassword.symm, hdisabled.symm⟩
  · rintro ⟨hpassword, hdisabled⟩
    exact ⟨hpassword.symm, rfl, hdisabled.symm⟩

/-- Ensuring a queue changes at most its speed exactly when it is enabled, if it is
there. -/
theorem RouterTables.ensureQueue_access_iff :
    (∀ name queue, tables.simple_queues.find name = some queue →
        ∃ later, (tables.ensureQueue plan sub).simple_queues.find name = some later ∧ queue.SameAccess later) ↔
      (truthy sub.service_ip = true → ∀ queue, tables.simple_queues.find sub.name = some queue →
        queue.disabled = false) := by
  unfold RouterTables.ensureQueue
  by_cases hip : truthy sub.service_ip = false
  · rw [if_pos hip]
    refine iff_of_true (fun name queue hfind => ⟨queue, hfind, rfl, rfl, rfl⟩) fun hset => ?_
    rw [hip] at hset
    cases hset
  · rw [if_neg hip]
    refine (tables.simple_queues.ensure_changes_iff sub.name _ _ SimpleQueue.SameAccess
      fun _ => ⟨rfl, rfl, rfl⟩).trans ?_
    rw [Bool.not_eq_false] at hip
    constructor
    · intro h _ queue hfind
      exact (h queue hfind).2.2.symm
    · intro h queue hfind
      exact ⟨rfl, rfl, (h hip queue hfind).symm⟩

theorem RouterTables.ensureQueue_adds_none_iff :
    (∀ name, tables.simple_queues.find name = none →
        (tables.ensureQueue plan sub).simple_queues.find name = none) ↔
      (truthy sub.service_ip = true → tables.simple_queues.find sub.name ≠ none) := by
  unfold RouterTables.ensureQueue
  by_cases hip : truthy sub.service_ip = false
  · rw [if_pos hip]
    refine iff_of_true (fun _ hnone => hnone) fun hset => ?_
    rw [hip] at hset
    cases hset
  · rw [if_neg hip]
    refine (tables.simple_queues.ensure_adds_none_iff sub.name _ _).trans ?_
    rw [Bool.not_eq_false] at hip
    exact ⟨fun h _ => h, fun h => h hip⟩

/-- What a plan change job leaves: the record as it was, and the secret of a PPPoE plan
and the queue ensured. -/
theorem handle_change_plan_exec :
    (handle_change_plan plan (.ok RouterTables.cmd)).exec (sub, tables) =
      (.ok (), sub, tables.serve plan sub .change_plan) :=
  (@subscription_handler_exec plan ⟨2000, 1, 1, by decide, by decide, by decide, by decide⟩ "" .change_plan _ sub tables
    (by decide) rfl).trans stored_self

theorem RouterTables.serve_change_plan_secrets :
    (tables.serve plan sub .change_plan).ppp_secrets =
      if plan.service_type = .pppoe then (tables.ensureSecret plan sub).ppp_secrets else tables.ppp_secrets := by
  rw [RouterTables.serve, RouterTables.ensureQueue_ppp_secrets]
  split <;> rfl

theorem RouterTables.serve_change_plan_queues :
    (tables.serve plan sub .change_plan).simple_queues = (tables.ensureQueue plan sub).simple_queues := by
  rw [RouterTables.serve]
  by_cases hpppoe : plan.service_type = .pppoe
  · rw [if_pos hpppoe, RouterTables.ensureQueue_ensureSecret]
    rfl
  · rw [if_neg hpppoe]

theorem RouterTables.serve_change_plan_others :
    (tables.serve plan sub .change_plan).dhcp_leases = tables.dhcp_leases ∧
      (tables.serve plan sub .change_plan).ppp_active = tables.ppp_active ∧
      (tables.serve plan sub .change_plan).hotspot_active = tables.hotspot_active := by
  rw [RouterTables.serve]
  unfold RouterTables.ensureQueue
  by_cases hpppoe : plan.service_type = .pppoe
  · rw [if_pos hpppoe]
    split <;> exact ⟨rfl, rfl, rfl⟩
  · rw [if_neg hpppoe]
    split <;> exact ⟨rfl, rfl, rfl⟩

end

/-- A plan change job changes nothing but speed and profile exactly when everything that
it ensures is in service already. What is disabled it enables, and for a stopped customer
it adds what is missing. -/
theorem change_plan_access_neutral_iff (plan : IspServicePlan) (sub : IspSubscription) (tables : RouterTables) :
    AccessNeutral (sub, tables) ((handle_change_plan plan (.ok RouterTables.cmd)).exec (sub, tables)).2 ↔
      tables.InService plan sub := by
  rw [handle_change_plan_exec]
  obtain ⟨hleases, hppp, hhotspot⟩ := @RouterTables.serve_change_plan_others plan sub tables
  have hsecrets := @RouterTables.serve_change_plan_secrets plan sub tables
  have hqueues := @RouterTables.serve_change_plan_queues plan sub tables
  constructor
  · intro h
    constructor
    case secret =>
      intro hpppoe
      have hkept := h.secrets
      rw [hsecrets, if_pos hpppoe] at hkept
      exact RouterTables.ensureSecret_access_iff.mp hkept
    case queue =>
      have hkept := h.queues
      rw [hqueues] at hkept
      exact RouterTables.ensureQueue_access_iff.mp hkept
    case secret_there =>
      intro hstopped hpppoe
      have hnone := h.no_new_secret hstopped
      rw [hsecrets, if_pos hpppoe] at hnone
      exact (tables.ppp_secrets.ensure_adds_none_iff _ _ _).mp hnone
    case queue_there =>
      intro hstopped
      have hnone := h.no_new_queue hstopped
      rw [hqueues] at hnone
      exact RouterTables.ensureQueue_adds_none_iff.mp hnone
  · intro h
    constructor
    case record => rfl
    case secrets =>
      rw [hsecrets]
      split
      · rename_i hpppoe
        exact RouterTables.ensureSecret_access_iff.mpr (h.secret hpppoe)
      · exact fun name secret hfind => ⟨secret, hfind, rfl, rfl, rfl⟩
    case queues =>
      rw [hqueues]
      exact RouterTables.ensureQueue_access_iff.mpr h.queue
    case leases => exact hleases
    case sessions => exact ⟨hppp, hhotspot⟩
    case no_new_secret =>
      intro hstopped
      rw [hsecrets]
      split
      · rename_i hpppoe
        exact (tables.ppp_secrets.ensure_adds_none_iff _ _ _).mpr (h.secret_there hstopped hpppoe)
      · exact fun name hnone => hnone
    case no_new_queue =>
      intro hstopped
      rw [hqueues]
      exact RouterTables.ensureQueue_adds_none_iff.mpr (h.queue_there hstopped)

/-- The customer of a PPPoE plan, suspended. -/
def suspendedFiber : Provisioned :=
  afterJob .suspend_subscription (afterJob .activate_subscription (fiberCustomer, RouterTables.empty))

/-- A plan change enables the secret of a suspended customer again. -/
theorem plan_change_enables_secret :
    suspendedFiber.1.state = .suspended ∧ suspendedFiber.2.NoEnabledSecret suspendedFiber.1 ∧
      ¬ AccessNeutral suspendedFiber
        ((handle_change_plan (twoServices 1) (.ok RouterTables.cmd)).exec suspendedFiber).2 := by
  refine ⟨rfl, fun secret hfind => ?_, fun h => ?_⟩
  · cases hfind
    rfl
  · have hfound : suspendedFiber.2.ppp_secrets.find (some "SUB0002") =
        some { password := some "c0ffee", profile := "default", service := "pppoe", disabled := true } := rfl
    obtain ⟨later, hlater, hsame⟩ := h.secrets _ _ hfound
    cases hlater
    cases hsame.2.2

end getupnet.isp_mikrotik

import Getupnet.IspCore.PlanChangeRequest.CatchUp
import Getupnet.IspCore.PlanChangeRequest.Workflow

open relational
open calendar

namespace getupnet.isp_core

variable {ρ : Type}

/-- The log entries about a request. -/
def Workflow.history (self : Workflow ρ) (id : Nat) : List PlanChangeEntry :=
  self.records.extension.filter fun entry => decide (entry.request = id)

/-- The plan that the log entries give a subscription with a given first plan:
that of the last request applied to it. -/
def Workflow.loggedPlan (self : Workflow ρ) (sub first : Nat) : Nat :=
  ((self.records.extension.filter fun entry =>
    decide (entry.action = .plan_change_applied ∧ (self.request entry.request).subscription_id = sub)).getLast?.map
      fun entry => (self.request entry.request).requested_plan_id).getD first

/-- The states that end the workflow. -/
def PlanChangeState.Final (self : PlanChangeState) : Prop := self = .rejected ∨ self = .applied

instance (self : PlanChangeState) : Decidable self.Final := inferInstanceAs (Decidable (_ ∨ _))

/-- Requests stay, and so do the final states. -/
def Workflow.Finalizes (before after : Workflow ρ) : Prop :=
  ∀ id ∈ before.records.plan_change_requests.ids, id ∈ after.records.plan_change_requests.ids ∧
    ((before.request id).state.Final → (after.request id).state = (before.request id).state)

theorem Workflow.finalizes_refl (world : Workflow ρ) : world.Finalizes world :=
  fun _ hid => ⟨hid, fun _ => rfl⟩

theorem Workflow.finalizes_trans (first second third : Workflow ρ) (h : first.Finalizes second)
    (hnext : second.Finalizes third) : first.Finalizes third := by
  intro id hid
  obtain ⟨hsecond, hstate⟩ := h id hid
  obtain ⟨hthird, hstate'⟩ := hnext id hsecond
  refine ⟨hthird, fun hfinal => ?_⟩
  have hsame := hstate hfinal
  exact (hstate' (hsame ▸ hfinal)).trans hsame

/-- A database in which every request has followed the documented workflow, and
the plans are those the log accounts for. -/
structure Workflow.Followed (initial world : Workflow ρ) : Prop where
  trails : ∀ id ∈ world.records.plan_change_requests.ids,
    Trail (world.request id).effective_date_mode (world.history id) (world.request id).state
  logged : ∀ entry ∈ world.records.extension, entry.request ∈ world.records.plan_change_requests.ids
  plans : ∀ sub, (world.subscription sub).plan_id = world.loggedPlan sub (initial.subscription sub).plan_id

/-- One log entry, with what it says done to its request and to the plans. -/
structure Workflow.Advances (world : Workflow ρ) (entry : PlanChangeEntry)
    (change : IspPlanChangeRequest → IspPlanChangeRequest) (after : Workflow ρ) : Prop where
  written : after.records.plan_change_requests = world.records.plan_change_requests.write entry.request change
  log : after.records.extension = world.records.extension ++ [entry]
  subject : (change (world.request entry.request)).subscription_id = (world.request entry.request).subscription_id ∧
    (change (world.request entry.request)).requested_plan_id = (world.request entry.request).requested_plan_id ∧
    (change (world.request entry.request)).effective_date_mode = (world.request entry.request).effective_date_mode
  plans : ∀ sub, (after.subscription sub).plan_id =
    if entry.action = .plan_change_applied ∧ (world.request entry.request).subscription_id = sub then
      (world.request entry.request).requested_plan_id
    else (world.subscription sub).plan_id

section

variable {world after : Workflow ρ} {entry : PlanChangeEntry} {change : IspPlanChangeRequest → IspPlanChangeRequest}

theorem Workflow.Advances.ids (h : world.Advances entry change after) :
    after.records.plan_change_requests.ids = world.records.plan_change_requests.ids := by
  rw [h.written, Store.write_ids]

theorem Workflow.Advances.request_self (h : world.Advances entry change after) :
    after.request entry.request = change (world.request entry.request) := by
  rw [Workflow.request, h.written, Store.write_row_self]
  exact congrArg change (Eq.refl (world.request entry.request))

theorem Workflow.Advances.request_ne (h : world.Advances entry change after) {id : Nat}
    (hne : id ≠ entry.request) :
    after.request id = world.request id := by
  rw [Workflow.request, h.written, Store.write_row_ne _ hne]
  exact Eq.refl (world.request id)

/-- What a request is about never changes. -/
theorem Workflow.Advances.kept (h : world.Advances entry change after) (id : Nat) :
    (after.request id).subscription_id = (world.request id).subscription_id ∧
      (after.request id).requested_plan_id = (world.request id).requested_plan_id ∧
      (after.request id).effective_date_mode = (world.request id).effective_date_mode := by
  by_cases hsame : id = entry.request
  · rw [hsame, h.request_self]
    exact h.subject
  · rw [h.request_ne hsame]
    exact ⟨rfl, rfl, rfl⟩

theorem Workflow.Advances.history_self (h : world.Advances entry change after) :
    after.history entry.request = world.history entry.request ++ [entry] := by
  simp [Workflow.history, h.log, List.filter_append]

theorem Workflow.Advances.history_ne (h : world.Advances entry change after) {id : Nat}
    (hne : id ≠ entry.request) :
    after.history id = world.history id := by
  simp [Workflow.history, h.log, List.filter_append, Ne.symm hne]

theorem Workflow.Advances.loggedPlan (h : world.Advances entry change after) (sub first : Nat) :
    after.loggedPlan sub first =
      if entry.action = .plan_change_applied ∧ (world.request entry.request).subscription_id = sub then
        (world.request entry.request).requested_plan_id
      else world.loggedPlan sub first := by
  have hfilter : (after.records.extension.filter fun other =>
      decide (other.action = .plan_change_applied ∧ (after.request other.request).subscription_id = sub)) =
      (world.records.extension ++ [entry]).filter fun other =>
        decide (other.action = .plan_change_applied ∧ (world.request other.request).subscription_id = sub) := by
    rw [h.log]
    simp only [(h.kept _).1]
  rw [Workflow.loggedPlan, hfilter, List.filter_append]
  simp only [(h.kept _).2.1]
  by_cases happlied : entry.action = .plan_change_applied ∧ (world.request entry.request).subscription_id = sub
  · simp [happlied]
  · simp [happlied, Workflow.loggedPlan]

/-- A step that continues the trail of its request keeps all trails. -/
theorem Workflow.Followed.advance {initial : Workflow ρ} (hfollowed : initial.Followed world)
    (h : world.Advances entry change after) (hid : entry.request ∈ world.records.plan_change_requests.ids)
    (htrail : Trail (world.request entry.request).effective_date_mode (world.history entry.request ++ [entry])
      (change (world.request entry.request)).state) : initial.Followed after where
  trails := by
    intro id hmem
    rw [h.ids] at hmem
    rw [(h.kept id).2.2]
    by_cases hsame : id = entry.request
    · subst hsame
      rw [h.history_self, h.request_self]
      exact htrail
    · rw [h.history_ne hsame, h.request_ne hsame]
      exact hfollowed.trails id hmem
  logged := by
    intro other hother
    rw [h.log] at hother
    rw [h.ids]
    obtain hold | hnew := List.mem_append.mp hother
    · exact hfollowed.logged other hold
    · rw [List.mem_singleton.mp hnew]
      exact hid
  plans := by
    intro sub
    rw [h.plans, h.loggedPlan, hfollowed.plans sub]

theorem Workflow.Advances.finalizes (h : world.Advances entry change after)
    (hfinal : (world.request entry.request).state.Final →
      (change (world.request entry.request)).state = (world.request entry.request).state) :
    world.Finalizes after := by
  intro id hid
  refine ⟨h.ids ▸ hid, fun hstate => ?_⟩
  by_cases hsame : id = entry.request
  · subst hsame
    rw [h.request_self]
    exact hfinal hstate
  · rw [h.request_ne hsame]

end

section

variable {user : User} {clock : Nat → Nat} {token_hex : Nat → String} {today : Date} {id : Nat}
  {world after : Workflow ρ}

theorem IspPlanChangeRequest.ensure_effective_date_kept (sub : IspSubscription) (self : IspPlanChangeRequest) :
    (self.ensure_effective_date today sub).subscription_id = self.subscription_id ∧
      (self.ensure_effective_date today sub).requested_plan_id = self.requested_plan_id ∧
      (self.ensure_effective_date today sub).effective_date_mode = self.effective_date_mode ∧
      (self.ensure_effective_date today sub).state = self.state ∧
      (self.ensure_effective_date today sub).rejection_reason = self.rejection_reason := by
  unfold IspPlanChangeRequest.ensure_effective_date
  split <;> exact ⟨rfl, rfl, rfl, rfl, rfl⟩

theorem World.writeRequest_writeRequest (first second : IspPlanChangeRequest → IspPlanChangeRequest) :
    (World.writeRequest world id first).writeRequest id second =
      world.writeRequest id fun request => second (first request) := by
  simp only [World.writeRequest, Store.write_write]

/-- Writing a request and its log entry, without applying it. -/
theorem Workflow.advances_of_write {action : PlanChangeAction}
    {change : IspPlanChangeRequest → IspPlanChangeRequest}
    (haction : action ≠ .plan_change_applied)
    (hsubject : (change (world.request id)).subscription_id = (world.request id).subscription_id ∧
      (change (world.request id)).requested_plan_id = (world.request id).requested_plan_id ∧
      (change (world.request id)).effective_date_mode = (world.request id).effective_date_mode) :
    world.Advances ⟨action, id, user⟩ change
      (Workflow.log_action action id user (World.writeRequest world id change)) where
  written := rfl
  log := rfl
  subject := hsubject
  plans := by
    intro sub
    rw [if_neg (fun hboth => haction hboth.1)]
    rfl

/-- What a submission that returns has checked and done. -/
theorem IspPlanChangeRequest.submit_returns
    (h : (IspPlanChangeRequest.submit user today id).exec world = (.ok (), after)) :
    ((world.request id).effective_date_mode = .immediate → user.Privileged) ∧
      world.Advances ⟨.plan_change_submitted, id, user⟩ (fun request =>
        { request.ensure_effective_date today (world.subscription (world.request id).subscription_id) with
          state := .submitted }) after := by
  simp only [IspPlanChangeRequest.submit, Method.exec_bind, Method.exec_get] at h
  by_cases hrefused : (world.request id).effective_date_mode = .immediate ∧ ¬ user.Privileged
  · rw [if_pos hrefused] at h
    cases h
  · rw [if_neg hrefused] at h
    simp only [Method.exec_bind, Method.exec_modify, World.writeRequest_writeRequest] at h
    cases h
    obtain ⟨hsub, hplan, hmode, _⟩ := (world.request id).ensure_effective_date_kept 
      (world.subscription (world.request id).subscription_id)
    refine ⟨fun himmediate => by_contra fun hnot => hrefused ⟨himmediate, hnot⟩, ?_⟩
    exact Workflow.advances_of_write (by simp) ⟨hsub, hplan, hmode⟩

theorem IspPlanChangeRequest.reject_returns
    (h : (IspPlanChangeRequest.reject user id).exec world = (.ok (), after)) :
    truthy (world.request id).rejection_reason = true ∧
      world.Advances ⟨.plan_change_rejected, id, user⟩ (fun request => { request with state := .rejected }) after := by
  simp only [IspPlanChangeRequest.reject, Method.exec_bind, Method.exec_get] at h
  by_cases hreason : truthy (world.request id).rejection_reason = true
  · rw [if_neg (not_not_intro hreason)] at h
    simp only [Method.exec_bind, Method.exec_modify] at h
    cases h
    exact ⟨hreason, Workflow.advances_of_write (by simp) ⟨rfl, rfl, rfl⟩⟩
  · rw [if_pos hreason] at h
    cases h

theorem IspPlanChangeRequest.apply_logged_returns
    (h : (IspPlanChangeRequest.apply_logged user clock token_hex id).exec world = (.ok (), after)) :
    world.Advances ⟨.plan_change_applied, id, user⟩ (fun request => { request with state := .applied }) after := by
  simp only [IspPlanChangeRequest.apply_logged, Method.exec_bind, IspPlanChangeRequest.apply_exec,
    Method.exec_modify] at h
  cases h
  refine ⟨rfl, rfl, ⟨rfl, rfl, rfl⟩, fun sub => ?_⟩
  by_cases hsame : (world.request id).subscription_id = sub
  · rw [if_pos ⟨rfl, hsame⟩, ← hsame]
    exact congrArg (fun values : IspSubscription => values.plan_id) (world.applied_subscription_self clock id)
  · rw [if_neg (fun hboth => hsame hboth.2)]
    exact congrArg (fun values : IspSubscription => values.plan_id)
      (world.applied_subscription_ne clock (Ne.symm hsame))

/-- An approval is followed by the application when its day has come. -/
theorem IspPlanChangeRequest.approve_returns
    (h : (IspPlanChangeRequest.approve user clock token_hex today id).exec world = (.ok (), after)) :
    ∃ middle, world.Advances ⟨.plan_change_approved, id, user⟩ (fun request =>
        { request.ensure_effective_date today (world.subscription (world.request id).subscription_id) with
          state := .approved
          approved_by := some user.id }) middle ∧
      (after = middle ∨
        middle.Advances ⟨.plan_change_applied, id, user⟩ (fun request => { request with state := .applied }) after) := by
  simp only [IspPlanChangeRequest.approve, Method.exec_bind, Method.exec_get, Method.exec_modify,
    World.writeRequest_writeRequest] at h
  obtain ⟨hsub, hplan, hmode, _⟩ := (world.request id).ensure_effective_date_kept 
    (world.subscription (world.request id).subscription_id)
  refine ⟨_, Workflow.advances_of_write (by simp) ⟨hsub, hplan, hmode⟩, ?_⟩
  split at h
  · split at h
    · obtain ⟨middle, hfirst, hrest⟩ := Method.forEach_cons_returns h
      cases hrest
      exact Or.inr (IspPlanChangeRequest.apply_logged_returns hfirst)
    · cases h
      exact Or.inl rfl
  · cases h
    exact Or.inl rfl

end

/-- The code raises on the call, whatever the states of its requests. -/
def WorkflowCall.Refused (world : Workflow ρ) : WorkflowCall → Prop
  | .create _ vals_list =>
    ∃ vals ∈ vals_list, vals.check_effective_date ≠ .ok () ∨
      vals.check_plan_diff (world.subscription vals.subscription_id).plan_id ≠ .ok ()
  | .action_submit user _ requests =>
    ∃ id ∈ requests, (world.request id).effective_date_mode = .immediate ∧ ¬ user.Privileged
  | .action_reject _ requests => ∃ id ∈ requests, truthy (world.request id).rejection_reason = false
  | .action_approve _ _ _ _ _ | .action_apply _ _ _ _ | .cron_apply_plan_changes _ _ _ _ => False

/-- The call finds its requests in states that the documented workflow has for
it: a request is created as a draft, submitted and rejected while it is not
finished, approved once it is submitted, and applied once it is approved. -/
def WorkflowCall.InOrder (world : Workflow ρ) : WorkflowCall → Prop
  | .create _ vals_list => ∀ vals ∈ vals_list, vals.state = .draft
  | .action_submit _ _ requests => ∀ id ∈ requests, ¬ (world.request id).state.Final
  | .action_approve _ _ _ _ requests =>
    requests.Nodup ∧ ∀ id ∈ requests, (world.request id).state = .submitted ∨ (world.request id).state = .approved
  | .action_reject _ requests => ∀ id ∈ requests, (world.request id).state ≠ .applied
  | .action_apply _ _ _ requests => requests.Nodup ∧ ∀ id ∈ requests, (world.request id).state = .approved
  | .cron_apply_plan_changes _ _ _ _ => True

instance (world : Workflow ρ) (call : WorkflowCall) : Decidable (call.InOrder world) :=
  match call with
  | .create _ vals_list => inferInstanceAs (Decidable (∀ vals ∈ vals_list, vals.state = .draft))
  | .action_submit _ _ requests => inferInstanceAs (Decidable (∀ id ∈ requests, ¬ (world.request id).state.Final))
  | .action_approve _ _ _ _ requests => inferInstanceAs (Decidable (requests.Nodup ∧
      ∀ id ∈ requests, (world.request id).state = .submitted ∨ (world.request id).state = .approved))
  | .action_reject _ requests => inferInstanceAs (Decidable (∀ id ∈ requests, (world.request id).state ≠ .applied))
  | .action_apply _ _ _ requests => inferInstanceAs (Decidable (requests.Nodup ∧
      ∀ id ∈ requests, (world.request id).state = .approved))
  | .cron_apply_plan_changes _ _ _ _ => inferInstanceAs (Decidable True)

section

variable {initial start world after : Workflow ρ}

/-- The workflow was followed up to here, and since the start of a call no
request left a final state. -/
def Workflow.Keeps (initial start world : Workflow ρ) : Prop := initial.Followed world ∧ start.Finalizes world

theorem Workflow.Keeps.advance {entry : PlanChangeEntry} {change : IspPlanChangeRequest → IspPlanChangeRequest}
    (hkeeps : Workflow.Keeps initial start world) (h : world.Advances entry change after)
    (hid : entry.request ∈ world.records.plan_change_requests.ids)
    (hfinal : (world.request entry.request).state.Final →
      (change (world.request entry.request)).state = (world.request entry.request).state)
    (htrail : Trail (world.request entry.request).effective_date_mode (world.history entry.request ++ [entry])
      (change (world.request entry.request)).state) : Workflow.Keeps initial start after :=
  ⟨hkeeps.1.advance h hid htrail, Workflow.finalizes_trans _ _ _ hkeeps.2 (h.finalizes hfinal)⟩

theorem IspPlanChangeRequest.action_submit_keeps {user : User} {today : Date} {requests : List Nat}
    (hids : ∀ id ∈ requests, id ∈ world.records.plan_change_requests.ids)
    (hopen : ∀ id ∈ requests, ¬ (world.request id).state.Final) (hkeeps : Workflow.Keeps initial start world)
    (h : (IspPlanChangeRequest.action_submit user today requests).exec world = (.ok (), after)) :
    Workflow.Keeps initial start after := by
  refine @Method.forEach_keeps _ _ _ _ (Workflow.Keeps initial start)
    (fun world id => id ∈ world.records.plan_change_requests.ids ∧ ¬ (world.request id).state.Final)
    (fun _ _ => True) ?_ ?_ requests (List.pairwise_of_forall fun _ _ => trivial) world after
    (fun id hid => ⟨hids id hid, hopen id hid⟩) hkeeps h
  · intro id world after hready hkeeps hsubmit
    obtain ⟨hprivileged, hadvances⟩ := IspPlanChangeRequest.submit_returns hsubmit
    refine hkeeps.advance hadvances hready.1 (fun hfinal => absurd hfinal hready.2) ?_
    have hnot : (world.request id).state ≠ .rejected ∧ (world.request id).state ≠ .applied :=
      ⟨fun hstate => hready.2 (Or.inl hstate), fun hstate => hready.2 (Or.inr hstate)⟩
    exact .submitted (hkeeps.1.trails id hready.1) hnot rfl hprivileged
  · intro id other world after _ _ hother hsubmit
    obtain ⟨_, hadvances⟩ := IspPlanChangeRequest.submit_returns hsubmit
    refine ⟨hadvances.ids ▸ hother.1, ?_⟩
    by_cases hsame : other = id
    · subst hsame
      have hstate := congrArg IspPlanChangeRequest.state hadvances.request_self
      rintro (hfinal | hfinal)
      · exact PlanChangeState.noConfusion (hstate.symm.trans hfinal)
      · exact PlanChangeState.noConfusion (hstate.symm.trans hfinal)
    · rw [hadvances.request_ne hsame]
      exact hother.2

theorem IspPlanChangeRequest.action_reject_keeps {user : User} {requests : List Nat}
    (hids : ∀ id ∈ requests, id ∈ world.records.plan_change_requests.ids)
    (hopen : ∀ id ∈ requests, (world.request id).state ≠ .applied) (hkeeps : Workflow.Keeps initial start world)
    (h : (IspPlanChangeRequest.action_reject user requests).exec world = (.ok (), after)) :
    Workflow.Keeps initial start after := by
  refine @Method.forEach_keeps _ _ _ _ (Workflow.Keeps initial start)
    (fun world id => id ∈ world.records.plan_change_requests.ids ∧ (world.request id).state ≠ .applied)
    (fun _ _ => True) ?_ ?_ requests (List.pairwise_of_forall fun _ _ => trivial) world after
    (fun id hid => ⟨hids id hid, hopen id hid⟩) hkeeps h
  · intro id world after hready hkeeps hreject
    obtain ⟨_, hadvances⟩ := IspPlanChangeRequest.reject_returns hreject
    refine hkeeps.advance hadvances hready.1 (fun hfinal => ?_) ?_
    · obtain hrejected | happlied := hfinal
      · exact hrejected.symm
      · exact absurd happlied hready.2
    · exact .rejected (hkeeps.1.trails id hready.1) hready.2 rfl
  · intro id other world after _ _ hother hreject
    obtain ⟨_, hadvances⟩ := IspPlanChangeRequest.reject_returns hreject
    refine ⟨hadvances.ids ▸ hother.1, ?_⟩
    by_cases hsame : other = id
    · subst hsame
      have hstate := congrArg IspPlanChangeRequest.state hadvances.request_self
      exact fun happlied => PlanChangeState.noConfusion (hstate.symm.trans happlied)
    · rw [hadvances.request_ne hsame]
      exact hother.2

/-- Applying an approved request follows the workflow. -/
theorem Workflow.Keeps.apply {user : User} {id : Nat} (hkeeps : Workflow.Keeps initial start world)
    (h : world.Advances ⟨.plan_change_applied, id, user⟩ (fun request => { request with state := .applied }) after)
    (hid : id ∈ world.records.plan_change_requests.ids) (hstate : (world.request id).state = .approved) :
    Workflow.Keeps initial start after := by
  refine hkeeps.advance h hid (fun hfinal => ?_) ?_
  · obtain hrejected | happlied := hfinal
    · exact PlanChangeState.noConfusion (hstate.symm.trans hrejected)
    · exact happlied.symm
  · have htrail := hkeeps.1.trails id hid
    rw [hstate] at htrail
    exact .applied htrail rfl

section

variable {user : User} {clock : Nat → Nat} {token_hex : Nat → String} {requests : List Nat}

theorem IspPlanChangeRequest.action_apply_keeps (hnodup : requests.Nodup)
    (hids : ∀ id ∈ requests, id ∈ world.records.plan_change_requests.ids)
    (happroved : ∀ id ∈ requests, (world.request id).state = .approved)
    (hkeeps : Workflow.Keeps initial start world)
    (h : (IspPlanChangeRequest.action_apply_logged user clock token_hex requests).exec world = (.ok (), after)) :
    Workflow.Keeps initial start after := by
  refine @Method.forEach_keeps _ _ _ _ (Workflow.Keeps initial start)
    (fun world id => id ∈ world.records.plan_change_requests.ids ∧ (world.request id).state = .approved)
    (fun first second => first ≠ second) ?_ ?_ requests hnodup world after
    (fun id hid => ⟨hids id hid, happroved id hid⟩) hkeeps h
  · intro id world after hready hkeeps happly
    exact hkeeps.apply (IspPlanChangeRequest.apply_logged_returns happly) hready.1 hready.2
  · intro id other world after hne _ hother happly
    have hadvances := IspPlanChangeRequest.apply_logged_returns happly
    rw [hadvances.ids, hadvances.request_ne (Ne.symm hne)]
    exact hother

theorem IspPlanChangeRequest.action_approve_keeps {today : Date} (hnodup : requests.Nodup)
    (hids : ∀ id ∈ requests, id ∈ world.records.plan_change_requests.ids)
    (hsubmitted : ∀ id ∈ requests, (world.request id).state = .submitted ∨ (world.request id).state = .approved)
    (hkeeps : Workflow.Keeps initial start world)
    (h : (IspPlanChangeRequest.action_approve user clock token_hex today requests).exec world = (.ok (), after)) :
    Workflow.Keeps initial start after := by
  refine @Method.forEach_keeps _ _ _ _ (Workflow.Keeps initial start)
    (fun world id => id ∈ world.records.plan_change_requests.ids ∧
      ((world.request id).state = .submitted ∨ (world.request id).state = .approved))
    (fun first second => first ≠ second) ?_ ?_ requests hnodup world after
    (fun id hid => ⟨hids id hid, hsubmitted id hid⟩) hkeeps h
  · intro id world after hready hkeeps happrove
    obtain ⟨middle, hadvances, hrest⟩ := IspPlanChangeRequest.approve_returns happrove
    have hmiddle : Workflow.Keeps initial start middle := by
      refine hkeeps.advance hadvances hready.1 (fun hfinal => ?_) ?_
      · obtain hstate | hstate := hready.2 <;> obtain hend | hend := hfinal <;>
          exact PlanChangeState.noConfusion (hstate.symm.trans hend)
      · exact .approved (hkeeps.1.trails id hready.1) hready.2 rfl
    obtain rfl | happlied := hrest
    · exact hmiddle
    · have hstate := congrArg IspPlanChangeRequest.state hadvances.request_self
      exact hmiddle.apply happlied (hadvances.ids ▸ hready.1) hstate
  · intro id other world after hne _ hother happrove
    obtain ⟨middle, hadvances, hrest⟩ := IspPlanChangeRequest.approve_returns happrove
    have hmiddle : middle.request other = world.request other := hadvances.request_ne (Ne.symm hne)
    obtain rfl | happlied := hrest
    · rw [hadvances.ids, hmiddle]
      exact hother
    · rw [happlied.ids, hadvances.ids, happlied.request_ne (Ne.symm hne), hmiddle]
      exact hother

theorem IspPlanChangeRequest.cron_apply_plan_changes_keeps {today : Date} (hfollowed : initial.Followed world)
    (h : (IspPlanChangeRequest.cron_apply_plan_changes_logged user clock token_hex today).exec world =
      (.ok (), after)) : Workflow.Keeps initial world after := by
  simp only [IspPlanChangeRequest.cron_apply_plan_changes_logged, IspPlanChangeRequest.action_apply_logged,
    Method.exec_bind, Method.exec_get, Method.forEach_singleton] at h
  refine IspPlanChangeRequest.action_apply_keeps (Store.searchDesc_nodup _ _) (fun id hid => ?_) (fun id hid => ?_)
    ⟨hfollowed, world.finalizes_refl⟩ h
  · exact ((Store.mem_searchDesc _ _ id).mp hid).1
  · have hdue := ((Store.mem_searchDesc _ _ id).mp hid).2
    unfold IspPlanChangeRequest.isDue at hdue
    split at hdue
    · assumption
    · cases hdue

end

theorem IspPlanChangeRequest.create_records_returns {today : Date} {vals_list : List IspPlanChangeRequest}
    (h : (IspPlanChangeRequest.create_records today vals_list).exec world = (.ok (), after)) :
    (∀ vals ∈ vals_list, vals.check_effective_date = .ok () ∧
      vals.check_plan_diff (world.subscription vals.subscription_id).plan_id = .ok ()) ∧
      after = Workflow.withCreated (vals_list.map fun vals =>
        vals.ensure_effective_date today (world.subscription vals.subscription_id)) world := by
  simp only [IspPlanChangeRequest.create_records, Method.exec_bind, Method.exec_get] at h
  split at h
  · rename_i value middle hdates
    obtain ⟨rfl, hdated⟩ := Method.forEach_ofExcept_returns hdates
    split at h
    · rename_i value middle hplans
      obtain ⟨rfl, hplanned⟩ := Method.forEach_ofExcept_returns hplans
      cases h
      exact ⟨fun vals hvals => ⟨hdated vals hvals, hplanned vals hvals⟩, rfl⟩
    · cases h
  · cases h

theorem Workflow.withCreated_request {requests : List IspPlanChangeRequest} {id : Nat}
    (hid : id ∈ world.records.plan_change_requests.ids) :
    Workflow.request (world.withCreated requests) id = world.request id :=
  Store.createAll_row_of_mem _ _ hid

/-- The logged plans depend on the logged requests only. -/
theorem Workflow.loggedPlan_congr (hlog : after.records.extension = world.records.extension)
    (hrequests : ∀ entry ∈ world.records.extension,
      after.request entry.request = world.request entry.request) (sub first : Nat) :
    after.loggedPlan sub first = world.loggedPlan sub first := by
  have hfilter : after.records.extension.filter (fun entry => decide (entry.action = .plan_change_applied ∧
        (after.request entry.request).subscription_id = sub)) =
      world.records.extension.filter (fun entry => decide (entry.action = .plan_change_applied ∧
        (world.request entry.request).subscription_id = sub)) := by
    rw [hlog]
    apply List.filter_congr
    intro entry hentry
    rw [hrequests entry hentry]
  rw [Workflow.loggedPlan, Workflow.loggedPlan, hfilter]
  congr 1
  apply Option.map_congr
  intro entry hentry
  rw [hrequests entry (List.mem_of_mem_filter (List.mem_of_getLast? hentry))]

/-- Requests created as drafts have their trail to begin yet. -/
theorem Workflow.Followed.withCreated {requests : List IspPlanChangeRequest} (hfollowed : initial.Followed world)
    (hdraft : ∀ request ∈ requests, request.state = .draft) : initial.Followed (world.withCreated requests) where
  trails := by
    intro id hid
    obtain hmem | ⟨hnew, hrow⟩ := Store.mem_createAll_ids _ _ hid
    · rw [Workflow.withCreated_request hmem]
      exact hfollowed.trails id hmem
    · have hhistory : Workflow.history (world.withCreated requests) id = [] := by
        refine List.filter_eq_nil_iff.mpr fun entry hentry hsame => hnew ?_
        rw [← of_decide_eq_true hsame]
        exact hfollowed.logged entry hentry
      have hstate : (Workflow.request (world.withCreated requests) id).state = .draft := hdraft _ hrow
      rw [hhistory, hstate]
      exact .created
  logged := fun entry hentry => Store.mem_createAll_ids_of_mem _ _ (hfollowed.logged entry hentry)
  plans := by
    intro sub
    have hlogged := @Workflow.loggedPlan_congr _ world (world.withCreated requests) rfl
      (fun entry hentry => Workflow.withCreated_request (hfollowed.logged entry hentry)) sub
      (initial.subscription sub).plan_id
    exact (hfollowed.plans sub).trans hlogged.symm

theorem IspPlanChangeRequest.create_records_keeps {today : Date} {vals_list : List IspPlanChangeRequest}
    (hfollowed : initial.Followed world) (hdraft : ∀ vals ∈ vals_list, vals.state = .draft)
    (h : (IspPlanChangeRequest.create_records today vals_list).exec world = (.ok (), after)) :
    Workflow.Keeps initial world after := by
  obtain ⟨_, rfl⟩ := IspPlanChangeRequest.create_records_returns h
  refine ⟨hfollowed.withCreated fun request hrequest => ?_, fun id hid => ?_⟩
  · obtain ⟨vals, hvals, rfl⟩ := List.mem_map.mp hrequest
    rw [(vals.ensure_effective_date_kept _).2.2.2.1]
    exact hdraft vals hvals
  · exact ⟨Store.mem_createAll_ids_of_mem _ _ hid, fun _ =>
      congrArg IspPlanChangeRequest.state (Workflow.withCreated_request hid)⟩

end

/-- A call that is refused or in order follows the workflow and takes no request out of a
final state. A refused call is undone together with what it has logged. -/
theorem WorkflowStep.keeps {initial world after : Workflow ρ} {call : WorkflowCall}
    (hfollowed : initial.Followed world)
    (hcall : call.Refused world ∨ call.InOrder world) (hstep : WorkflowStep world call after) :
    Workflow.Keeps initial world after := by
  obtain ⟨hids, rfl⟩ := hstep
  have hkeeps : Workflow.Keeps initial world world := ⟨hfollowed, world.finalizes_refl⟩
  refine @Method.commit_relates _ _ _ World.rollback call.method (fun world after => Workflow.Keeps initial world after)
    world (fun _ after h => ?_)
    (fun _ => ⟨⟨hfollowed.trails, hfollowed.logged, hfollowed.plans⟩, world.finalizes_refl⟩)
  cases call with
  | create today vals_list =>
    refine IspPlanChangeRequest.create_records_keeps hfollowed ?_ h
    obtain ⟨vals, hvals, hfails⟩ | horder := hcall
    · obtain ⟨hdate, hplan⟩ := (IspPlanChangeRequest.create_records_returns h).1 vals hvals
      exact absurd hfails (by simp [hdate, hplan])
    · exact horder
  | action_submit user today requests =>
    refine IspPlanChangeRequest.action_submit_keeps hids ?_ hkeeps h
    obtain ⟨id, hid, himmediate, hunprivileged⟩ | horder := hcall
    · -- the modes stay as they are, so the loop raises at this request at the latest
      obtain ⟨middle, next, hmode, hsubmit, _⟩ := @Method.forEach_reaches _ _ _ _
        (fun before after : Workflow ρ =>
          ∀ id, (after.request id).effective_date_mode = (before.request id).effective_date_mode)
        (fun _ _ => rfl) (fun _ _ _ hfirst hsecond id => (hsecond id).trans (hfirst id))
        (fun _ _ _ hsubmit id => ((IspPlanChangeRequest.submit_returns hsubmit).2.kept id).2.2) _ id hid _ _ h
      have hprivileged := (IspPlanChangeRequest.submit_returns hsubmit).1
      rw [hmode id] at hprivileged
      exact absurd (hprivileged himmediate) hunprivileged
    · exact horder
  | action_approve user clock token_hex today requests =>
    obtain hnone | ⟨hnodup, horder⟩ := hcall
    · cases hnone
    · exact IspPlanChangeRequest.action_approve_keeps hnodup hids horder hkeeps h
  | action_reject user requests =>
    refine IspPlanChangeRequest.action_reject_keeps hids ?_ hkeeps h
    obtain ⟨id, hid, hreason⟩ | horder := hcall
    · obtain ⟨middle, next, hsame, hreject, _⟩ := @Method.forEach_reaches _ _ _ _
        (fun before after : Workflow ρ =>
          ∀ id, (after.request id).rejection_reason = (before.request id).rejection_reason)
        (fun _ _ => rfl) (fun _ _ _ hfirst hsecond id => (hsecond id).trans (hfirst id))
        (fun other before after hreject id => by
          have hadvances := (IspPlanChangeRequest.reject_returns hreject).2
          by_cases hother : id = other
          · subst hother
            rw [hadvances.request_self]
          · rw [hadvances.request_ne hother]) _ id hid _ _ h
      have hgiven := (IspPlanChangeRequest.reject_returns hreject).1
      rw [hsame id, hreason] at hgiven
      cases hgiven
    · exact horder
  | action_apply user clock token_hex requests =>
    obtain hnone | ⟨hnodup, horder⟩ := hcall
    · cases hnone
    · exact IspPlanChangeRequest.action_apply_keeps hnodup hids horder hkeeps h
  | cron_apply_plan_changes user clock token_hex today =>
    exact IspPlanChangeRequest.cron_apply_plan_changes_keeps hfollowed h

/-- What the documented workflow promises of a run: a request changes a plan at
most once, and only what is logged changes a plan; the change follows a
submission and an approval that was not withdrawn; rejected and applied requests
stay so; and an immediate request is approved only after a privileged user
submitted it. -/
structure Orderly (initial : Workflow ρ) (taken : List (Workflow ρ × WorkflowCall)) (reached : Workflow ρ) :
    Prop where
  once : ∀ id ∈ reached.records.plan_change_requests.ids, plan_changes (reached.history id) ≤ 1
  plans : ∀ sub, (reached.subscription sub).plan_id = reached.loggedPlan sub (initial.subscription sub).plan_id
  approved : ∀ id ∈ reached.records.plan_change_requests.ids, ∀ before entry rest,
    reached.history id = before ++ entry :: rest → entry.action = .plan_change_applied → ApprovedIn before
  final : (Run.visited taken reached).Pairwise Workflow.Finalizes
  gated : ∀ id ∈ reached.records.plan_change_requests.ids,
    (reached.request id).effective_date_mode = .immediate → ∀ before entry rest,
      reached.history id = before ++ entry :: rest → entry.action = .plan_change_approved →
        SubmittedByPrivileged before

/-- A run is orderly when each of its calls is refused or finds its requests in the states
it is meant for. No call checks that itself, so the assumption is on the calls; the states
that the log then shows for a request follow by induction on the run. -/
theorem workflow_orderly {initial reached : Workflow ρ} {taken : List (Workflow ρ × WorkflowCall)}
    (hnew : initial.records.plan_change_requests.ids = []) (hlog : initial.records.extension = [])
    (run : Run WorkflowStep initial taken reached)
    (hcalls : ∀ entry ∈ taken, entry.2.Refused entry.1 ∨ entry.2.InOrder entry.1) :
    Orderly initial taken reached := by
  have hstart : initial.Followed initial := by
    refine ⟨fun id hid => ?_, fun entry hentry => ?_, fun sub => ?_⟩
    · rw [hnew] at hid
      exact absurd hid List.not_mem_nil
    · rw [hlog] at hentry
      exact absurd hentry List.not_mem_nil
    · simp [Workflow.loggedPlan, hlog]
  have hfollowed := Run.invariant_of_condition hstart
    (fun state call after hfollowed hcall hstep => (WorkflowStep.keeps hfollowed hcall hstep).1) run hcalls
  have htrails := (hfollowed reached (Run.reached_mem_visited _ _)).trails
  refine ⟨fun id hid => (htrails id hid).plan_changes_le_one, (hfollowed reached (Run.reached_mem_visited _ _)).plans,
    fun id hid before entry rest hsplit hentry => ?_, ?_,
    fun id hid himmediate before entry rest hsplit hentry => ?_⟩
  · have htrail := htrails id hid
    rw [hsplit] at htrail
    exact htrail.approvedIn_of_applied hentry
  · refine Run.visited_pairwise Workflow.finalizes_trans run fun entry hentry after hstep => ?_
    have hvisited : entry.1 ∈ Run.visited taken reached :=
      List.mem_append_left _ (List.mem_map_of_mem hentry)
    exact (WorkflowStep.keeps (hfollowed entry.1 hvisited) (hcalls entry hentry) hstep).2
  · have htrail := htrails id hid
    rw [hsplit, himmediate] at htrail
    exact htrail.submittedByPrivileged_of_approved hentry

def supervisor : User := { id := 2, isp_noc := true }

def engineer : User := { id := 3, isp_noc := true }

/-- A customer asks for another plan at once, or somebody in his name. -/
def askForUpgrade : WorkflowCall :=
  .create newYearsEve [{ subscription_id := 0, requested_plan_id := 1, effective_date_mode := .immediate }]

/-- The database that holds the request as a draft. -/
def upgradeAsked : Workflow Unit := askForUpgrade.call (customerWith [] [])

def engineerSubmits : WorkflowCall := .action_submit engineer newYearsEve [0]

def supervisorApproves : WorkflowCall := .action_approve supervisor (fun _ => 0) (fun _ => "") newYearsEve [0]

theorem upgrade_orderly :
    Orderly (customerWith [] [])
      [(customerWith [] [], askForUpgrade), (upgradeAsked, engineerSubmits),
        (engineerSubmits.call upgradeAsked, supervisorApproves)]
      (supervisorApproves.call (engineerSubmits.call upgradeAsked)) := by
  refine workflow_orderly rfl rfl
    (((Run.start.step ⟨by decide, rfl⟩).step ⟨by decide, rfl⟩).step ⟨by decide, rfl⟩) ?_
  intro entry hentry
  simp only [List.mem_cons, List.not_mem_nil, or_false] at hentry
  obtain rfl | rfl | rfl := hentry
  · exact Or.inr (by decide)
  · exact Or.inr (by decide)
  · exact Or.inr (by decide)

def supervisorApplies : WorkflowCall := .action_apply supervisor (fun _ => 0) (fun _ => "") [0]

/-- Nobody submits or approves the request, and yet a user who may apply it can do so
twice. -/
theorem draft_applied_twice :
    Run WorkflowStep (customerWith [] [])
        [(customerWith [] [], askForUpgrade), (upgradeAsked, supervisorApplies),
          (supervisorApplies.call upgradeAsked, supervisorApplies)]
        (supervisorApplies.call (supervisorApplies.call upgradeAsked)) ∧
      ¬ Orderly (customerWith [] [])
        [(customerWith [] [], askForUpgrade), (upgradeAsked, supervisorApplies),
          (supervisorApplies.call upgradeAsked, supervisorApplies)]
        (supervisorApplies.call (supervisorApplies.call upgradeAsked)) := by
  refine ⟨((Run.start.step ⟨by decide, rfl⟩).step ⟨by decide, rfl⟩).step ⟨by decide, rfl⟩, fun horderly => ?_⟩
  have honce := horderly.once 0 (by decide)
  revert honce
  decide

end getupnet.isp_core

import Getupnet.IspCore.PlanChangeRequest.Orderly

open relational
open calendar

namespace getupnet.isp_core

/-- The effective date of a request has come, once it is filled in. -/
def IspPlanChangeRequest.FallsDue (today : Date) (sub : IspSubscription) (self : IspPlanChangeRequest) : Prop :=
  match self.effective_date, self.effective_date_mode with
  | some effective_date, _ => effective_date ≤ today
  | none, .immediate => True
  | none, .next_cycle => ∃ next_invoice_date, sub.next_invoice_date = some next_invoice_date ∧ next_invoice_date ≤ today
  | none, .custom => False

theorem IspPlanChangeRequest.fallsDue_iff {today : Date} {sub : IspSubscription} {self : IspPlanChangeRequest} :
    self.FallsDue today sub ↔
      ∃ effective_date, (self.ensure_effective_date today sub).effective_date = some effective_date ∧
        effective_date ≤ today := by
  obtain ⟨_, _, mode, date, _, _, _⟩ := self
  simp only [IspPlanChangeRequest.FallsDue, IspPlanChangeRequest.ensure_effective_date]
  cases date with
  | some effective_date => simp
  | none =>
    cases mode with
    | immediate => simp
    | custom => simp
    | next_cycle =>
      cases sub.next_invoice_date with
      | some next_invoice_date => simp
      | none =>
        have hlater : today < today.addMonths 1 :=
          Date.lt_of_monthIndex_lt (by rw [Date.addMonths_monthIndex]; exact Int.lt_succ _)
        simp [hlater]

section

variable {ρ : Type} {user : User} {clock : Nat → Nat} {token_hex : Nat → String} {today : Date}

/-- A request once it is approved, with its effective date. -/
def IspPlanChangeRequest.asApproved (user : User) (today : Date) (sub : IspSubscription)
    (self : IspPlanChangeRequest) : IspPlanChangeRequest :=
  { self.ensure_effective_date today sub with
    state := .approved
    approved_by := some user.id }

/-- What an approval leaves, before it applies anything. -/
def Workflow.approvedBy (user : User) (today : Date) (id : Nat) (world : Workflow ρ) : Workflow ρ :=
  Workflow.log_action .plan_change_approved id user (World.writeRequest world id
    (IspPlanChangeRequest.asApproved user today (world.subscription (world.request id).subscription_id)))

/-- The effective date of a request has come, by the subscription it is for. -/
def Workflow.FallsDue (today : Date) (world : Workflow ρ) (id : Nat) : Prop :=
  (world.request id).FallsDue today (world.subscription (world.request id).subscription_id)

theorem Workflow.approvedBy_request_self {id : Nat} {world : Workflow ρ} :
    (world.approvedBy user today id).request id = (world.request id).asApproved user today
      (world.subscription (world.request id).subscription_id) :=
  world.records.plan_change_requests.write_row_self id (IspPlanChangeRequest.asApproved user today
    (world.subscription (world.request id).subscription_id))

/-- The last lines of an approval do something just when the request falls due. -/
theorem Workflow.exec_if_due {ε : Type} (method : Method (Workflow ρ) ε Unit) {id : Nat} {world : Workflow ρ}
    [Decidable (world.FallsDue today id)] :
    (match ((world.approvedBy user today id).request id).effective_date with
      | some effective_date => if effective_date ≤ today then method else pure ()
      | none => pure ()).exec (world.approvedBy user today id) =
      if world.FallsDue today id then method.exec (world.approvedBy user today id)
      else (.ok (), world.approvedBy user today id) := by
  have hdate : ((world.approvedBy user today id).request id).effective_date =
      ((world.request id).ensure_effective_date today
        (world.subscription (world.request id).subscription_id)).effective_date := by
    rw [Workflow.approvedBy_request_self]
    rfl
  have hdue : world.FallsDue today id ↔ _ := IspPlanChangeRequest.fallsDue_iff
  rw [← hdate] at hdue
  cases heffective : ((world.approvedBy user today id).request id).effective_date with
  | none =>
    rw [heffective] at hdue
    rw [if_neg fun h => nomatch (hdue.mp h).choose_spec.1]
    rfl
  | some effective_date =>
    simp only [heffective, Option.some.injEq, exists_eq_left'] at hdue
    by_cases hday : effective_date ≤ today
    · rw [if_pos (hdue.mpr hday)]
      dsimp only
      rw [if_pos hday]
    · rw [if_neg fun h => hday (hdue.mp h)]
      dsimp only
      rw [if_neg hday]
      rfl

/-- An approval goes on to the application just when the request falls due. -/
theorem IspPlanChangeRequest.approve_exec {id : Nat} {world : Workflow ρ} [Decidable (world.FallsDue today id)] :
    (IspPlanChangeRequest.approve user clock token_hex today id).exec world =
      if world.FallsDue today id then
        (IspPlanChangeRequest.action_apply_logged user clock token_hex [id]).exec (world.approvedBy user today id)
      else (.ok (), world.approvedBy user today id) := by
  rw [IspPlanChangeRequest.approve, Method.exec_get_bind, Method.exec_bind_of_ok (Method.exec_modify _ _),
    Method.exec_bind_of_ok (Method.exec_modify _ _), Method.exec_bind_of_ok (Method.exec_modify _ _),
    World.writeRequest_writeRequest, Method.exec_get_bind]
  exact Workflow.exec_if_due _

end

/-- The effective date that a request has or would be given. -/
def IspPlanChangeRequest.dateOn (today : Date) (next_invoice_date : Option Date) (self : IspPlanChangeRequest) :
    Option Date :=
  match self.effective_date, self.effective_date_mode with
  | some effective_date, _ => some effective_date
  | none, .immediate => some today
  | none, .next_cycle => some (next_invoice_date.getD (today.addMonths 1))
  | none, .custom => none

theorem IspPlanChangeRequest.ensure_effective_date_eq_dateOn {today : Date} {sub : IspSubscription}
    {self : IspPlanChangeRequest} :
    (self.ensure_effective_date today sub).effective_date = self.dateOn today sub.next_invoice_date := by
  obtain ⟨_, _, mode, date, _, _, _⟩ := self
  cases date <;> cases mode <;> rfl

/-- The subject of a request is kept, and at most a missing date is filled in. -/
structure IspPlanChangeRequest.Kept (today : Date) (next_invoice_date : Option Date)
    (before after : IspPlanChangeRequest) : Prop where
  subscription : after.subscription_id = before.subscription_id
  plan : after.requested_plan_id = before.requested_plan_id
  mode : after.effective_date_mode = before.effective_date_mode
  date : after.effective_date = before.effective_date ∨
    after.effective_date = before.dateOn today next_invoice_date

section

variable {today : Date} {next_invoice_date : Option Date} {first second third : IspPlanChangeRequest}

theorem IspPlanChangeRequest.dateOn_of_dated {self : IspPlanChangeRequest} {effective_date : Date}
    (hdate : self.effective_date = some effective_date) :
    self.dateOn today next_invoice_date = some effective_date := by
  rw [IspPlanChangeRequest.dateOn, hdate]

theorem IspPlanChangeRequest.Kept.dateOn (h : first.Kept today next_invoice_date second) :
    second.dateOn today next_invoice_date = first.dateOn today next_invoice_date := by
  obtain hdate | hdate := h.date
  · rw [IspPlanChangeRequest.dateOn, IspPlanChangeRequest.dateOn, hdate, h.mode]
  · cases hfirst : first.dateOn today next_invoice_date with
    | some effective_date => exact IspPlanChangeRequest.dateOn_of_dated (hdate.trans hfirst)
    | none =>
      have hnone : first.effective_date = none := by
        cases heffective : first.effective_date with
        | none => rfl
        | some effective_date =>
          rw [IspPlanChangeRequest.dateOn_of_dated heffective] at hfirst
          cases hfirst
      rw [← hfirst, IspPlanChangeRequest.dateOn, IspPlanChangeRequest.dateOn, hdate, hfirst, hnone, h.mode]

theorem IspPlanChangeRequest.Kept.trans (h : first.Kept today next_invoice_date second)
    (hnext : second.Kept today next_invoice_date third) : first.Kept today next_invoice_date third where
  subscription := hnext.subscription.trans h.subscription
  plan := hnext.plan.trans h.plan
  mode := hnext.mode.trans h.mode
  date := by
    obtain hdate | hdate := hnext.date
    · rw [hdate]
      exact h.date
    · rw [hdate, h.dateOn]
      exact Or.inr rfl

/-- A date that is there stays. -/
theorem IspPlanChangeRequest.Kept.dated (h : first.Kept today next_invoice_date second) {effective_date : Date}
    (hdate : first.effective_date = some effective_date) : second.effective_date = some effective_date := by
  obtain hsame | hsame := h.date
  · exact hsame.trans hdate
  · exact hsame.trans (IspPlanChangeRequest.dateOn_of_dated hdate)

end

section

variable {ρ : Type} {user : User} {clock : Nat → Nat} {token_hex : Nat → String} {today : Date}
  {world first second third : Workflow ρ} {id : Nat}

/-- The next invoice date of the subscription that a request is for. -/
def Workflow.next_invoice_date (world : Workflow ρ) (id : Nat) : Option Date :=
  (world.subscription (world.request id).subscription_id).next_invoice_date

/-- Requests are kept, and the invoice dates stay as they are. -/
structure Workflow.Handled (today : Date) (before after : Workflow ρ) : Prop where
  ids : after.records.plan_change_requests.ids = before.records.plan_change_requests.ids
  next : ∀ sub, (after.subscription sub).next_invoice_date = (before.subscription sub).next_invoice_date
  kept : ∀ id, (before.request id).Kept today (before.next_invoice_date id) (after.request id)

theorem Workflow.Handled.refl : world.Handled today world :=
    ⟨rfl, fun _ => rfl, fun _ => ⟨rfl, rfl, rfl, Or.inl rfl⟩⟩

theorem Workflow.Handled.next_invoice_date (h : first.Handled today second) (id : Nat) :
    second.next_invoice_date id = first.next_invoice_date id := by
  rw [Workflow.next_invoice_date, h.next, (h.kept id).subscription]
  rfl

theorem Workflow.Handled.trans (h : first.Handled today second) (hnext : second.Handled today third) :
    first.Handled today third where
  ids := hnext.ids.trans h.ids
  next := fun sub => (hnext.next sub).trans (h.next sub)
  kept := fun id => (h.kept id).trans (h.next_invoice_date id ▸ hnext.kept id)

theorem Workflow.fallsDue_iff_dateOn :
    world.FallsDue today id ↔ ∃ effective_date,
      (world.request id).dateOn today (world.next_invoice_date id) = some effective_date ∧
      effective_date ≤ today := by
  rw [Workflow.FallsDue, IspPlanChangeRequest.fallsDue_iff, IspPlanChangeRequest.ensure_effective_date_eq_dateOn]
  rfl

theorem Workflow.Handled.fallsDue (h : first.Handled today second) (id : Nat) :
    second.FallsDue today id ↔ first.FallsDue today id := by
  rw [Workflow.fallsDue_iff_dateOn, Workflow.fallsDue_iff_dateOn, h.next_invoice_date, (h.kept id).dateOn]

/-- The new entries of the audit log are applications of these requests only. -/
def Workflow.Logs (may : Nat → Prop) (before after : Workflow ρ) : Prop :=
  ∃ entries, after.records.extension = before.records.extension ++ entries ∧
    ∀ entry ∈ entries, entry.action = .plan_change_applied → may entry.request

theorem Workflow.Logs.refl {may : Nat → Prop} : world.Logs may world := ⟨[], by simp, by simp⟩

theorem Workflow.Logs.trans {may other : Nat → Prop} (h : first.Logs may second) (hnext : second.Logs other third)
    (hother : ∀ request, other request → may request) : first.Logs may third := by
  obtain ⟨entries, hentries, hmay⟩ := h
  obtain ⟨later, hlater, hlate⟩ := hnext
  refine ⟨entries ++ later, by rw [hlater, hentries, List.append_assoc], fun entry hentry happlied => ?_⟩
  obtain hold | hnew := List.mem_append.mp hentry
  · exact hmay entry hold happlied
  · exact hother _ (hlate entry hnew happlied)

theorem Workflow.Logs.mono {may other : Nat → Prop} (h : first.Logs may second)
    (hother : ∀ request, may request → other request) : first.Logs other second :=
  Workflow.Logs.refl.trans h hother

/-- Writing a request and its log entry. -/
theorem Workflow.handled_of_write (action : PlanChangeAction)
    {change : IspPlanChangeRequest → IspPlanChangeRequest}
    (hkept : (world.request id).Kept today (world.next_invoice_date id) (change (world.request id))) :
    world.Handled today (Workflow.log_action action id user (World.writeRequest world id change)) where
  ids := rfl
  next := fun _ => rfl
  kept := by
    intro other
    by_cases hsame : other = id
    · subst hsame
      have hrow : (Workflow.log_action action other user (World.writeRequest world other change)).request other =
          change (world.request other) := world.records.plan_change_requests.write_row_self other change
      rw [hrow]
      exact hkept
    · have hrow : (Workflow.log_action action id user (World.writeRequest world id change)).request other =
          world.request other := world.records.plan_change_requests.write_row_ne hsame change
      rw [hrow]
      exact ⟨rfl, rfl, rfl, Or.inl rfl⟩

theorem Workflow.logs_of_write {may : Nat → Prop} (action : PlanChangeAction)
    (haction : action ≠ .plan_change_applied) (change : IspPlanChangeRequest → IspPlanChangeRequest) :
    world.Logs may (Workflow.log_action action id user (World.writeRequest world id change)) := by
  refine ⟨[{ action, request := id, user }], rfl, fun entry hentry happlied => ?_⟩
  rw [List.mem_singleton.mp hentry] at happlied
  exact absurd happlied haction

/-- The date of a request is filled in with a change of its state. -/
theorem IspPlanChangeRequest.kept_ensured (sub : IspSubscription) (self : IspPlanChangeRequest)
    (state : PlanChangeState) (approved_by : Option Nat) :
    self.Kept today sub.next_invoice_date { self.ensure_effective_date today sub with state, approved_by } := by
  obtain ⟨hsub, hplan, hmode, _⟩ := @IspPlanChangeRequest.ensure_effective_date_kept today sub self
  exact ⟨hsub, hplan, hmode, Or.inr IspPlanChangeRequest.ensure_effective_date_eq_dateOn⟩

theorem IspPlanChangeRequest.submit_handled {after : Workflow ρ}
    (h : (IspPlanChangeRequest.submit user today id).exec world = (.ok (), after)) :
    world.Handled today after ∧ world.Logs (fun _ => False) after := by
  simp only [IspPlanChangeRequest.submit, Method.exec_bind, Method.exec_get] at h
  by_cases hrefused : (world.request id).effective_date_mode = .immediate ∧ ¬ user.Privileged
  · rw [if_pos hrefused] at h
    cases h
  · rw [if_neg hrefused] at h
    simp only [Method.exec_bind, Method.exec_modify, World.writeRequest_writeRequest] at h
    cases h
    exact ⟨Workflow.handled_of_write .plan_change_submitted (IspPlanChangeRequest.kept_ensured _ _ _ _),
      Workflow.logs_of_write .plan_change_submitted (by decide) _⟩

theorem IspPlanChangeRequest.action_submit_handled {requests : List Nat} {after : Workflow ρ}
    (h : (IspPlanChangeRequest.action_submit user today requests).exec world = (.ok (), after)) :
    world.Handled today after ∧ world.Logs (fun _ => False) after := by
  refine @Method.forEach_relates _ _ _ _
    (fun before after : Workflow ρ => before.Handled today after ∧ before.Logs (fun _ => False) after)
    (fun _ => ⟨.refl, .refl⟩) ?_ requests (fun id _ before after => IspPlanChangeRequest.submit_handled) _ _ h
  exact fun _ _ _ h hnext => ⟨h.1.trans hnext.1, h.2.trans hnext.2 fun _ => id⟩

/-- Applying a request fills in no date. -/
theorem IspPlanChangeRequest.apply_logged_handled {after : Workflow ρ}
    (h : (IspPlanChangeRequest.apply_logged user clock token_hex id).exec world = (.ok (), after)) :
    world.Handled today after ∧ world.Logs (· = id) after := by
  rw [IspPlanChangeRequest.apply_logged,
    Method.exec_bind_of_ok (IspPlanChangeRequest.apply_exec clock token_hex id world)] at h
  cases h
  constructor
  · refine ⟨rfl, fun sub => ?_, fun other => ?_⟩
    · by_cases hsame : sub = (world.request id).subscription_id
      · subst hsame
        have hnext := congrArg (fun values : IspSubscription => values.next_invoice_date)
          (world.applied_subscription_self clock id)
        exact hnext
      · have hnext := congrArg (fun values : IspSubscription => values.next_invoice_date)
          (world.applied_subscription_ne clock hsame)
        exact hnext
    · by_cases hsame : other = id
      · subst hsame
        have hrow : (Workflow.log_action .plan_change_applied other user (world.applied clock other)).request other =
            (world.request other).asApplied :=
          world.records.plan_change_requests.write_row_self other IspPlanChangeRequest.asApplied
        rw [hrow]
        exact ⟨rfl, rfl, rfl, Or.inl rfl⟩
      · have hrow : (Workflow.log_action .plan_change_applied id user (world.applied clock id)).request other =
            world.request other :=
          world.records.plan_change_requests.write_row_ne hsame IspPlanChangeRequest.asApplied
        rw [hrow]
        exact ⟨rfl, rfl, rfl, Or.inl rfl⟩
  · refine ⟨[{ action := .plan_change_applied, request := id, user }], rfl, fun entry hentry _ => ?_⟩
    rw [List.mem_singleton.mp hentry]

/-- An approval dates the request, and applies it at most when it falls due. -/
theorem IspPlanChangeRequest.approve_handled {after : Workflow ρ}
    (h : (IspPlanChangeRequest.approve user clock token_hex today id).exec world = (.ok (), after)) :
    world.Handled today after ∧ world.Logs (fun request => request = id ∧ world.FallsDue today id) after ∧
      (after.request id).effective_date = (world.request id).dateOn today (world.next_invoice_date id) := by
  classical
  have happroved : world.Handled today (world.approvedBy user today id) :=
    Workflow.handled_of_write .plan_change_approved (IspPlanChangeRequest.kept_ensured _ _ _ _)
  have hlogs : world.Logs (fun request => request = id ∧ world.FallsDue today id) (world.approvedBy user today id) :=
    Workflow.logs_of_write .plan_change_approved nofun _
  have hdate : ((world.approvedBy user today id).request id).effective_date =
      (world.request id).dateOn today (world.next_invoice_date id) := by
    rw [Workflow.approvedBy_request_self]
    exact IspPlanChangeRequest.ensure_effective_date_eq_dateOn
  rw [IspPlanChangeRequest.approve_exec] at h
  by_cases hdue : world.FallsDue today id
  · rw [if_pos hdue, IspPlanChangeRequest.action_apply_logged, Method.forEach_singleton] at h
    obtain ⟨hhandled, hlog⟩ := @IspPlanChangeRequest.apply_logged_handled _ _ _ _ today _ _ _ h
    refine ⟨happroved.trans hhandled, hlogs.trans hlog fun request hrequest => ⟨hrequest, hdue⟩, ?_⟩
    obtain hsame | hsame := (hhandled.kept id).date
    · exact hsame.trans hdate
    · rw [hsame, happroved.next_invoice_date, (happroved.kept id).dateOn]
  · rw [if_neg hdue] at h
    cases h
    exact ⟨happroved, hlogs, hdate⟩

/-- An approval never raises. -/
theorem IspPlanChangeRequest.action_approve_not_raises {requests : List Nat} {exception : OdooError}
    {after : Workflow ρ} :
    (IspPlanChangeRequest.action_approve user clock token_hex today requests).exec world ≠
      (.error exception, after) := by
  classical
  intro h
  obtain ⟨request, _, middle, _, hraised⟩ := @Method.forEach_raises _ _ _ _ (fun _ _ : Workflow ρ => True)
    (fun _ => trivial) (fun _ _ _ _ _ => trivial) (fun _ _ _ _ => trivial) requests world after exception h
  rw [IspPlanChangeRequest.approve_exec] at hraised
  by_cases hdue : middle.FallsDue today request
  · rw [if_pos hdue, IspPlanChangeRequest.action_apply_logged, Method.forEach_singleton,
      IspPlanChangeRequest.apply_logged,
      Method.exec_bind_of_ok (IspPlanChangeRequest.apply_exec clock token_hex request _)] at hraised
    cases hraised
  · rw [if_neg hdue] at hraised
    cases hraised

theorem IspPlanChangeRequest.action_approve_handled {requests : List Nat} {after : Workflow ρ}
    (h : (IspPlanChangeRequest.action_approve user clock token_hex today requests).exec world = (.ok (), after)) :
    world.Handled today after ∧
      world.Logs (fun request => request ∈ requests ∧ world.FallsDue today request) after ∧
      ∀ request ∈ requests,
        (after.request request).effective_date = (world.request request).dateOn today (world.next_invoice_date request) := by
  have hstep : ∀ request ∈ requests, ∀ before after : Workflow ρ,
      (IspPlanChangeRequest.approve user clock token_hex today request).exec before = (.ok (), after) →
        before.Handled today after ∧
          before.Logs (fun request => request ∈ requests ∧ before.FallsDue today request) after := by
    intro request hrequest before after happrove
    obtain ⟨hhandled, hlogs, _⟩ := IspPlanChangeRequest.approve_handled happrove
    refine ⟨hhandled, hlogs.mono ?_⟩
    rintro _ ⟨rfl, hdue⟩
    exact ⟨hrequest, hdue⟩
  have hall := @Method.forEach_relates _ _ _ _ (fun before after : Workflow ρ => before.Handled today after ∧
    before.Logs (fun request => request ∈ requests ∧ before.FallsDue today request) after)
    (fun _ => ⟨.refl, .refl⟩) (fun _ _ _ h hnext => ⟨h.1.trans hnext.1, h.2.trans hnext.2 fun request hrequest =>
      ⟨hrequest.1, (h.1.fallsDue request).mp hrequest.2⟩⟩) requests hstep world after h
  refine ⟨hall.1, hall.2, fun request hrequest => ?_⟩
  obtain ⟨middle, next, hbefore, happrove, hafter⟩ :=
    @Method.forEach_reaches _ _ _ (IspPlanChangeRequest.approve user clock token_hex today)
      (fun before after : Workflow ρ => before.Handled today after) (fun _ => .refl) (fun _ _ _ => .trans)
      (fun _ _ _ happrove => (IspPlanChangeRequest.approve_handled happrove).1) requests request hrequest world after h
  obtain ⟨hhandled, _, hdate⟩ := IspPlanChangeRequest.approve_handled happrove
  rw [hbefore.next_invoice_date, (hbefore.kept request).dateOn] at hdate
  obtain hsame | hsame := (hafter.kept request).date
  · exact hsame.trans hdate
  · rw [hsame, (hbefore.trans hhandled).next_invoice_date, ((hbefore.trans hhandled).kept request).dateOn]

/-- A request that falls due is applied by its approval. -/
theorem IspPlanChangeRequest.action_approve_applies {requests : List Nat} {after : Workflow ρ}
    (h : (IspPlanChangeRequest.action_approve user clock token_hex today requests).exec world = (.ok (), after))
    (hid : id ∈ requests) (hdue : world.FallsDue today id) :
    ∃ entry ∈ after.records.extension.drop world.records.extension.length,
      entry.action = .plan_change_applied ∧ entry.request = id := by
  classical
  have happroves : ∀ (request : Nat) (before after : Workflow ρ),
      (IspPlanChangeRequest.approve user clock token_hex today request).exec before = (.ok (), after) →
      before.Handled today after ∧ before.Logs (fun _ => True) after := by
    intro request before after happrove
    obtain ⟨hhandled, hlogs, _⟩ := IspPlanChangeRequest.approve_handled happrove
    exact ⟨hhandled, hlogs.mono fun _ _ => trivial⟩
  obtain ⟨middle, next, hbefore, happrove, _, later, hlater, _⟩ :=
    @Method.forEach_reaches _ _ _ (IspPlanChangeRequest.approve user clock token_hex today)
      (fun before after : Workflow ρ => before.Handled today after ∧ before.Logs (fun _ => True) after)
      (fun _ => ⟨.refl, .refl⟩) (fun _ _ _ h hnext => ⟨h.1.trans hnext.1, h.2.trans hnext.2 fun _ _ => trivial⟩)
      happroves requests id hid world after h
  obtain ⟨hhandled, earlier, hearlier, _⟩ := hbefore
  rw [IspPlanChangeRequest.approve_exec, if_pos ((hhandled.fallsDue id).mpr hdue),
    IspPlanChangeRequest.action_apply_logged, Method.forEach_singleton, IspPlanChangeRequest.apply_logged,
    Method.exec_bind_of_ok (IspPlanChangeRequest.apply_exec clock token_hex id _)] at happrove
  cases happrove
  have hnext : (Workflow.log_action .plan_change_applied id user
      ((Workflow.approvedBy user today id middle).applied clock id)).records.extension =
        middle.records.extension ++ [{ action := .plan_change_approved, request := id, user }] ++
          [{ action := .plan_change_applied, request := id, user }] := rfl
  rw [hnext, hearlier] at hlater
  refine ⟨{ action := .plan_change_applied, request := id, user }, ?_, rfl, rfl⟩
  rw [hlater]
  simp only [List.append_assoc, List.drop_left]
  simp

/-- The pass applies nothing but the requests that it finds. -/
theorem IspPlanChangeRequest.cron_apply_plan_changes_handled {after : Workflow ρ}
    (h : (IspPlanChangeRequest.cron_apply_plan_changes_logged user clock token_hex today).exec world =
      (.ok (), after)) :
    world.Handled today after ∧ world.Logs (fun request =>
      request ∈ world.records.plan_change_requests.ids ∧ (world.request request).isDue today = true) after := by
  rw [IspPlanChangeRequest.cron_apply_plan_changes_logged, Method.exec_get_bind] at h
  refine @Method.forEach_relates _ _ _ _ (fun before after : Workflow ρ => before.Handled today after ∧
    before.Logs (fun request =>
      request ∈ world.records.plan_change_requests.ids ∧ (world.request request).isDue today = true) after)
    (fun _ => ⟨.refl, .refl⟩) (fun _ _ _ h hnext => ⟨h.1.trans hnext.1, h.2.trans hnext.2 fun _ => id⟩) _ ?_ _ _ h
  intro request hrequest before after happly
  rw [IspPlanChangeRequest.action_apply_logged, Method.forEach_singleton] at happly
  obtain ⟨hhandled, hlogs⟩ := @IspPlanChangeRequest.apply_logged_handled _ _ _ _ today _ _ _ happly
  refine ⟨hhandled, hlogs.mono ?_⟩
  rintro _ rfl
  exact (Store.mem_searchDesc _ _ _).mp hrequest

end

end getupnet.isp_core

import Getupnet.IspCore.PlanChangeRequest

namespace getupnet.isp_core

/-- The user of a call, and the groups of his that the workflow asks for. -/
structure User where
  id : Nat
  isp_admin : Bool := false
  isp_noc : Bool := false
  deriving DecidableEq

/-- May submit an immediate plan change. -/
def User.Privileged (self : User) : Prop := self.isp_admin = true ∨ self.isp_noc = true

instance (self : User) : Decidable self.Privileged := inferInstanceAs (Decidable (_ ∨ _))

inductive PlanChangeAction where
  | plan_change_submitted
  | plan_change_approved
  | plan_change_rejected
  | plan_change_applied
  deriving DecidableEq

/-- An audit log entry of the plan change workflow. The log of the source names
the subscription; the entry also keeps the request that it is about. -/
structure PlanChangeEntry where
  action : PlanChangeAction
  request : Nat
  user : User
  deriving DecidableEq

/-- The documented workflow of a request with a given mode: what its log entries
may be, and the state they lead to. Rejection and application end it. -/
inductive Trail (mode : EffectiveDateMode) : List PlanChangeEntry → PlanChangeState → Prop where
  | created : Trail mode [] .draft
  | submitted {entries : List PlanChangeEntry} {state : PlanChangeState} {entry : PlanChangeEntry}
      (before : Trail mode entries state) (hopen : state ≠ .rejected ∧ state ≠ .applied)
      (haction : entry.action = .plan_change_submitted)
      (hprivileged : mode = .immediate → entry.user.Privileged) : Trail mode (entries ++ [entry]) .submitted
  | approved {entries : List PlanChangeEntry} {state : PlanChangeState} {entry : PlanChangeEntry}
      (before : Trail mode entries state) (hsubmitted : state = .submitted ∨ state = .approved)
      (haction : entry.action = .plan_change_approved) : Trail mode (entries ++ [entry]) .approved
  | rejected {entries : List PlanChangeEntry} {state : PlanChangeState} {entry : PlanChangeEntry}
      (before : Trail mode entries state) (hopen : state ≠ .applied)
      (haction : entry.action = .plan_change_rejected) : Trail mode (entries ++ [entry]) .rejected
  | applied {entries : List PlanChangeEntry} {entry : PlanChangeEntry}
      (before : Trail mode entries .approved)
      (haction : entry.action = .plan_change_applied) : Trail mode (entries ++ [entry]) .applied

/-- How often the entries change the plan. -/
def plan_changes (entries : List PlanChangeEntry) : Nat :=
  entries.countP fun entry => entry.action = .plan_change_applied

/-- A submission, then an approval, and no rejection after it. -/
def ApprovedIn (entries : List PlanChangeEntry) : Prop :=
  ∃ before submission between approval rest,
    entries = before ++ submission :: between ++ approval :: rest ∧
      submission.action = .plan_change_submitted ∧ approval.action = .plan_change_approved ∧
      ∀ entry ∈ rest, entry.action ≠ .plan_change_rejected

/-- A submission by a user who may submit immediate changes. -/
def SubmittedByPrivileged (entries : List PlanChangeEntry) : Prop :=
  ∃ entry ∈ entries, entry.action = .plan_change_submitted ∧ entry.user.Privileged

theorem plan_changes_append (entries : List PlanChangeEntry) (entry : PlanChangeEntry) :
    plan_changes (entries ++ [entry]) =
      plan_changes entries + if entry.action = .plan_change_applied then 1 else 0 := by
  simp [plan_changes, List.countP_append, List.countP_cons]

variable {mode : EffectiveDateMode} {entries : List PlanChangeEntry} {state : PlanChangeState}

/-- The plan is changed once in the state `applied` and never in another. -/
theorem Trail.plan_changes_eq (h : Trail mode entries state) :
    plan_changes entries = if state = .applied then 1 else 0 := by
  induction h with
  | created => rfl
  | submitted before hopen haction hprivileged ih =>
    rw [plan_changes_append, ih, if_neg hopen.2]
    simp [haction]
  | @approved entries state entry before hsubmitted haction ih =>
    have hnot : state ≠ .applied := by
      obtain rfl | rfl := hsubmitted <;> simp
    rw [plan_changes_append, ih, if_neg hnot]
    simp [haction]
  | rejected before hopen haction ih =>
    rw [plan_changes_append, ih, if_neg hopen]
    simp [haction]
  | applied before haction ih =>
    rw [plan_changes_append, ih]
    simp [haction]

theorem Trail.plan_changes_le_one (h : Trail mode entries state) : plan_changes entries ≤ 1 := by
  rw [h.plan_changes_eq]
  split <;> omega

/-- A submitted request has a submission, one that its mode allows. -/
theorem Trail.exists_submission (h : Trail mode entries .submitted) :
    ∃ before submission, entries = before ++ [submission] ∧ submission.action = .plan_change_submitted ∧
      (mode = .immediate → submission.user.Privileged) := by
  cases h with
  | submitted before hopen haction hprivileged => exact ⟨_, _, rfl, haction, hprivileged⟩

theorem Trail.approvedIn (h : Trail mode entries .approved) : ApprovedIn entries := by
  generalize hstate : PlanChangeState.approved = state at h
  induction h with
  | created | submitted | rejected | applied => cases hstate
  | @approved entries state entry before hsubmitted haction ih =>
    obtain rfl | rfl := hsubmitted
    · obtain ⟨start, submission, rfl, hsubmission, _⟩ := before.exists_submission
      exact ⟨start, submission, [], entry, [], by simp, hsubmission, haction, by simp⟩
    · obtain ⟨start, submission, between, approval, rest, rfl, hsubmission, _, _⟩ := ih rfl
      exact ⟨start, submission, between ++ approval :: rest, entry, [], by simp, hsubmission, haction, by simp⟩

/-- The last entry is the one of the step that made it. -/
theorem Trail.last_eq {entry : PlanChangeEntry} (h : Trail mode (entries ++ [entry]) state) :
    (state = .submitted ∧ entry.action = .plan_change_submitted) ∨
      (∃ earlier, state = .approved ∧ entry.action = .plan_change_approved ∧ Trail mode entries earlier ∧
        (earlier = .submitted ∨ earlier = .approved)) ∨
      (state = .rejected ∧ entry.action = .plan_change_rejected) ∨
      (state = .applied ∧ entry.action = .plan_change_applied ∧ Trail mode entries .approved) := by
  generalize hall : entries ++ [entry] = all at h
  cases h with
  | created => simp at hall
  | submitted before hopen haction hprivileged =>
    obtain ⟨rfl, hentry⟩ := List.append_inj' hall rfl
    rw [← List.singleton_inj.mp hentry] at haction
    exact Or.inl ⟨rfl, haction⟩
  | approved before hsubmitted haction =>
    obtain ⟨rfl, hentry⟩ := List.append_inj' hall rfl
    rw [← List.singleton_inj.mp hentry] at haction
    exact Or.inr (Or.inl ⟨_, rfl, haction, before, hsubmitted⟩)
  | rejected before hopen haction =>
    obtain ⟨rfl, hentry⟩ := List.append_inj' hall rfl
    rw [← List.singleton_inj.mp hentry] at haction
    exact Or.inr (Or.inr (Or.inl ⟨rfl, haction⟩))
  | applied before haction =>
    obtain ⟨rfl, hentry⟩ := List.append_inj' hall rfl
    rw [← List.singleton_inj.mp hentry] at haction
    exact Or.inr (Or.inr (Or.inr ⟨rfl, haction, before⟩))

theorem Trail.init {entry : PlanChangeEntry} (h : Trail mode (entries ++ [entry]) state) :
    ∃ earlier, Trail mode entries earlier := by
  generalize hall : entries ++ [entry] = all at h
  cases h with
  | created => simp at hall
  | submitted before | approved before | rejected before | applied before =>
    obtain ⟨rfl, _⟩ := List.append_inj' hall rfl
    exact ⟨_, before⟩

/-- What a log was up to one of its entries is a trail, too. -/
theorem Trail.upTo {before rest : List PlanChangeEntry} {entry : PlanChangeEntry}
    (h : Trail mode (before ++ entry :: rest) state) : ∃ earlier, Trail mode (before ++ [entry]) earlier := by
  induction rest using List.reverseRecOn generalizing state with
  | nil => exact ⟨state, h⟩
  | append_singleton rest last ih =>
    rw [← List.cons_append, ← List.append_assoc] at h
    obtain ⟨earlier, hearlier⟩ := h.init
    exact ih hearlier

/-- Whoever changes the plan finds the request approved. -/
theorem Trail.approvedIn_of_applied {before rest : List PlanChangeEntry} {entry : PlanChangeEntry}
    (h : Trail mode (before ++ entry :: rest) state)
    (hentry : entry.action = .plan_change_applied) : ApprovedIn before := by
  obtain ⟨earlier, hearlier⟩ := h.upTo
  obtain ⟨_, haction⟩ | ⟨_, _, haction, _⟩ | ⟨_, haction⟩ | ⟨_, _, hbefore⟩ := hearlier.last_eq
  · rw [hentry] at haction
    cases haction
  · rw [hentry] at haction
    cases haction
  · rw [hentry] at haction
    cases haction
  · exact hbefore.approvedIn

theorem SubmittedByPrivileged.append (h : SubmittedByPrivileged entries) (more : List PlanChangeEntry) :
    SubmittedByPrivileged (entries ++ more) := by
  obtain ⟨entry, hmem, hentry⟩ := h
  exact ⟨entry, List.mem_append_left _ hmem, hentry⟩

/-- An immediate request that is submitted or approved was submitted by a user
who may do so. -/
theorem Trail.submittedByPrivileged (h : Trail .immediate entries state)
    (hstate : state = .submitted ∨ state = .approved) : SubmittedByPrivileged entries := by
  induction h with
  | created | rejected | applied => simp at hstate
  | submitted before hopen haction hprivileged =>
    exact ⟨_, List.mem_append_right _ (List.mem_singleton_self _), haction, hprivileged rfl⟩
  | approved before hsubmitted haction ih => exact (ih hsubmitted).append _

/-- Whoever approves an immediate request finds it submitted by such a user. -/
theorem Trail.submittedByPrivileged_of_approved {before rest : List PlanChangeEntry}
    {entry : PlanChangeEntry} (h : Trail .immediate (before ++ entry :: rest) state)
    (hentry : entry.action = .plan_change_approved) : SubmittedByPrivileged before := by
  obtain ⟨earlier, hearlier⟩ := h.upTo
  obtain ⟨_, haction⟩ | ⟨_, _, _, hbefore, hstate⟩ | ⟨_, haction⟩ | ⟨_, haction, _⟩ := hearlier.last_eq
  · rw [hentry] at haction
    cases haction
  · exact hbefore.submittedByPrivileged hstate
  · rw [hentry] at haction
    cases haction
  · rw [hentry] at haction
    cases haction

end getupnet.isp_core

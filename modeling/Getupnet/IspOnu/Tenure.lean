import Getupnet.IspOnu.Assignment

open relational
open getupnet.isp_core

namespace getupnet.isp_onu

/-- The assignments, and beside them which of them were ever active and when each
was last deactivated. -/
structure Tenures where
  assignments : Assignments
  ever_active : Nat → Bool
  deactivated : Nat → Option Nat

def Tenures.assignment (self : Tenures) (id : Nat) : IspOnuAssignment := self.assignments.table.row id

def Tenures.ids (self : Tenures) : List Nat := self.assignments.table.ids

def AssignmentCall.now : AssignmentCall → Nat
  | .create _ now _ | .write _ now _ _ => now
  | .move_subscription _ _ => 0

/-- A call that returns, with what is kept beside the assignments. A new assignment
has no past. -/
structure TenureStep (before : Tenures) (call : AssignmentCall) (after : Tenures) : Prop where
  assignments : AssignmentStep before.assignments call after.assignments
  ever_active : ∀ id, after.ever_active id =
    ((after.assignment id).active || (decide (id ∈ before.ids) && before.ever_active id))
  deactivated : ∀ id, after.deactivated id =
    if id ∈ before.ids then
      if (before.assignment id).active = true ∧ (after.assignment id).active = false then some call.now
      else before.deactivated id
    else none

/-- The dates of an assignment: an active one is assigned and not unassigned; one
that was active was unassigned when it was last deactivated, not before it was
assigned. -/
structure Tenures.Dated (tenures : Tenures) (id : Nat) : Prop where
  active : (tenures.assignment id).active = true →
    (tenures.assignment id).assigned_at ≠ none ∧ (tenures.assignment id).unassigned_at = none
  inactive : (tenures.assignment id).active = false → tenures.ever_active id = true →
    ∃ time assigned_at, tenures.deactivated id = some time ∧
      (tenures.assignment id).unassigned_at = some time ∧
      (tenures.assignment id).assigned_at = some assigned_at ∧ assigned_at ≤ time

def TenuresDated (tenures : Tenures) : Prop := ∀ id ∈ tenures.ids, tenures.Dated id

/-- No assignment is made active while it has a date of unassignment, and none is
deactivated before the date of its assignment. -/
def AssignmentCall.TogglesOnce (before : Assignments) : AssignmentCall → Prop
  | .create _ _ vals_list => ∀ vals ∈ vals_list, vals.active.getD true = true → vals.unassigned_at = none
  | .write _ now written vals =>
    (vals.active = some true → ∀ id ∈ written, (before.table.row id).unassigned_at = none) ∧
      (vals.active = some false → ∀ id ∈ written, (before.table.row id).active = true →
        ∀ assigned_at, (before.table.row id).assigned_at = some assigned_at → assigned_at ≤ now)
  | .move_subscription _ _ => True

section

variable {before after : Tenures} {call : AssignmentCall} {id : Nat}

theorem IspOnuAssignment.dated_dated (now : Nat) (self : IspOnuAssignment) :
    (self.dated now).dated now = self.dated now := by
  cases hactive : self.active <;> cases hassigned : self.assigned_at <;> cases hunassigned : self.unassigned_at <;>
    simp [IspOnuAssignment.dated, hactive, hassigned, hunassigned]

/-- What a write makes of one of its records. -/
def AssignmentWrite.written (now : Nat) (self : AssignmentWrite) (assignment : IspOnuAssignment) :
    IspOnuAssignment :=
  if self.active.isSome then (self.apply assignment).dated now else self.apply assignment

/-- What a call that returns leaves of an assignment that exists. -/
def AssignmentCall.leaves (assignment : IspOnuAssignment) (id : Nat) : AssignmentCall → IspOnuAssignment
  | .write _ now written vals => if id ∈ written then vals.written now assignment else assignment
  | _ => assignment

theorem AssignmentCall.finished_row {assignments : Assignments} (hid : id ∈ assignments.table.ids) :
    (call.finished (call.stored assignments)).table.row id = call.leaves (assignments.table.row id) id := by
  cases call with
  | create user now vals_list => exact assignments.table.createAll_row_of_mem _ hid
  | move_subscription subscription_id sector_id => rfl
  | write user now written vals =>
    have happly : (assignments.table.writeAll written vals.apply).row id =
        if id ∈ written then vals.apply (assignments.table.row id) else assignments.table.row id := by
      refine @Store.writeEach_row _ assignments.table written (fun _ => vals.apply) (fun _ self => ?_) id
      cases vals with
      | mk onu_id subscription_id active => cases onu_id <;> cases subscription_id <;> cases active <;> rfl
    have hdated := @Store.writeEach_row _ (assignments.table.writeAll written vals.apply) written
      (fun _ => IspOnuAssignment.dated now) (fun _ => IspOnuAssignment.dated_dated now) id
    rw [happly] at hdated
    simp only [AssignmentCall.finished, AssignmentCall.stored, AssignmentCall.leaves, AssignmentWrite.written]
    cases hsome : vals.active.isSome with
    | false => exact happly
    | true =>
      refine hdated.trans ?_
      split <;> rfl

theorem AssignmentCall.mem_finished_ids_of_mem {assignments : Assignments} (hid : id ∈ assignments.table.ids) :
    id ∈ (call.finished (call.stored assignments)).table.ids := by
  cases call with
  | create user now vals_list => exact assignments.table.mem_createAll_ids_of_mem _ hid
  | move_subscription subscription_id sector_id => exact hid
  | write user now written vals =>
    simp only [AssignmentCall.finished, AssignmentCall.stored]
    split <;> simpa using hid

/-- An assignment found after a call was there before or is made from the values of
a creation. -/
theorem AssignmentCall.mem_finished_ids {assignments : Assignments}
    (hid : id ∈ (call.finished (call.stored assignments)).table.ids) :
    id ∈ assignments.table.ids ∨ id ∉ assignments.table.ids ∧ ∃ user now vals_list vals,
      call = .create user now vals_list ∧ vals ∈ vals_list ∧
        (call.finished (call.stored assignments)).table.row id = vals.record now := by
  cases call with
  | create user now vals_list =>
    refine (assignments.table.mem_createAll_ids _ hid).imp_right fun ⟨hnew, hrow⟩ => ⟨hnew, ?_⟩
    obtain ⟨vals, hvals, hrecord⟩ := List.mem_map.mp hrow
    exact ⟨user, now, vals_list, vals, rfl, hvals, hrecord.symm⟩
  | move_subscription subscription_id sector_id => exact Or.inl hid
  | write user now written vals =>
    simp only [AssignmentCall.finished, AssignmentCall.stored] at hid
    refine Or.inl ?_
    split at hid <;> simpa using hid

theorem TenureStep.assignment (hstep : TenureStep before call after) (hid : id ∈ before.ids) :
    after.assignment id = call.leaves (before.assignment id) id := by
  have hafter := (AssignmentCall.run_returns hstep.assignments.2).1
  rw [Tenures.assignment, hafter]
  exact AssignmentCall.finished_row hid

theorem TenureStep.mem_ids_of_mem (hstep : TenureStep before call after) (hid : id ∈ before.ids) :
    id ∈ after.ids := by
  rw [Tenures.ids, (AssignmentCall.run_returns hstep.assignments.2).1]
  exact AssignmentCall.mem_finished_ids_of_mem hid

theorem TenureStep.mem_ids (hstep : TenureStep before call after) (hid : id ∈ after.ids) :
    id ∈ before.ids ∨ id ∉ before.ids ∧ ∃ user now vals_list vals,
      call = .create user now vals_list ∧ vals ∈ vals_list ∧ after.assignment id = vals.record now := by
  have hafter := (AssignmentCall.run_returns hstep.assignments.2).1
  rw [Tenures.assignment, hafter]
  rw [Tenures.ids, hafter] at hid
  exact AssignmentCall.mem_finished_ids hid

/-- A call that leaves an assignment as it is leaves its past. -/
theorem Tenures.Dated.of_unchanged (h : before.Dated id) (hstep : TenureStep before call after)
    (hid : id ∈ before.ids) (hactive : (after.assignment id).active = (before.assignment id).active)
    (hassigned : (after.assignment id).assigned_at = (before.assignment id).assigned_at)
    (hunassigned : (after.assignment id).unassigned_at = (before.assignment id).unassigned_at) :
    after.Dated id := by
  have hever : after.ever_active id = ((before.assignment id).active || before.ever_active id) := by
    rw [hstep.ever_active, hactive]
    simp [hid]
  have hdeactivated : after.deactivated id = before.deactivated id := by
    rw [hstep.deactivated, if_pos hid, if_neg]
    rintro ⟨hbefore, hafter⟩
    rw [hactive, hbefore] at hafter
    cases hafter
  refine ⟨fun h' => ?_, fun h' hwas => ?_⟩
  · rw [hassigned, hunassigned]
    exact h.active (hactive ▸ h')
  · rw [hactive] at h'
    rw [hever, h', Bool.false_or] at hwas
    rw [hassigned, hunassigned, hdeactivated]
    exact h.inactive h' hwas

/-- What a write of `active` leaves of an assignment. -/
theorem TenureStep.toggled {user : ResUsers} {now : Nat} {written : List Nat} {vals : AssignmentWrite}
    (hstep : TenureStep before (.write user now written vals) after) (hid : id ∈ before.ids)
    (hwritten : id ∈ written) {flag : Bool} (hflag : vals.active = some flag) :
    (after.assignment id).active = flag ∧
      (after.assignment id).assigned_at =
        (if flag = true ∧ (before.assignment id).assigned_at = none then some now
          else (before.assignment id).assigned_at) ∧
      (after.assignment id).unassigned_at =
        (if flag = false ∧ (before.assignment id).unassigned_at = none then some now
          else (before.assignment id).unassigned_at) := by
  have hassignment := hstep.assignment hid
  simp only [AssignmentCall.leaves, if_pos hwritten, AssignmentWrite.written, hflag, Option.isSome_some,
    if_true] at hassignment
  rw [hassignment]
  simp [IspOnuAssignment.dated, AssignmentWrite.apply, hflag]

/-- One assignment across a write of `active`. -/
theorem Tenures.Dated.toggled {user : ResUsers} {now : Nat} {written : List Nat} {vals : AssignmentWrite}
    (h : before.Dated id) (hstep : TenureStep before (.write user now written vals) after)
    (hid : id ∈ before.ids) (hwritten : id ∈ written) {flag : Bool} (hflag : vals.active = some flag)
    (honce : (AssignmentCall.write user now written vals).TogglesOnce before.assignments) : after.Dated id := by
  obtain ⟨hactive, hassigned, hunassigned⟩ := hstep.toggled hid hwritten hflag
  cases flag with
  | true =>
    refine ⟨fun _ => ⟨?_, ?_⟩, fun hinactive => absurd hactive (by simp [hinactive])⟩
    · rw [hassigned]
      cases hbefore : (before.assignment id).assigned_at <;> simp
    · rw [hunassigned]
      exact honce.1 hflag id hwritten
  | false =>
    refine ⟨fun hstill => absurd hactive (by simp [hstill]), fun _ hwas => ?_⟩
    have hkept : (after.assignment id).assigned_at = (before.assignment id).assigned_at := by
      rw [hassigned]
      simp
    rw [hkept, hunassigned, hstep.deactivated, if_pos hid]
    cases hbefore : (before.assignment id).active with
    | true =>
      obtain ⟨hdate, hnone⟩ := h.active hbefore
      obtain ⟨assigned_at, hassigned_at⟩ := Option.ne_none_iff_exists'.mp hdate
      refine ⟨now, assigned_at, if_pos ⟨rfl, hactive⟩, if_pos ⟨rfl, hnone⟩, hassigned_at, ?_⟩
      exact honce.2 hflag id hwritten hbefore assigned_at hassigned_at
    | false =>
      rw [hstep.ever_active, hactive] at hwas
      have hever : before.ever_active id = true := by simpa [hid] using hwas
      obtain ⟨time, assigned_at, htime, hdate, hassigned_at, hle⟩ := h.inactive hbefore hever
      refine ⟨time, assigned_at, (if_neg (by simp)).trans htime, ?_, hassigned_at, hle⟩
      rw [hdate]
      exact if_neg (by simp)

theorem AssignmentWrite.apply_of_none {vals : AssignmentWrite} (hnone : vals.active = none)
    (assignment : IspOnuAssignment) :
    (vals.apply assignment).active = assignment.active ∧
      (vals.apply assignment).assigned_at = assignment.assigned_at ∧
      (vals.apply assignment).unassigned_at = assignment.unassigned_at := by
  simp [AssignmentWrite.apply, hnone]

/-- An assignment that exists keeps the right dates. -/
theorem Tenures.Dated.step (h : before.Dated id) (hstep : TenureStep before call after) (hid : id ∈ before.ids)
    (honce : call.TogglesOnce before.assignments) : after.Dated id := by
  have hassignment := hstep.assignment hid
  cases call with
  | create user now vals_list =>
    have hsame : after.assignment id = before.assignment id := hassignment
    exact h.of_unchanged hstep hid (by rw [hsame]) (by rw [hsame]) (by rw [hsame])
  | move_subscription subscription_id sector_id =>
    have hsame : after.assignment id = before.assignment id := hassignment
    exact h.of_unchanged hstep hid (by rw [hsame]) (by rw [hsame]) (by rw [hsame])
  | write user now written vals =>
    by_cases hwritten : id ∈ written
    · cases hactive : vals.active with
      | some flag => exact h.toggled hstep hid hwritten hactive honce
      | none =>
        simp only [AssignmentCall.leaves, if_pos hwritten, AssignmentWrite.written, hactive, Option.isSome_none,
          Bool.false_eq_true, if_false] at hassignment
        obtain ⟨hkept, hassigned, hunassigned⟩ := AssignmentWrite.apply_of_none hactive (before.assignment id)
        rw [← hassignment] at hkept hassigned hunassigned
        exact h.of_unchanged hstep hid hkept hassigned hunassigned
    · have hsame : after.assignment id = before.assignment id := hassignment.trans (if_neg hwritten)
      exact h.of_unchanged hstep hid (by rw [hsame]) (by rw [hsame]) (by rw [hsame])

/-- What the steps of a run keep: the right dates, and a past of whatever is active. -/
structure Tenures.Tracked (tenures : Tenures) : Prop where
  dated : TenuresDated tenures
  past : ∀ id ∈ tenures.ids, (tenures.assignment id).active = true → tenures.ever_active id = true

theorem Tenures.Tracked.step (h : before.Tracked) (hstep : TenureStep before call after)
    (honce : call.TogglesOnce before.assignments) : after.Tracked := by
  refine ⟨fun id hid => ?_, fun id _ hactive => by rw [hstep.ever_active, hactive, Bool.true_or]⟩
  obtain hold | ⟨hnew, user, now, vals_list, vals, rfl, hvals, hrecord⟩ := hstep.mem_ids hid
  · exact (h.dated id hold).step hstep hold honce
  · refine ⟨fun hactive => ?_, fun hinactive hwas => ?_⟩
    · rw [hrecord] at hactive ⊢
      refine ⟨?_, honce vals hvals hactive⟩
      have hgiven : vals.active.getD true = true := hactive
      cases hassigned : vals.assigned_at <;> simp [AssignmentVals.record, hgiven, hassigned]
    · rw [hstep.ever_active, hinactive] at hwas
      simp [hnew] at hwas

/-- An assignment that is toggled against the rule has the wrong dates at once: the date
that should be written anew is there already, and the code leaves it. -/
theorem Tenures.Tracked.not_dated (h : before.Tracked) (hstep : TenureStep before call after)
    (hagain : ¬ call.TogglesOnce before.assignments) : ¬ TenuresDated after := by
  intro hdated
  have hpossible := hstep.assignments.1
  cases call with
  | move_subscription subscription_id sector_id => exact hagain trivial
  | create user now vals_list =>
    refine hagain fun vals hvals hactive => ?_
    obtain ⟨i, hi⟩ := List.mem_iff_getElem?.mp hvals
    have hrecord : (vals_list.map (AssignmentVals.record now))[i]? = some (vals.record now) := by
      rw [List.getElem?_map, hi, Option.map_some]
    have hrow : after.assignment (before.assignments.table.next_id + i) = vals.record now := by
      rw [Tenures.assignment, (AssignmentCall.run_returns hstep.assignments.2).1]
      exact before.assignments.table.createAll_row_new hrecord
    have hid : before.assignments.table.next_id + i ∈ after.ids := by
      rw [Tenures.ids, (AssignmentCall.run_returns hstep.assignments.2).1]
      refine (before.assignments.table.createAll_ids _).symm ▸ List.mem_append_right _ ?_
      exact before.assignments.table.mem_batch_iff.mpr ⟨i, _, hrecord, rfl⟩
    have hnone := ((hdated _ hid).active (by rw [hrow]; exact hactive)).2
    rw [hrow] at hnone
    exact hnone
  | write user now written vals =>
    refine hagain ⟨fun hactive id hwritten => ?_, fun hactive id hwritten hbefore assigned_at hassigned_at => ?_⟩
    · have hid : id ∈ before.ids := hpossible id hwritten
      obtain ⟨hflag, _, hunassigned⟩ := hstep.toggled hid hwritten hactive
      have hnone := ((hdated id (hstep.mem_ids_of_mem hid)).active hflag).2
      rw [hunassigned, if_neg (by simp)] at hnone
      exact hnone
    · have hid : id ∈ before.ids := hpossible id hwritten
      have hwas : (before.assignment id).active = true := hbefore
      have hdate : (before.assignment id).assigned_at = some assigned_at := hassigned_at
      obtain ⟨hflag, hassigned, _⟩ := hstep.toggled hid hwritten hactive
      rw [if_neg (by simp), hdate] at hassigned
      have hever : after.ever_active id = true := by
        rw [hstep.ever_active, h.past id hid hwas]
        simp [hid]
      obtain ⟨time, date, htime, _, hafter, hle⟩ :=
        (hdated id (hstep.mem_ids_of_mem hid)).inactive hflag hever
      rw [hstep.deactivated, if_pos hid, if_pos ⟨hwas, hflag⟩] at htime
      cases htime
      cases hassigned.symm.trans hafter
      exact hle

/-- Before the first assignment, with the sectors of the subscriptions. -/
def noTenures (sector_id : Nat → Option Nat) : Tenures where
  assignments := { table := Store.empty { onu_id := 0, subscription_id := 0 }, sector_id }
  ever_active := fun _ => false
  deactivated := fun _ => none

/-- In every run the dates are right throughout exactly if no assignment is toggled
against the rule. A date that is set is neither emptied nor renewed, so an assignment that
is made active again keeps the date of its unassignment. -/
theorem tenures_dated_iff {sector_id : Nat → Option Nat} {reached : Tenures}
    {taken : List (Tenures × AssignmentCall)} (run : Run TenureStep (noTenures sector_id) taken reached) :
    (∀ tenures ∈ Run.visited taken reached, TenuresDated tenures) ↔
      ∀ entry ∈ taken, entry.2.TogglesOnce entry.1.assignments := by
  have hinitial : (noTenures sector_id).Tracked :=
    ⟨fun id hid => absurd hid List.not_mem_nil, fun id hid => absurd hid List.not_mem_nil⟩
  refine @Run.property_iff_condition _ _ _ _ _ _ (fun before call => call.TogglesOnce before.assignments) hinitial
    (fun tenures => Tenures.Tracked.dated) ?_ ?_ _ _ run
  · exact fun before call after htracked honce hstep => htracked.step hstep honce
  · exact fun before call after htracked hagain hstep => htracked.not_dated hstep hagain

end

/-- The call with what is kept beside the assignments. -/
def Tenures.next (call : AssignmentCall) (before : Tenures) : Tenures where
  assignments := call.finished (call.stored before.assignments)
  ever_active id := ((call.finished (call.stored before.assignments)).table.row id).active ||
    (decide (id ∈ before.ids) && before.ever_active id)
  deactivated id :=
    if id ∈ before.ids then
      if (before.assignment id).active = true ∧
          ((call.finished (call.stored before.assignments)).table.row id).active = false then some call.now
      else before.deactivated id
    else none

def assignOnu : AssignmentCall := .create ResUsers.superuser 100 [{ onu_id := 0, subscription_id := 0 }]

def toggleOnu (now : Nat) (active : Bool) : AssignmentCall :=
  .write ResUsers.superuser now [0] { active := some active }

def assignedOnu : Tenures := Tenures.next assignOnu (noTenures some)

def unassignedOnu : Tenures := Tenures.next (toggleOnu 200 false) assignedOnu

theorem unassignedOnu_run :
    Run TenureStep (noTenures some) [(noTenures some, assignOnu), (assignedOnu, toggleOnu 200 false)]
      unassignedOnu :=
  (Run.start.step ⟨⟨trivial, rfl⟩, fun _ => rfl, fun _ => rfl⟩).step
    ⟨⟨fun _ hid => hid, rfl⟩, fun _ => rfl, fun _ => rfl⟩

/-- An assignment that is ended once has the right dates. -/
theorem tenures_dated_iff_once :
    (unassignedOnu.assignment 0).unassigned_at = some 200 ∧
      ∀ tenures ∈ Run.visited [(noTenures some, assignOnu), (assignedOnu, toggleOnu 200 false)] unassignedOnu,
        TenuresDated tenures := by
  refine ⟨rfl, (tenures_dated_iff unassignedOnu_run).mpr fun entry hentry => ?_⟩
  obtain rfl | hlast := List.mem_cons.mp hentry
  · intro vals hvals _
    rw [List.mem_singleton.mp hvals]
  · rw [List.mem_singleton.mp hlast]
    refine ⟨fun h => (nomatch h), fun _ id hid _ assigned_at hassigned_at => ?_⟩
    rw [List.mem_singleton.mp hid] at hassigned_at
    cases hassigned_at
    decide

/-- Taken up again and ended again, an assignment still shows when it was ended
first; in between it is active and unassigned at once. -/
theorem reactivated_still_unassigned :
    ∃ taken reached, Run TenureStep (noTenures some) taken reached ∧ (reached.assignment 0).active = false ∧
      reached.deactivated 0 = some 400 ∧ (reached.assignment 0).unassigned_at = some 200 ∧
      ¬ TenuresDated reached := by
  have hagain : TenureStep unassignedOnu (toggleOnu 300 true) (Tenures.next (toggleOnu 300 true) unassignedOnu) :=
    ⟨⟨fun _ hid => hid, rfl⟩, fun _ => rfl, fun _ => rfl⟩
  have hended : TenureStep (Tenures.next (toggleOnu 300 true) unassignedOnu) (toggleOnu 400 false)
      (Tenures.next (toggleOnu 400 false) (Tenures.next (toggleOnu 300 true) unassignedOnu)) :=
    ⟨⟨fun _ hid => hid, rfl⟩, fun _ => rfl, fun _ => rfl⟩
  have hrun := (unassignedOnu_run.step hagain).step hended
  refine ⟨_, _, hrun, rfl, rfl, rfl, fun hdated => ?_⟩
  obtain ⟨time, assigned_at, htime, hdate, _⟩ := (hdated 0 (by decide)).inactive rfl rfl
  cases htime
  cases hdate

end getupnet.isp_onu

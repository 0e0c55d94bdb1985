import Getupnet.Relational.Runs
import Getupnet.Relational.Transaction
import Getupnet.Relational.Uniqueness
import Getupnet.IspCore.Fields
import Getupnet.IspCore.RecordRules

open relational
open getupnet.isp_core

namespace getupnet.isp_onu

structure IspOnuAssignment where
  onu_id : Nat
  subscription_id : Nat
  active : Bool := true
  assigned_at : Option Nat := none
  unassigned_at : Option Nat := none
  deriving DecidableEq

/-- The assignments, and the sector of each subscription, which is the sector of
its assignments. -/
structure Assignments where
  table : Store IspOnuAssignment
  sector_id : Nat → Option Nat

/-- The values of a creation; a missing `active` takes its default. -/
structure AssignmentVals where
  onu_id : Nat
  subscription_id : Nat
  active : Option Bool := none
  assigned_at : Option Nat := none
  unassigned_at : Option Nat := none

/-- The values of a write, of the fields that are written. -/
structure AssignmentWrite where
  onu_id : Option Nat := none
  subscription_id : Option Nat := none
  active : Option Bool := none

/-- The record rule of assignments. -/
def Assignments.visible (user : ResUsers) (self : Assignments) (assignment : IspOnuAssignment) : Bool :=
  user.sees (self.sector_id assignment.subscription_id)

/-- What `create` makes of the values: an active assignment is dated. -/
def AssignmentVals.record (now : Nat) (self : AssignmentVals) : IspOnuAssignment where
  onu_id := self.onu_id
  subscription_id := self.subscription_id
  active := self.active.getD true
  assigned_at :=
    if self.active.getD true = true ∧ self.assigned_at = none then some now else self.assigned_at
  unassigned_at := self.unassigned_at

def AssignmentWrite.apply (self : AssignmentWrite) (assignment : IspOnuAssignment) : IspOnuAssignment :=
  { assignment with
    onu_id := self.onu_id.getD assignment.onu_id
    subscription_id := self.subscription_id.getD assignment.subscription_id
    active := self.active.getD assignment.active }

/-- The dates that `write` fills in once `active` is written. -/
def IspOnuAssignment.dated (now : Nat) (self : IspOnuAssignment) : IspOnuAssignment :=
  { self with
    assigned_at := if self.active = true ∧ self.assigned_at = none then some now else self.assigned_at
    unassigned_at := if self.active = false ∧ self.unassigned_at = none then some now else self.unassigned_at }

/-- `search_count` of the other active assignments that agree with one in a field,
among those that the user may read. -/
def Assignments.search_count (user : ResUsers) (self : Assignments) (field : IspOnuAssignment → Nat) (rec : Nat) :
    Nat :=
  (self.table.ids.filter fun other => decide (field (self.table.row other) = field (self.table.row rec)) &&
    (self.table.row other).active && decide (other ≠ rec) && self.visible user (self.table.row other)).length

/-- The two checks differ in the field they compare and in their message. -/
def Assignments.check_one_active (user : ResUsers) (self : Assignments) (field : IspOnuAssignment → Nat)
    (message : String) (written : List Nat) : Except OdooError Unit :=
  written.forM fun rec => do
    if (self.table.row rec).active then
      if self.search_count user field rec ≠ 0 then
        throw (.validation message)

def Assignments.check_one_active_per_onu (user : ResUsers) (self : Assignments) (written : List Nat) :
    Except OdooError Unit :=
  self.check_one_active user IspOnuAssignment.onu_id "ONU already has an active assignment." written

def Assignments.check_one_active_per_subscription (user : ResUsers) (self : Assignments) (written : List Nat) :
    Except OdooError Unit :=
  self.check_one_active user IspOnuAssignment.subscription_id "Subscription already has an active ONU." written

/-- Calls that create and write assignments, and the moves of subscriptions to
other sectors, which take their assignments along. -/
inductive AssignmentCall where
  | create (user : ResUsers) (now : Nat) (vals_list : List AssignmentVals)
  | write (user : ResUsers) (now : Nat) (self : List Nat) (vals : AssignmentWrite)
  | move_subscription (subscription_id : Nat) (sector_id : Option Nat)

def AssignmentCall.user : AssignmentCall → ResUsers
  | .create user _ _ => user
  | .write user _ _ _ => user
  | .move_subscription _ _ => ResUsers.superuser

/-- The assignments with the values of a call stored. -/
def AssignmentCall.stored (self : Assignments) : AssignmentCall → Assignments
  | .create _ now vals_list =>
    { self with table := self.table.createAll (vals_list.map (AssignmentVals.record now)) }
  | .write _ _ written vals => { self with table := self.table.writeAll written vals.apply }
  | .move_subscription subscription_id sector_id =>
    { self with sector_id := Function.update self.sector_id subscription_id sector_id }

/-- The records on which a call runs a check that declares one more field beside
`active`. -/
def AssignmentCall.checked (before : Assignments) (writes : AssignmentWrite → Bool) : AssignmentCall → List Nat
  | .create _ _ vals_list => List.range' before.table.next_id vals_list.length
  | .write _ _ written vals => if writes vals || vals.active.isSome then written else []
  | .move_subscription _ _ => []

/-- The records on which a call checks the record rule: those to be written as
they are before, created ones as they are made. -/
def AssignmentCall.allowed (before after : Assignments) : AssignmentCall → Bool
  | .create user _ vals_list =>
    (List.range' before.table.next_id vals_list.length).all fun id => after.visible user (after.table.row id)
  | .write user _ written _ => written.all fun id => before.visible user (before.table.row id)
  | .move_subscription _ _ => true

/-- The dates that are filled in after the checks. -/
def AssignmentCall.finished (after : Assignments) : AssignmentCall → Assignments
  | .write _ now written vals =>
    if vals.active.isSome then { after with table := after.table.writeAll written (IspOnuAssignment.dated now) }
    else after
  | _ => after

def AssignmentCall.run (call : AssignmentCall) (before : Assignments) : Except OdooError Assignments := do
  let after := call.stored before
  if call.allowed before after = false then
    throw (.other "You are not allowed to access these records.")
  after.check_one_active_per_onu call.user (call.checked before fun vals => vals.onu_id.isSome)
  after.check_one_active_per_subscription call.user (call.checked before fun vals => vals.subscription_id.isSome)
  return call.finished after

/-- The written records exist. -/
def AssignmentCall.Possible (before : Assignments) : AssignmentCall → Prop
  | .write _ _ written _ => ∀ id ∈ written, id ∈ before.table.ids
  | _ => True

/-- A call that returns. One that raises leaves the assignments as they are. -/
def AssignmentStep (before : Assignments) (call : AssignmentCall) (after : Assignments) : Prop :=
  call.Possible before ∧ call.run before = .ok after

/-- What an active assignment takes up of a field. -/
def IspOnuAssignment.taken (field : IspOnuAssignment → Nat) (self : IspOnuAssignment) : Option Nat :=
  if self.active then some (field self) else none

/-- Each ONU and each subscription has at most one active assignment. -/
structure OneActive (assignments : Assignments) : Prop where
  onu : UniqueKey (IspOnuAssignment.taken IspOnuAssignment.onu_id) assignments.table
  subscription : UniqueKey (IspOnuAssignment.taken IspOnuAssignment.subscription_id) assignments.table

/-- Whatever active assignment has the ONU or the subscription of a checked one is
in a sector that the caller may see. -/
structure AssignmentCall.SeesActive (before : Assignments) (call : AssignmentCall) : Prop where
  onu : ClashesVisible (IspOnuAssignment.taken IspOnuAssignment.onu_id) ((call.stored before).visible call.user)
    (call.checked before fun vals => vals.onu_id.isSome) (call.stored before).table
  subscription : ClashesVisible (IspOnuAssignment.taken IspOnuAssignment.subscription_id)
    ((call.stored before).visible call.user) (call.checked before fun vals => vals.subscription_id.isSome)
    (call.stored before).table

section

variable {before after : Assignments} {call : AssignmentCall} {field : IspOnuAssignment → Nat}

theorem IspOnuAssignment.taken_eq_some {self : IspOnuAssignment} {value : Nat}
    (h : self.taken field = some value) :
    self.active = true ∧ field self = value := by
  unfold IspOnuAssignment.taken at h
  split at h
  · rename_i hactive
    exact ⟨hactive, Option.some.inj h⟩
  · cases h

/-- What a check has not counted is no active assignment that the user may read. -/
theorem Assignments.check_one_active_passes {user : ResUsers} {message : String} {written : List Nat}
    (h : before.check_one_active user field message written = .ok ()) :
    CheckPasses (IspOnuAssignment.taken field) (before.visible user) written before.table := by
  rintro id hid other ⟨hother, hne, hkey, hsame⟩
  obtain ⟨value, hvalue⟩ := Option.ne_none_iff_exists'.mp hkey
  obtain ⟨hactive, hfield⟩ := IspOnuAssignment.taken_eq_some hvalue
  obtain ⟨hactiveOther, hfieldOther⟩ := IspOnuAssignment.taken_eq_some (hsame.trans hvalue)
  have hchecked := forM_ok_iff.mp h id hid
  by_contra hvisible
  have hcounted : before.search_count user field id ≠ 0 := by
    refine Nat.ne_of_gt (List.length_pos_of_mem (List.mem_filter.mpr ⟨hother, ?_⟩))
    simp [hne, hfield, hfieldOther, hactiveOther, Bool.eq_true_of_not_eq_false hvisible]
  simp [hactive, hcounted] at hchecked

/-- The dates play no part in what is taken up. -/
theorem AssignmentCall.finished_unique_iff (hfield : ∀ now self, field (self.dated now) = field self) :
    UniqueKey (IspOnuAssignment.taken field) (call.finished after).table ↔
      UniqueKey (IspOnuAssignment.taken field) after.table := by
  have hdated : ∀ (now : Nat) (self : IspOnuAssignment), (self.dated now).taken field = self.taken field := by
    intro now self
    unfold IspOnuAssignment.taken
    rw [hfield]
    rfl
  unfold AssignmentCall.finished
  split
  · rename_i user now written vals
    split
    · have hkept : ∀ id, ((after.table.writeAll written (IspOnuAssignment.dated now)).row id).taken field =
          (after.table.row id).taken field := after.table.writeAll_keeps written (hdated now)
      constructor
      · intro h
        exact h.of_kept fun id hid => ⟨by rw [Store.writeAll_ids]; exact hid, (hkept id).symm⟩
      · intro h
        refine h.of_kept fun id hid => ⟨?_, hkept id⟩
        rwa [Store.writeAll_ids] at hid
    · exact Iff.rfl
  · exact Iff.rfl

/-- A call that writes neither the field nor `active` leaves what is taken up. -/
theorem AssignmentCall.rewrites {writes : AssignmentWrite → Bool} (hpossible : call.Possible before)
    (hwrites : ∀ vals self, writes vals = false → vals.active = none →
      (vals.apply self).taken field = self.taken field) :
    Rewrites (IspOnuAssignment.taken field) before.table (call.stored before).table (call.checked before writes) := by
  cases call with
  | create user now vals_list =>
    have hcreated : Rewrites (IspOnuAssignment.taken field) before.table
        (before.table.createAll (vals_list.map (AssignmentVals.record now)))
        (List.range' before.table.next_id (vals_list.map (AssignmentVals.record now)).length) :=
      Rewrites.createAll _ _
    rw [List.length_map] at hcreated
    exact hcreated
  | write user now written vals =>
    by_cases htriggers : (writes vals || vals.active.isSome) = true
    · simp only [AssignmentCall.checked, AssignmentCall.stored, htriggers, if_true]
      refine ⟨fun id hid => ?_, fun id hid hnot => ⟨?_, ?_⟩⟩
      · rw [Store.writeAll_ids]
        exact hpossible id hid
      · rwa [Store.writeAll_ids] at hid
      · rw [before.table.writeAll_row_of_not_mem hnot]
    · simp only [AssignmentCall.checked, AssignmentCall.stored, htriggers, Bool.false_eq_true, if_false]
      rw [Bool.not_eq_true, Bool.or_eq_false_iff, Option.isSome_eq_false_iff, Option.isNone_iff_eq_none] at htriggers
      refine ⟨fun id hid => absurd hid List.not_mem_nil, fun id hid _ => ⟨?_, ?_⟩⟩
      · rwa [Store.writeAll_ids] at hid
      · exact before.table.writeAll_keeps written (fun self => hwrites vals self htriggers.1 htriggers.2) id
  | move_subscription subscription_id sector_id =>
    exact ⟨fun id hid => absurd hid List.not_mem_nil, fun id hid _ => ⟨hid, rfl⟩⟩

/-- A call that returns has passed both checks. -/
theorem AssignmentCall.run_returns (h : call.run before = .ok after) :
    after = call.finished (call.stored before) ∧
      CheckPasses (IspOnuAssignment.taken IspOnuAssignment.onu_id) ((call.stored before).visible call.user)
        (call.checked before fun vals => vals.onu_id.isSome) (call.stored before).table ∧
      CheckPasses (IspOnuAssignment.taken IspOnuAssignment.subscription_id) ((call.stored before).visible call.user)
        (call.checked before fun vals => vals.subscription_id.isSome) (call.stored before).table := by
  unfold AssignmentCall.run at h
  by_cases hallowed : call.allowed before (call.stored before) = false
  · simp only [hallowed, if_true] at h
    cases h
  · simp only [hallowed] at h
    obtain ⟨_, honu, hrest⟩ := bind_ok_iff.mp h
    obtain ⟨_, hsubscription, hlast⟩ := bind_ok_iff.mp hrest
    cases hlast
    exact ⟨rfl, Assignments.check_one_active_passes honu, Assignments.check_one_active_passes hsubscription⟩

theorem OneActive.step_iff (h : OneActive before) (hstep : AssignmentStep before call after) :
    OneActive after ↔ call.SeesActive before := by
  obtain ⟨hpossible, hrun⟩ := hstep
  obtain ⟨rfl, honu, hsubscription⟩ := AssignmentCall.run_returns hrun
  have hrewritesOnu : Rewrites (IspOnuAssignment.taken IspOnuAssignment.onu_id) before.table
      (call.stored before).table (call.checked before fun vals => vals.onu_id.isSome) := by
    refine AssignmentCall.rewrites hpossible fun vals self hwrites hactive => ?_
    rw [Option.isSome_eq_false_iff, Option.isNone_iff_eq_none] at hwrites
    simp only [IspOnuAssignment.taken, AssignmentWrite.apply, hwrites, hactive, Option.getD_none]
  have hrewritesSub : Rewrites (IspOnuAssignment.taken IspOnuAssignment.subscription_id) before.table
      (call.stored before).table (call.checked before fun vals => vals.subscription_id.isSome) := by
    refine AssignmentCall.rewrites hpossible fun vals self hwrites hactive => ?_
    rw [Option.isSome_eq_false_iff, Option.isNone_iff_eq_none] at hwrites
    simp only [IspOnuAssignment.taken, AssignmentWrite.apply, hwrites, hactive, Option.getD_none]
  have honuIff := h.onu.rewrites_iff hrewritesOnu honu
  have hsubIff := h.subscription.rewrites_iff hrewritesSub hsubscription
  constructor
  · rintro ⟨honuAfter, hsubAfter⟩
    exact ⟨honuIff.mp ((AssignmentCall.finished_unique_iff fun _ _ => rfl).mp honuAfter),
      hsubIff.mp ((AssignmentCall.finished_unique_iff fun _ _ => rfl).mp hsubAfter)⟩
  · rintro ⟨honuVisible, hsubVisible⟩
    exact ⟨(AssignmentCall.finished_unique_iff fun _ _ => rfl).mpr (honuIff.mpr honuVisible),
      (AssignmentCall.finished_unique_iff fun _ _ => rfl).mpr (hsubIff.mpr hsubVisible)⟩

/-- Throughout a run each ONU and each subscription has at most one active assignment
exactly when no call activates one beside another that the caller may not see. Both checks
search with the rights of the caller, under the record rule of the sectors. -/
theorem one_active_iff {initial reached : Assignments} {taken : List (Assignments × AssignmentCall)}
    (hinitial : OneActive initial) (run : Run AssignmentStep initial taken reached) :
    (∀ assignments ∈ Run.visited taken reached, OneActive assignments) ↔
      ∀ entry ∈ taken, entry.2.SeesActive entry.1 :=
  @Run.property_iff_condition _ _ AssignmentStep initial OneActive OneActive
    (fun before call => call.SeesActive before) hinitial (fun _ h => h)
    (fun _ _ _ hunique hsees hstep => (hunique.step_iff hstep).mpr hsees)
    (fun _ _ _ hunique hnot hstep hafter => hnot ((hunique.step_iff hstep).mp hafter)) taken reached run

end

/-- Two subscriptions in sectors of their own, and no assignment yet. -/
def unassigned : Assignments where
  table := Store.empty { onu_id := 0, subscription_id := 0 }
  sector_id := some

/-- A user of one sector assigns an ONU to the subscription of a sector. -/
def assignedIn (user_sector onu_id sector_id : Nat) : AssignmentCall :=
  .create { isp_sector_ids := [user_sector] } 0 [{ onu_id, subscription_id := sector_id }]

def AssignmentCall.next (call : AssignmentCall) (before : Assignments) : Assignments :=
  call.finished (call.stored before)

/-- The first ONU is assigned to the subscription of sector 0. -/
def firstAssigned : Assignments := (assignedIn 0 0 0).next unassigned

theorem unassigned_oneActive : OneActive unassigned where
  onu := fun _ hid => absurd hid List.not_mem_nil
  subscription := fun _ hid => absurd hid List.not_mem_nil

theorem firstAssigned_created : AssignmentStep unassigned (assignedIn 0 0 0) firstAssigned := ⟨trivial, rfl⟩

/-- Two assignments, the second one of an ONU and a subscription of its own. -/
theorem one_active_iff_two : OneActive ((assignedIn 1 1 1).next firstAssigned) := by
  have hsecond : AssignmentStep firstAssigned (assignedIn 1 1 1) ((assignedIn 1 1 1).next firstAssigned) :=
    ⟨trivial, rfl⟩
  refine (one_active_iff unassigned_oneActive (.step (.step .start firstAssigned_created) hsecond)).mpr ?_ _
    (Run.reached_mem_visited _ _)
  intro entry hentry
  obtain hentry | hentry := List.mem_append.mp hentry
  all_goals
    rw [List.mem_singleton.mp hentry]
    exact ⟨UniqueKey.clashesVisible (by decide) (by decide), UniqueKey.clashesVisible (by decide) (by decide)⟩

/-- A user of another sector assigns the ONU once more. -/
theorem onu_assigned_twice :
    ∃ taken reached, Run AssignmentStep unassigned taken reached ∧ OneActive unassigned ∧
      ¬ OneActive reached := by
  have hsecond : AssignmentStep firstAssigned (assignedIn 1 0 1) ((assignedIn 1 0 1).next firstAssigned) :=
    ⟨trivial, rfl⟩
  refine ⟨_, _, .step (.step .start firstAssigned_created) hsecond, unassigned_oneActive, fun hunique => ?_⟩
  exact absurd (hunique.onu 0 (by decide) 1 (by decide) (by decide) rfl) (by decide)

end getupnet.isp_onu

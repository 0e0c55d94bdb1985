import Getupnet.IspCore.Subscription
import Getupnet.Relational.Runs
import Getupnet.Relational.Store
import Mathlib.Tactic.NormNum

open relational

namespace getupnet.isp_core

/-- The values of `state`, a selection that is not required and may be left empty. -/
inductive TicketState where
  | unset
  | new
  | in_progress
  | waiting_customer
  | resolved
  | closed
  deriving DecidableEq

/-- `state in ("resolved", "closed")` -/
def TicketState.isDone (self : TicketState) : Bool := decide (self = .resolved ∨ self = .closed)

inductive TicketPriority where
  | low
  | normal
  | high
  | urgent
  deriving DecidableEq

/-- A fault ticket. Times are in seconds. -/
structure IspFaultTicket where
  name : String
  subscription_id : Option Nat := none
  gps_lat : ℚ := 0
  gps_lng : ℚ := 0
  priority : TicketPriority := .normal
  state : TicketState := .new
  opened_at : Option Int := none
  closed_at : Option Int := none

/-- The stored value of `_compute_resolution_time_hours`, which depends on the two
times alone. -/
def IspFaultTicket.resolution_time_hours (self : IspFaultTicket) : ℚ :=
  match self.opened_at, self.closed_at with
  | some opened_at, some closed_at => (closed_at - opened_at : Int) / 3600
  | _, _ => 0

def IspFaultTicket.sla_target_hours (self : IspFaultTicket) : ℚ :=
  match self.priority with
  | .low => 72
  | .normal => 48
  | .high => 24
  | .urgent => 8

/-- The values of a creation; a missing field takes its default. -/
structure TicketVals where
  name : CharField := none
  subscription_id : Option Nat := none
  gps_lat : ℚ := 0
  gps_lng : ℚ := 0
  priority : TicketPriority := .normal
  state : TicketState := .new
  opened_at : Option Int := none
  closed_at : Option Int := none

/-- What `create` makes of the values: a ticket has a name and an opening time, and
the coordinates of its subscription. -/
def TicketVals.record (subscriptions : Nat → IspSubscription) (next_by_code : CharField) (now : Int)
    (self : TicketVals) : IspFaultTicket where
  name :=
    if self.name.getD "New" = "New" then (orElse next_by_code (some "FLT")).getD "FLT" else self.name.getD "New"
  subscription_id := self.subscription_id
  gps_lat := self.subscription_id.elim self.gps_lat fun sub => (subscriptions sub).gps_lat
  gps_lng := self.subscription_id.elim self.gps_lng fun sub => (subscriptions sub).gps_lng
  priority := self.priority
  state := self.state
  opened_at := some (self.opened_at.getD now)
  closed_at := self.closed_at

/-- `if not rec.closed_at: rec.closed_at = fields.Datetime.now()` -/
def IspFaultTicket.stamped (now : Int) (self : IspFaultTicket) : IspFaultTicket :=
  if self.closed_at = none then { self with closed_at := some now } else self

/-- One pass through the loop of `write`, once `state` is written. -/
def IspFaultTicket.finished (now : Int) (self : IspFaultTicket) : IspFaultTicket :=
  if self.state.isDone then self.stamped now else self

section

variable (clock : Nat → Int)

/-- `write({"state": state})`. The clock is read once for each record. -/
def IspFaultTicket.write (self : List Nat) (state : TicketState) (table : Store IspFaultTicket) :
    Store IspFaultTicket :=
  (table.writeAll self fun rec => { rec with state }).writeEach self fun id => IspFaultTicket.finished (clock id)

def IspFaultTicket.action_start (self : List Nat) (table : Store IspFaultTicket) : Store IspFaultTicket :=
  self.foldl (fun table rec => IspFaultTicket.write clock [rec] .in_progress table) table

def IspFaultTicket.action_waiting (self : List Nat) (table : Store IspFaultTicket) : Store IspFaultTicket :=
  self.foldl (fun table rec => IspFaultTicket.write clock [rec] .waiting_customer table) table

/-- `action_resolve` and `action_close` differ in the state they write. -/
def IspFaultTicket.finish (state : TicketState) (self : List Nat) (table : Store IspFaultTicket) :
    Store IspFaultTicket :=
  self.foldl (fun table rec =>
    (IspFaultTicket.write clock [rec] state table).write rec (IspFaultTicket.stamped (clock rec))) table

def IspFaultTicket.action_resolve (self : List Nat) (table : Store IspFaultTicket) : Store IspFaultTicket :=
  IspFaultTicket.finish clock .resolved self table

def IspFaultTicket.action_close (self : List Nat) (table : Store IspFaultTicket) : Store IspFaultTicket :=
  IspFaultTicket.finish clock .closed self table

end

/-- The tickets, and beside them the time at which each was last moved from an open
state to resolved or closed. -/
structure Desk where
  tickets : Store IspFaultTicket
  last_done : Nat → Option Int

def Desk.ticket (self : Desk) (id : Nat) : IspFaultTicket := self.tickets.row id

inductive TicketCall where
  | create (subscriptions : Nat → IspSubscription) (next_by_code : Nat → CharField) (now : Int)
      (vals_list : List TicketVals)
  | action_start (clock : Nat → Int) (tickets : List Nat)
  | action_waiting (clock : Nat → Int) (tickets : List Nat)
  | action_resolve (clock : Nat → Int) (tickets : List Nat)
  | action_close (clock : Nat → Int) (tickets : List Nat)
  | write (clock : Nat → Int) (tickets : List Nat) (state : TicketState)

/-- The tickets that a call moves. -/
def TicketCall.moved : TicketCall → List Nat
  | .create _ _ _ _ => []
  | .action_start _ tickets | .action_waiting _ tickets | .action_resolve _ tickets | .action_close _ tickets
  | .write _ tickets _ => tickets

/-- The state that a call moves its tickets to, and when. -/
def TicketCall.target : TicketCall → TicketState
  | .create _ _ _ _ => .new
  | .action_start _ _ => .in_progress
  | .action_waiting _ _ => .waiting_customer
  | .action_resolve _ _ => .resolved
  | .action_close _ _ => .closed
  | .write _ _ state => state

def TicketCall.clock : TicketCall → Nat → Int
  | .create _ _ now _ => fun _ => now
  | .action_start clock _ | .action_waiting clock _ | .action_resolve clock _ | .action_close clock _
  | .write clock _ _ => clock

def TicketCall.stored (table : Store IspFaultTicket) : TicketCall → Store IspFaultTicket
  | .create subscriptions next_by_code now vals_list =>
    table.createAll (vals_list.zipIdx.map fun (vals, i) => vals.record subscriptions (next_by_code i) now)
  | .action_start clock tickets => IspFaultTicket.action_start clock tickets table
  | .action_waiting clock tickets => IspFaultTicket.action_waiting clock tickets table
  | .action_resolve clock tickets => IspFaultTicket.action_resolve clock tickets table
  | .action_close clock tickets => IspFaultTicket.action_close clock tickets table
  | .write clock tickets state => IspFaultTicket.write clock tickets state table

/-- The desk after a call. A new ticket has not been moved yet. -/
def TicketCall.next (call : TicketCall) (before : Desk) : Desk where
  tickets := call.stored before.tickets
  last_done id :=
    if id ∈ before.tickets.ids then
      if id ∈ call.moved ∧ (before.ticket id).state.isDone = false ∧ call.target.isDone = true then
        some (call.clock id)
      else before.last_done id
    else none

/-- A call on existing tickets. -/
def DeskStep (before : Desk) (call : TicketCall) (after : Desk) : Prop :=
  (∀ id ∈ call.moved, id ∈ before.tickets.ids) ∧ after = call.next before

/-- A ticket has a closing time exactly while it is resolved or closed, and its
resolution time goes up to the last time it was moved there. -/
structure TimesKept (desk : Desk) : Prop where
  closed : ∀ id ∈ desk.tickets.ids, (desk.ticket id).closed_at ≠ none ↔ (desk.ticket id).state.isDone = true
  resolution : ∀ id ∈ desk.tickets.ids, (desk.ticket id).state.isDone = true → ∀ time,
    desk.last_done id = some time → ∃ opened_at, (desk.ticket id).opened_at = some opened_at ∧
      (desk.ticket id).resolution_time_hours = (time - opened_at : Int) / 3600

/-- A ticket is created with a closing time exactly if it is created resolved or
closed, and one that is resolved or closed is not opened again. -/
def TicketCall.NeverReopens (before : Desk) : TicketCall → Prop
  | .create _ _ _ vals_list => ∀ vals ∈ vals_list, vals.closed_at ≠ none ↔ vals.state.isDone = true
  | call => call.target.isDone = false → ∀ id ∈ call.moved, (before.ticket id).state.isDone = false

/-- A ticket once it is moved to a state. -/
def IspFaultTicket.moved (state : TicketState) (now : Int) (self : IspFaultTicket) : IspFaultTicket :=
  ({ self with state } : IspFaultTicket).finished now

section

variable {state : TicketState} {now : Int} {clock : Nat → Int} {tickets : List Nat} {table : Store IspFaultTicket}

theorem IspFaultTicket.moved_eq (self : IspFaultTicket) :
    self.moved state now = { self with
      state
      closed_at := if state.isDone = true then some (self.closed_at.getD now) else self.closed_at } := by
  unfold IspFaultTicket.moved IspFaultTicket.finished IspFaultTicket.stamped
  cases hdone : state.isDone with
  | false => rfl
  | true => cases hclosed : self.closed_at <;> simp

theorem IspFaultTicket.moved_moved (self : IspFaultTicket) :
    (self.moved state now).moved state now = self.moved state now := by
  rw [IspFaultTicket.moved_eq, IspFaultTicket.moved_eq]
  split <;> simp

theorem IspFaultTicket.stamped_moved (hdone : state.isDone = true) (self : IspFaultTicket) :
    (self.moved state now).stamped now = self.moved state now := by
  rw [IspFaultTicket.moved_eq, IspFaultTicket.stamped, if_pos hdone]
  exact if_neg (Option.some_ne_none _)

theorem IspFaultTicket.write_single (rec : Nat) :
    IspFaultTicket.write clock [rec] state table = table.write rec (IspFaultTicket.moved state (clock rec)) :=
  table.write_write rec (fun rec => { rec with state }) (IspFaultTicket.finished (clock rec))

theorem IspFaultTicket.forEach_write :
    tickets.foldl (fun table rec => IspFaultTicket.write clock [rec] state table) table =
      table.writeEach tickets fun id => IspFaultTicket.moved state (clock id) := by
  simp only [IspFaultTicket.write_single]
  rfl

theorem IspFaultTicket.finish_eq (hdone : state.isDone = true) :
    IspFaultTicket.finish clock state tickets table =
      table.writeEach tickets fun id => IspFaultTicket.moved state (clock id) := by
  have hstep : ∀ (table : Store IspFaultTicket) (rec : Nat),
      (IspFaultTicket.write clock [rec] state table).write rec (IspFaultTicket.stamped (clock rec)) =
        table.write rec (IspFaultTicket.moved state (clock rec)) := by
    intro table rec
    rw [IspFaultTicket.write_single, table.write_write]
    exact table.write_congr (IspFaultTicket.stamped_moved hdone _)
  rw [IspFaultTicket.finish]
  simp only [hstep]
  rfl

theorem IspFaultTicket.finished_finished (self : IspFaultTicket) :
    (self.finished now).finished now = self.finished now := by
  cases hdone : self.state.isDone with
  | false => simp [IspFaultTicket.finished, hdone]
  | true =>
    cases hclosed : self.closed_at <;> simp [IspFaultTicket.finished, IspFaultTicket.stamped, hdone, hclosed]

theorem IspFaultTicket.write_eq :
    IspFaultTicket.write clock tickets state table =
      table.writeEach tickets fun id => IspFaultTicket.moved state (clock id) :=
  table.writeEach_writeEach tickets (fun _ _ => rfl) (fun _ => IspFaultTicket.finished_finished)
    fun _ => IspFaultTicket.moved_moved

/-- A call creates tickets, or it moves existing ones to its target. -/
theorem TicketCall.stored_cases (call : TicketCall) (table : Store IspFaultTicket) :
    (∃ subscriptions next_by_code now vals_list, call = .create subscriptions next_by_code now vals_list) ∨
      call.stored table =
        table.writeEach call.moved fun id => IspFaultTicket.moved call.target (call.clock id) := by
  cases call with
  | create subscriptions next_by_code now vals_list => exact Or.inl ⟨subscriptions, next_by_code, now, vals_list, rfl⟩
  | action_start clock tickets => exact Or.inr IspFaultTicket.forEach_write
  | action_waiting clock tickets => exact Or.inr IspFaultTicket.forEach_write
  | action_resolve clock tickets => exact Or.inr (IspFaultTicket.finish_eq rfl)
  | action_close clock tickets => exact Or.inr (IspFaultTicket.finish_eq rfl)
  | write clock tickets state => exact Or.inr IspFaultTicket.write_eq

/-- A call moves its tickets to its target, and no other one that exists. -/
theorem TicketCall.stored_row (call : TicketCall) {id : Nat} (hid : id ∈ table.ids) :
    (call.stored table).row id =
      if id ∈ call.moved then (table.row id).moved call.target (call.clock id) else table.row id := by
  obtain ⟨_, _, _, _, rfl⟩ | hmoves := call.stored_cases table
  · exact (table.createAll_row_of_mem _ hid).trans (if_neg List.not_mem_nil).symm
  · rw [hmoves]
    exact table.writeEach_row call.moved (fun _ => IspFaultTicket.moved_moved) id

theorem TicketCall.mem_stored_ids_of_mem (call : TicketCall) {id : Nat} (hid : id ∈ table.ids) :
    id ∈ (call.stored table).ids := by
  obtain ⟨_, _, _, _, rfl⟩ | hmoves := call.stored_cases table
  · exact table.mem_createAll_ids_of_mem _ hid
  · rwa [hmoves, Store.writeEach_ids]

/-- A ticket found after a call was there before or is made from the values of a
creation. -/
theorem TicketCall.mem_stored_ids (call : TicketCall) {id : Nat} (hid : id ∈ (call.stored table).ids) :
    id ∈ table.ids ∨ id ∉ table.ids ∧ ∃ subscriptions next_by_code now vals_list vals i,
      call = .create subscriptions next_by_code now vals_list ∧ vals ∈ vals_list ∧
        (call.stored table).row id = vals.record subscriptions (next_by_code i) now := by
  obtain ⟨subscriptions, next_by_code, now, vals_list, rfl⟩ | hmoves := call.stored_cases table
  · refine (table.mem_createAll_ids _ hid).imp_right fun ⟨hnew, hrow⟩ => ⟨hnew, ?_⟩
    obtain ⟨⟨vals, i⟩, hvals, hrecord⟩ := List.mem_map.mp hrow
    exact ⟨subscriptions, next_by_code, now, vals_list, vals, i, rfl, List.fst_mem_of_mem_zipIdx hvals, hrecord.symm⟩
  · rw [hmoves, Store.writeEach_ids] at hid
    exact Or.inl hid

/-- The ticket that a creation makes of its values. -/
theorem TicketCall.exists_created {subscriptions : Nat → IspSubscription} {next_by_code : Nat → CharField}
    {vals_list : List TicketVals} {vals : TicketVals} (hvals : vals ∈ vals_list) :
    ∃ id ∈ ((TicketCall.create subscriptions next_by_code now vals_list).stored table).ids, ∃ i,
      ((TicketCall.create subscriptions next_by_code now vals_list).stored table).row id =
        vals.record subscriptions (next_by_code i) now := by
  obtain ⟨i, hi⟩ := List.mem_iff_getElem?.mp hvals
  have hrecord : (vals_list.zipIdx.map fun (vals, i) => vals.record subscriptions (next_by_code i) now)[i]? =
      some (vals.record subscriptions (next_by_code i) now) := by
    rw [List.getElem?_map, List.getElem?_zipIdx, hi]
    simp
  refine ⟨table.next_id + i, ?_, i, table.createAll_row_new hrecord⟩
  rw [TicketCall.stored, table.createAll_ids]
  exact List.mem_append_right _ (table.mem_batch_iff.mpr ⟨i, _, hrecord, rfl⟩)

end

/-- What holds of the tickets while none is opened again. -/
structure Tracked (desk : Desk) : Prop where
  opened : ∀ id ∈ desk.tickets.ids, (desk.ticket id).opened_at ≠ none
  closed : ∀ id ∈ desk.tickets.ids, (desk.ticket id).closed_at ≠ none ↔ (desk.ticket id).state.isDone = true
  latest : ∀ id ∈ desk.tickets.ids, (desk.ticket id).state.isDone = true → ∀ time,
    desk.last_done id = some time → (desk.ticket id).closed_at = some time

section

variable {before after : Desk} {call : TicketCall} {id : Nat}

theorem Tracked.timesKept (h : Tracked before) : TimesKept before where
  closed := h.closed
  resolution := by
    intro id hid hdone time htime
    obtain ⟨opened_at, hopened⟩ := Option.ne_none_iff_exists'.mp (h.opened id hid)
    refine ⟨opened_at, hopened, ?_⟩
    rw [IspFaultTicket.resolution_time_hours, hopened, h.latest id hid hdone time htime]

/-- What a call leaves of a ticket that exists. -/
theorem TicketCall.next_ticket (hid : id ∈ before.tickets.ids) :
    (call.next before).ticket id =
      if id ∈ call.moved then (before.ticket id).moved call.target (call.clock id) else before.ticket id :=
  call.stored_row hid

theorem TicketCall.next_last_done (hid : id ∈ before.tickets.ids) :
    (call.next before).last_done id =
      if id ∈ call.moved ∧ (before.ticket id).state.isDone = false ∧ call.target.isDone = true then
        some (call.clock id)
      else before.last_done id := if_pos hid

theorem TicketCall.NeverReopens.of_moved (h : call.NeverReopens before) (hid : id ∈ call.moved)
    (htarget : call.target.isDone = false) : (before.ticket id).state.isDone = false := by
  cases call with
  | create subscriptions next_by_code now vals_list => exact absurd hid List.not_mem_nil
  | _ => exact h htarget id hid

/-- A ticket that exists stays tracked: it has an opening time, a closing time exactly
while it is done, and then the one of the last move there that is noted beside it. -/
theorem Tracked.next_of_mem (h : Tracked before) (hnever : call.NeverReopens before)
    (hid : id ∈ before.tickets.ids) :
    ((call.next before).ticket id).opened_at ≠ none ∧
      (((call.next before).ticket id).closed_at ≠ none ↔ ((call.next before).ticket id).state.isDone = true) ∧
      (((call.next before).ticket id).state.isDone = true → ∀ time, (call.next before).last_done id = some time →
        ((call.next before).ticket id).closed_at = some time) := by
  rw [TicketCall.next_ticket hid, TicketCall.next_last_done hid]
  by_cases hmoved : id ∈ call.moved
  · rw [if_pos hmoved, IspFaultTicket.moved_eq]
    refine ⟨h.opened id hid, ?_, ?_⟩
    · cases htarget : call.target.isDone with
      | true => simp
      | false =>
        have hopen := hnever.of_moved hmoved htarget
        have hclosed := h.closed id hid
        simpa [hopen] using hclosed
    · intro htarget time htime
      dsimp only at htarget ⊢
      rw [if_pos htarget]
      cases hdone : (before.ticket id).state.isDone with
      | true =>
        rw [if_neg (by simp [hdone])] at htime
        rw [h.latest id hid hdone time htime, Option.getD_some]
      | false =>
        rw [if_pos ⟨hmoved, hdone, htarget⟩] at htime
        have hclosed : (before.ticket id).closed_at = none := by
          by_contra hne
          exact absurd ((h.closed id hid).mp hne) (ne_true_of_eq_false hdone)
        rw [hclosed, Option.getD_none, htime]
  · rw [if_neg hmoved, if_neg (fun hboth => hmoved hboth.1)]
    exact ⟨h.opened id hid, h.closed id hid, h.latest id hid⟩

theorem Tracked.next (h : Tracked before) (hnever : call.NeverReopens before) : Tracked (call.next before) := by
  have hall : ∀ id ∈ (call.next before).tickets.ids, ((call.next before).ticket id).opened_at ≠ none ∧
      (((call.next before).ticket id).closed_at ≠ none ↔ ((call.next before).ticket id).state.isDone = true) ∧
      (((call.next before).ticket id).state.isDone = true → ∀ time, (call.next before).last_done id = some time →
        ((call.next before).ticket id).closed_at = some time) := by
    intro id hid
    obtain hold | ⟨hnew, subscriptions, next_by_code, now, vals_list, vals, i, rfl, hvals, hrow⟩ :=
      call.mem_stored_ids hid
    · exact h.next_of_mem hnever hold
    · have hticket : ((TicketCall.create subscriptions next_by_code now vals_list).next before).ticket id =
          vals.record subscriptions (next_by_code i) now := hrow
      have hlast : ((TicketCall.create subscriptions next_by_code now vals_list).next before).last_done id = none :=
        if_neg hnew
      rw [hticket, hlast]
      exact ⟨Option.some_ne_none _, hnever vals hvals, fun _ time htime => nomatch htime⟩
  exact ⟨fun id hid => (hall id hid).1, fun id hid => (hall id hid).2.1, fun id hid => (hall id hid).2.2⟩

/-- A ticket that is created or opened again against the rule has the wrong times at
once. -/
theorem Tracked.not_timesKept (h : Tracked before) (hstep : DeskStep before call after)
    (hreopens : ¬ call.NeverReopens before) : ¬ TimesKept after := by
  obtain ⟨hexist, rfl⟩ := hstep
  intro hkept
  have hmove : call.target.isDone = false → ∀ id ∈ call.moved, (before.ticket id).state.isDone = false := by
    intro htarget id hid
    by_contra hdone
    have hclosed := (h.closed id (hexist id hid)).mpr (Bool.eq_true_of_not_eq_false hdone)
    have hopened := (hkept.closed id (call.mem_stored_ids_of_mem (hexist id hid))).mp
    rw [TicketCall.next_ticket (hexist id hid), if_pos hid, IspFaultTicket.moved_eq] at hopened
    simp [htarget, hclosed] at hopened
  cases call with
  | create subscriptions next_by_code now vals_list =>
    refine hreopens fun vals hvals => ?_
    obtain ⟨id, hid, i, hrow⟩ : ∃ id ∈ ((TicketCall.create subscriptions next_by_code now vals_list).stored
        before.tickets).ids, _ := TicketCall.exists_created hvals
    have hclosed := hkept.closed id hid
    have hticket : ((TicketCall.create subscriptions next_by_code now vals_list).next before).ticket id =
        vals.record subscriptions (next_by_code i) now := hrow
    rw [hticket] at hclosed
    exact hclosed
  | _ => exact hreopens hmove

/-- Before the first ticket. -/
def noTickets : Desk where
  tickets := Store.empty { name := "New" }
  last_done := fun _ => none

/-- In every run the closing times are right throughout exactly if no ticket is created or
opened again against the rule. Nothing empties the time of a ticket that is opened again,
and a ticket created closed gets none of its own. -/
theorem times_kept_iff {reached : Desk} {taken : List (Desk × TicketCall)}
    (run : Run DeskStep noTickets taken reached) :
    (∀ desk ∈ Run.visited taken reached, TimesKept desk) ↔ ∀ entry ∈ taken, entry.2.NeverReopens entry.1 := by
  have hinitial : Tracked noTickets :=
    ⟨fun id hid => absurd hid List.not_mem_nil, fun id hid => absurd hid List.not_mem_nil,
      fun id hid => absurd hid List.not_mem_nil⟩
  refine run.property_iff_condition hinitial (fun desk => Tracked.timesKept) ?_ ?_
  · rintro before call after htracked hnever ⟨_, rfl⟩
    exact htracked.next hnever
  · exact fun before call after htracked hreopens hstep => htracked.not_timesKept hstep hreopens

end

/-- One outage, reported at noon. -/
def reportOutage : TicketCall :=
  .create (fun _ => IspSubscription.blank) (fun _ => some "FLT0001") 43200 [{}]

def resolveAt (now : Int) : TicketCall := .action_resolve (fun _ => now) [0]

def reopenAt (now : Int) : TicketCall := .action_start (fun _ => now) [0]

def resolvedOutage : Desk := (resolveAt 46800).next (reportOutage.next noTickets)

theorem resolvedOutage_run :
    Run DeskStep noTickets [(noTickets, reportOutage), (reportOutage.next noTickets, resolveAt 46800)]
      resolvedOutage :=
  (Run.start.step ⟨by decide, rfl⟩).step ⟨by decide, rfl⟩

/-- A ticket that is resolved once keeps the right times. -/
theorem times_kept_iff_resolved :
    (resolvedOutage.ticket 0).closed_at = some 46800 ∧
      ∀ desk ∈ Run.visited [(noTickets, reportOutage), (reportOutage.next noTickets, resolveAt 46800)]
        resolvedOutage, TimesKept desk := by
  refine ⟨rfl, (times_kept_iff resolvedOutage_run).mpr fun entry hentry => ?_⟩
  obtain rfl | hlast := List.mem_cons.mp hentry
  · intro vals hvals
    rw [List.mem_singleton.mp hvals]
    exact iff_of_false (fun hne => hne rfl) (by decide)
  · rw [List.mem_singleton.mp hlast]
    exact fun htarget => nomatch htarget

/-- Resolved after an hour, opened again and resolved after five hours, a ticket
still shows the hour. -/
theorem second_resolution_not_measured :
    ∃ taken reached, Run DeskStep noTickets taken reached ∧ (reached.ticket 0).state = .resolved ∧
      reached.last_done 0 = some 61200 ∧ (reached.ticket 0).resolution_time_hours = 1 ∧ ¬ TimesKept reached := by
  have hreopened : DeskStep resolvedOutage (reopenAt 50400) ((reopenAt 50400).next resolvedOutage) :=
    ⟨by decide, rfl⟩
  have hresolved : DeskStep ((reopenAt 50400).next resolvedOutage) (resolveAt 61200)
      ((resolveAt 61200).next ((reopenAt 50400).next resolvedOutage)) := ⟨by decide, rfl⟩
  have hrun := (resolvedOutage_run.step hreopened).step hresolved
  have hhour : ((((resolveAt 61200).next ((reopenAt 50400).next resolvedOutage)).ticket 0).resolution_time_hours) =
      1 := by
    have hshown : ((((resolveAt 61200).next ((reopenAt 50400).next resolvedOutage)).ticket 0).resolution_time_hours) =
        ((46800 - 43200 : Int) : ℚ) / 3600 := rfl
    rw [hshown]
    norm_num
  refine ⟨_, _, hrun, rfl, rfl, hhour, fun hkept => ?_⟩
  obtain ⟨opened_at, hopened, hmeasured⟩ := hkept.resolution 0 (by decide) rfl 61200 rfl
  cases hopened
  rw [hhour] at hmeasured
  norm_num at hmeasured

end getupnet.isp_core

import Mathlib.Data.List.AList
import Getupnet.IspBilling.Suspension

open relational
open calendar
open getupnet.isp_core

namespace getupnet.isp_billing

variable {ρ : Type}

/-- The debt of an active subscription as the dashboard counts it. -/
inductive DebtStatus where
  | up_to_date
  | grace
  | in_arrears
  deriving DecidableEq

/-- The dictionary of `_get_subscription_status_map`. -/
abbrev StatusMap : Type := AList fun _ : Nat => DebtStatus

/-- The active subscriptions, which the dashboard searches as the superuser. -/
def Billing.activeSubscriptions (self : Billing ρ) : List Nat :=
  self.records.subscriptions.searchDesc fun sub => decide (sub.state = .active)

/-- The domain of the dashboard's search for moves. -/
def AccountMove.isOwedBy (subs : List Nat) (self : AccountMove) : Bool :=
  self.isp_subscription_id.any (fun sub => decide (sub ∈ subs)) && self.isOpen && self.invoice_date_due.isSome

/-- What the dashboard's loop does with one move. -/
def StatusMap.count (today : Date) (grace_days : Int) (self : StatusMap) (move : AccountMove) :
    Except OdooError StatusMap :=
  match move.isp_subscription_id, move.invoice_date_due with
  | some sub_id, some due_date => do
    let limit ← add_days due_date grace_days
    if today ≤ limit then
      return if self.lookup sub_id ≠ some .in_arrears then self.insert sub_id .grace else self
    else
      return self.insert sub_id .in_arrears
  | _, _ => return self

/-- `_get_subscription_status_map`, given the moves that its search found. -/
def Billing.get_subscription_status_map (today : Date) (grace_days : Int) (moves : List Nat) (self : Billing ρ) :
    Except OdooError StatusMap :=
  let status_map : StatusMap := self.activeSubscriptions.foldl (fun map sub => map.insert sub .up_to_date) ∅
  if self.activeSubscriptions = [] then .ok status_map
  else moves.foldlM (fun map move => map.count today grace_days (self.moves.row move)) status_map

/-- The moves that the dashboard goes through, in any order. -/
def Billing.Counted (self : Billing ρ) (moves : List Nat) : Prop :=
  self.moves.Finds (AccountMove.isOwedBy self.activeSubscriptions) moves

/-- How many entries of the dictionary have a status: the sums over
`status_map.values()`. -/
def StatusMap.total (status : DebtStatus) (self : StatusMap) : Nat :=
  self.entries.countP fun entry => decide (entry.snd = status)

/-- The counters of subscriptions among the fields that `_compute_metrics` writes. -/
structure SubscriptionMetrics where
  active_subscriptions : Nat
  suspended_subscriptions : Nat
  overdue_subscriptions : Nat
  grace_subscriptions : Nat
  up_to_date_subscriptions : Nat
  deriving DecidableEq

/-- `month_start + relativedelta(months=1, days=-1)`. The first of the next month has to be
a date on the way. -/
def month_end (today : Date) : Except OdooError Date :=
  let next := today.monthFirst.addMonths 1
  if next.Representable then add_days next (-1)
  else .error (.other ("year " ++ toString next.year ++ " is out of range"))

/-- `_compute_metrics`, given the moves that its search found. Of the other figures only
the month end can raise. -/
def Billing.compute_metrics (today : Date) (grace_days : Int) (moves : List Nat) (self : Billing ρ) :
    Except OdooError SubscriptionMetrics := do
  let _ ← month_end today
  let status_map ← self.get_subscription_status_map today grace_days moves
  return {
    active_subscriptions := (self.records.subscriptions.search fun sub => decide (sub.state = .active)).length
    suspended_subscriptions := (self.records.subscriptions.search fun sub => decide (sub.state = .suspended)).length
    overdue_subscriptions := status_map.total .in_arrears
    grace_subscriptions := status_map.total .grace
    up_to_date_subscriptions := status_map.total .up_to_date }

/-- The days of grace from a due date on are not over. -/
def inGrace (today : Date) (grace_days : Int) (due_date : Date) : Bool :=
  decide (today ≤ due_date.addDays grace_days)

/-- The last day of grace of a move is a date, if it is linked and due at all. -/
def AccountMove.GraceEnds (grace_days : Int) (self : AccountMove) : Prop :=
  ∀ _sub ∈ self.isp_subscription_id, ∀ due_date ∈ self.invoice_date_due, (due_date.addDays grace_days).Representable

instance (grace_days : Int) (self : AccountMove) : Decidable (self.GraceEnds grace_days) :=
  inferInstanceAs (Decidable (∀ _sub ∈ self.isp_subscription_id, ∀ due_date ∈ self.invoice_date_due, _))

/-- So it is for every open move of an active subscription. -/
def Billing.GraceEnds (grace_days : Int) (self : Billing ρ) : Prop :=
  ∀ move ∈ self.moves.ids, (self.moves.row move).isOwedBy self.activeSubscriptions = true →
    (self.moves.row move).GraceEnds grace_days

instance (grace_days : Int) (self : Billing ρ) : Decidable (self.GraceEnds grace_days) :=
  inferInstanceAs (Decidable (∀ move ∈ self.moves.ids, _ → _))

/-- What a move with a last day of grace makes of the dictionary. -/
def StatusMap.counted (today : Date) (grace_days : Int) (self : StatusMap) (move : AccountMove) : StatusMap :=
  match move.isp_subscription_id, move.invoice_date_due with
  | some sub_id, some due_date =>
    if inGrace today grace_days due_date then
      if self.lookup sub_id ≠ some .in_arrears then self.insert sub_id .grace else self
    else self.insert sub_id .in_arrears
  | _, _ => self

/-- The dictionary where every open move has a last day of grace. -/
def Billing.statusMap (today : Date) (grace_days : Int) (moves : List Nat) (self : Billing ρ) : StatusMap :=
  let status_map : StatusMap := self.activeSubscriptions.foldl (fun map sub => map.insert sub .up_to_date) ∅
  if self.activeSubscriptions = [] then status_map
  else moves.foldl (fun map move => map.counted today grace_days (self.moves.row move)) status_map

/-- A move of a subscription that is due and out of its days of grace. -/
def AccountMove.outOfGrace (today : Date) (grace_days : Int) (sub : Nat) (self : AccountMove) : Bool :=
  decide (self.isp_subscription_id = some sub) && self.invoice_date_due.any fun due_date =>
    !inGrace today grace_days due_date

/-- A move of a subscription that is due and within its days of grace. -/
def AccountMove.withinGrace (today : Date) (grace_days : Int) (sub : Nat) (self : AccountMove) : Bool :=
  decide (self.isp_subscription_id = some sub) && self.invoice_date_due.any (inGrace today grace_days)

/-- The status that a subscription with some moves should have: the worst one. -/
def worstStatus (today : Date) (grace_days : Int) (sub : Nat) (moves : List AccountMove) : DebtStatus :=
  if moves.any (AccountMove.outOfGrace today grace_days sub) then .in_arrears
  else if moves.any (AccountMove.withinGrace today grace_days sub) then .grace
  else .up_to_date

section

variable {today : Date} {grace_days : Int} {sub : Nat}

/-- A subscription starts out up to date. -/
theorem lookup_insert_up_to_date {subs : List Nat} {map : StatusMap} :
    (subs.foldl (fun map sub => map.insert sub DebtStatus.up_to_date) map).lookup sub =
      if sub ∈ subs then some .up_to_date else map.lookup sub := by
  induction subs generalizing map with
  | nil => rfl
  | cons first subs ih =>
    rw [List.foldl_cons, ih]
    by_cases hrest : sub ∈ subs
    · rw [if_pos hrest, if_pos (List.mem_cons_of_mem _ hrest)]
    · by_cases hfirst : sub = first
      · subst hfirst
        rw [if_neg hrest, if_pos List.mem_cons_self, AList.lookup_insert]
      · rw [if_neg hrest, AList.lookup_insert_ne hfirst, if_neg fun hmem => (List.mem_cons.mp hmem).elim hfirst hrest]

/-- What one move does to the status of a subscription. -/
theorem StatusMap.lookup_counted (self : StatusMap) (move : AccountMove) :
    (self.counted today grace_days move).lookup sub =
      if move.outOfGrace today grace_days sub then some .in_arrears
      else if move.withinGrace today grace_days sub && decide (self.lookup sub ≠ some .in_arrears) then some .grace
      else self.lookup sub := by
  unfold StatusMap.counted AccountMove.outOfGrace AccountMove.withinGrace
  cases hlinked : move.isp_subscription_id with
  | none => simp
  | some sub_id =>
    cases hdue : move.invoice_date_due with
    | none => simp
    | some due_date =>
      by_cases hsame : sub = sub_id
      · subst hsame
        cases hgrace : inGrace today grace_days due_date with
        | true => by_cases harrears : self.lookup sub = some .in_arrears <;> simp [harrears, hgrace]
        | false => simp [hgrace]
      · have hother : ¬ sub_id = sub := fun h => hsame h.symm
        cases hgrace : inGrace today grace_days due_date with
        | true => by_cases harrears : self.lookup sub_id = some .in_arrears <;> simp [harrears, hgrace, hsame, hother]
        | false => simp [hgrace, hsame, hother]

/-- Going through moves leaves a subscription in arrears once one of them is out of
grace, whatever their order. -/
theorem StatusMap.lookup_foldl_counted (moves : List AccountMove) (self : StatusMap) :
    (moves.foldl (fun map move => map.counted today grace_days move) self).lookup sub =
      if moves.any (AccountMove.outOfGrace today grace_days sub) then some .in_arrears
      else if moves.any (AccountMove.withinGrace today grace_days sub) && decide (self.lookup sub ≠ some .in_arrears)
        then some .grace
      else self.lookup sub := by
  induction moves generalizing self with
  | nil => rfl
  | cons move moves ih =>
    rw [List.foldl_cons, ih, self.lookup_counted, List.any_cons, List.any_cons]
    cases move.outOfGrace today grace_days sub <;> cases move.withinGrace today grace_days sub <;>
      cases moves.any (AccountMove.outOfGrace today grace_days sub) <;>
      cases moves.any (AccountMove.withinGrace today grace_days sub) <;>
      by_cases harrears : self.lookup sub = some .in_arrears <;> simp [harrears]

theorem AccountMove.linked_of_outOfGrace {move : AccountMove} (h : move.outOfGrace today grace_days sub = true) :
    move.isp_subscription_id = some sub := by
  rw [AccountMove.outOfGrace, Bool.and_eq_true, decide_eq_true_eq] at h
  exact h.1

theorem AccountMove.linked_of_withinGrace {move : AccountMove}
    (h : move.withinGrace today grace_days sub = true) :
    move.isp_subscription_id = some sub := by
  rw [AccountMove.withinGrace, Bool.and_eq_true, decide_eq_true_eq] at h
  exact h.1

/-- The moves that the dashboard goes through are those of active subscriptions. -/
theorem Billing.Counted.active {self : Billing ρ} {moves : List Nat} (h : self.Counted moves) {move : Nat}
    (hmove : move ∈ moves) (hlinked : (self.moves.row move).isp_subscription_id = some sub) :
    sub ∈ self.activeSubscriptions := by
  have hdomain := ((h.mem_iff move).mp hmove).2
  simp only [AccountMove.isOwedBy, hlinked, Option.any_some, Bool.and_eq_true, decide_eq_true_eq] at hdomain
  exact hdomain.1.1

/-- The dashboard gives each active subscription the worst status of its open moves
with a due date, and no other subscription any. -/
theorem Billing.status_map_lookup (self : Billing ρ) {moves : List Nat} (hcounted : self.Counted moves)
    (sub : Nat) :
    (self.statusMap today grace_days moves).lookup sub =
      if sub ∈ self.activeSubscriptions then some (worstStatus today grace_days sub (moves.map self.moves.row))
      else none := by
  have hstart : (self.activeSubscriptions.foldl (fun map sub => map.insert sub DebtStatus.up_to_date)
      (∅ : StatusMap)).lookup sub = if sub ∈ self.activeSubscriptions then some .up_to_date else none :=
    lookup_insert_up_to_date
  unfold Billing.statusMap
  by_cases hempty : self.activeSubscriptions = []
  · rw [if_pos hempty, hstart, if_neg (by rw [hempty]; exact List.not_mem_nil),
      if_neg (by rw [hempty]; exact List.not_mem_nil)]
  · rw [if_neg hempty, ← List.foldl_map, StatusMap.lookup_foldl_counted, hstart]
    by_cases hactive : sub ∈ self.activeSubscriptions
    · simp only [if_pos hactive, worstStatus]
      cases (moves.map self.moves.row).any (AccountMove.outOfGrace today grace_days sub) <;>
        cases (moves.map self.moves.row).any (AccountMove.withinGrace today grace_days sub) <;> rfl
    · have hnone : ∀ move ∈ moves.map self.moves.row, move.isp_subscription_id ≠ some sub := by
        intro move hmove hlinked
        obtain ⟨id, hid, rfl⟩ := List.mem_map.mp hmove
        exact hactive (hcounted.active hid hlinked)
      have hout : (moves.map self.moves.row).any (AccountMove.outOfGrace today grace_days sub) = false :=
        List.any_eq_false.mpr fun move hmove h => hnone move hmove (AccountMove.linked_of_outOfGrace h)
      have hwithin : (moves.map self.moves.row).any (AccountMove.withinGrace today grace_days sub) = false :=
        List.any_eq_false.mpr fun move hmove h => hnone move hmove (AccountMove.linked_of_withinGrace h)
      simp only [hout, hwithin, if_neg hactive, Bool.false_eq_true, if_false, Bool.false_and]

/-- A subscription has a move that is open, due and out of its days of grace. -/
def Billing.HasInvoiceOutOfGrace (today : Date) (grace_days : Int) (sub : Nat) (self : Billing ρ) : Prop :=
  ∃ move ∈ self.moves.ids, (self.moves.row move).isp_subscription_id = some sub ∧
    (self.moves.row move).isOpen = true ∧
    ∃ due_date, (self.moves.row move).invoice_date_due = some due_date ∧ due_date.addDays grace_days < today

/-- A subscription has a move that is open and has a due date. -/
def Billing.HasInvoiceDue (sub : Nat) (self : Billing ρ) : Prop :=
  ∃ move ∈ self.moves.ids, (self.moves.row move).isp_subscription_id = some sub ∧
    (self.moves.row move).isOpen = true ∧
    (self.moves.row move).invoice_date_due.isSome = true

/-- Among the moves that the dashboard goes through, those of a subscription are all
its open moves with a due date. -/
theorem Billing.Counted.mem_of_linked_iff {self : Billing ρ} {moves : List Nat} (h : self.Counted moves)
    (hactive : sub ∈ self.activeSubscriptions) {move : Nat}
    (hlinked : (self.moves.row move).isp_subscription_id = some sub) :
    move ∈ moves ↔ move ∈ self.moves.ids ∧ (self.moves.row move).isOpen = true ∧
      (self.moves.row move).invoice_date_due.isSome = true := by
  rw [h.mem_iff move]
  simp [AccountMove.isOwedBy, hlinked, hactive]

theorem Billing.Counted.outOfGrace_iff {self : Billing ρ} {moves : List Nat} (h : self.Counted moves)
    (hactive : sub ∈ self.activeSubscriptions) :
    (moves.map self.moves.row).any (AccountMove.outOfGrace today grace_days sub) = true ↔
      self.HasInvoiceOutOfGrace today grace_days sub := by
  rw [List.any_map, List.any_eq_true]
  constructor
  · rintro ⟨move, hmove, hout⟩
    have hlinked := AccountMove.linked_of_outOfGrace hout
    obtain ⟨hid, hopen, -⟩ := (h.mem_of_linked_iff hactive hlinked).mp hmove
    rw [Function.comp_apply, AccountMove.outOfGrace, Bool.and_eq_true, Option.any_eq_true] at hout
    obtain ⟨-, due_date, hdue, hover⟩ := hout
    refine ⟨move, hid, hlinked, hopen, due_date, hdue, ?_⟩
    simpa [inGrace] using hover
  · rintro ⟨move, hid, hlinked, hopen, due_date, hdue, hover⟩
    refine ⟨move, (h.mem_of_linked_iff hactive hlinked).mpr ⟨hid, hopen, by rw [hdue]; rfl⟩, ?_⟩
    simp [AccountMove.outOfGrace, hlinked, hdue, inGrace, hover]

theorem Billing.Counted.withinGrace_iff {self : Billing ρ} {moves : List Nat} (h : self.Counted moves)
    (hactive : sub ∈ self.activeSubscriptions) (hout : ¬ self.HasInvoiceOutOfGrace today grace_days sub) :
    (moves.map self.moves.row).any (AccountMove.withinGrace today grace_days sub) = true ↔
    self.HasInvoiceDue sub := by
  rw [List.any_map, List.any_eq_true]
  constructor
  · rintro ⟨move, hmove, hwithin⟩
    have hlinked := AccountMove.linked_of_withinGrace hwithin
    obtain ⟨hid, hopen, hdue⟩ := (h.mem_of_linked_iff hactive hlinked).mp hmove
    exact ⟨move, hid, hlinked, hopen, hdue⟩
  · rintro ⟨move, hid, hlinked, hopen, hsome⟩
    obtain ⟨due_date, hdue⟩ := Option.isSome_iff_exists.mp hsome
    have hgrace : today ≤ due_date.addDays grace_days :=
      not_lt.mp fun hover => hout ⟨move, hid, hlinked, hopen, due_date, hdue, hover⟩
    refine ⟨move, (h.mem_of_linked_iff hactive hlinked).mpr ⟨hid, hopen, hsome⟩, ?_⟩
    simp [AccountMove.withinGrace, hlinked, hdue, inGrace, hgrace]

/-- The keys of the dictionary are the active subscriptions. -/
theorem Billing.mem_status_map_iff (self : Billing ρ) {moves : List Nat} (hcounted : self.Counted moves)
    (sub : Nat) :
    sub ∈ self.statusMap today grace_days moves ↔ sub ∈ self.activeSubscriptions := by
  rw [← AList.lookup_isSome, self.status_map_lookup hcounted]
  split <;> simp [*]

/-- Every entry of the dictionary has one of the three statuses. -/
theorem StatusMap.total_add (self : StatusMap) :
    self.total .in_arrears + self.total .grace + self.total .up_to_date = self.keys.length := by
  unfold StatusMap.total AList.keys List.keys
  rw [List.length_map]
  induction self.entries with
  | nil => rfl
  | cons entry entries ih =>
    rw [List.countP_cons, List.countP_cons, List.countP_cons, List.length_cons, ← ih]
    cases entry.snd <;> simp <;> omega

/-- The dictionary has as many keys as there are active subscriptions. -/
theorem Billing.status_map_keys_length (self : Billing ρ) {moves : List Nat} (hcounted : self.Counted moves) :
    (self.statusMap today grace_days moves).keys.length =
      (self.records.subscriptions.search fun sub => decide (sub.state = .active)).length := by
  have hperm : (self.statusMap today grace_days moves).keys.Perm self.activeSubscriptions :=
    (List.perm_ext_iff_of_nodup (AList.keys_nodup _) (self.records.subscriptions.searchDesc_nodup _)).mpr
      fun sub => self.mem_status_map_iff hcounted sub
  rw [hperm.length_eq, Billing.activeSubscriptions, Store.searchDesc, List.length_reverse]

theorem StatusMap.count_eq (self : StatusMap) (move : AccountMove) :
    self.count today grace_days move =
      if move.GraceEnds grace_days then .ok (self.counted today grace_days move)
      else .error (.other "date value out of range") := by
  unfold StatusMap.count StatusMap.counted
  split
  · rename_i sub_id due_date hlinked hdue
    have hends : move.GraceEnds grace_days ↔ (due_date.addDays grace_days).Representable := by
      simp [AccountMove.GraceEnds, hlinked, hdue]
    by_cases hdate : (due_date.addDays grace_days).Representable
    · rw [if_pos (hends.mpr hdate), add_days, if_pos hdate]
      by_cases hgrace : today ≤ due_date.addDays grace_days
      · simp only [inGrace, hgrace, decide_true, if_true]
        exact if_pos hgrace
      · simp only [inGrace, hgrace, decide_false]
        exact if_neg hgrace
    · rw [if_neg (mt hends.mp hdate), add_days, if_neg hdate]
      rfl
  · rename_i hnone
    refine (if_pos ?_).symm
    intro sub_id hlinked due_date hdue
    exact (hnone sub_id due_date hlinked hdue).elim

/-- The loop goes through, or it raises at the first move without a last day of grace. -/
theorem StatusMap.foldlM_count (moves : List AccountMove) (self : StatusMap) :
    moves.foldlM (fun map move => map.count today grace_days move) self =
      if ∀ move ∈ moves, move.GraceEnds grace_days then
        .ok (moves.foldl (fun map move => map.counted today grace_days move) self)
      else .error (.other "date value out of range") := by
  induction moves generalizing self with
  | nil => rfl
  | cons move moves ih =>
    rw [List.foldlM_cons, StatusMap.count_eq]
    by_cases hends : move.GraceEnds grace_days
    · rw [if_pos hends]
      refine (ih _).trans ?_
      simp [hends]
    · rw [if_neg hends, if_neg fun hall => hends (hall move List.mem_cons_self)]
      rfl

/-- The dashboard finds the dictionary exactly when every open move of an active
subscription has a last day of grace. -/
theorem Billing.get_subscription_status_map_eq (self : Billing ρ) {moves : List Nat} (hcounted : self.Counted moves) :
    self.get_subscription_status_map today grace_days moves =
      if self.GraceEnds grace_days then .ok (self.statusMap today grace_days moves)
      else .error (.other "date value out of range") := by
  have hends : (∀ move ∈ moves.map self.moves.row, move.GraceEnds grace_days) ↔ self.GraceEnds grace_days := by
    rw [List.forall_mem_map]
    constructor
    · exact fun hall move hmove howed => hall move ((hcounted.mem_iff move).mpr ⟨hmove, howed⟩)
    · exact fun hall move hmove => hall move ((hcounted.mem_iff move).mp hmove).1 ((hcounted.mem_iff move).mp hmove).2
  unfold Billing.get_subscription_status_map Billing.statusMap
  by_cases hempty : self.activeSubscriptions = []
  · have hnone : self.GraceEnds grace_days := by
      intro move _ howed
      simp [AccountMove.isOwedBy, hempty] at howed
    rw [if_pos hempty, if_pos hempty, if_pos hnone]
  · rw [if_neg hempty, if_neg hempty, ← List.foldlM_map, StatusMap.foldlM_count, List.foldl_map]
    by_cases hall : self.GraceEnds grace_days
    · rw [if_pos hall, if_pos (hends.mpr hall)]
    · rw [if_neg hall, if_neg (mt hends.mp hall)]

/-- What the dashboard should show of the active subscriptions: exactly they are the
keys of the dictionary, each with its worst status, and the three counts add up to
theirs. -/
structure Partitions (today : Date) (grace_days : Int) (world : Billing ρ) (status_map : StatusMap)
    (metrics : SubscriptionMetrics) : Prop where
  keys : ∀ sub, sub ∈ status_map.keys ↔
    sub ∈ world.records.subscriptions.ids ∧ (world.subscription sub).state = .active
  in_arrears : ∀ sub ∈ status_map.keys, world.HasInvoiceOutOfGrace today grace_days sub →
    status_map.lookup sub = some .in_arrears
  grace : ∀ sub ∈ status_map.keys, ¬ world.HasInvoiceOutOfGrace today grace_days sub → world.HasInvoiceDue sub →
    status_map.lookup sub = some .grace
  up_to_date : ∀ sub ∈ status_map.keys, ¬ world.HasInvoiceOutOfGrace today grace_days sub →
    ¬ world.HasInvoiceDue sub → status_map.lookup sub = some .up_to_date
  counts : metrics.overdue_subscriptions + metrics.grace_subscriptions + metrics.up_to_date_subscriptions =
    metrics.active_subscriptions

/-- The dictionary and the metrics are there, and show the partition. -/
def StatusMapPartitions (today : Date) (grace_days : Int) (moves : List Nat) (world : Billing ρ) : Prop :=
  ∃ status_map metrics, world.get_subscription_status_map today grace_days moves = .ok status_map ∧
    world.compute_metrics today grace_days moves = .ok metrics ∧
    Partitions today grace_days world status_map metrics

/-- The first of the next month and the last of this one are dates. Among the days that
are dates, only those of the last December are not so. -/
def MonthEnds (today : Date) : Prop := (today.monthFirst.addMonths 1).Representable ∧ today.monthLast.Representable

theorem month_end_eq_ok_iff {date : Date} : month_end today = .ok date ↔ MonthEnds today ∧ today.monthLast = date := by
  unfold month_end MonthEnds add_days Date.monthLast
  by_cases hnext : (today.monthFirst.addMonths 1).Representable
  · by_cases hlast : ((today.monthFirst.addMonths 1).addDays (-1)).Representable
    · simp [hnext, hlast]
    · simp [hnext, hlast]
  · simp [hnext]

/-- The worst status of each active subscription is what its entry should be, and the
counts of the map are those of its entries: each active subscription is counted once. -/
theorem Billing.statusMap_partitions (world : Billing ρ) {moves : List Nat} (hcounted : world.Counted moves) :
    Partitions today grace_days world (world.statusMap today grace_days moves) {
      active_subscriptions := (world.records.subscriptions.search fun sub => decide (sub.state = .active)).length
      suspended_subscriptions := (world.records.subscriptions.search fun sub => decide (sub.state = .suspended)).length
      overdue_subscriptions := (world.statusMap today grace_days moves).total .in_arrears
      grace_subscriptions := (world.statusMap today grace_days moves).total .grace
      up_to_date_subscriptions := (world.statusMap today grace_days moves).total .up_to_date } := by
  have hmem : ∀ sub, sub ∈ world.statusMap today grace_days moves ↔ sub ∈ world.activeSubscriptions :=
    world.mem_status_map_iff hcounted
  have hlookup : ∀ sub, sub ∈ world.statusMap today grace_days moves →
      (world.statusMap today grace_days moves).lookup sub =
        some (worstStatus today grace_days sub (moves.map world.moves.row)) := by
    intro sub hsub
    rw [world.status_map_lookup hcounted, if_pos ((hmem sub).mp hsub)]
  constructor
  case keys =>
    intro sub
    rw [← AList.mem_keys, hmem sub, Billing.activeSubscriptions, Store.mem_searchDesc, decide_eq_true_eq]
    rfl
  case in_arrears =>
    intro sub hsub hout
    have hactive := (hmem sub).mp hsub
    rw [hlookup sub hsub, worstStatus, if_pos ((hcounted.outOfGrace_iff hactive).mpr hout)]
  case grace =>
    intro sub hsub hout hdue
    have hactive := (hmem sub).mp hsub
    rw [hlookup sub hsub, worstStatus, if_neg (fun h => hout ((hcounted.outOfGrace_iff hactive).mp h)),
      if_pos ((hcounted.withinGrace_iff hactive hout).mpr hdue)]
  case up_to_date =>
    intro sub hsub hout hdue
    have hactive := (hmem sub).mp hsub
    rw [hlookup sub hsub, worstStatus, if_neg (fun h => hout ((hcounted.outOfGrace_iff hactive).mp h)),
      if_neg (fun h => hdue ((hcounted.withinGrace_iff hactive hout).mp h))]
  case counts =>
    exact (StatusMap.total_add _).trans (world.status_map_keys_length hcounted)

/-- For every database, date and number of days of grace, and in whatever order the
moves are found, the dashboard partitions the active subscriptions by their worst
status, provided that every open move of theirs has a last day of grace that is a date,
and that the month of today has an end. Otherwise it shows nothing at all. -/
theorem status_map_partitions_iff (world : Billing ρ) (today : Date) (grace_days : Int) (moves : List Nat)
    (hcounted : world.Counted moves) :
    StatusMapPartitions today grace_days moves world ↔ world.GraceEnds grace_days ∧ MonthEnds today := by
  have hmap : world.get_subscription_status_map today grace_days moves = _ :=
    world.get_subscription_status_map_eq hcounted
  constructor
  · rintro ⟨status_map, metrics, hfound, hmetrics, -⟩
    constructor
    · by_contra hends
      rw [hmap, if_neg hends] at hfound
      cases hfound
    · obtain ⟨date, hmonth, -⟩ := bind_ok_iff.mp hmetrics
      exact (month_end_eq_ok_iff.mp hmonth).1
  · rintro ⟨hends, hmonth⟩
    rw [if_pos hends] at hmap
    refine ⟨_, _, hmap, ?_, world.statusMap_partitions hcounted⟩
    rw [Billing.compute_metrics, month_end_eq_ok_iff.mpr ⟨hmonth, rfl⟩, hmap]
    rfl

end

theorem decemberLast_isDay : IsDay 9999 12 31 := by decide

/-- An unpaid posted invoice of the first customer, due on the last day there is. -/
def lastDayInvoice : AccountMove := { unpaidInvoice with invoice_date_due := some (.of decemberLast_isDay) }

/-- An unpaid posted invoice of the first customer, due in February. -/
def recentInvoice : AccountMove := { unpaidInvoice with invoice_date_due := some februaryFirst }

/-- A customer with one invoice a month past due and another one due today. -/
theorem status_map_partitions_iff_two :
    StatusMapPartitions februaryFirst 5 [1, 0] (unpaid [unpaidInvoice, recentInvoice]) := by
  refine (status_map_partitions_iff (unpaid [unpaidInvoice, recentInvoice]) februaryFirst 5 [1, 0]
    (List.Perm.swap 0 1 [])).mpr ⟨by decide, ?_⟩
  constructor <;> decide

/-- With an invoice that is due on the last day there is, the dashboard raises. -/
theorem last_day_stops_dashboard :
    (unpaid [lastDayInvoice]).Counted [0] ∧ ¬ StatusMapPartitions februaryFirst 5 [0] (unpaid [lastDayInvoice]) := by
  refine ⟨List.Perm.refl [0], ?_⟩
  rintro ⟨status_map, metrics, hmap, -⟩
  have hraises : (unpaid [lastDayInvoice]).get_subscription_status_map februaryFirst 5 [0] =
      .error (.other "date value out of range") := rfl
  rw [hraises] at hmap
  cases hmap

end getupnet.isp_billing

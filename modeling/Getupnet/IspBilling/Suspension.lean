import Getupnet.IspBilling.Subscription

open relational
open calendar
open getupnet.isp_core

namespace getupnet.isp_billing

variable {ρ : Type}

/-- The due date of a move, or its invoice date, and the days of the
subscription have passed. -/
def Billing.pastDue (self : Billing ρ) (today : Date) (sub : Nat) (move : AccountMove) : Bool :=
  match move.invoice_date_due <|> move.invoice_date with
  | none => false
  | some due_date => decide (due_date.addDays (self.days sub) ≤ today)

/-- A move of the subscription that is open and past due. -/
def Billing.late (self : Billing ρ) (today : Date) (sub : Nat) (move : AccountMove) : Bool :=
  decide (move.isp_subscription_id = some sub) && move.isOpen && self.pastDue today sub move

/-- There is at most one late move, and it is a customer invoice that no credit
note has cancelled. -/
def Billing.OneLateInvoice (self : Billing ρ) (today : Date) (sub : Nat) : Prop :=
  (∀ first ∈ self.moves.ids, ∀ second ∈ self.moves.ids, self.late today sub (self.moves.row first) = true →
      self.late today sub (self.moves.row second) = true → first = second) ∧
    ∀ move ∈ self.moves.ids, self.late today sub (self.moves.row move) = true →
      (self.moves.row move).move_type = .out_invoice ∧ (self.moves.row move).payment_state ≠ .reversed

/-- Some posted customer invoice with a positive residual is past due. -/
def Billing.Overdue (self : Billing ρ) (today : Date) (sub : Nat) : Prop :=
  ∃ move ∈ self.moves.ids, (self.moves.row move).isp_subscription_id = some sub ∧ (self.moves.row move).Owed ∧
    self.pastDue today sub (self.moves.row move) = true

/-- Every day that a pass computes for an open move is a date, so that no move makes the
pass raise. -/
def Billing.DeadlinesExist (self : Billing ρ) : Prop :=
  ∀ move ∈ self.moves.ids, (self.moves.row move).isOpen = true → self.Dated (self.moves.row move)

instance (self : Billing ρ) : Decidable self.DeadlinesExist :=
  inferInstanceAs (Decidable (∀ move ∈ self.moves.ids, _ → _))

/-- One suspension job for each active subscription with an overdue invoice and
no job for any other. -/
structure SuspendsOverdue (today : Date) (world after : Billing ρ) : Prop where
  overdue : ∀ sub ∈ world.records.subscriptions.ids, (world.subscription sub).state = .active →
    world.Overdue today sub →
    (Billing.queuedFor world after sub).map IspProvisioningJob.job_type = [.suspend_subscription]
  others : ∀ sub ∈ world.records.subscriptions.ids,
    ¬ ((world.subscription sub).state = .active ∧ world.Overdue today sub) →
    Billing.queuedFor world after sub = []

/-- What a pass of `_cron_suspend_overdue` leaves. -/
def Billing.afterSuspension (clock : Nat → Nat) (today : Date) (moves : List Nat) (self : Billing ρ) :
    Billing ρ :=
  (IspSubscription.cron_suspend_overdue clock today moves).commit World.rollback self

theorem Billing.suspendedFor_eq_some_iff (self : Billing ρ) (today : Date) (move : AccountMove) (sub : Nat) :
    self.suspendedFor today move = some sub ↔
      move.isp_subscription_id = some sub ∧ (self.subscription sub).state = .active ∧
        self.pastDue today sub move = true := by
  unfold Billing.suspendedFor Billing.deadline Billing.pastDue
  cases hlinked : move.isp_subscription_id with
  | none => simp
  | some other =>
    cases hdate : move.invoice_date_due <|> move.invoice_date with
    | none => simp
    | some due_date =>
      by_cases hactive : (self.subscription other).state = .active
      · by_cases hsame : other = sub
        · subst hsame
          simp [hactive]
        · have hne : ∀ limit : Date, (if limit ≤ today then some other else none) ≠ some sub := by
            intro limit hsub
            exact hsame (Option.some.inj (Option.ite_none_right_eq_some.mp hsub).2)
          simp [hactive, hsame, hne]
      · refine iff_of_false (by simp [hactive]) ?_
        rintro ⟨hother, hsub, _⟩
        exact hactive (Option.some.inj hother ▸ hsub)

/-- The pass mentions an active subscription once for each of its late moves,
whatever the order of the search, and no other. -/
theorem Billing.count_suspendedFor (self : Billing ρ) (today : Date) {moves : List Nat}
    (hdunned : self.Dunned moves) (sub : Nat) :
    (moves.filterMap fun move => self.suspendedFor today (self.moves.row move)).count sub =
      if (self.subscription sub).state = .active then (self.moves.search (self.late today sub)).length else 0 := by
  rw [List.count_filterMap, List.Perm.countP_eq _ hdunned, Store.search, List.countP_filter]
  by_cases hactive : (self.subscription sub).state = .active
  · rw [if_pos hactive, Store.search, ← List.countP_eq_length_filter]
    apply List.countP_congr
    intro move _
    rw [Bool.and_eq_true, beq_iff_eq, self.suspendedFor_eq_some_iff]
    simp only [Billing.late, Bool.and_eq_true, decide_eq_true_eq, hactive, true_and]
    constructor
    · rintro ⟨⟨hlinked, hpast⟩, _, hopen⟩
      exact ⟨⟨hlinked, hopen⟩, hpast⟩
    · rintro ⟨⟨hlinked, hopen⟩, hpast⟩
      exact ⟨⟨hlinked, hpast⟩, by rw [hlinked]; rfl, hopen⟩
  · rw [if_neg hactive, List.countP_eq_zero]
    intro move _ hboth
    rw [Bool.and_eq_true, beq_iff_eq, self.suspendedFor_eq_some_iff] at hboth
    exact hactive hboth.1.2.1

/-- The moves that the pass goes through are all for which it may have to compute a day. -/
theorem Billing.Dunned.dated_iff {world : Billing ρ} {moves : List Nat} (hdunned : world.Dunned moves) :
    (∀ move ∈ moves, world.Dated (world.moves.row move)) ↔ world.DeadlinesExist := by
  constructor
  · intro hall move hmove hopen
    cases hlinked : (world.moves.row move).isp_subscription_id with
    | none =>
      intro entry hentry
      simp [Billing.deadline, hlinked] at hentry
    | some sub =>
      refine hall move ((hdunned.mem_iff move).mpr ⟨hmove, ?_⟩)
      rw [hlinked, hopen]
      rfl
  · intro hall move hmove
    obtain ⟨hmem, hdomain⟩ := (hdunned.mem_iff move).mp hmove
    exact hall move hmem ((Bool.and_eq_true _ _).mp hdomain).2

section

variable (clock : Nat → Nat) (today : Date) {world : Billing ρ} {moves : List Nat}

theorem Billing.afterSuspension_of_exist (hdunned : world.Dunned moves) (hexist : world.DeadlinesExist) :
    world.afterSuspension clock today moves = world.queueAll clock .suspend_subscription
      (moves.filterMap fun move => world.suspendedFor today (world.moves.row move)) :=
  Method.commit_of_ok (IspSubscription.cron_suspend_overdue_exec clock today (hdunned.dated_iff.mpr hexist))

/-- A pass that raises leaves nothing behind. -/
theorem Billing.afterSuspension_of_not_exist (hdunned : world.Dunned moves) (hmissing : ¬ world.DeadlinesExist) :
    world.afterSuspension clock today moves = world := by
  obtain ⟨exception, after, hexec, houtside⟩ :=
    IspSubscription.cron_suspend_overdue_raises clock today (mt hdunned.dated_iff.mp hmissing)
  rw [Billing.afterSuspension, Method.commit_of_error hexec, World.rollback, houtside]

/-- The jobs that a pass leaves for a subscription. -/
theorem queuedFor_afterSuspension (hdunned : world.Dunned moves) (hexist : world.DeadlinesExist) (sub : Nat) :
    (Billing.queuedFor world (world.afterSuspension clock today moves) sub).map IspProvisioningJob.job_type =
      List.replicate
        (if (world.subscription sub).state = .active then (world.moves.search (world.late today sub)).length else 0)
        .suspend_subscription := by
  rw [Billing.afterSuspension_of_exist clock today hdunned hexist, Billing.queuedFor_queueAll,
    world.count_suspendedFor today hdunned]

end

theorem Billing.queuedFor_self (self : Billing ρ) (sub : Nat) : Billing.queuedFor self self sub = [] := by
  have hnone := Billing.queuedFor_queueAll id .suspend_subscription [] self sub
  exact List.map_eq_nil_iff.mp hnone

theorem Billing.late_iff (self : Billing ρ) (today : Date) (sub : Nat) (move : AccountMove) :
    self.late today sub move = true ↔
      move.isp_subscription_id = some sub ∧ move.isOpen = true ∧ self.pastDue today sub move = true := by
  simp [Billing.late, and_assoc]

/-- Overdue invoices are the late moves that are customer invoices and not
cancelled by a credit note. -/
theorem Billing.overdue_iff (self : Billing ρ) (hresiduals : self.records.extension.ResidualsAgree) (today : Date)
    (sub : Nat) :
    self.Overdue today sub ↔
      ∃ move ∈ self.moves.ids, self.late today sub (self.moves.row move) = true ∧
        (self.moves.row move).move_type = .out_invoice ∧ (self.moves.row move).payment_state ≠ .reversed := by
  constructor
  · rintro ⟨move, hmove, hlinked, howes, hpast⟩
    obtain ⟨htype, hposted, hunsettled⟩ := (hresiduals.owed_iff hmove).mp howes
    have hopen := (AccountMove.isOpen_iff (self.moves.row move)).mpr
      ⟨hposted, fun hstate => hunsettled (Or.inl hstate), fun hstate => hunsettled (Or.inr (Or.inl hstate))⟩
    exact ⟨move, hmove, (self.late_iff today sub _).mpr ⟨hlinked, hopen, hpast⟩, htype,
      fun hstate => hunsettled (Or.inr (Or.inr hstate))⟩
  · rintro ⟨move, hmove, hlate, htype, hnotReversed⟩
    obtain ⟨hlinked, hopen, hpast⟩ := (self.late_iff today sub _).mp hlate
    obtain ⟨hposted, hnotPaid, hnotPayment⟩ := (AccountMove.isOpen_iff _).mp hopen
    refine ⟨move, hmove, hlinked, (hresiduals.owed_iff hmove).mpr ⟨htype, hposted, ?_⟩, hpast⟩
    rintro (hstate | hstate | hstate)
    · exact hnotPaid hstate
    · exact hnotPayment hstate
    · exact hnotReversed hstate

/-- A pass queues what it should for an active subscription exactly when all of
its late moves are one, and that one is a customer invoice not cancelled by a
credit note. -/
theorem late_length_iff (world : Billing ρ) (hresiduals : world.records.extension.ResidualsAgree) (today : Date)
    (sub : Nat) :
    ((world.Overdue today sub → (world.moves.search (world.late today sub)).length = 1) ∧
        (¬ world.Overdue today sub → (world.moves.search (world.late today sub)).length = 0)) ↔
      world.OneLateInvoice today sub := by
  rw [Billing.OneLateInvoice, ← Store.search_length_le_one_iff, world.overdue_iff hresiduals today sub]
  constructor
  · rintro ⟨hone, hnone⟩
    by_cases hoverdue : ∃ move ∈ world.moves.ids, world.late today sub (world.moves.row move) = true ∧
        (world.moves.row move).move_type = .out_invoice ∧ (world.moves.row move).payment_state ≠ .reversed
    · have hlength := hone hoverdue
      refine ⟨Nat.le_of_eq hlength, fun other hother hlate => ?_⟩
      obtain ⟨move, hmove, hmoveLate, hinvoice⟩ := hoverdue
      have hunique := (Store.search_length_le_one_iff _ _).mp (Nat.le_of_eq hlength)
      rw [hunique other hother move hmove hlate hmoveLate]
      exact hinvoice
    · have hlength := hnone hoverdue
      refine ⟨by omega, fun other hother hlate => ?_⟩
      have hmem := (Store.mem_search _ _ other).mpr ⟨hother, hlate⟩
      rw [List.length_eq_zero_iff.mp hlength] at hmem
      cases hmem
  · rintro ⟨hle, hinvoices⟩
    refine ⟨?_, fun hnot => ?_⟩
    · rintro ⟨move, hmove, hlate, _⟩
      have hpositive := List.length_pos_of_mem ((Store.mem_search _ _ move).mpr ⟨hmove, hlate⟩)
      omega
    · rw [List.length_eq_zero_iff, List.eq_nil_iff_forall_not_mem]
      intro other hother
      obtain ⟨hmem, hlate⟩ := (Store.mem_search _ _ other).mp hother
      exact hnot ⟨other, hmem, hlate, hinvoices other hmem hlate⟩

theorem suspendsOverdue_of_exist_iff {clock : Nat → Nat} {today : Date} {world : Billing ρ}
    (hresiduals : world.records.extension.ResidualsAgree) {moves : List Nat} (hdunned : world.Dunned moves)
    (hexist : world.DeadlinesExist) :
    SuspendsOverdue today world (world.afterSuspension clock today moves) ↔
      ∀ sub ∈ world.records.subscriptions.ids, (world.subscription sub).state = .active →
        world.OneLateInvoice today sub := by
  have hjobs := queuedFor_afterSuspension clock today hdunned hexist
  constructor
  · intro h sub hsub hactive
    apply (late_length_iff world hresiduals today sub).mp
    have hqueued := hjobs sub
    rw [if_pos hactive] at hqueued
    refine ⟨fun hoverdue => ?_, fun hnot => ?_⟩
    · rw [h.overdue sub hsub hactive hoverdue] at hqueued
      have hlength := congrArg List.length hqueued
      rw [List.length_replicate] at hlength
      exact hlength.symm
    · rw [h.others sub hsub (fun hboth => hnot hboth.2)] at hqueued
      have hlength := congrArg List.length hqueued
      rw [List.length_replicate] at hlength
      exact hlength.symm
  · intro hcondition
    constructor
    · intro sub hsub hactive hoverdue
      obtain ⟨hone, _⟩ := (late_length_iff world hresiduals today sub).mpr (hcondition sub hsub hactive)
      rw [hjobs sub, if_pos hactive, hone hoverdue]
      rfl
    · intro sub hsub hnot
      rw [← List.map_eq_nil_iff, hjobs sub, List.replicate_eq_nil_iff]
      by_cases hactive : (world.subscription sub).state = .active
      · obtain ⟨_, hnone⟩ := (late_length_iff world hresiduals today sub).mpr (hcondition sub hsub hactive)
        rw [if_pos hactive]
        exact hnone (fun hoverdue => hnot ⟨hactive, hoverdue⟩)
      · exact if_neg hactive

/-- A pass that raises queues nothing, which is right when nothing is overdue. -/
theorem suspendsOverdue_of_not_exist_iff {clock : Nat → Nat} {today : Date} {world : Billing ρ} {moves : List Nat}
    (hdunned : world.Dunned moves) (hmissing : ¬ world.DeadlinesExist) :
    SuspendsOverdue today world (world.afterSuspension clock today moves) ↔
      ∀ sub ∈ world.records.subscriptions.ids, (world.subscription sub).state = .active →
        ¬ world.Overdue today sub := by
  rw [Billing.afterSuspension_of_not_exist clock today hdunned hmissing]
  constructor
  · intro h sub hsub hactive hoverdue
    have hqueued := h.overdue sub hsub hactive hoverdue
    rw [world.queuedFor_self] at hqueued
    cases hqueued
  · intro hnone
    refine ⟨fun sub hsub hactive hoverdue => absurd hoverdue (hnone sub hsub hactive), fun sub _ _ => ?_⟩
    exact world.queuedFor_self sub

/-- A pass suspends what it should, once each, in exactly two cases. Every day that it
computes is a date, and no active subscription has two late moves, or a late move that is
not a customer invoice or was cancelled by a credit note. Or some such day is no date, so
that the pass raises and queues nothing, and no active subscription has anything overdue. -/
theorem cron_suspend_overdue_suspends_iff (clock : Nat → Nat) (today : Date) (world : Billing ρ)
    (hresiduals : world.records.extension.ResidualsAgree) {moves : List Nat} (hdunned : world.Dunned moves) :
    SuspendsOverdue today world (world.afterSuspension clock today moves) ↔
      (world.DeadlinesExist ∧ ∀ sub ∈ world.records.subscriptions.ids, (world.subscription sub).state = .active →
        world.OneLateInvoice today sub) ∨
      (¬ world.DeadlinesExist ∧ ∀ sub ∈ world.records.subscriptions.ids, (world.subscription sub).state = .active →
        ¬ world.Overdue today sub) := by
  by_cases hexist : world.DeadlinesExist
  · rw [suspendsOverdue_of_exist_iff hresiduals hdunned hexist]
    simp [hexist]
  · rw [suspendsOverdue_of_not_exist_iff hdunned hexist]
    simp [hexist]

theorem februaryFirst_isDay : IsDay 2026 2 1 := by decide

def februaryFirst : Date := .of februaryFirst_isDay

/-- An unpaid posted invoice of the first customer, due at new year. -/
def unpaidInvoice : AccountMove where
  move_type := .out_invoice
  partner_id := 0
  invoice_date := some newYear
  invoice_date_due := some newYear
  isp_subscription_id := some 0
  invoice_line_ids := []
  state := .posted
  amount_residual := 25

/-- An active customer with some unpaid invoices. -/
def unpaid (moves : List AccountMove) : Billing Unit :=
  databaseOf (fun _ => { name := "Basic", service_type := .dhcp }) [activeCustomer none] [] moves

theorem unpaid_residualsAgree {moves : List AccountMove}
    (h : ∀ move ∈ (unpaid moves).moves.ids, (unpaid moves).moves.row move = unpaidInvoice) :
    (unpaid moves).records.extension.ResidualsAgree := by
  intro move hmove _ _
  have hrow : (unpaid moves).records.extension.moves.row move = unpaidInvoice := h move hmove
  rw [hrow]
  refine ⟨by decide, iff_of_false (by decide) ?_⟩
  rintro (hstate | hstate | hstate) <;> cases hstate

theorem unpaid_residualsAgree_one : (unpaid [unpaidInvoice]).records.extension.ResidualsAgree := by
  apply unpaid_residualsAgree
  intro move hmove
  rw [List.mem_singleton.mp hmove]
  rfl

theorem unpaid_residualsAgree_two : (unpaid [unpaidInvoice, unpaidInvoice]).records.extension.ResidualsAgree := by
  apply unpaid_residualsAgree
  intro move hmove
  obtain rfl | hrest := List.mem_cons.mp hmove
  · rfl
  · rw [List.mem_singleton.mp hrest]
    rfl

theorem cron_suspend_overdue_suspends_iff_one :
    SuspendsOverdue februaryFirst (unpaid [unpaidInvoice])
      ((unpaid [unpaidInvoice]).afterSuspension (fun _ => 0) februaryFirst [0]) := by
  refine (cron_suspend_overdue_suspends_iff (fun _ => 0) februaryFirst (unpaid [unpaidInvoice])
    unpaid_residualsAgree_one (List.Perm.refl [0])).mpr (Or.inl ⟨by decide, ?_⟩)
  intro sub hsub _
  rw [List.mem_singleton.mp hsub]
  constructor <;> decide

/-- A customer with two overdue invoices is queued for suspension twice. -/
theorem two_invoices_suspend_twice :
    (unpaid [unpaidInvoice, unpaidInvoice]).records.extension.ResidualsAgree ∧
      (unpaid [unpaidInvoice, unpaidInvoice]).Dunned [0, 1] ∧
      ¬ SuspendsOverdue februaryFirst (unpaid [unpaidInvoice, unpaidInvoice])
        ((unpaid [unpaidInvoice, unpaidInvoice]).afterSuspension (fun _ => 0) februaryFirst [0, 1]) := by
  refine ⟨unpaid_residualsAgree_two, List.Perm.refl [0, 1], fun h => ?_⟩
  have hoverdue : (unpaid [unpaidInvoice, unpaidInvoice]).Overdue februaryFirst 0 := by
    refine ⟨0, by decide, rfl, ⟨rfl, rfl, ?_⟩, rfl⟩
    change (0 : ℚ) < 25
    decide
  have hqueued := h.overdue 0 (by decide) rfl hoverdue
  revert hqueued
  decide

end getupnet.isp_billing

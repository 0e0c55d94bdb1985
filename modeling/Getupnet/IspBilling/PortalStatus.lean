import Getupnet.IspBilling.Dashboard

open relational
open calendar
open getupnet.isp_core

namespace getupnet.isp_billing

variable {ρ : Type}

/-- The name of a state as the portal shows it. -/
def SubscriptionState.capitalize : SubscriptionState → String
  | .draft => "Draft"
  | .active => "Active"
  | .suspended => "Suspended"
  | .terminated => "Terminated"

/-- The domain of the portal's search for the invoices of a subscription. -/
def AccountMove.isDueFor (sub : Nat) (self : AccountMove) : Bool :=
  decide (self.isp_subscription_id = some sub) && self.isOpen && self.invoice_date_due.isSome

/-- The portal's loop over the invoices that its search found. -/
def Billing.is_in_grace (today : Date) (grace_days : Int) (self : Billing ρ) : List Nat → Except OdooError Bool
  | [] => .ok false
  | inv :: rest =>
    match (self.moves.row inv).invoice_date_due with
    | none => self.is_in_grace today grace_days rest
    | some due_date => do
      let limit ← add_days due_date grace_days
      if today ≤ limit then return true else self.is_in_grace today grace_days rest

/-- `_compute_portal_status` of one subscription, given the invoices that its search
found. -/
def Billing.portal_status (today : Date) (grace_days : Int) (overdue_invoices : List Nat) (sub : Nat)
    (self : Billing ρ) : Except OdooError String :=
  let state := (self.subscription sub).state
  if state = .suspended then .ok "Suspended"
  else if state ≠ .active then .ok (SubscriptionState.capitalize state)
  else do
    let overdue_count := (self.moves.search (AccountMove.isDueFor sub)).length
    let is_in_grace ← if overdue_count ≠ 0 then self.is_in_grace today grace_days overdue_invoices else .ok false
    if overdue_count ≠ 0 ∧ is_in_grace = false then return "In arrears"
    else if overdue_count ≠ 0 ∧ is_in_grace = true then return "Grace period"
    else return "Up to date"

/-- The status that the dashboard gives a subscription, if any. -/
def Billing.debt_status (today : Date) (grace_days : Int) (moves : List Nat) (sub : Nat) (self : Billing ρ) :
    Except OdooError (Option DebtStatus) :=
  (self.get_subscription_status_map today grace_days moves).map fun status_map => status_map.lookup sub

/-- The answers to the searches that the three views of a debt make, each in any
order. -/
structure Found (world : Billing ρ) (sub : Nat) where
  overdue_invoices : List Nat
  counted : List Nat
  dunned : List Nat
  finds_overdue : world.moves.Finds (AccountMove.isDueFor sub) overdue_invoices
  finds_counted : world.Counted counted
  finds_dunned : world.Dunned dunned

/-- The portal, the dashboard and the suspension of the day agree about a
subscription. A view that raises shows nothing. -/
structure ViewsAgree (clock : Nat → Nat) (today : Date) (grace_days : Int) (world : Billing ρ) (sub : Nat)
    (found : Found world sub) : Prop where
  in_arrears : world.portal_status today grace_days found.overdue_invoices sub = .ok "In arrears" ↔
    world.debt_status today grace_days found.counted sub = .ok (some .in_arrears)
  grace : world.portal_status today grace_days found.overdue_invoices sub = .ok "Grace period" ↔
    world.debt_status today grace_days found.counted sub = .ok (some .grace)
  up_to_date : world.portal_status today grace_days found.overdue_invoices sub = .ok "Up to date" ↔
    world.debt_status today grace_days found.counted sub = .ok (some .up_to_date)
  suspended : grace_days < world.days sub →
    (∀ move ∈ world.moves.ids, (world.moves.row move).state = .posted → (world.moves.row move).invoice_date_due ≠ none) →
    (∃ job ∈ Billing.queuedFor world (world.afterSuspension clock today found.dunned) sub,
      job.job_type = .suspend_subscription) →
    world.portal_status today grace_days found.overdue_invoices sub = .ok "In arrears" ∧
      world.debt_status today grace_days found.counted sub = .ok (some .in_arrears)

/-- Of the open invoices of a subscription with a due date, either all are in their
days of grace or none is. -/
def Billing.OneDebt (self : Billing ρ) (today : Date) (grace_days : Int) (sub : Nat) : Prop :=
  ∀ first ∈ self.moves.ids, ∀ second ∈ self.moves.ids, (self.moves.row first).isDueFor sub = true →
    (self.moves.row second).isDueFor sub = true → (self.moves.row first).withinGrace today grace_days sub = true →
    (self.moves.row second).withinGrace today grace_days sub = true

/-- The first of some invoices that is in its days of grace, or whose last day of grace is
no date, is of the latter kind. -/
def Billing.StopsFirst (self : Billing ρ) (today : Date) (grace_days : Int) (invoices : List Nat) : Prop :=
  ∃ inv ∈ invoices.find? fun inv => !decide ((self.moves.row inv).GraceEnds grace_days) ||
      (self.moves.row inv).invoice_date_due.any (inGrace today grace_days),
    ¬ (self.moves.row inv).GraceEnds grace_days

/-- The suspension of the day waits longer than the days of grace, every posted move has a
due date, and the pass goes through and finds a late move of the subscription. -/
structure Billing.SuspendsAfterGrace (world : Billing ρ) (today : Date) (grace_days : Int) (sub : Nat) : Prop where
  longer : grace_days < world.days sub
  dated : ∀ move ∈ world.moves.ids, (world.moves.row move).state = .posted →
    (world.moves.row move).invoice_date_due ≠ none
  exist : world.DeadlinesExist
  late : ∃ move ∈ world.moves.ids, world.late today sub (world.moves.row move) = true

section

variable {clock : Nat → Nat} {today : Date} {grace_days : Int} {world : Billing ρ} {sub : Nat}

/-- The open moves of a subscription with a due date. -/
def Billing.dueMoves (self : Billing ρ) (sub : Nat) : List AccountMove :=
  (self.moves.search (AccountMove.isDueFor sub)).map self.moves.row

theorem Billing.mem_dueMoves {move : AccountMove} :
    move ∈ world.dueMoves sub ↔
      ∃ id ∈ world.moves.ids, (world.moves.row id).isDueFor sub = true ∧ world.moves.row id = move := by
  simp [Billing.dueMoves, and_assoc]

/-- A due move is within its days of grace or out of them. -/
theorem AccountMove.grace_of_isDueFor {move : AccountMove} (h : move.isDueFor sub = true) :
    move.outOfGrace today grace_days sub = !move.withinGrace today grace_days sub := by
  simp only [AccountMove.isDueFor, Bool.and_eq_true, decide_eq_true_eq] at h
  obtain ⟨⟨hlinked, _⟩, hdue⟩ := h
  obtain ⟨due_date, hdue⟩ := Option.isSome_iff_exists.mp hdue
  simp [AccountMove.outOfGrace, AccountMove.withinGrace, hlinked, hdue]

theorem AccountMove.isDueFor_iff {move : AccountMove} :
    move.isDueFor sub = true ↔
      move.isp_subscription_id = some sub ∧ move.isOpen = true ∧ move.invoice_date_due.isSome = true := by
  simp [AccountMove.isDueFor, and_assoc]

/-- Whether a due move of the subscription has a property can be seen from the
moves that the dashboard goes through. -/
theorem Billing.Counted.any_eq {moves : List Nat} (hcounted : world.Counted moves)
    (hsub : sub ∈ world.activeSubscriptions) {property : AccountMove → Bool}
    (hlinked : ∀ move, property move = true → move.isp_subscription_id = some sub) :
    (moves.map world.moves.row).any property = (world.dueMoves sub).any property := by
  rw [Bool.eq_iff_iff, List.any_eq_true, List.any_eq_true]
  constructor
  · rintro ⟨move, hmove, hproperty⟩
    obtain ⟨id, hid, rfl⟩ := List.mem_map.mp hmove
    have howner := hlinked _ hproperty
    obtain ⟨hmem, hopen, hdate⟩ := (hcounted.mem_of_linked_iff hsub howner).mp hid
    have hdue := AccountMove.isDueFor_iff.mpr ⟨howner, hopen, hdate⟩
    exact ⟨_, Billing.mem_dueMoves.mpr ⟨id, hmem, hdue, rfl⟩, hproperty⟩
  · rintro ⟨move, hmove, hproperty⟩
    obtain ⟨id, hid, hdue, rfl⟩ := Billing.mem_dueMoves.mp hmove
    obtain ⟨howner, hopen, hdate⟩ := AccountMove.isDueFor_iff.mp hdue
    have hcountedMove := (hcounted.mem_of_linked_iff hsub howner).mpr ⟨hid, hopen, hdate⟩
    exact ⟨_, List.mem_map_of_mem hcountedMove, hproperty⟩

theorem Billing.stopsFirst_cons {inv : Nat} {rest : List Nat} (hends : (world.moves.row inv).GraceEnds grace_days)
    (hover : (world.moves.row inv).invoice_date_due.any (inGrace today grace_days) = false) :
    world.StopsFirst today grace_days (inv :: rest) ↔ world.StopsFirst today grace_days rest := by
  simp [Billing.StopsFirst, hends, hover]

/-- The portal's loop looks for an invoice in its days of grace, and raises if one without
a last day of grace comes first. -/
theorem Billing.is_in_grace_eq {invoices : List Nat}
    (hlinked : ∀ inv ∈ invoices, (world.moves.row inv).isp_subscription_id = some sub) :
    (world.StopsFirst today grace_days invoices ∧
        world.is_in_grace today grace_days invoices = .error (.other "date value out of range")) ∨
      (¬ world.StopsFirst today grace_days invoices ∧ world.is_in_grace today grace_days invoices =
        .ok (invoices.any fun inv => (world.moves.row inv).invoice_date_due.any (inGrace today grace_days))) := by
  induction invoices with
  | nil => exact Or.inr ⟨by simp [Billing.StopsFirst], rfl⟩
  | cons inv rest ih =>
    obtain ⟨hsub, hrest⟩ := List.forall_mem_cons.mp hlinked
    cases hdue : (world.moves.row inv).invoice_date_due with
    | none =>
      have hends : (world.moves.row inv).GraceEnds grace_days := by simp [AccountMove.GraceEnds, hdue]
      rw [Billing.stopsFirst_cons hends (by rw [hdue]; rfl), Billing.is_in_grace, hdue, List.any_cons, hdue]
      exact ih hrest
    | some due_date =>
      have hends : (world.moves.row inv).GraceEnds grace_days ↔ (due_date.addDays grace_days).Representable := by
        simp [AccountMove.GraceEnds, hsub, hdue]
      rw [Billing.is_in_grace, hdue, List.any_cons, hdue]
      by_cases hdate : (due_date.addDays grace_days).Representable
      · by_cases hgrace : today ≤ due_date.addDays grace_days
        · refine Or.inr ⟨?_, ?_⟩
          · simp [Billing.StopsFirst, hends.mpr hdate, hdue, inGrace, hgrace]
          · simp only [add_days, if_pos hdate, Option.any_some, inGrace, hgrace, decide_true, Bool.true_or]
            exact if_pos hgrace
        · have hover : (world.moves.row inv).invoice_date_due.any (inGrace today grace_days) = false := by
            simp [hdue, inGrace, hgrace]
          have hnext : (do
              let limit ← add_days due_date grace_days
              if today ≤ limit then return true else world.is_in_grace today grace_days rest) =
              world.is_in_grace today grace_days rest := by
            rw [add_days, if_pos hdate]
            exact if_neg hgrace
          rw [hdue] at hover
          rw [Billing.stopsFirst_cons (hends.mpr hdate) (by rw [hdue]; exact hover), hover, Bool.false_or]
          dsimp only
          rw [hnext]
          exact ih hrest
      · refine Or.inl ⟨?_, ?_⟩
        · simp [Billing.StopsFirst, mt hends.mp hdate]
        · simp only [add_days, if_neg hdate]
          rfl

/-- The invoices in their days of grace that the portal's loop may find. -/
theorem Billing.any_inGrace {invoices : List Nat}
    (hfinds : world.moves.Finds (AccountMove.isDueFor sub) invoices) :
    (invoices.any fun inv => (world.moves.row inv).invoice_date_due.any (inGrace today grace_days)) =
      (world.dueMoves sub).any (AccountMove.withinGrace today grace_days sub) := by
  rw [Bool.eq_iff_iff, List.any_eq_true, List.any_eq_true]
  constructor
  · rintro ⟨inv, hinv, hgrace⟩
    obtain ⟨hmem, hdue⟩ := (hfinds.mem_iff inv).mp hinv
    refine ⟨_, Billing.mem_dueMoves.mpr ⟨inv, hmem, hdue, rfl⟩, ?_⟩
    simp [AccountMove.withinGrace, (AccountMove.isDueFor_iff.mp hdue).1, hgrace]
  · rintro ⟨move, hmove, hgrace⟩
    obtain ⟨inv, hmem, hdue, rfl⟩ := Billing.mem_dueMoves.mp hmove
    rw [AccountMove.withinGrace, Bool.and_eq_true] at hgrace
    exact ⟨inv, (hfinds.mem_iff inv).mpr ⟨hmem, hdue⟩, hgrace.2⟩

/-- What the portal shows of an active subscription when its loop does not raise: one with
any due move in its days of grace is in grace. -/
def portalLabel (within out : Bool) : String :=
  if within then "Grace period" else if out then "In arrears" else "Up to date"

theorem Billing.portal_status_eq (hactive : (world.subscription sub).state = .active) {invoices : List Nat}
    (hfinds : world.moves.Finds (AccountMove.isDueFor sub) invoices) :
    (world.StopsFirst today grace_days invoices ∧
        world.portal_status today grace_days invoices sub = .error (.other "date value out of range")) ∨
      (¬ world.StopsFirst today grace_days invoices ∧ world.portal_status today grace_days invoices sub =
        .ok (portalLabel ((world.dueMoves sub).any (AccountMove.withinGrace today grace_days sub))
          ((world.dueMoves sub).any (AccountMove.outOfGrace today grace_days sub)))) := by
  have hlinked : ∀ inv ∈ invoices, (world.moves.row inv).isp_subscription_id = some sub :=
    fun inv hinv => (AccountMove.isDueFor_iff.mp ((hfinds.mem_iff inv).mp hinv).2).1
  have hcount : (world.moves.search (AccountMove.isDueFor sub)).length = (world.dueMoves sub).length := by
    rw [Billing.dueMoves, List.length_map]
  have hlength : invoices.length = (world.dueMoves sub).length := hcount ▸ hfinds.length_eq
  simp only [Billing.portal_status, hactive, hcount]
  cases hmoves : world.dueMoves sub with
  | nil =>
    rw [hmoves, List.length_nil, List.length_eq_zero_iff] at hlength
    subst hlength
    exact Or.inr ⟨by simp [Billing.StopsFirst], rfl⟩
  | cons move rest =>
    have hdue : move.isDueFor sub = true := by
      obtain ⟨id, _, hdue, hrow⟩ := Billing.mem_dueMoves.mp (hmoves ▸ List.mem_cons_self)
      rw [← hrow]
      exact hdue
    have hgrace : move.outOfGrace today grace_days sub = !move.withinGrace today grace_days sub :=
      AccountMove.grace_of_isDueFor hdue
    obtain ⟨hstops, hloop⟩ | ⟨hgoes, hloop⟩ := @Billing.is_in_grace_eq _ today grace_days world sub invoices hlinked
    · refine Or.inl ⟨hstops, ?_⟩
      simp [hloop]
      rfl
    · refine Or.inr ⟨hgoes, ?_⟩
      rw [Billing.any_inGrace hfinds, hmoves] at hloop
      simp only [hloop]
      cases hwithin : (move :: rest).any (AccountMove.withinGrace today grace_days sub) with
      | true =>
        simp [portalLabel]
        rfl
      | false =>
        have hout : (move :: rest).any (AccountMove.outOfGrace today grace_days sub) = true := by
          rw [List.any_cons, Bool.or_eq_false_iff] at hwithin
          rw [List.any_cons, hgrace, hwithin.1]
          rfl
        simp [portalLabel, hout]
        rfl

/-- Some due moves are in their days of grace and some are not. -/
theorem Billing.oneDebt_iff :
    world.OneDebt today grace_days sub ↔
      ¬ ((world.dueMoves sub).any (AccountMove.withinGrace today grace_days sub) = true ∧
        (world.dueMoves sub).any (AccountMove.outOfGrace today grace_days sub) = true) := by
  constructor
  · rintro hone ⟨hwithin, hout⟩
    obtain ⟨move, hmove, hmoveWithin⟩ := List.any_eq_true.mp hwithin
    obtain ⟨other, hother, hotherOut⟩ := List.any_eq_true.mp hout
    obtain ⟨first, hfirst, hfirstDue, rfl⟩ := Billing.mem_dueMoves.mp hmove
    obtain ⟨second, hsecond, hsecondDue, rfl⟩ := Billing.mem_dueMoves.mp hother
    have hsecondWithin := hone first hfirst second hsecond hfirstDue hsecondDue hmoveWithin
    rw [AccountMove.grace_of_isDueFor hsecondDue, hsecondWithin] at hotherOut
    cases hotherOut
  · intro hnot first hfirst second hsecond hfirstDue hsecondDue hwithin
    by_contra hsecondOut
    refine hnot ⟨List.any_eq_true.mpr ⟨_, Billing.mem_dueMoves.mpr ⟨first, hfirst, hfirstDue, rfl⟩, hwithin⟩,
      List.any_eq_true.mpr ⟨_, Billing.mem_dueMoves.mpr ⟨second, hsecond, hsecondDue, rfl⟩, ?_⟩⟩
    rw [AccountMove.grace_of_isDueFor hsecondDue, Bool.eq_false_of_not_eq_true hsecondOut]
    rfl

/-- What the portal shows and the status that the dashboard counts correspond, unless
there are invoices of both kinds. -/
theorem labels_agree {within out : Bool} (h : ¬ (within = true ∧ out = true)) :
    (portalLabel within out = "In arrears" ↔
        (if out then DebtStatus.in_arrears else if within then .grace else .up_to_date) = .in_arrears) ∧
      (portalLabel within out = "Grace period" ↔
        (if out then DebtStatus.in_arrears else if within then .grace else .up_to_date) = .grace) ∧
      (portalLabel within out = "Up to date" ↔
        (if out then DebtStatus.in_arrears else if within then .grace else .up_to_date) = .up_to_date) := by
  cases within <;> cases out <;> simp [portalLabel] at h ⊢

theorem portalLabel_cases (within out : Bool) : portalLabel within out = "In arrears" ∨
    portalLabel within out = "Grace period" ∨ portalLabel within out = "Up to date" := by
  cases within <;> cases out <;> simp [portalLabel]

/-- The suspension of the day queues a job for an active subscription when the pass goes
through and one of its moves is late. -/
theorem Billing.suspended_iff (clock : Nat → Nat) (hactive : (world.subscription sub).state = .active)
    (found : Found world sub) :
    (∃ job ∈ Billing.queuedFor world (world.afterSuspension clock today found.dunned) sub,
        job.job_type = .suspend_subscription) ↔
      world.DeadlinesExist ∧ ∃ move ∈ world.moves.ids, world.late today sub (world.moves.row move) = true := by
  by_cases hexist : world.DeadlinesExist
  · have hjobs := queuedFor_afterSuspension clock today found.finds_dunned hexist sub
    rw [if_pos hactive] at hjobs
    have hlength := congrArg List.length hjobs
    rw [List.length_map, List.length_replicate] at hlength
    constructor
    · rintro ⟨job, hjob, _⟩
      have hpositive := List.length_pos_of_mem hjob
      rw [hlength] at hpositive
      obtain ⟨move, hmove⟩ := List.exists_mem_of_length_pos hpositive
      exact ⟨hexist, move, (Store.mem_search _ _ move).mp hmove⟩
    · rintro ⟨_, move, hmove, hlate⟩
      have hpositive := List.length_pos_of_mem ((Store.mem_search _ _ move).mpr ⟨hmove, hlate⟩)
      rw [← hlength] at hpositive
      obtain ⟨job, hjob⟩ := List.exists_mem_of_length_pos hpositive
      have htype := List.mem_map_of_mem (f := IspProvisioningJob.job_type) hjob
      rw [hjobs] at htype
      exact ⟨job, hjob, (List.mem_replicate.mp htype).2⟩
  · rw [Billing.afterSuspension_of_not_exist clock today found.finds_dunned hexist, world.queuedFor_self]
    exact iff_of_false (fun ⟨_, hjob, _⟩ => absurd hjob List.not_mem_nil) fun h => hexist h.1

/-- A late move is due and out of its days of grace, when the suspension waits longer and
every posted move has a due date. -/
theorem Billing.outOfGrace_of_late (hdays : grace_days < world.days sub)
    (hdated : ∀ move ∈ world.moves.ids, (world.moves.row move).state = .posted →
      (world.moves.row move).invoice_date_due ≠ none) {move : Nat} (hid : move ∈ world.moves.ids)
    (hlate : world.late today sub (world.moves.row move) = true) :
    (world.dueMoves sub).any (AccountMove.outOfGrace today grace_days sub) = true := by
  obtain ⟨hlinked, hopen, hpast⟩ := (world.late_iff today sub _).mp hlate
  have hposted := ((AccountMove.isOpen_iff _).mp hopen).1
  obtain ⟨due_date, hdue⟩ := Option.ne_none_iff_exists'.mp (hdated move hid hposted)
  refine List.any_eq_true.mpr ⟨_, Billing.mem_dueMoves.mpr ⟨move, hid, ?_, rfl⟩, ?_⟩
  · exact AccountMove.isDueFor_iff.mpr ⟨hlinked, hopen, by rw [hdue]; rfl⟩
  · rw [Billing.pastDue, hdue] at hpast
    have hpassed : due_date.addDays (world.days sub) ≤ today := of_decide_eq_true hpast
    rw [Date.le_iff, Date.ordinal_addDays] at hpassed
    have hover : ¬ today ≤ due_date.addDays grace_days := by
      rw [Date.le_iff, Date.ordinal_addDays]
      omega
    simp [AccountMove.outOfGrace, hlinked, hdue, inGrace, hover]

/-- Where every open move of an active subscription has a last day of grace, no loop of the
portal over such moves stops. -/
theorem Billing.GraceEnds.not_stopsFirst (hends : world.GraceEnds grace_days) (hsub : sub ∈ world.activeSubscriptions)
    {invoices : List Nat} (hfinds : world.moves.Finds (AccountMove.isDueFor sub) invoices) :
    ¬ world.StopsFirst today grace_days invoices := by
  rintro ⟨inv, hfound, hmissing⟩
  obtain ⟨hmem, hdue⟩ := (hfinds.mem_iff inv).mp (List.mem_of_find?_eq_some hfound)
  obtain ⟨hlinked, hopen, hdate⟩ := AccountMove.isDueFor_iff.mp hdue
  refine hmissing (hends inv hmem ?_)
  simp [AccountMove.isOwedBy, hlinked, hsub, hopen, hdate]

theorem viewsAgree_of_ends_iff (hsub : sub ∈ world.activeSubscriptions)
    (hactive : (world.subscription sub).state = .active) (found : Found world sub)
    (hends : world.GraceEnds grace_days) :
    ViewsAgree clock today grace_days world sub found ↔ world.OneDebt today grace_days sub := by
  have hstatus : world.debt_status today grace_days found.counted sub =
      .ok (some (worstStatus today grace_days sub (found.counted.map world.moves.row))) := by
    rw [Billing.debt_status, world.get_subscription_status_map_eq found.finds_counted, if_pos hends]
    exact congrArg Except.ok ((world.status_map_lookup found.finds_counted sub).trans (if_pos hsub))
  rw [worstStatus, found.finds_counted.any_eq hsub fun _ => AccountMove.linked_of_outOfGrace,
    found.finds_counted.any_eq hsub fun _ => AccountMove.linked_of_withinGrace] at hstatus
  obtain ⟨hstops, _⟩ | ⟨_, hportal⟩ := @Billing.portal_status_eq _ today grace_days _ _ hactive _ found.finds_overdue
  · exact absurd hstops (hends.not_stopsFirst hsub found.finds_overdue)
  rw [Billing.oneDebt_iff]
  constructor
  · rintro h ⟨hwithin, hout⟩
    have hgrace := h.grace
    rw [hportal, hstatus, hwithin, hout] at hgrace
    simp [portalLabel] at hgrace
  · intro hnot
    obtain ⟨harrears, hgrace, hupToDate⟩ := labels_agree hnot
    refine ⟨?_, ?_, ?_, fun hdays hdated hqueued => ?_⟩
    · rw [hportal, hstatus, Except.ok.injEq, Except.ok.injEq, Option.some.injEq]
      exact harrears
    · rw [hportal, hstatus, Except.ok.injEq, Except.ok.injEq, Option.some.injEq]
      exact hgrace
    · rw [hportal, hstatus, Except.ok.injEq, Except.ok.injEq, Option.some.injEq]
      exact hupToDate
    · obtain ⟨_, move, hmove, hlate⟩ := (Billing.suspended_iff clock hactive found).mp hqueued
      have hout := Billing.outOfGrace_of_late hdays hdated hmove hlate
      have hwithin : (world.dueMoves sub).any (AccountMove.withinGrace today grace_days sub) = false :=
        Bool.eq_false_of_not_eq_true fun hwithin => hnot ⟨hwithin, hout⟩
      rw [hportal, hstatus, hwithin, hout]
      exact ⟨rfl, rfl⟩

/-- A dashboard that raises agrees with a portal that does too, if nothing is suspended. -/
theorem viewsAgree_of_not_ends_iff (hactive : (world.subscription sub).state = .active) (found : Found world sub)
    (hends : ¬ world.GraceEnds grace_days) :
    ViewsAgree clock today grace_days world sub found ↔
      world.StopsFirst today grace_days found.overdue_invoices ∧ ¬ world.SuspendsAfterGrace today grace_days sub := by
  have hstatus : world.debt_status today grace_days found.counted sub = .error (.other "date value out of range") := by
    rw [Billing.debt_status, world.get_subscription_status_map_eq found.finds_counted, if_neg hends]
    rfl
  constructor
  · intro h
    obtain ⟨hstops, hportal⟩ | ⟨_, hportal⟩ :=
      @Billing.portal_status_eq _ today grace_days _ _ hactive _ found.finds_overdue
    · refine ⟨hstops, fun hsuspends => ?_⟩
      have hqueued := (Billing.suspended_iff clock hactive found).mpr ⟨hsuspends.exist, hsuspends.late⟩
      have hshown := (h.suspended hsuspends.longer hsuspends.dated hqueued).2
      rw [hstatus] at hshown
      cases hshown
    · have harrears := h.in_arrears
      have hgrace := h.grace
      have hupToDate := h.up_to_date
      rw [hportal, hstatus] at harrears hgrace hupToDate
      obtain hlabel | hlabel | hlabel := portalLabel_cases
        ((world.dueMoves sub).any (AccountMove.withinGrace today grace_days sub))
        ((world.dueMoves sub).any (AccountMove.outOfGrace today grace_days sub))
      · exact nomatch harrears.mp (congrArg Except.ok hlabel)
      · exact nomatch hgrace.mp (congrArg Except.ok hlabel)
      · exact nomatch hupToDate.mp (congrArg Except.ok hlabel)
  · rintro ⟨hstops, hnot⟩
    obtain ⟨_, hportal⟩ | ⟨hgoes, _⟩ := @Billing.portal_status_eq _ today grace_days _ _ hactive _ found.finds_overdue
    · refine ⟨?_, ?_, ?_, fun hdays hdated hqueued => absurd ?_ hnot⟩
      · rw [hportal, hstatus]
        exact iff_of_false nofun nofun
      · rw [hportal, hstatus]
        exact iff_of_false nofun nofun
      · rw [hportal, hstatus]
        exact iff_of_false nofun nofun
      · obtain ⟨hexist, hlate⟩ := (Billing.suspended_iff clock hactive found).mp hqueued
        exact ⟨hdays, hdated, hexist, hlate⟩
    · exact absurd hstops hgoes

/-- The views of the debt of an active subscription agree in exactly two cases. Every open
move of an active subscription has a last day of grace that is a date, and the open
invoices of this one with a due date are all in their days of grace or all out of them. Or
some move has none, so that the dashboard raises, and so does the portal, because such an
invoice of this subscription comes before any in its days of grace, and the suspension of
the day is none that the views would have to show. -/
theorem views_agree_iff (clock : Nat → Nat) (today : Date) (grace_days : Int) (world : Billing ρ) (sub : Nat)
    (hsub : sub ∈ world.records.subscriptions.ids) (hactive : (world.subscription sub).state = .active)
    (found : Found world sub) :
    ViewsAgree clock today grace_days world sub found ↔
      (world.GraceEnds grace_days ∧ world.OneDebt today grace_days sub) ∨
      (¬ world.GraceEnds grace_days ∧ world.StopsFirst today grace_days found.overdue_invoices ∧
        ¬ world.SuspendsAfterGrace today grace_days sub) := by
  have hmember : sub ∈ world.activeSubscriptions := by
    rw [Billing.activeSubscriptions, Store.mem_searchDesc]
    exact ⟨hsub, decide_eq_true hactive⟩
  by_cases hends : world.GraceEnds grace_days
  · rw [viewsAgree_of_ends_iff hmember hactive found hends]
    simp [hends]
  · rw [viewsAgree_of_not_ends_iff hactive found hends]
    simp [hends]

end

def foundTwo : Found (unpaid [unpaidInvoice, recentInvoice]) 0 where
  overdue_invoices := [0, 1]
  counted := [0, 1]
  dunned := [0, 1]
  finds_overdue := List.Perm.refl [0, 1]
  finds_counted := List.Perm.refl [0, 1]
  finds_dunned := List.Perm.refl [0, 1]

def foundLate : Found (unpaid [unpaidInvoice, unpaidInvoice]) 0 where
  overdue_invoices := [0, 1]
  counted := [1, 0]
  dunned := [0, 1]
  finds_overdue := List.Perm.refl [0, 1]
  finds_counted := List.Perm.swap 0 1 []
  finds_dunned := List.Perm.refl [0, 1]

/-- A customer with two invoices past their days of grace is in arrears everywhere. -/
theorem views_agree_iff_two :
    ViewsAgree (fun _ => 0) februaryFirst 5 (unpaid [unpaidInvoice, unpaidInvoice]) 0 foundLate := by
  refine (views_agree_iff (fun _ => 0) februaryFirst 5 (unpaid [unpaidInvoice, unpaidInvoice]) 0 (by decide) rfl
    foundLate).mpr (Or.inl ⟨by decide, ?_⟩)
  intro first hfirst second hsecond
  revert first second
  decide

/-- A customer with one invoice past its days of grace and another one within them is
in grace for the portal and in arrears for the dashboard. -/
theorem mixed_debt_disagrees :
    0 ∈ (unpaid [unpaidInvoice, recentInvoice]).records.subscriptions.ids ∧
      ((unpaid [unpaidInvoice, recentInvoice]).subscription 0).state = .active ∧
      ¬ ViewsAgree (fun _ => 0) februaryFirst 5 (unpaid [unpaidInvoice, recentInvoice]) 0 foundTwo := by
  refine ⟨by decide, rfl, fun h => ?_⟩
  have hportal : (unpaid [unpaidInvoice, recentInvoice]).portal_status februaryFirst 5 [0, 1] 0 =
      .ok "Grace period" := rfl
  have hstatus : (unpaid [unpaidInvoice, recentInvoice]).debt_status februaryFirst 5 [0, 1] 0 =
      .ok (some .in_arrears) := rfl
  have hmap := h.grace.mp hportal
  cases hstatus.symm.trans hmap

end getupnet.isp_billing

import Getupnet.Server.Edits

open relational
open calendar
open getupnet.isp_core
open getupnet.isp_mikrotik
open getupnet.isp_billing

namespace getupnet.server

variable {ρ : Type}

/-- There is an invoice that was generated for the subscription. -/
def Invoiced (sub : Nat) (world : Billing ρ) : Prop :=
  ∃ move ∈ world.moves.ids, (world.moves.row move).isp_subscription_id = some sub

/-- Nobody fills in a billing date by hand; the onboarding request has none. -/
def ServerEvent.LeavesBillingDate : ServerEvent ρ → Prop
  | .create _ _ vals_list => ∀ vals ∈ vals_list, vals.next_invoice_date = none
  | _ => True

/-- Exactly the invoiced subscriptions have a billing date. -/
structure DatedByInvoice (world : Billing ρ) : Prop where
  linked : ∀ sub, Invoiced sub world → sub ∈ world.records.subscriptions.ids
  dated : ∀ sub ∈ world.records.subscriptions.ids,
    (world.subscription sub).next_invoice_date.isSome = true ↔ Invoiced sub world

/-- What a call does to the billing that neither creates a subscription nor
generates an invoice: nothing. -/
structure KeepsBilling (before after : Billing ρ) : Prop where
  ids : after.records.subscriptions.ids = before.records.subscriptions.ids
  next_invoice_date : ∀ sub, (after.subscription sub).next_invoice_date = (before.subscription sub).next_invoice_date
  invoiced : ∀ sub, Invoiced sub after ↔ Invoiced sub before

theorem KeepsBilling.refl (world : Billing ρ) : KeepsBilling world world :=
  ⟨rfl, fun _ => rfl, fun _ => Iff.rfl⟩

theorem KeepsBilling.trans {first second third : Billing ρ} (hfirst : KeepsBilling first second)
    (hsecond : KeepsBilling second third) : KeepsBilling first third where
  ids := hsecond.ids.trans hfirst.ids
  next_invoice_date := fun sub => (hsecond.next_invoice_date sub).trans (hfirst.next_invoice_date sub)
  invoiced := fun sub => (hsecond.invoiced sub).trans (hfirst.invoiced sub)

theorem DatedByInvoice.keeps {before after : Billing ρ} (h : DatedByInvoice before)
    (hkeeps : KeepsBilling before after) : DatedByInvoice after where
  linked := by
    intro sub hinvoiced
    rw [hkeeps.ids]
    exact h.linked sub ((hkeeps.invoiced sub).mp hinvoiced)
  dated := by
    intro sub hsub
    rw [hkeeps.ids] at hsub
    rw [hkeeps.next_invoice_date, hkeeps.invoiced]
    exact h.dated sub hsub

theorem KeepsBilling.writeSubscription {id : Nat} {record : IspSubscription} {world : Billing ρ}
    (h : record.next_invoice_date = (world.subscription id).next_invoice_date) :
    KeepsBilling world (world.writeSubscription id record) := by
  refine ⟨rfl, fun sub => ?_, fun _ => Iff.rfl⟩
  by_cases hsame : sub = id
  · rw [hsame, World.writeSubscription_self, h]
  · rw [World.writeSubscription_ne _ hsame]

/-- Executed jobs change neither the billing dates nor the moves. -/
theorem KeepsBilling.execute {surroundings : Surroundings ρ} {now id : Nat} {world after : Billing ρ}
    (h : (IspProvisioningJob.execute (dispatch surroundings) now id).exec world = (.ok (), after)) :
    KeepsBilling world after := by
  obtain ⟨_, hprovisions⟩ | ⟨_, hsame⟩ := (execute_provisions h).2
  · refine ⟨hprovisions.ids, hprovisions.next_invoice_date, fun sub => ?_⟩
    rw [Invoiced, Billing.moves, hprovisions.extension]
    rfl
  · refine ⟨by rw [hsame], fun sub => ?_, fun sub => ?_⟩
    · rw [World.subscription, hsame]
      rfl
    · rw [Invoiced, Billing.moves, hsame]
      rfl

theorem KeepsBilling.execute_jobs {surroundings : Surroundings ρ} {now : Nat} {jobs : List Nat}
    {world after : Billing ρ}
    (h : (Method.forEach (IspProvisioningJob.execute (dispatch surroundings) now) jobs).exec world =
      (.ok (), after)) :
    KeepsBilling world after :=
  Method.forEach_relates KeepsBilling.refl (fun _ _ _ => KeepsBilling.trans)
    (fun _ _ _ _ => KeepsBilling.execute) h

/-- A payment changes no link between an invoice and its subscription. -/
theorem KeepsBilling.payment (move : Nat) (payment_state : PaymentState) (amount_residual : ℚ)
    (world : Billing ρ) :
    KeepsBilling world (Billing.withMoves
      (world.moves.write move fun move => { move with payment_state, amount_residual }) world) := by
  refine ⟨rfl, fun _ => rfl, fun sub => ?_⟩
  have hlink : ∀ other,
      ((world.moves.write move fun move => { move with payment_state, amount_residual }).row other).isp_subscription_id =
        (world.moves.row other).isp_subscription_id := by
    intro other
    rw [Store.write_row]
    by_cases hsame : other = move
    · rw [if_pos hsame, hsame]
    · rw [if_neg hsame]
  constructor
  · rintro ⟨other, hother, hsub⟩
    exact ⟨other, hother, (hlink other).symm.trans hsub⟩
  · rintro ⟨other, hother, hsub⟩
    exact ⟨other, hother, (hlink other).trans hsub⟩

/-- New subscriptions have neither a billing date nor an invoice. -/
theorem DatedByInvoice.create {next_by_code : Nat → CharField} {token_hex : String → String}
    {vals_list : List SubscriptionVals} {records : List IspSubscription} {world : Billing ρ}
    (h : DatedByInvoice world) (hvals : ∀ vals ∈ vals_list, vals.next_invoice_date = none)
    (hcreate : IspSubscription.create world.records.plans next_by_code token_hex vals_list = .ok records) :
    DatedByInvoice { world with
      records := { world.records with subscriptions := world.records.subscriptions.createAll records } } := by
  refine ⟨fun sub hinvoiced => ?_, fun sub hsub => ?_⟩
  · exact world.records.subscriptions.mem_createAll_ids_of_mem records (h.linked sub hinvoiced)
  · obtain hold | ⟨hnew, hrow⟩ := world.records.subscriptions.mem_createAll_ids records hsub
    · have hsame := world.records.subscriptions.createAll_row_of_mem records hold
      rw [World.subscription, hsame]
      exact h.dated sub hold
    · obtain ⟨i, hrecord⟩ := List.mem_iff_getElem?.mp hrow
      obtain ⟨vals, profile, hgiven, hvalues⟩ := IspSubscription.create_values hcreate hrecord
      have hdate := hvals vals (List.mem_of_getElem? hgiven)
      rw [World.subscription, hvalues, SubscriptionVals.values, hdate]
      exact iff_of_false Bool.false_ne_true fun hinvoiced => hnew (h.linked sub hinvoiced)

theorem Invoiced.invoiced_iff (today : Date) (action_post : Nat → AccountMove → Except OdooError Posting)
    (id sub : Nat) (world : Billing ρ) :
    Invoiced sub (world.invoiced today action_post id) ↔ Invoiced sub world ∨ sub = id := by
  have hmoves : (world.invoiced today action_post id).moves =
      world.moves.create (world.invoiceFor today action_post id world.moves.next_id) := rfl
  have hlink : (world.invoiceFor today action_post id world.moves.next_id).isp_subscription_id = some id :=
    AccountMove.afterPosting_isp_subscription_id _ _
  unfold Invoiced
  rw [hmoves, Store.create_ids]
  constructor
  · rintro ⟨move, hmove, hsub⟩
    obtain hold | hnew := List.mem_append.mp hmove
    · rw [Store.create_row_of_lt _ (world.moves.ids_fresh move hold)] at hsub
      exact Or.inl ⟨move, hold, hsub⟩
    · rw [List.mem_singleton.mp hnew, Store.create_row_new, hlink] at hsub
      exact Or.inr (Option.some.inj hsub).symm
  · rintro (⟨move, hmove, hsub⟩ | rfl)
    · refine ⟨move, List.mem_append_left _ hmove, ?_⟩
      rw [Store.create_row_of_lt _ (world.moves.ids_fresh move hmove), hsub]
    · refine ⟨world.moves.next_id, List.mem_append_right _ (List.mem_singleton_self _), ?_⟩
      rw [Store.create_row_new, hlink]

theorem DatedByInvoice.invoiced {world : Billing ρ} (h : DatedByInvoice world) (today : Date)
    (action_post : Nat → AccountMove → Except OdooError Posting) {id : Nat}
    (hid : id ∈ world.records.subscriptions.ids) : DatedByInvoice (world.invoiced today action_post id) := by
  refine ⟨fun sub hinvoiced => ?_, fun sub hsub => ?_⟩
  · obtain hold | rfl := (Invoiced.invoiced_iff today action_post id sub world).mp hinvoiced
    · exact h.linked sub hold
    · exact hid
  · rw [Invoiced.invoiced_iff]
    by_cases hsame : sub = id
    · rw [hsame, world.invoiced_subscription_self]
      exact iff_of_true rfl (Or.inr rfl)
    · rw [world.invoiced_subscription_ne today action_post hsame, h.dated sub hsub]
      exact (or_iff_left hsame).symm

theorem ServerEvent.LeavesBillingDate.created {event : ServerEvent ρ} (h : event.LeavesBillingDate) :
    ∀ vals ∈ event.created, vals.next_invoice_date = none := by
  cases event
  case create => exact h
  case mac_onboarding =>
    intro vals hvals
    rw [List.mem_singleton.mp hvals]
    rfl
  all_goals exact fun vals hvals => absurd hvals List.not_mem_nil

theorem DatedByInvoice.edit {event : ServerEvent ρ} {world after : Billing ρ} (h : DatedByInvoice world)
    (hform : event.LeavesBillingDate) (hedit : Edit event world after) : DatedByInvoice after := by
  cases hedit with
  | create hcreate => exact h.create hform.created hcreate
  | provision id plan_id profile => exact h.keeps (KeepsBilling.writeSubscription rfl)
  | queue_job clock hqueues => exact h.keeps ⟨rfl, fun _ => rfl, fun _ => Iff.rfl⟩
  | invoice today action_post hid => exact h.invoiced today action_post hid
  | requests plan_change_requests => exact h.keeps ⟨rfl, fun _ => rfl, fun _ => Iff.rfl⟩
  | payment move payment_state amount_residual =>
    exact h.keeps (KeepsBilling.payment move payment_state amount_residual world)
  | outside outside => exact h.keeps ⟨rfl, fun _ => rfl, fun _ => Iff.rfl⟩

theorem DatedByInvoice.step {world after : Billing ρ} {event : ServerEvent ρ} (h : DatedByInvoice world)
    (hform : event.LeavesBillingDate) (hstep : ServerStep world event after) : DatedByInvoice after := by
  obtain hedits | ⟨surroundings, now, hexec⟩ := hstep.cases
  · clear hstep
    induction hedits with
    | refl => exact h
    | tail _ hedit ih => exact ih.edit hform hedit
  · exact h.keeps (KeepsBilling.execute_jobs hexec)

/-- In every state that a database without subscriptions reaches while nobody
fills in a billing date by hand, an active subscription has one exactly if it
has been invoiced, and the invoicing pass selects it from that date on. -/
theorem active_dated_iff_invoiced {initial reached : Billing ρ} {taken : List (Billing ρ × ServerEvent ρ)}
    (hsubscriptions : initial.records.subscriptions.ids = [])
    (hmoves : ∀ move ∈ initial.moves.ids, (initial.moves.row move).isp_subscription_id = none)
    (run : Run ServerStep initial taken reached) (hform : ∀ entry ∈ taken, entry.2.LeavesBillingDate) :
    ∀ world ∈ Run.visited taken reached, ∀ sub ∈ world.records.subscriptions.ids,
      (world.subscription sub).state = .active →
      ((world.subscription sub).next_invoice_date.isSome = true ↔ Invoiced sub world) ∧
        ∀ today, sub ∈ world.records.subscriptions.searchDesc (IspSubscription.isBilled today) ↔
          ∃ date, (world.subscription sub).next_invoice_date = some date ∧ date ≤ today := by
  have hinitial : DatedByInvoice initial := by
    refine ⟨?_, fun sub hsub => ?_⟩
    · rintro sub ⟨move, hmove, hlink⟩
      rw [hmoves move hmove] at hlink
      cases hlink
    · rw [hsubscriptions] at hsub
      cases hsub
  have hdated := @Run.invariant_of_condition (Billing ρ) (ServerEvent ρ) ServerStep initial DatedByInvoice
    (fun _ event => event.LeavesBillingDate) hinitial
    (fun world event after hworld hcondition hstep => hworld.step hcondition hstep) taken reached run hform
  intro world hworld sub hsub hactive
  refine ⟨(hdated world hworld).dated sub hsub, fun today => ?_⟩
  have hrow : world.records.subscriptions.row sub = world.subscription sub := rfl
  rw [Store.mem_searchDesc, hrow, IspSubscription.isBilled_iff]
  constructor
  · rintro ⟨_, _, hdate⟩
    exact hdate
  · exact fun hdate => ⟨hsub, hactive, hdate⟩

/-- A database with one plan and nothing else. -/
def newDatabase : Billing Unit := databaseOf (fun _ => { name := "Basic", service_type := .dhcp }) [] [] []

/-- A customer as entered in the form, without a billing date. -/
def formVals : SubscriptionVals where
  partner_id := 0
  plan_id := 0
  sector_id := 0
  gps_lat := 18
  gps_lng := 69

def formCreation : ServerEvent Unit := .create (fun _ => some "SUB0001") (fun _ => "c0ffee") [formVals]

def customerCreated : Billing Unit := formCreation.call newDatabase

def activationQueued : Billing Unit :=
  (ServerEvent.action_activate id (fun _ => "c0ffee") [0]).call customerCreated

def customerActivated : Billing Unit := (ServerEvent.cron_run_pending_jobs dryRun 1 [0]).call activationQueued

/-- Creation in the form, activation, and the pass that executes it. -/
def activationSteps : List (Billing Unit × ServerEvent Unit) :=
  [(newDatabase, formCreation), (customerCreated, .action_activate id (fun _ => "c0ffee") [0]),
    (activationQueued, .cron_run_pending_jobs dryRun 1 [0])]

theorem activationSteps_run : Run ServerStep newDatabase activationSteps customerActivated := by
  have hcreate : ServerStep newDatabase formCreation customerCreated := ⟨trivial, rfl⟩
  have hactivate : ServerStep customerCreated (.action_activate id (fun _ => "c0ffee") [0]) activationQueued :=
    ⟨fun _ hsub => hsub, rfl⟩
  have hexecute : ServerStep activationQueued (.cron_run_pending_jobs dryRun 1 [0]) customerActivated :=
    ⟨⟨[0], List.Perm.refl _, by decide, rfl⟩, rfl⟩
  exact .step (.step (.step .start hcreate) hactivate) hexecute

theorem activationSteps_leave_billing_date : ∀ entry ∈ activationSteps, entry.2.LeavesBillingDate := by
  intro entry hentry
  obtain rfl | hrest := List.mem_cons.mp hentry
  · intro vals hvals
    rw [List.mem_singleton.mp hvals]
    rfl
  · obtain rfl | hlast := List.mem_cons.mp hrest
    · trivial
    · rw [List.mem_singleton.mp hlast]
      trivial

/-- Invoicing the activated customer by hand sets the date. -/
theorem active_dated_iff_invoiced_by_hand :
    ∃ taken reached, Run ServerStep newDatabase taken reached ∧ (reached.subscription 0).state = .active ∧
      (reached.subscription 0).next_invoice_date.isSome = true ∧
      ∀ world ∈ Run.visited taken reached, ∀ sub ∈ world.records.subscriptions.ids,
        (world.subscription sub).state = .active →
        ((world.subscription sub).next_invoice_date.isSome = true ↔ Invoiced sub world) ∧
          ∀ today, sub ∈ world.records.subscriptions.searchDesc (IspSubscription.isBilled today) ↔
            ∃ date, (world.subscription sub).next_invoice_date = some date ∧ date ≤ today := by
  let invoicing : ServerEvent Unit := .action_generate_invoice newYear (fun _ _ => .ok ⟨.not_paid, 25⟩) [0]
  have hinvoice : ServerStep customerActivated invoicing (invoicing.call customerActivated) :=
    ⟨fun _ hsub => hsub, rfl⟩
  have run := Run.step activationSteps_run hinvoice
  have hmoves : ∀ move ∈ newDatabase.moves.ids, (newDatabase.moves.row move).isp_subscription_id = none :=
    fun _ hmove => absurd hmove List.not_mem_nil
  refine ⟨_, _, run, rfl, rfl, active_dated_iff_invoiced rfl hmoves run fun entry hentry => ?_⟩
  obtain hfirst | hlast := List.mem_append.mp hentry
  · exact activationSteps_leave_billing_date entry hfirst
  · rw [List.mem_singleton.mp hlast]
    trivial

/-- The activated customer has no billing date, and no pass ever bills it. -/
theorem activated_customer_undated :
    ∃ taken reached, Run ServerStep newDatabase taken reached ∧ (∀ entry ∈ taken, entry.2.LeavesBillingDate) ∧
      0 ∈ reached.records.subscriptions.ids ∧ (reached.subscription 0).state = .active ∧
      (reached.subscription 0).next_invoice_date = none ∧
      ∀ today, 0 ∉ reached.records.subscriptions.searchDesc (IspSubscription.isBilled today) := by
  have hdate : (customerActivated.subscription 0).next_invoice_date = none := rfl
  refine ⟨_, _, activationSteps_run, activationSteps_leave_billing_date, List.mem_singleton_self _, rfl, hdate,
    fun today hbilled => ?_⟩
  obtain ⟨_, hrow⟩ := (Store.mem_searchDesc _ _ _).mp hbilled
  obtain ⟨_, date, hsome, _⟩ := (IspSubscription.isBilled_iff today _).mp hrow
  cases hdate.symm.trans hsome

end getupnet.server

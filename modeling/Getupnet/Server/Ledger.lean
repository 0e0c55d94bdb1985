import Getupnet.Relational.Holding
import Getupnet.Server.Edits

open relational
open calendar
open getupnet.isp_core
open getupnet.isp_mikrotik
open getupnet.isp_billing

namespace getupnet.server

variable {ρ : Type}

/-- The moves of a subscription, in the order in which they were created. -/
def movesOf (moves : Store AccountMove) (sub : Nat) : List Nat :=
  moves.holding AccountMove.isp_subscription_id sub

/-- Moves are linked to subscriptions that exist, and each subscription knows the
youngest of its own as its last invoice. -/
structure Ledger (world : Billing ρ) : Prop where
  linked : ∀ move ∈ world.moves.ids, ∀ sub, (world.moves.row move).isp_subscription_id = some sub →
    sub ∈ world.records.subscriptions.ids
  last : ∀ sub ∈ world.records.subscriptions.ids,
    (world.subscription sub).last_invoice_id = (movesOf world.moves sub).getLast?

/-- A move as it was made, whatever has been paid since. -/
def AccountMove.asMade (move : AccountMove) : AccountMove :=
  { move with payment_state := .not_paid, amount_residual := 0 }

theorem AccountMove.asMade_paid (moves : Store AccountMove) (move other : Nat) (payment_state : PaymentState)
    (amount_residual : ℚ) :
    AccountMove.asMade
        ((moves.write move fun move => { move with payment_state, amount_residual }).row other) =
      AccountMove.asMade (moves.row other) := by
  rw [Store.write_row]
  split
  · rename_i hsame
    rw [hsame]
    rfl
  · rfl

/-- Later the moves of before are still there, in their places and as they were made. -/
structure Appended (before after : Billing ρ) : Prop where
  ids : List.IsPrefix before.moves.ids after.moves.ids
  made : ∀ move ∈ before.moves.ids,
    AccountMove.asMade (after.moves.row move) = AccountMove.asMade (before.moves.row move)

theorem Appended.refl (world : Billing ρ) : Appended world world := ⟨List.prefix_rfl, fun _ _ => rfl⟩

theorem Appended.trans {first second third : Billing ρ} (hfirst : Appended first second)
    (hsecond : Appended second third) : Appended first third :=
  ⟨hfirst.ids.trans hsecond.ids, fun move hmove =>
    (hsecond.made move (hfirst.ids.subset hmove)).trans (hfirst.made move hmove)⟩

section

variable {event : ServerEvent ρ} {world after : Billing ρ}

/-- Moves that are the same, or have only been paid since, are the same for the ledger. -/
theorem Ledger.of_made (h : Ledger world)
    (hsubscriptions : after.records.subscriptions.ids = world.records.subscriptions.ids)
    (hlast : ∀ sub, (after.subscription sub).last_invoice_id = (world.subscription sub).last_invoice_id)
    (hids : after.moves.ids = world.moves.ids)
    (hmade : ∀ move, AccountMove.asMade (after.moves.row move) = AccountMove.asMade (world.moves.row move)) :
    Ledger after ∧ Appended world after := by
  have hlink : ∀ move, (after.moves.row move).isp_subscription_id = (world.moves.row move).isp_subscription_id := by
    intro move
    have hsame := congrArg AccountMove.isp_subscription_id (hmade move)
    exact hsame
  have hmoves : ∀ sub, movesOf after.moves sub = movesOf world.moves sub := by
    intro sub
    exact Store.holding_congr hids (fun move _ => hlink move) sub
  refine ⟨⟨fun move hmove sub hsub => ?_, fun sub hsub => ?_⟩, ⟨hids ▸ List.prefix_rfl, fun move _ => hmade move⟩⟩
  · rw [hsubscriptions]
    rw [hids] at hmove
    exact h.linked move hmove sub ((hlink move).symm.trans hsub)
  · rw [hsubscriptions] at hsub
    rw [hlast, hmoves]
    exact h.last sub hsub

/-- New subscriptions have no invoice yet. -/
theorem Ledger.create {next_by_code : Nat → CharField} {token_hex : String → String}
    {vals_list : List SubscriptionVals} {records : List IspSubscription} (h : Ledger world)
    (hcreate : IspSubscription.create world.records.plans next_by_code token_hex vals_list = .ok records) :
    Ledger { world with
      records := { world.records with subscriptions := world.records.subscriptions.createAll records } } := by
  refine ⟨fun move hmove sub hsub => ?_, fun sub hsub => ?_⟩
  · exact world.records.subscriptions.mem_createAll_ids_of_mem records (h.linked move hmove sub hsub)
  · obtain hold | ⟨hnew, hrow⟩ := world.records.subscriptions.mem_createAll_ids records hsub
    · rw [World.subscription, world.records.subscriptions.createAll_row_of_mem records hold]
      exact h.last sub hold
    · obtain ⟨i, hrecord⟩ := List.mem_iff_getElem?.mp hrow
      obtain ⟨vals, profile, _, hvalues⟩ := IspSubscription.create_values hcreate hrecord
      have hnone : movesOf world.moves sub = [] := by
        rw [List.eq_nil_iff_forall_not_mem]
        intro move hmove
        obtain ⟨hmem, hlink⟩ := Store.mem_holding.mp hmove
        exact hnew (h.linked move hmem sub hlink)
      rw [World.subscription, hvalues]
      exact (congrArg List.getLast? hnone).symm

/-- An invoice becomes the last one of its subscription, and of no other. -/
theorem Ledger.invoiced (h : Ledger world) (today : Date)
    (action_post : Nat → AccountMove → Except OdooError Posting) {id : Nat}
    (hid : id ∈ world.records.subscriptions.ids) : Ledger (world.invoiced today action_post id) := by
  have hmoves : (world.invoiced today action_post id).moves =
      world.moves.create (world.invoiceFor today action_post id world.moves.next_id) := rfl
  have hlink : (world.invoiceFor today action_post id world.moves.next_id).isp_subscription_id = some id :=
    AccountMove.afterPosting_isp_subscription_id _ _
  refine ⟨fun move hmove sub hsub => ?_, fun sub hsub => ?_⟩
  · rw [hmoves, Store.create_ids] at hmove
    rw [hmoves] at hsub
    obtain hold | hnew := List.mem_append.mp hmove
    · rw [Store.create_row_of_lt _ (world.moves.ids_fresh move hold)] at hsub
      exact h.linked move hold sub hsub
    · rw [List.mem_singleton.mp hnew, Store.create_row_new, hlink] at hsub
      exact Option.some.inj hsub ▸ hid
  · rw [movesOf, hmoves, Store.holding_create, hlink]
    by_cases hsame : sub = id
    · rw [hsame, if_pos rfl, List.getLast?_concat, world.invoiced_subscription_self]
      rfl
    · have hother : ¬ some id = some sub := fun heq => hsame (Option.some.inj heq).symm
      rw [if_neg hother, List.append_nil, world.invoiced_subscription_ne today action_post hsame]
      exact h.last sub hsub

theorem Appended.invoiced (world : Billing ρ) (today : Date)
    (action_post : Nat → AccountMove → Except OdooError Posting) (id : Nat) :
    Appended world (world.invoiced today action_post id) := by
  have hmoves : (world.invoiced today action_post id).moves =
      world.moves.create (world.invoiceFor today action_post id world.moves.next_id) := rfl
  refine ⟨?_, fun move hmove => ?_⟩
  · rw [hmoves, Store.create_ids]
    exact List.prefix_append _ _
  · rw [hmoves, Store.create_row_of_lt _ (world.moves.ids_fresh move hmove)]

/-- One change of the database. -/
theorem Ledger.edit (h : Ledger world) (hedit : Edit event world after) : Ledger after ∧ Appended world after := by
  cases hedit with
  | create hcreate => exact ⟨h.create hcreate, ⟨List.prefix_rfl, fun _ _ => rfl⟩⟩
  | provision id plan_id profile =>
    refine h.of_made rfl (fun sub => ?_) rfl fun _ => rfl
    by_cases hsame : sub = id
    · rw [hsame, World.writeSubscription_self]
      rfl
    · rw [World.writeSubscription_ne _ hsame]
  | queue_job clock hqueues => exact h.of_made rfl (fun _ => rfl) rfl fun _ => rfl
  | invoice today action_post hid => exact ⟨h.invoiced today action_post hid, Appended.invoiced world today action_post _⟩
  | requests plan_change_requests => exact h.of_made rfl (fun _ => rfl) rfl fun _ => rfl
  | payment move payment_state amount_residual =>
    exact h.of_made rfl (fun _ => rfl) rfl fun other =>
      AccountMove.asMade_paid world.moves move other payment_state amount_residual
  | outside outside => exact h.of_made rfl (fun _ => rfl) rfl fun _ => rfl

/-- Executed jobs leave the ledger alone. -/
theorem Ledger.execute {surroundings : Surroundings ρ} {now id : Nat} (h : Ledger world)
    (hexec : (IspProvisioningJob.execute (dispatch surroundings) now id).exec world = (.ok (), after)) :
    Ledger after ∧ Appended world after := by
  obtain ⟨_, hprovisions⟩ | ⟨_, hsame⟩ := (execute_provisions hexec).2
  · have hmoves : after.moves = world.moves := congrArg Accounting.moves hprovisions.extension
    refine h.of_made hprovisions.ids (fun sub => ?_) (by rw [hmoves]) fun move => by rw [hmoves]
    obtain ⟨profile, start, hvalues⟩ := hprovisions.row sub
    rw [World.subscription, hvalues]
    rfl
  · have hmoves : after.moves = world.moves := by rw [Billing.moves, hsame]; rfl
    refine h.of_made (by rw [hsame]) (fun sub => ?_) (by rw [hmoves]) fun move => by rw [hmoves]
    rw [World.subscription, hsame]
    rfl

/-- One call of the server. -/
theorem Ledger.step (h : Ledger world) (hstep : ServerStep world event after) :
    Ledger after ∧ Appended world after := by
  obtain hedits | ⟨surroundings, now, hexec⟩ := hstep.cases
  · clear hstep
    induction hedits with
    | refl => exact ⟨h, Appended.refl world⟩
    | tail _ hedit ih =>
      obtain ⟨hledger, happended⟩ := ih.1.edit hedit
      exact ⟨hledger, ih.2.trans happended⟩
  · refine @Method.forEach_invariant _ _ _ _ (fun state : Billing ρ => Ledger state ∧ Appended world state) _
      (fun job _ state next hinv hexec => ?_) world after ⟨h, Appended.refl world⟩ hexec
    obtain ⟨hledger, happended⟩ := hinv.1.execute hexec
    exact ⟨hledger, hinv.2.trans happended⟩

end

/-- Over every run of the server the ledger is append-only: a move keeps its place, its
customer, dates and lines, and only payments touch it; and at all times each subscription
has the youngest of its moves as its last invoice. -/
theorem ledger_append_only {initial reached : Billing ρ} {taken : List (Billing ρ × ServerEvent ρ)}
    (hinitial : Ledger initial) (run : Run ServerStep initial taken reached) :
    (∀ world ∈ Run.visited taken reached, Ledger world) ∧ (Run.visited taken reached).Pairwise Appended := by
  have hvisited := @Run.invariant_of_condition (Billing ρ) (ServerEvent ρ) ServerStep initial Ledger
    (fun _ _ => True) hinitial (fun _ _ _ hledger _ hstep => (hledger.step hstep).1) taken reached run
    (fun _ _ => trivial)
  refine ⟨hvisited, run.visited_pairwise (fun _ _ _ hfirst hsecond => hfirst.trans hsecond) fun entry hentry after hstep => ?_⟩
  have hmem : entry.1 ∈ Run.visited taken reached := List.mem_append_left _ (List.mem_map_of_mem hentry)
  exact ((hvisited entry.1 hmem).step hstep).2

/-- One customer to be billed at new year. -/
def billedAtNewYear : Billing Unit :=
  databaseOf (fun _ => { name := "Basic", service_type := .dhcp }) [activeCustomer (some newYear)] [] []

theorem ledger_append_only_new_year :
    let event : ServerEvent Unit := .cron_generate_invoices newYear fun _ _ => .ok ⟨.not_paid, 25⟩
    ((event.call billedAtNewYear).subscription 0).last_invoice_id = some 0 ∧
      ∀ world ∈ Run.visited [(billedAtNewYear, event)] (event.call billedAtNewYear), Ledger world := by
  intro event
  have hinitial : Ledger billedAtNewYear := by
    refine ⟨fun move hmove => absurd hmove List.not_mem_nil, fun sub hsub => ?_⟩
    rw [List.mem_singleton.mp hsub]
    rfl
  have hstep : ServerStep billedAtNewYear event (event.call billedAtNewYear) := ⟨trivial, rfl⟩
  exact ⟨rfl, (ledger_append_only hinitial (.step .start hstep)).1⟩

end getupnet.server

import Getupnet.IspPortal.Submission
import Getupnet.Relational.Runs

open relational
open calendar
open getupnet.isp_core
open getupnet.isp_billing

namespace getupnet.isp_portal

def Portal.Owns (self : Portal) (partner_id invoice : Nat) : Prop :=
  invoice ∈ self.moves.ids ∧ (self.moves.row invoice).partner_id = partner_id

/-- Every invoice of a submitted transfer, and every one that the wizard was called
with for it, belongs to the partner who submitted it. -/
structure Portal.OwnInvoices (world : Portal) : Prop where
  attached : ∀ submission ∈ world.submitted, ∀ invoice ∈ (world.transfer submission.transfer).invoice_ids,
    world.Owns submission.partner_id invoice
  settled : ∀ submission ∈ world.submitted, ∀ registration ∈ world.registered,
    registration.transfer = submission.transfer →
      ∀ invoice ∈ registration.active_ids, world.Owns submission.partner_id invoice

/-- The submission of a form that is accepted posts invoices of the user's partner
only. -/
def PortalCall.PostsOwn (conversions : Conversions) (world : Portal) : PortalCall → Prop
  | .portal_my_isp_payment_transfer_submit _ _ _ user post =>
    post.Accepted conversions world.moves →
      ∀ invoice, post.Posts conversions invoice → world.Owns user.partner_id invoice
  | .review _ | .accounting _ => True

/-- The invoices belong to the submitters, and what is recorded is recorded of
existing transfers. -/
structure Portal.Sound (world : Portal) : Prop extends world.OwnInvoices where
  submitted_ids : ∀ submission ∈ world.submitted, submission.transfer ∈ world.transfers.transfers.ids
  registered_ids : ∀ registration ∈ world.registered, registration.transfer ∈ world.transfers.transfers.ids

/-- What a call of the review leaves of the invoices, whether it returns or raises:
every transfer keeps its own, and the wizard was called with those of the
selected transfers only. -/
structure Portal.Reviewed (before : Portal) (transfers : List Nat) (after : Portal) : Prop where
  ids : after.transfers.transfers.ids = before.transfers.transfers.ids
  invoices : ∀ id, (after.transfer id).invoice_ids = (before.transfer id).invoice_ids
  moves : after.moves = before.moves
  submitted : after.submitted = before.submitted
  registered : ∀ registration ∈ after.registered, registration ∈ before.registered ∨
    registration.transfer ∈ transfers ∧ registration.active_ids = (before.transfer registration.transfer).invoice_ids

/-- The transfers and the invoices of each. -/
def invoiced (world : Transfers) : List Nat × (Nat → List Nat) :=
  (world.transfers.ids, fun id => (world.transfer id).invoice_ids)

section

variable {world : Portal} {transfers : List Nat}

theorem assign_keeps_invoiced {id : Nat} {change : TransferValues → TransferValues}
    (hchange : ∀ values, (change values).invoice_ids = values.invoice_ids) :
    Method.Keeps invoiced (IspBankTransferPayment.assign id change) := by
  intro state
  cases hexec : (IspBankTransferPayment.assign id change).exec state with
  | mk result after =>
    cases result with
    | ok value =>
      have hassigned := IspBankTransferPayment.assign_returns hexec
      refine Prod.ext hassigned.ids (funext fun other => ?_)
      by_cases hsame : other = id
      · subst hsame
        exact (congrArg TransferValues.invoice_ids hassigned.values).trans (hchange _)
      · exact congrArg (fun transfer : IspBankTransferPayment => transfer.invoice_ids) (hassigned.others other hsame)
    | error exception =>
      rw [IspBankTransferPayment.assign, Method.exec_get_bind, Method.exec_bind, Method.exec_ofExcept] at hexec
      cases hstore : (change (state.transfer id).toTransferValues).store with
      | ok record =>
        rw [hstore] at hexec
        cases hexec
      | error raised =>
        rw [hstore] at hexec
        cases hexec
        rfl

theorem register_payment_keeps_invoiced {bank : Bank} {today : Date} {journal : AccountJournal} {id : Nat} :
    Method.Keeps invoiced (IspBankTransferPayment.register_payment bank today journal id) := by
  refine .bind .get fun world => .bind .ofExcept fun payments => ?_
  refine .bind (.modify fun _ => rfl) fun _ => ?_
  cases payments with
  | nil => exact .pure
  | cons payment rest => exact assign_keeps_invoiced fun _ => rfl

theorem post_payment_keeps_invoiced {bank : Bank} {today : Date} {journal : AccountJournal} {id : Nat} :
    Method.Keeps invoiced (IspBankTransferPayment.post_payment bank today journal id) := by
  refine .bind .get fun world => ?_
  refine .bind (.modify fun _ => rfl) fun _ => .bind .ofExcept fun _ => ?_
  exact assign_keeps_invoiced fun _ => rfl

theorem create_and_apply_keeps_invoiced {bank : Bank} {today : Date} {id : Nat} :
    Method.Keeps invoiced (IspBankTransferPayment.create_and_apply bank today id) := by
  refine .bind .get fun world => ?_
  dsimp only
  split
  · exact assign_keeps_invoiced fun _ => rfl
  · exact .throw
  · have hlast : Method.Keeps invoiced (do
        modify fun world : Transfers => { world with completions := world.completions ++ [id] }
        IspBankTransferPayment.assign id fun rec => { rec with state := .applied }) :=
      .bind (.modify fun _ => rfl) fun _ => assign_keeps_invoiced fun _ => rfl
    split
    · exact .bind register_payment_keeps_invoiced fun _ => hlast
    · exact .bind post_payment_keeps_invoiced fun _ => hlast

/-- The calls that open no wizard. -/
theorem TransferCall.keeps_invoiced {call : TransferCall}
    (hcall : ∀ bank today user transfers, call ≠ .action_approve bank today user transfers) :
    Method.Keeps invoiced call.method := by
  cases call with
  | action_submit settings now transfers =>
    refine .forEach (fun id => ?_) transfers
    exact .bind (assign_keeps_invoiced fun _ => rfl) fun _ => assign_keeps_invoiced fun _ => rfl
  | action_reject user transfers =>
    refine .forEach (fun id => .bind .get fun world => ?_) transfers
    split
    · exact .throw
    · exact .bind (assign_keeps_invoiced fun _ => rfl) fun _ => assign_keeps_invoiced fun _ => rfl
  | action_approve bank today user transfers => exact absurd rfl (hcall bank today user transfers)
  | cron_transfer_deadlines now =>
    refine .bind .get fun world => .forEach (fun id => ?_) _
    exact assign_keeps_invoiced fun _ => rfl

theorem Portal.reviewed_refl (world : Portal) (transfers : List Nat) : world.Reviewed transfers world :=
  ⟨rfl, fun _ => rfl, rfl, rfl, fun _ => Or.inl⟩

theorem Portal.onTransfers_preserves {method : Method Transfers OdooError Unit} (h : method.Keeps invoiced) :
    Method.Preserves (world.Reviewed transfers) (Portal.onTransfers method) := by
  intro state hstate
  obtain ⟨hids, hinvoices⟩ := Prod.mk.inj (h state.transfers)
  refine ⟨hids.trans hstate.ids, fun id => (congrFun hinvoices id).trans (hstate.invoices id), hstate.moves,
    hstate.submitted, hstate.registered⟩

/-- The recorded call of the wizard is one with the invoices that the transfer had
before the review. -/
theorem Portal.record_wizard_preserves {bank : Bank} {id : Nat} (hid : id ∈ transfers) :
    Method.Preserves (world.Reviewed transfers)
      (modify (Portal.record_wizard bank id) : Method Portal OdooError Unit) := by
  intro state hstate
  rw [Method.exec_modify]
  unfold Portal.record_wizard
  split
  · refine ⟨hstate.ids, hstate.invoices, hstate.moves, hstate.submitted, fun registration hregistration => ?_⟩
    obtain hold | hnew := List.mem_append.mp hregistration
    · exact hstate.registered registration hold
    · rw [List.mem_singleton.mp hnew]
      exact Or.inr ⟨hid, hstate.invoices id⟩
  · exact hstate

theorem Portal.action_approve_preserves {bank : Bank} {today : Date} {user : Nat} :
    Method.Preserves (world.Reviewed transfers) (Portal.action_approve bank today user transfers) := by
  refine .forEach fun id hid => ?_
  refine .bind (Portal.onTransfers_preserves (assign_keeps_invoiced fun _ => rfl)) fun _ => ?_
  refine .bind (Portal.onTransfers_preserves (assign_keeps_invoiced fun _ => rfl)) fun _ => ?_
  refine .forEach fun other hother => ?_
  rw [List.mem_singleton.mp hother]
  refine .bind (Portal.record_wizard_preserves hid) fun _ => ?_
  exact Portal.onTransfers_preserves create_and_apply_keeps_invoiced

theorem PortalCall.review_preserves {conversions : Conversions} {call : TransferCall} :
    Method.Preserves (world.Reviewed (selection call)) ((PortalCall.review call).method conversions) := by
  cases call with
  | action_approve bank today user transfers => exact Portal.action_approve_preserves
  | action_submit settings now transfers => exact Portal.onTransfers_preserves (TransferCall.keeps_invoiced nofun)
  | action_reject user transfers => exact Portal.onTransfers_preserves (TransferCall.keeps_invoiced nofun)
  | cron_transfer_deadlines now => exact Portal.onTransfers_preserves (TransferCall.keeps_invoiced nofun)

/-- What a call of the review leaves, an undone one included. -/
theorem PortalCall.reviewed {conversions : Conversions} {call : TransferCall} :
    world.Reviewed (selection call) ((PortalCall.review call).call conversions world) := by
  have hreviewed : world.Reviewed (selection call) (((PortalCall.review call).method conversions).exec world).2 :=
    PortalCall.review_preserves world (world.reviewed_refl (selection call))
  rw [PortalCall.call]
  cases hexec : ((PortalCall.review call).method conversions).exec world with
  | mk result after =>
    rw [hexec] at hreviewed
    cases result with
    | ok value =>
      rw [Method.commit_of_ok hexec]
      exact hreviewed
    | error exception =>
      rw [Method.commit_of_error hexec]
      exact ⟨rfl, fun _ => rfl, rfl, rfl, hreviewed.registered⟩

end

section

variable {conversions : Conversions} {before after : Portal} {user : PortalUser} {post : TransferForm}

theorem Portal.owns_congr {partner_id invoice : Nat} (h : after.moves = before.moves) :
    after.Owns partner_id invoice ↔ before.Owns partner_id invoice := by
  rw [Portal.Owns, Portal.Owns, h]

theorem Portal.Reviewed.sound {transfers : List Nat} (h : before.Reviewed transfers after) (hsound : before.Sound)
    (htransfers : ∀ id ∈ transfers, id ∈ before.transfers.transfers.ids) : after.Sound := by
  refine ⟨⟨?_, ?_⟩, ?_, ?_⟩
  · intro submission hsubmission invoice hinvoice
    rw [h.submitted] at hsubmission
    rw [h.invoices] at hinvoice
    exact (Portal.owns_congr h.moves).mpr (hsound.attached submission hsubmission invoice hinvoice)
  · intro submission hsubmission registration hregistration hsame invoice hinvoice
    rw [h.submitted] at hsubmission
    refine (Portal.owns_congr h.moves).mpr ?_
    obtain hold | ⟨_, hactive⟩ := h.registered registration hregistration
    · exact hsound.settled submission hsubmission registration hold hsame invoice hinvoice
    · rw [hactive, hsame] at hinvoice
      exact hsound.attached submission hsubmission invoice hinvoice
  · intro submission hsubmission
    rw [h.submitted] at hsubmission
    rw [h.ids]
    exact hsound.submitted_ids submission hsubmission
  · intro registration hregistration
    rw [h.ids]
    obtain hold | ⟨hselected, _⟩ := h.registered registration hregistration
    · exact hsound.registered_ids registration hold
    · exact htransfers _ hselected

/-- A submission of own invoices keeps the ownership: the wizard has not been called
for the new transfer yet. -/
theorem Portal.Submits.sound (h : before.Submits conversions user post after) (hsound : before.Sound)
    (howns : ∀ invoice, post.Posts conversions invoice → before.Owns user.partner_id invoice) : after.Sound := by
  refine ⟨⟨?_, ?_⟩, ?_, ?_⟩
  · intro submission hsubmission invoice hinvoice
    refine (Portal.owns_congr h.moves).mpr ?_
    rw [h.submitted] at hsubmission
    obtain hold | hnew := List.mem_append.mp hsubmission
    · rw [h.others _ (hsound.submitted_ids submission hold)] at hinvoice
      exact hsound.attached submission hold invoice hinvoice
    · obtain rfl := List.mem_singleton.mp hnew
      exact howns invoice ((h.invoices invoice).mp hinvoice)
  · intro submission hsubmission registration hregistration hsame invoice hinvoice
    refine (Portal.owns_congr h.moves).mpr ?_
    rw [h.submitted] at hsubmission
    rw [h.registered] at hregistration
    obtain hold | hnew := List.mem_append.mp hsubmission
    · exact hsound.settled submission hold registration hregistration hsame invoice hinvoice
    · obtain rfl := List.mem_singleton.mp hnew
      have hfresh := hsound.registered_ids registration hregistration
      rw [hsame] at hfresh
      exact absurd hfresh before.transfers.transfers.next_id_not_mem
  · intro submission hsubmission
    rw [h.submitted] at hsubmission
    rw [h.ids]
    obtain hold | hnew := List.mem_append.mp hsubmission
    · exact List.mem_append_left _ (hsound.submitted_ids submission hold)
    · rw [List.mem_singleton.mp hnew]
      exact List.mem_append_right _ (List.mem_singleton_self _)
  · intro registration hregistration
    rw [h.registered] at hregistration
    rw [h.ids]
    exact List.mem_append_left _ (hsound.registered_ids registration hregistration)

theorem Portal.Sound.accounting {moves : Store AccountMove} (hsound : before.Sound)
    (hmoves : ∀ id ∈ before.moves.ids, id ∈ moves.ids ∧ (moves.row id).partner_id = (before.moves.row id).partner_id) :
    Portal.Sound { before with moves } := by
  have howns : ∀ partner_id invoice, before.Owns partner_id invoice →
      Portal.Owns { before with moves } partner_id invoice := by
    rintro partner_id invoice ⟨hinvoice, hpartner⟩
    exact ⟨(hmoves invoice hinvoice).1, (hmoves invoice hinvoice).2.trans hpartner⟩
  refine ⟨⟨?_, ?_⟩, hsound.submitted_ids, hsound.registered_ids⟩
  · intro submission hsubmission invoice hinvoice
    exact howns _ _ (hsound.attached submission hsubmission invoice hinvoice)
  · intro submission hsubmission registration hregistration hsame invoice hinvoice
    exact howns _ _ (hsound.settled submission hsubmission registration hregistration hsame invoice hinvoice)

theorem Portal.onTransfers_keeps_registered {α : Type} {method : Method Transfers OdooError α} :
    Method.Keeps Portal.registered (Portal.onTransfers method) := fun _ => rfl

theorem Portal.check_access_keeps_registered {id : Nat} :
    Method.Keeps Portal.registered (Portal.check_access user id) := by
  refine .bind .get fun world => ?_
  split
  · exact .pure
  · exact .throw

theorem Portal.createAttachment_keeps_registered {payment : Nat} {file : FileStorage} {datas : List UInt8} :
    Method.Keeps Portal.registered (Portal.createAttachment conversions payment file datas) := by
  refine .bind .ofExcept fun raw => .bind .get fun world => ?_
  exact .bind (.modify fun _ => rfl) fun _ => .pure

/-- No submission calls the wizard. -/
theorem portal_my_isp_payment_transfer_submit_keeps_registered {settings : TransferSettings} {now : Int}
    {currency_id : Nat} :
    Method.Keeps Portal.registered
      (portal_my_isp_payment_transfer_submit conversions settings now currency_id user post) := by
  refine .bind .ofExcept fun vals => .bind Portal.onTransfers_keeps_registered fun payment => ?_
  refine .bind Portal.check_access_keeps_registered fun _ => .bind (.when ?_) fun _ => ?_
  · refine .bind .ofExcept fun ids => .bind Portal.check_access_keeps_registered fun _ =>
      .bind .get fun world => ?_
    exact .bind .ofExcept fun invoices => Portal.onTransfers_keeps_registered
  · refine .bind (.forEach (fun file => ?_) _) fun _ => .bind (.forEach (fun file => .when ?_) _) fun _ => ?_
    · exact .bind Portal.createAttachment_keeps_registered fun _ => .pure
    · refine .bind Portal.createAttachment_keeps_registered fun attachment => ?_
      exact .bind Portal.check_access_keeps_registered fun _ => Portal.onTransfers_keeps_registered
    · refine .bind Portal.check_access_keeps_registered fun _ =>
        .bind Portal.onTransfers_keeps_registered fun _ => ?_
      exact .modify fun _ => rfl

/-- A submission goes through, or leaves the database as it was. -/
theorem PortalCall.submission {settings : TransferSettings} {now : Int} {currency_id : Nat} {call : PortalCall}
    (hcall : call = .portal_my_isp_payment_transfer_submit settings now currency_id user post) :
    post.Accepted conversions before.moves ∧ before.Submits conversions user post (call.call conversions before) ∨
      ¬ post.Accepted conversions before.moves ∧ call.call conversions before = before := by
  subst hcall
  have hreturns := @portal_my_isp_payment_transfer_submit_returnsIff conversions before user settings now currency_id post
  have hkeeps := @portal_my_isp_payment_transfer_submit_keeps_registered conversions user post settings now currency_id
    before
  rw [Method.ReturnsIff] at hreturns
  rw [PortalCall.call, PortalCall.method]
  cases hexec : (isp_portal.portal_my_isp_payment_transfer_submit conversions settings now currency_id user post).exec
      before with
  | mk result after =>
    rw [hexec] at hreturns hkeeps
    cases result with
    | ok value =>
      rw [Method.commit_of_ok hexec]
      exact Or.inl hreturns
    | error exception =>
      rw [Method.commit_of_error hexec]
      exact Or.inr ⟨hreturns, congrArg (fun registered => { before with registered }) hkeeps⟩

theorem PortalStep.sound {call : PortalCall} (hsound : before.Sound) (hcall : call.PostsOwn conversions before)
    (hstep : PortalStep conversions before call after) : after.Sound := by
  obtain ⟨hpossible, rfl⟩ := hstep
  cases call with
  | portal_my_isp_payment_transfer_submit settings now currency_id user post =>
    obtain ⟨haccepted, hsubmits⟩ | ⟨_, hsame⟩ := @PortalCall.submission conversions before user post settings now
      currency_id _ rfl
    · exact hsubmits.sound hsound (hcall haccepted)
    · rw [hsame]
      exact hsound
  | review call => exact PortalCall.reviewed.sound hsound hpossible
  | accounting moves => exact hsound.accounting hpossible

end

end getupnet.isp_portal

import Getupnet.IspBilling.Booking
import Getupnet.IspPortal.PaymentTransfer
import Getupnet.Relational.Outcome

open relational
open getupnet.isp_core
open getupnet.isp_billing

namespace getupnet.isp_portal

/-- The form names an invoice by one of its texts. -/
def TransferForm.Posts (conversions : Conversions) (invoice : Nat) (self : TransferForm) : Prop :=
  ∃ text ∈ self.invoice_ids, conversions.int text = .ok (invoice : Int)

/-- The fields of the form can be stored. -/
structure TransferForm.Storable (conversions : Conversions) (post : TransferForm) : Prop where
  amount : ∃ amount, conversions.float post.amount = .ok amount
  bank_name : post.bank_name ≠ none
  reference : post.reference ≠ none
  date : truthy post.date = true → ∃ date, conversions.to_datetime (post.date.getD "") = .ok date

/-- The submission of a form goes through: its fields can be stored, its texts
name existing moves, its files survive the first loop, and one of them has a
name. -/
structure TransferForm.Accepted (conversions : Conversions) (moves : Store AccountMove) (post : TransferForm) :
    Prop where
  storable : post.Storable conversions
  invoices : ∀ text ∈ post.invoice_ids, ∃ invoice ∈ moves.ids, conversions.int text = .ok (invoice : Int)
  decodes : ∀ file ∈ post.attachment, ∃ raw, conversions.decode_datas file.data = .ok raw
  attached : ∃ file ∈ post.attachment, file.filename ≠ ""

/-- What a submission that goes through leaves: one more transfer, of the user's
partner and with the posted invoices. -/
structure Portal.Submits (conversions : Conversions) (before : Portal) (user : PortalUser) (post : TransferForm)
    (after : Portal) : Prop where
  ids : after.transfers.transfers.ids = before.transfers.transfers.ids ++ [before.transfers.transfers.next_id]
  others : ∀ id ∈ before.transfers.transfers.ids, after.transfer id = before.transfer id
  partner : (after.transfer before.transfers.transfers.next_id).partner_id = user.partner_id
  invoices : ∀ invoice,
    invoice ∈ (after.transfer before.transfers.transfers.next_id).invoice_ids ↔ post.Posts conversions invoice
  moves : after.moves = before.moves
  submitted : after.submitted = before.submitted ++
    [{ transfer := before.transfers.transfers.next_id, partner_id := user.partner_id }]
  registered : after.registered = before.registered

/-- The attachment of a transfer that a file is stored as. -/
def FileStorage.attached (payment : Nat) (self : FileStorage) (raw : List UInt8) : IrAttachment where
  name := self.filename
  raw
  res_model := "isp.bank.transfer.payment"
  res_id := payment

def FileStorage.isNamed (self : FileStorage) : Bool := self.filename != ""

/-- The attachments of files that are stored as they are. -/
def attachedAsIs (payment : Nat) (files : List FileStorage) : List IrAttachment :=
  files.map fun file => file.attached payment file.data

/-- What a submission that goes through makes of its files. The first loop stores
each of them as what its content decodes to; the second one stores and links those
with a name, as they are. -/
structure Portal.StoresFiles (conversions : Conversions) (before : Portal) (files : List FileStorage)
    (raws : List (List UInt8)) (after : Portal) : Prop where
  decoded : List.Forall₂ (fun file raw => conversions.decode_datas file.data = .ok raw) files raws
  attachments : after.attachments = before.attachments.createAll
    (List.zipWith (FileStorage.attached before.transfers.transfers.next_id) files raws ++
      attachedAsIs before.transfers.transfers.next_id (files.filter FileStorage.isNamed))
  linked : (after.transfer before.transfers.transfers.next_id).attachment_ids =
    List.range' (before.attachments.next_id + files.length) (files.filter FileStorage.isNamed).length

/-- The database while a submission is under way: one more transfer of the user's
partner. -/
structure Portal.Adds (before : Portal) (user : PortalUser) (state : TransferState)
    (invoices attachments : List Nat) (after : Portal) : Prop where
  ids : after.transfers.transfers.ids = before.transfers.transfers.ids ++ [before.transfers.transfers.next_id]
  others : ∀ id ∈ before.transfers.transfers.ids, after.transfer id = before.transfer id
  partner : (after.transfer before.transfers.transfers.next_id).partner_id = user.partner_id
  state : (after.transfer before.transfers.transfers.next_id).state = state
  invoices : (after.transfer before.transfers.transfers.next_id).invoice_ids = invoices
  attachments : (after.transfer before.transfers.transfers.next_id).attachment_ids = attachments
  moves : after.moves = before.moves
  submitted : after.submitted = before.submitted
  registered : after.registered = before.registered

section

variable {conversions : Conversions} {before world : Portal} {user : PortalUser} {invoices attachments : List Nat}

theorem required_ok_iff {value : CharField} : (∃ text, required value = .ok text) ↔ value ≠ none := by
  cases value with
  | none => exact iff_of_false nofun (fun h => h rfl)
  | some text => exact iff_of_true ⟨text, rfl⟩ nofun

theorem TransferForm.transfer_datetime_ok_iff {post : TransferForm} :
    (∃ date, post.transfer_datetime conversions = .ok date) ↔
      (truthy post.date = true → ∃ date, conversions.to_datetime (post.date.getD "") = .ok date) := by
  unfold TransferForm.transfer_datetime
  by_cases hdate : truthy post.date = true
  · rw [if_pos hdate]
    simp only [bind_ok_iff, hdate, true_implies]
    exact ⟨fun ⟨_, date, h, _⟩ => ⟨date, h⟩, fun ⟨date, h⟩ => ⟨some date, date, h, rfl⟩⟩
  · rw [if_neg hdate]
    exact iff_of_true ⟨none, rfl⟩ fun h => absurd h hdate

/-- The values of a new transfer: a draft of the user's partner that names no
invoice yet and has no attachment. -/
theorem TransferForm.vals_eq_ok {currency_id : Nat} {post : TransferForm} {vals : TransferValues}
    (h : post.vals conversions currency_id user = .ok vals) :
    vals.partner_id = user.partner_id ∧ vals.state = .draft ∧ vals.invoice_ids = [] ∧
      vals.attachment_ids = [] := by
  obtain ⟨amount, _, h⟩ := bind_ok_iff.mp h
  obtain ⟨bank_name, _, h⟩ := bind_ok_iff.mp h
  obtain ⟨reference, _, h⟩ := bind_ok_iff.mp h
  obtain ⟨transfer_datetime, _, h⟩ := bind_ok_iff.mp h
  cases h
  exact ⟨rfl, rfl, rfl, rfl⟩

theorem TransferForm.vals_ok_iff {currency_id : Nat} {post : TransferForm} :
    (∃ vals, post.vals conversions currency_id user = .ok vals) ↔ post.Storable conversions := by
  constructor
  · rintro ⟨vals, h⟩
    obtain ⟨amount, hamount, h⟩ := bind_ok_iff.mp h
    obtain ⟨bank_name, hbank_name, h⟩ := bind_ok_iff.mp h
    obtain ⟨reference, hreference, h⟩ := bind_ok_iff.mp h
    obtain ⟨transfer_datetime, hdate, h⟩ := bind_ok_iff.mp h
    exact ⟨⟨amount, hamount⟩, required_ok_iff.mp ⟨bank_name, hbank_name⟩,
      required_ok_iff.mp ⟨reference, hreference⟩,
        TransferForm.transfer_datetime_ok_iff.mp ⟨transfer_datetime, hdate⟩⟩
  · rintro ⟨⟨amount, hamount⟩, hbank_name, hreference, hdate⟩
    obtain ⟨bank_name, hbank_name⟩ := required_ok_iff.mpr hbank_name
    obtain ⟨reference, hreference⟩ := required_ok_iff.mpr hreference
    obtain ⟨transfer_datetime, hdate⟩ := TransferForm.transfer_datetime_ok_iff.mpr hdate
    unfold TransferForm.vals
    rw [hamount, hbank_name, hreference, hdate]
    exact ⟨_, rfl⟩

/-- Fields of the draft are written. -/
theorem Portal.Adds.assigned {change : TransferValues → TransferValues} {state next : TransferState}
    {written linked : List Nat} {transfers : Transfers} (h : before.Adds user state invoices attachments world)
    (hassigned : world.transfers.Assigned before.transfers.transfers.next_id change transfers)
    (hpartner : ∀ values : TransferValues, (change values).partner_id = values.partner_id)
    (hstate : (change (world.transfer before.transfers.transfers.next_id).toTransferValues).state = next)
    (hinvoices : (change (world.transfer before.transfers.transfers.next_id).toTransferValues).invoice_ids = written)
    (hattachments :
      (change (world.transfer before.transfers.transfers.next_id).toTransferValues).attachment_ids = linked) :
    before.Adds user next written linked { world with transfers } := by
  have hvalues : (transfers.transfer before.transfers.transfers.next_id).toTransferValues =
      change (world.transfer before.transfers.transfers.next_id).toTransferValues := hassigned.values
  refine ⟨hassigned.ids.trans h.ids, fun id hid => ?_, ?_, ?_, ?_, ?_, h.moves, h.submitted, h.registered⟩
  · have hne : id ≠ before.transfers.transfers.next_id :=
      Nat.ne_of_lt (before.transfers.transfers.ids_fresh id hid)
    exact (hassigned.others id hne).trans (h.others id hid)
  · exact (congrArg TransferValues.partner_id hvalues).trans ((hpartner _).trans h.partner)
  · exact (congrArg TransferValues.state hvalues).trans hstate
  · exact (congrArg TransferValues.invoice_ids hvalues).trans hinvoices
  · exact (congrArg TransferValues.attachment_ids hvalues).trans hattachments

theorem Portal.create_returnsIff {settings : TransferSettings} {now : Int} {vals : TransferValues}
    (hpartner : vals.partner_id = user.partner_id) (hstate : vals.state = .draft)
    (hinvoices : vals.invoice_ids = [])
    (hattachments : vals.attachment_ids = []) :
    (Portal.onTransfers (IspBankTransferPayment.create settings now vals)).ReturnsIff before True
      (fun payment after => payment = before.transfers.transfers.next_id ∧ before.Adds user .draft [] [] after) := by
  obtain ⟨record, hrecord⟩ : ∃ record, vals.store = .ok record := by
    cases hstore : vals.store with
    | ok record => exact ⟨record, rfl⟩
    | error exception => exact absurd hstate (TransferValues.of_store_error hstore).1
  have hvalues := TransferValues.store_eq_ok hrecord
  let created : Transfers := { before.transfers with transfers := before.transfers.transfers.create record }
  have hnew : (created.transfer before.transfers.transfers.next_id).toTransferValues = vals :=
    (congrArg IspBankTransferPayment.toTransferValues (before.transfers.transfers.create_row_new record)).trans hvalues
  have hdrafts : before.Adds user .draft [] [] { before with transfers := created } := by
    refine ⟨before.transfers.transfers.create_ids record, fun id hid => ?_, ?_, ?_, ?_, ?_, rfl, rfl, rfl⟩
    · exact before.transfers.transfers.create_row_of_lt (before.transfers.transfers.ids_fresh id hid) record
    · exact (congrArg TransferValues.partner_id hnew).trans hpartner
    · exact (congrArg TransferValues.state hnew).trans hstate
    · exact (congrArg TransferValues.invoice_ids hnew).trans hinvoices
    · exact (congrArg TransferValues.attachment_ids hnew).trans hattachments
  have hcreate : (IspBankTransferPayment.create settings now vals).ReturnsIff before.transfers True
      (fun payment after => payment = before.transfers.transfers.next_id ∧
        created.Assigned before.transfers.transfers.next_id (TransferValues.set_review_deadline settings now) after) := by
    refine .get_bind ?_
    rw [hrecord, Method.ofExcept_ok_bind]
    refine Method.ReturnsIff.modify.bind_of_true ?_
    rintro _ _ rfl
    have hdraft : (TransferValues.set_review_deadline settings now
        (created.transfer before.transfers.transfers.next_id).toTransferValues).state = .draft := hdrafts.state
    have hassign := IspBankTransferPayment.assign_returnsIff.congr (iff_true_intro (Or.inl hdraft))
    exact hassign.bind_of_true fun _ _ hassigned => .pure ⟨rfl, hassigned⟩
  refine (Method.ReturnsIff.focus hcreate).mono ?_
  rintro payment after ⟨transfers, ⟨hpayment, hassigned⟩, rfl⟩
  exact ⟨hpayment,
    hdrafts.assigned hassigned (fun _ => rfl) hdrafts.state hdrafts.invoices hdrafts.attachments⟩

/-- The record rule lets the user at a transfer of its own partner. -/
theorem Portal.Adds.check_access (h : before.Adds user .draft invoices attachments world) :
    (Portal.check_access user before.transfers.transfers.next_id).ReturnsIff world True
      (fun _ after => after = world) := by
  refine .get_bind ?_
  rw [rule_isp_transfer_payment_portal, if_pos (decide_eq_true h.partner)]
  exact .pure rfl

/-- The draft can be written. -/
theorem Portal.Adds.assign {written linked : List Nat} (h : before.Adds user .draft invoices attachments world)
    (change : TransferValues → TransferValues)
    (hkeeps : ∀ values : TransferValues, (change values).partner_id = values.partner_id ∧
      (change values).state = values.state)
    (hinvoices : (change (world.transfer before.transfers.transfers.next_id).toTransferValues).invoice_ids = written)
    (hattachments :
      (change (world.transfer before.transfers.transfers.next_id).toTransferValues).attachment_ids = linked) :
    (Portal.onTransfers (IspBankTransferPayment.assign before.transfers.transfers.next_id change)).ReturnsIff world True
      (fun _ after => before.Adds user .draft written linked after) := by
  have hdraft : (change (world.transfer before.transfers.transfers.next_id).toTransferValues).state = .draft :=
    (hkeeps _).2.trans h.state
  have hassign := IspBankTransferPayment.assign_returnsIff.congr (iff_true_intro (Or.inl hdraft))
  refine (Method.ReturnsIff.focus hassign).mono ?_
  rintro _ _ ⟨transfers, hassigned, rfl⟩
  exact h.assigned hassigned (fun values => (hkeeps values).1) hdraft hinvoices hattachments

theorem Portal.linked_ok_iff {moves : Store AccountMove} {id : Int} {invoice : Nat} :
    Portal.linked moves id = .ok invoice ↔ id = (invoice : Int) ∧ invoice ∈ moves.ids := by
  cases id with
  | ofNat move =>
    rw [Portal.linked]
    split
    · rename_i hmove
      rw [Except.ok.injEq, Int.ofNat_eq_natCast, Int.natCast_inj]
      exact ⟨fun h => h ▸ ⟨rfl, hmove⟩, fun h => h.1⟩
    · rename_i hmove
      refine iff_of_false nofun ?_
      rintro ⟨hsame, hinvoice⟩
      exact hmove (Int.ofNat.inj hsame ▸ hinvoice)
  | negSucc below => exact iff_of_false nofun (fun h => nomatch h.1)

section

variable {moves : Store AccountMove} {texts : List String} {ids : List Int}

/-- The texts can be linked when each of them names an existing move. -/
theorem Portal.linked_posts_iff :
    (∃ ids, texts.mapM conversions.int = .ok ids ∧ ∃ linked, ids.mapM (Portal.linked moves) = .ok linked) ↔
      ∀ text ∈ texts, ∃ invoice ∈ moves.ids, conversions.int text = .ok (invoice : Int) := by
  constructor
  · rintro ⟨ids, hids, hlinked⟩ text htext
    obtain ⟨id, hid⟩ := exists_mapM_ok_iff.mp ⟨ids, hids⟩ text htext
    obtain ⟨invoice, hinvoice⟩ := exists_mapM_ok_iff.mp hlinked id ((mem_mapM_ok_iff hids).mpr ⟨text, htext, hid⟩)
    obtain ⟨rfl, hmove⟩ := Portal.linked_ok_iff.mp hinvoice
    exact ⟨invoice, hmove, hid⟩
  · intro hall
    obtain ⟨ids, hids⟩ := exists_mapM_ok_iff.mpr fun text htext =>
      (hall text htext).elim fun invoice h => ⟨(invoice : Int), h.2⟩
    refine ⟨ids, hids, exists_mapM_ok_iff.mpr fun id hid => ?_⟩
    obtain ⟨text, htext, hint⟩ := (mem_mapM_ok_iff hids).mp hid
    obtain ⟨invoice, hmove, hsame⟩ := hall text htext
    rw [hint, Except.ok.injEq] at hsame
    exact ⟨invoice, Portal.linked_ok_iff.mpr ⟨hsame, hmove⟩⟩

/-- What is linked is what the texts name. -/
theorem Portal.mem_linked_iff {linked : List Nat} {invoice : Nat} (hids : texts.mapM conversions.int = .ok ids)
    (hlinked : ids.mapM (Portal.linked moves) = .ok linked) :
    invoice ∈ linked ↔ ∃ text ∈ texts, conversions.int text = .ok (invoice : Int) := by
  rw [mem_mapM_ok_iff hlinked]
  constructor
  · rintro ⟨id, hid, hinvoice⟩
    obtain ⟨text, htext, hint⟩ := (mem_mapM_ok_iff hids).mp hid
    obtain ⟨rfl, _⟩ := Portal.linked_ok_iff.mp hinvoice
    exact ⟨text, htext, hint⟩
  · rintro ⟨text, htext, hint⟩
    have hid := (mem_mapM_ok_iff hids).mpr ⟨text, htext, hint⟩
    obtain ⟨other, hother⟩ := exists_mapM_ok_iff.mp ⟨linked, hlinked⟩ _ hid
    obtain ⟨hsame, hmove⟩ := Portal.linked_ok_iff.mp hother
    exact ⟨_, hid, Portal.linked_ok_iff.mpr ⟨rfl, Int.natCast_inj.mp hsame ▸ hmove⟩⟩

end

theorem Portal.Adds.write_invoice_ids {post : TransferForm}
    (h : before.Adds user .draft invoices attachments world) :
    (Portal.write_invoice_ids conversions user before.transfers.transfers.next_id post.invoice_ids).ReturnsIff world
      (∀ text ∈ post.invoice_ids, ∃ invoice ∈ before.moves.ids, conversions.int text = .ok (invoice : Int))
      (fun _ after => ∃ written, (∀ invoice, invoice ∈ written ↔ post.Posts conversions invoice) ∧
        before.Adds user .draft written attachments after) := by
  refine (Method.ReturnsIff.ofExcept_bind fun ids hids => ?_).congr Portal.linked_posts_iff
  refine h.check_access.bind_of_true ?_
  rintro _ _ rfl
  refine .get_bind ?_
  rw [h.moves]
  refine (Method.ReturnsIff.ofExcept_bind fun linked hlinked => ?_).congr (exists_congr fun _ => (and_true _).to_iff)
  have hassign := h.assign (fun rec => { rec with invoice_ids := linked.dedup }) (fun _ => ⟨rfl, rfl⟩) rfl h.attachments
  refine hassign.mono fun _ after hafter => ⟨linked.dedup, fun invoice => ?_, hafter⟩
  rw [List.mem_dedup]
  exact Portal.mem_linked_iff hids hlinked

theorem Portal.onTransfers_keeps_attachments {α : Type} {method : Method Transfers OdooError α} :
    Method.Keeps Portal.attachments (Portal.onTransfers method) := fun _ => rfl

theorem Portal.check_access_keeps_attachments {payment : Nat} :
    Method.Keeps Portal.attachments (Portal.check_access user payment) := by
  refine .bind .get fun world => ?_
  split
  · exact .pure
  · exact .throw

theorem Portal.write_invoice_ids_keeps_attachments {payment : Nat} {invoice_ids : List String} :
    Method.Keeps Portal.attachments (Portal.write_invoice_ids conversions user payment invoice_ids) := by
  refine .bind .ofExcept fun ids => .bind Portal.check_access_keeps_attachments fun _ =>
    .bind .get fun world => ?_
  exact .bind .ofExcept fun invoices => Portal.onTransfers_keeps_attachments

theorem Portal.Adds.createAttachment {file : FileStorage} {datas : List UInt8}
    (h : before.Adds user .draft invoices attachments world) :
    (Portal.createAttachment conversions before.transfers.transfers.next_id file datas).ReturnsIff world
      (∃ raw, conversions.decode_datas datas = .ok raw)
      (fun attachment after => before.Adds user .draft invoices attachments after ∧
        attachment = world.attachments.next_id ∧ ∃ raw, conversions.decode_datas datas = .ok raw ∧
          after.attachments =
            world.attachments.create (file.attached before.transfers.transfers.next_id raw)) := by
  refine (Method.ReturnsIff.ofExcept_bind fun raw hraw => ?_).congr (exists_congr fun _ => (and_true _).to_iff)
  refine .get_bind (Method.ReturnsIff.modify.bind_of_true ?_)
  rintro _ _ rfl
  refine .pure ⟨?_, rfl, raw, hraw, rfl⟩
  exact ⟨h.ids, h.others, h.partner, h.state, h.invoices, h.attachments, h.moves, h.submitted, h.registered⟩

/-- A file with a name is stored and linked, and any other one is passed over. -/
theorem Portal.Adds.attach {file : FileStorage} (h : before.Adds user .draft invoices attachments world) :
    (Portal.attach conversions user before.transfers.transfers.next_id file).ReturnsIff world True
      (fun _ after => before.Adds user .draft invoices
          (attachments ++ List.range' world.attachments.next_id ([file].filter FileStorage.isNamed).length) after ∧
        after.attachments = world.attachments.createAll
          (attachedAsIs before.transfers.transfers.next_id ([file].filter FileStorage.isNamed))) := by
  refine .when (fun hnamed => ?_) (fun hnameless => ⟨trivial, ?_, ?_⟩)
  · have hfilter : [file].filter FileStorage.isNamed = [file] := List.filter_cons_of_pos hnamed
    rw [hfilter]
    have hcreate := (@Portal.Adds.createAttachment conversions before world user invoices attachments file
      (conversions.b64encode file.data) h).congr (iff_true_intro ⟨file.data, conversions.decode_encoded file.data⟩)
    refine hcreate.bind_of_true ?_
    rintro attachment created ⟨hcreated, rfl, raw, hraw, hstored⟩
    obtain rfl : raw = file.data := Except.ok.inj (hraw.symm.trans (conversions.decode_encoded file.data))
    refine hcreated.check_access.bind_of_true ?_
    rintro _ _ rfl
    have hassign := hcreated.assign
      (fun rec => { rec with attachment_ids := rec.attachment_ids ++ [world.attachments.next_id] })
      (fun _ => ⟨rfl, rfl⟩) hcreated.invoices
      (congrArg (· ++ [world.attachments.next_id]) hcreated.attachments)
    refine (hassign.keeping Portal.onTransfers_keeps_attachments).mono ?_
    rintro _ after ⟨hafter, hkept⟩
    exact ⟨hafter, hkept.trans hstored⟩
  · have hfilter : [file].filter FileStorage.isNamed = [] :=
      List.filter_cons_of_neg (ne_true_of_eq_false hnameless)
    rw [hfilter, List.length_nil, List.range'_zero, List.append_nil]
    exact h
  · have hfilter : [file].filter FileStorage.isNamed = [] :=
      List.filter_cons_of_neg (ne_true_of_eq_false hnameless)
    rw [hfilter]
    rfl

theorem Portal.Adds.attach_unencoded_all {files : List FileStorage}
    (h : before.Adds user .draft invoices attachments world) :
    (Method.forEach (Portal.attach_unencoded conversions before.transfers.transfers.next_id) files).ReturnsIff world
      (∀ file ∈ files, ∃ raw, conversions.decode_datas file.data = .ok raw)
      (fun _ after => before.Adds user .draft invoices attachments after ∧
        ∃ raws, List.Forall₂ (fun file raw => conversions.decode_datas file.data = .ok raw) files raws ∧
          after.attachments = world.attachments.createAll
            (List.zipWith (FileStorage.attached before.transfers.transfers.next_id) files raws)) := by
  refine @Method.ReturnsIff.forEach _ _ _ world _
    (fun done after => before.Adds user .draft invoices attachments after ∧
      ∃ raws, List.Forall₂ (fun file raw => conversions.decode_datas file.data = .ok raw) done raws ∧
        after.attachments = world.attachments.createAll
          (List.zipWith (FileStorage.attached before.transfers.transfers.next_id) done raws))
    _ ?_ files ⟨h, [], .nil, rfl⟩
  rintro done file state ⟨hstate, raws, hraws, hstored⟩
  refine (hstate.createAttachment.bind ?_).congr (and_true _).to_iff
  rintro _ after ⟨hafter, _, raw, hraw, hcreated⟩
  refine .pure ⟨hafter, raws ++ [raw], List.rel_append hraws (.cons hraw .nil), ?_⟩
  rw [List.zipWith_append hraws.length_eq, Store.createAll_append, hcreated, hstored]
  rfl

theorem Portal.Adds.attach_all {files : List FileStorage} (h : before.Adds user .draft invoices [] world) :
    (Method.forEach (Portal.attach conversions user before.transfers.transfers.next_id) files).ReturnsIff world True
      (fun _ after => before.Adds user .draft invoices
          (List.range' world.attachments.next_id (files.filter FileStorage.isNamed).length) after ∧
        after.attachments = world.attachments.createAll
          (attachedAsIs before.transfers.transfers.next_id (files.filter FileStorage.isNamed))) := by
  have hloop := @Method.ReturnsIff.forEach _ _ _ world
    (Portal.attach conversions user before.transfers.transfers.next_id)
    (fun done after => before.Adds user .draft invoices
        (List.range' world.attachments.next_id (done.filter FileStorage.isNamed).length) after ∧
      after.attachments = world.attachments.createAll
        (attachedAsIs before.transfers.transfers.next_id (done.filter FileStorage.isNamed)))
    (fun _ => True) ?_ files ⟨h, rfl⟩
  · exact hloop.congr (iff_true_intro fun _ _ => trivial)
  · rintro done file state ⟨hstate, hstored⟩
    refine hstate.attach.mono ?_
    rintro _ after ⟨hafter, hattached⟩
    have hnext : state.attachments.next_id =
        world.attachments.next_id + (done.filter FileStorage.isNamed).length := by
      rw [hstored, Store.createAll_next_id, attachedAsIs, List.length_map]
    rw [hnext, List.range'_append_1, ← List.length_append, ← List.filter_append] at hafter
    refine ⟨hafter, ?_⟩
    rw [hattached, hstored, ← Store.createAll_append, attachedAsIs, attachedAsIs, attachedAsIs, ← List.map_append,
      ← List.filter_append]

/-- The draft can be submitted when it has an attachment. -/
theorem Portal.Adds.action_submit {settings : TransferSettings} {now : Int}
    (h : before.Adds user .draft invoices attachments world) :
    (Portal.onTransfers
        (IspBankTransferPayment.action_submit settings now [before.transfers.transfers.next_id])).ReturnsIff world
      (attachments ≠ []) (fun _ after => before.Adds user .in_review invoices attachments after) := by
  have hloop : Method.forEach (IspBankTransferPayment.submit settings now) [before.transfers.transfers.next_id] =
      IspBankTransferPayment.submit settings now before.transfers.transfers.next_id :=
        Method.forEach_singleton _ _
  have hsubmit : (IspBankTransferPayment.submit settings now before.transfers.transfers.next_id).ReturnsIff
      world.transfers (attachments ≠ [])
      (fun _ transfers => before.Adds user .in_review invoices attachments { world with transfers }) := by
    refine (IspBankTransferPayment.assign_returnsIff.congr (iff_true_intro (Or.inl h.state))).bind_of_true ?_
    intro _ scheduled hscheduled
    have hmiddle := h.assigned hscheduled (fun _ => rfl) h.state h.invoices h.attachments
    have hcondition : TransferState.in_review = .draft ∨
        (scheduled.transfer before.transfers.transfers.next_id).attachment_ids ≠ [] ↔ attachments ≠ [] := by
      rw [show (scheduled.transfer before.transfers.transfers.next_id).attachment_ids = attachments from
        hmiddle.attachments]
      exact or_iff_right nofun
    refine (IspBankTransferPayment.assign_returnsIff.congr hcondition).mono fun _ reviewed hreviewed => ?_
    exact hmiddle.assigned hreviewed (fun _ => rfl) rfl hmiddle.invoices hmiddle.attachments
  rw [IspBankTransferPayment.action_submit, hloop]
  refine (Method.ReturnsIff.focus hsubmit).mono ?_
  rintro _ _ ⟨transfers, hafter, rfl⟩
  exact hafter

/-- A submission goes through exactly when its form is accepted, and then leaves one
more transfer of the user's partner with the posted invoices and the files. -/
theorem portal_my_isp_payment_transfer_submit_outcome {settings : TransferSettings} {now : Int}
    {currency_id : Nat}
    {post : TransferForm} :
    (portal_my_isp_payment_transfer_submit conversions settings now currency_id user post).ReturnsIff before
      (post.Accepted conversions before.moves) (fun _ after => before.Submits conversions user post after ∧
        ∃ raws, before.StoresFiles conversions post.attachment raws after) := by
  have hcondition : (∃ vals, post.vals conversions currency_id user = .ok vals ∧
      (∀ text ∈ post.invoice_ids, ∃ invoice ∈ before.moves.ids, conversions.int text = .ok (invoice : Int)) ∧
        (∀ file ∈ post.attachment, ∃ raw, conversions.decode_datas file.data = .ok raw) ∧
          ∃ file ∈ post.attachment, file.filename ≠ "") ↔ post.Accepted conversions before.moves := by
    rw [exists_and_right, TransferForm.vals_ok_iff]
    exact ⟨fun ⟨h, hinvoices, hdecodes, hattached⟩ => ⟨h, hinvoices, hdecodes, hattached⟩,
      fun h => ⟨h.storable, h.invoices, h.decodes, h.attached⟩⟩
  refine (@Method.ReturnsIff.ofExcept_bind _ _ _ _ _ _ _ (fun _ => _) _ fun vals hvals => ?_).congr hcondition
  obtain ⟨hpartner, hstate, hinvoices, hattachments⟩ := TransferForm.vals_eq_ok hvals
  have hcreate := (@Portal.create_returnsIff before user settings now vals hpartner hstate hinvoices
    hattachments).keeping Portal.onTransfers_keeps_attachments
  refine hcreate.bind_of_true ?_
  rintro payment drafted ⟨⟨rfl, hdrafted⟩, hsame⟩
  refine hdrafted.check_access.bind_of_true ?_
  rintro _ drafted rfl
  have hwrite : (Method.when (!post.invoice_ids.isEmpty) (Portal.write_invoice_ids conversions user
      before.transfers.transfers.next_id post.invoice_ids)).ReturnsIff drafted
      (∀ text ∈ post.invoice_ids, ∃ invoice ∈ before.moves.ids, conversions.int text = .ok (invoice : Int))
      (fun _ after => ∃ written, (∀ invoice, invoice ∈ written ↔ post.Posts conversions invoice) ∧
        before.Adds user .draft written [] after) := by
    refine .when (fun _ => hdrafted.write_invoice_ids) (fun hempty => ?_)
    have hnil : post.invoice_ids = [] := by simpa using hempty
    rw [hnil]
    exact ⟨by simp, [], by simp [TransferForm.Posts, hnil], hdrafted⟩
  refine (hwrite.keeping (.when Portal.write_invoice_ids_keeps_attachments)).bind ?_
  rintro _ posted ⟨⟨invoices, hposts, hposted⟩, hsamePosted⟩
  refine hposted.attach_unencoded_all.bind ?_
  rintro _ stored ⟨hstored, raws, hraws, hunencoded⟩
  refine hstored.attach_all.bind_of_true ?_
  rintro _ linked ⟨hlinked, hencoded⟩
  refine hlinked.check_access.bind_of_true ?_
  rintro _ _ rfl
  have hnamed : List.range' stored.attachments.next_id (post.attachment.filter FileStorage.isNamed).length ≠ [] ↔
      ∃ file ∈ post.attachment, file.filename ≠ "" := by
    simp [FileStorage.isNamed, List.range'_eq_nil_iff, List.filter_eq_nil_iff]
  refine (((hlinked.action_submit.congr hnamed).keeping Portal.onTransfers_keeps_attachments).bind ?_).congr
    (and_true _).to_iff
  rintro _ submitted ⟨hsubmitted, hsameSubmitted⟩
  refine Method.ReturnsIff.modify.mono ?_
  rintro _ _ rfl
  refine ⟨⟨hsubmitted.ids, hsubmitted.others, hsubmitted.partner, fun invoice => ?_, hsubmitted.moves,
    congrArg (· ++ _) hsubmitted.submitted, hsubmitted.registered⟩, raws, hraws, ?_, ?_⟩
  · rw [← hposts invoice, ← hsubmitted.invoices]
    rfl
  · rw [Store.createAll_append, ← hsame, ← hsamePosted, ← hunencoded]
    exact hsameSubmitted.trans hencoded
  · have hnext : stored.attachments.next_id = before.attachments.next_id + post.attachment.length := by
      rw [hunencoded, hsamePosted, hsame, Store.createAll_next_id, List.length_zipWith, hraws.length_eq,
        Nat.min_self]
    rw [← hnext]
    exact hsubmitted.attachments

theorem portal_my_isp_payment_transfer_submit_returnsIff {settings : TransferSettings} {now : Int}
    {currency_id : Nat}
    {post : TransferForm} :
    (portal_my_isp_payment_transfer_submit conversions settings now currency_id user post).ReturnsIff before
      (post.Accepted conversions before.moves) (fun _ after => before.Submits conversions user post after) :=
  portal_my_isp_payment_transfer_submit_outcome.mono fun _ _ h => h.1

end

end getupnet.isp_portal

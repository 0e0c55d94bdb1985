import Mathlib.Algebra.Ring.Rat
import Getupnet.IspBilling.Suspension
import Getupnet.Relational.Ranking

open relational
open calendar
open getupnet.isp_core

namespace getupnet.isp_billing

variable {ρ : Type}

/-- The related field `isp_sector_id`: the sector of the move's subscription. -/
def Billing.isp_sector_id (self : Billing ρ) (move : AccountMove) : Option Nat :=
  move.isp_subscription_id.map fun sub => (self.subscription sub).sector_id

/-- The domain of `_get_top_overdue_sectors`, its term on the sector apart. -/
def AccountMove.isDue (self : AccountMove) : Bool :=
  decide (self.move_type = .out_invoice) && self.isOpen && self.invoice_date_due.isSome

/-- The domain of `action_open_overdue_invoices`. -/
def AccountMove.isOverdue (today : Date) (self : AccountMove) : Bool :=
  decide (self.move_type = .out_invoice) && self.isOpen &&
    self.invoice_date_due.any fun due_date => decide (due_date < today)

/-- The moves of a sector in a domain. -/
def Billing.sectorMoves (domain : AccountMove → Bool) (sector : Nat) (self : Billing ρ) : List Nat :=
  self.moves.search fun move => domain move && decide (self.isp_sector_id move = some sector)

/-- The aggregate `amount_residual:sum` over the moves of a sector in a domain. -/
def Billing.residual (domain : AccountMove → Bool) (sector : Nat) (self : Billing ρ) : ℚ :=
  ((self.sectorMoves domain sector).map fun move => (self.moves.row move).amount_residual).sum

/-- One group of a `read_group` by sector. -/
structure SectorGroup where
  isp_sector_id : Nat
  amount_residual : ℚ
  deriving DecidableEq

/-- `read_group` with `["amount_residual:sum"]` by `["isp_sector_id"]`, given the
sectors of the moves in the domain. -/
def Billing.read_group (domain : AccountMove → Bool) (sectors : List Nat) (self : Billing ρ) :
    List SectorGroup :=
  sectors.map fun sector => { isp_sector_id := sector, amount_residual := self.residual domain sector }

/-- The sectors that a `read_group` finds, in any order: those with a move in the domain. -/
structure Billing.Grouped (domain : AccountMove → Bool) (sectors : List Nat) (world : Billing ρ) : Prop where
  nodup : sectors.Nodup
  mem_iff : ∀ sector, sector ∈ sectors ↔ world.sectorMoves domain sector ≠ []

/-- The groups that `_get_top_overdue_sectors` shows. -/
def Billing.sorted_groups (sectors : List Nat) (self : Billing ρ) : List SectorGroup :=
  (ranked SectorGroup.amount_residual (self.read_group AccountMove.isDue sectors)).take 5

/-- Python's format `.2f`. -/
def twoDecimals (amount : ℚ) : String :=
  let scaled := (if amount < 0 then -amount else amount) * 100
  let low := scaled.floor.toNat
  let up := 1 / 2 < scaled - low ∨ scaled - low = 1 / 2 ∧ low % 2 = 1
  let hundredths := if up then low + 1 else low
  (if amount < 0 then "-" else "") ++ toString (hundredths / 100) ++ "." ++
    toString (hundredths / 10 % 10) ++ toString (hundredths % 10)

/-- `_get_top_overdue_sectors`, given the sectors that its `read_group` found and the
display names of sectors. -/
def Billing.get_top_overdue_sectors (display_name : Nat → String) (sectors : List Nat) (self : Billing ρ) :
    String :=
  ", ".intercalate ((self.sorted_groups sectors).map fun group =>
    display_name group.isp_sector_id ++ " (" ++ twoDecimals group.amount_residual ++ ")")

/-- The sectors that the text of `_get_top_overdue_sectors` lists. -/
def Billing.topSectors (sectors : List Nat) (self : Billing ρ) : List Nat :=
  (self.sorted_groups sectors).map SectorGroup.isp_sector_id

/-- No open customer invoice of a sector is due today or later: each of them that has a
due date is overdue. -/
def Billing.NoneNotYetDue (today : Date) (self : Billing ρ) : Prop :=
  ∀ move ∈ self.moves.ids, (self.moves.row move).move_type = .out_invoice →
    (self.moves.row move).isOpen = true → self.isp_sector_id (self.moves.row move) ≠ none →
    ∀ due_date, (self.moves.row move).invoice_date_due = some due_date → due_date < today

section

variable {today : Date} {domain : AccountMove → Bool} {sector : Nat} {self : Billing ρ}

theorem AccountMove.isDue_of_isOverdue {move : AccountMove} (h : move.isOverdue today = true) :
    move.isDue = true := by
  rw [AccountMove.isOverdue, Bool.and_eq_true, Option.any_eq_true] at h
  obtain ⟨hopen, due_date, hdue, _⟩ := h
  rw [AccountMove.isDue, hopen, hdue]
  rfl

theorem AccountMove.isDue_iff {move : AccountMove} :
    move.isDue = true ↔
      (move.move_type = .out_invoice ∧ move.isOpen = true) ∧ move.invoice_date_due ≠ none := by
  rw [AccountMove.isDue, Bool.and_eq_true, Bool.and_eq_true, decide_eq_true_eq, Option.isSome_iff_ne_none]

theorem AccountMove.isOverdue_of_lt {move : AccountMove} {due_date : Date}
    (htype : move.move_type = .out_invoice) (hopen : move.isOpen = true)
    (hdue : move.invoice_date_due = some due_date) (hlate : due_date < today) :
    move.isOverdue today = true := by
  rw [AccountMove.isOverdue, hopen, hdue, decide_eq_true htype]
  exact decide_eq_true hlate

theorem Billing.sectorMoves_ne_nil_iff :
    self.sectorMoves domain sector ≠ [] ↔
      ∃ move ∈ self.moves.ids, domain (self.moves.row move) = true ∧
        self.isp_sector_id (self.moves.row move) = some sector := by
  rw [← List.isEmpty_eq_false_iff, List.isEmpty_eq_false_iff_exists_mem]
  simp only [Billing.sectorMoves, Store.mem_search, Bool.and_eq_true, decide_eq_true_eq]

/-- With no invoice left to come due, the two domains find the same moves of a sector. -/
theorem Billing.sectorMoves_isDue (h : self.NoneNotYetDue today) :
    self.sectorMoves AccountMove.isDue sector = self.sectorMoves (AccountMove.isOverdue today) sector := by
  refine List.filter_congr fun move hmove => Bool.eq_iff_iff.mpr ?_
  rw [Bool.and_eq_true, Bool.and_eq_true, decide_eq_true_eq]
  refine and_congr_left fun hsector => ⟨fun hdue => ?_, AccountMove.isDue_of_isOverdue⟩
  obtain ⟨⟨htype, hopen⟩, hdated⟩ := AccountMove.isDue_iff.mp hdue
  obtain ⟨due_date, hdue_date⟩ := Option.ne_none_iff_exists'.mp hdated
  have hlate := h move hmove htype hopen (by rw [hsector]; exact Option.some_ne_none sector) due_date hdue_date
  exact AccountMove.isOverdue_of_lt htype hopen hdue_date hlate

/-- So the ranking is by the residuals of the overdue invoices. -/
theorem Billing.residual_isDue (h : self.NoneNotYetDue today) :
    self.residual AccountMove.isDue sector = self.residual (AccountMove.isOverdue today) sector := by
  rw [Billing.residual, Billing.sectorMoves_isDue h, Billing.residual]

/-- The listed sectors are the first five by residual of open invoices. -/
theorem Billing.topSectors_eq (self : Billing ρ) (sectors : List Nat) :
    self.topSectors sectors = (ranked (self.residual AccountMove.isDue) sectors).take 5 := by
  unfold Billing.topSectors Billing.sorted_groups Billing.read_group ranked
  rw [List.map_take, ← List.map_mergeSort]
  · rw [List.map_map]
    exact congrArg _ (List.map_id _)
  · intro first _ second _
    rfl

/-- The text names the listed sectors, each with its residual of open invoices. -/
theorem Billing.get_top_overdue_sectors_eq (self : Billing ρ) (display_name : Nat → String)
    (sectors : List Nat) :
    self.get_top_overdue_sectors display_name sectors =
      ", ".intercalate ((self.topSectors sectors).map fun sector =>
        display_name sector ++ " (" ++ twoDecimals (self.residual AccountMove.isDue sector) ++ ")") := by
  have hresidual : ∀ group ∈ self.sorted_groups sectors,
      group.amount_residual = self.residual AccountMove.isDue group.isp_sector_id := by
    intro group hgroup
    obtain ⟨sector, _, rfl⟩ := List.mem_map.mp (mem_ranked.mp (List.mem_of_mem_take hgroup))
    rfl
  rw [Billing.get_top_overdue_sectors, Billing.topSectors, List.map_map]
  refine congrArg _ (List.map_congr_left fun group hgroup => ?_)
  rw [Function.comp_apply, hresidual group hgroup]

end

/-- A sector is listed for invoices that are not yet due: when the open invoices with a due
date lie in at most five sectors, and those of one sector are all due today or later, that
sector is on the list, where no sector without an overdue invoice belongs. -/
theorem not_yet_due_sector_listed (world : Billing ρ) (today : Date) (sectors : List Nat)
    (hgrouped : world.Grouped AccountMove.isDue sectors) (hfew : sectors.length ≤ 5) {sector : Nat}
    (hsector : sector ∈ sectors) (hnone : world.sectorMoves (AccountMove.isOverdue today) sector = []) :
    ¬ IsTop 5 (world.residual (AccountMove.isOverdue today))
        (fun sector => world.sectorMoves (AccountMove.isOverdue today) sector ≠ [])
        (world.topSectors sectors) := by
  intro h
  rw [Billing.topSectors_eq] at h
  have hahead : ahead (fun sector => world.residual AccountMove.isDue sector) sectors sector < 5 :=
    lt_of_lt_of_le (ahead_lt_length hsector) hfew
  exact h.candidates sector ((mem_take_ranked hgrouped.nodup 5).mpr ⟨hsector, hahead⟩) hnone

/-- For every database and day without an open customer invoice that is not yet due, and in
whatever order the sectors come, the dashboard lists the five sectors with the most overdue,
and the amounts that it shows are those of the overdue invoices. -/
theorem top_overdue_sectors_of_none_not_yet_due (world : Billing ρ) (today : Date) (sectors : List Nat)
    (display_name : Nat → String) (hgrouped : world.Grouped AccountMove.isDue sectors)
    (hdue : world.NoneNotYetDue today) :
    IsTop 5 (world.residual (AccountMove.isOverdue today))
        (fun sector => world.sectorMoves (AccountMove.isOverdue today) sector ≠ []) (world.topSectors sectors) ∧
      world.get_top_overdue_sectors display_name sectors =
        ", ".intercalate ((world.topSectors sectors).map fun sector =>
          display_name sector ++ " (" ++ twoDecimals (world.residual (AccountMove.isOverdue today) sector) ++ ")") := by
  have hresidual : (fun sector => world.residual AccountMove.isDue sector) =
      fun sector => world.residual (AccountMove.isOverdue today) sector :=
    funext fun sector => Billing.residual_isDue hdue
  constructor
  · rw [Billing.topSectors_eq, hresidual]
    refine isTop_take hgrouped.nodup fun sector => ?_
    rw [← Billing.sectorMoves_isDue hdue, hgrouped.mem_iff sector]
  · rw [Billing.get_top_overdue_sectors_eq]
    refine congrArg _ (List.map_congr_left fun sector _ => ?_)
    rw [Billing.residual_isDue hdue]

/-- Two customers, each in a sector of their own. -/
def twoSectors (moves : List AccountMove) : Billing Unit :=
  databaseOf (fun _ => { name := "Basic", service_type := .dhcp })
    [activeCustomer none, { activeCustomer none with sector_id := 1, checked := rfl }] [] moves

/-- A larger invoice of the second customer, overdue as well. -/
def januaryInvoice : AccountMove :=
  { unpaidInvoice with isp_subscription_id := some 1, amount_residual := 100 }

theorem twoSectors_grouped {invoice : AccountMove} (hdue : invoice.isDue = true)
    (hsector : invoice.isp_subscription_id = some 1) :
    (twoSectors [unpaidInvoice, invoice]).Grouped AccountMove.isDue [0, 1] := by
  have hown : ∀ move ∈ [0, 1], (twoSectors [unpaidInvoice, invoice]).isp_sector_id
      ((twoSectors [unpaidInvoice, invoice]).moves.row move) = some move := by
    intro move hmove
    obtain rfl | rfl := List.mem_pair.mp hmove
    · rfl
    · change invoice.isp_subscription_id.map _ = _
      rw [hsector]
      rfl
  refine ⟨by decide, fun sector => ?_⟩
  rw [Billing.sectorMoves_ne_nil_iff]
  constructor
  · intro hmem
    refine ⟨sector, hmem, ?_, hown sector hmem⟩
    obtain rfl | rfl := List.mem_pair.mp hmem
    · rfl
    · exact hdue
  · rintro ⟨move, hmove, _, hfound⟩
    rw [hown move hmove] at hfound
    exact Option.some.inj hfound ▸ hmove

theorem twoSectors_noneNotYetDue :
    (twoSectors [unpaidInvoice, januaryInvoice]).NoneNotYetDue februaryFirst := by
  intro move hmove _ _ _ due_date hdue
  have hnewYear : ∀ move ∈ (twoSectors [unpaidInvoice, januaryInvoice]).moves.ids,
      ((twoSectors [unpaidInvoice, januaryInvoice]).moves.row move).invoice_date_due = some newYear := by decide
  rw [Option.some.inj (hdue.symm.trans (hnewYear move hmove))]
  decide

theorem top_overdue_sectors_of_none_not_yet_due_two :
    IsTop 5 ((twoSectors [unpaidInvoice, januaryInvoice]).residual (AccountMove.isOverdue februaryFirst))
        (fun sector =>
          (twoSectors [unpaidInvoice, januaryInvoice]).sectorMoves (AccountMove.isOverdue februaryFirst) sector ≠ [])
        ((twoSectors [unpaidInvoice, januaryInvoice]).topSectors [0, 1]) :=
  (top_overdue_sectors_of_none_not_yet_due (twoSectors [unpaidInvoice, januaryInvoice]) februaryFirst [0, 1]
    (fun _ => "Sector") (twoSectors_grouped (by decide) rfl) twoSectors_noneNotYetDue).1

theorem marchFirst_isDay : IsDay 2026 3 1 := by decide

/-- An invoice of the second customer that is due on the first of March. -/
def marchInvoice : AccountMove := { januaryInvoice with invoice_date_due := some (.of marchFirst_isDay) }

/-- In February, a sector whose only invoice is due in March is listed as overdue. -/
theorem march_invoice_listed :
    (twoSectors [unpaidInvoice, marchInvoice]).Grouped AccountMove.isDue [0, 1] ∧
      ¬ IsTop 5 ((twoSectors [unpaidInvoice, marchInvoice]).residual (AccountMove.isOverdue februaryFirst))
        (fun sector =>
          (twoSectors [unpaidInvoice, marchInvoice]).sectorMoves (AccountMove.isOverdue februaryFirst) sector ≠ [])
        ((twoSectors [unpaidInvoice, marchInvoice]).topSectors [0, 1]) :=
  have hgrouped := twoSectors_grouped (by decide) rfl
  ⟨hgrouped, not_yet_due_sector_listed _ februaryFirst _ hgrouped (by decide)
    (List.mem_cons_of_mem 0 (List.mem_singleton_self 1)) (by decide)⟩

end getupnet.isp_billing

import Getupnet.Relational.Pages
import Getupnet.IspCore.Subscription
import Getupnet.Relational.Store

open relational
open getupnet.isp_core

namespace getupnet.isp_portal

/-- The orders that the list of a customer's subscriptions can be sorted in. -/
inductive SortBy where
  | date
  | name
  | state
  deriving DecidableEq

/-- `searchbar_sortings[sortby]`, by date if no order is asked for. -/
def searchbar_sortings (sortby : CharField) : Except OdooError SortBy :=
  match textOr sortby "date" with
  | "date" => .ok .date
  | "name" => .ok .name
  | "state" => .ok .state
  | key => .error (.other key)

/-- The value of a state in the database. -/
def stateValue : SubscriptionState → String
  | .draft => "draft"
  | .active => "active"
  | .suspended => "suspended"
  | .terminated => "terminated"

/-- The subscriptions with the time at which each was created, and the database's order
of texts. -/
structure Catalogue (κ : Type) where
  subscriptions : Store IspSubscription
  create_date : Nat → Nat
  collate : String → κ

variable {κ : Type} [LinearOrder κ]

/-- `create_date desc`, `name` or `state`. -/
def SortBy.le (self : Catalogue κ) : SortBy → Nat → Nat → Prop
  | .date, first, second => self.create_date second ≤ self.create_date first
  | .name, first, second =>
    self.collate (self.subscriptions.row first).name ≤ self.collate (self.subscriptions.row second).name
  | .state, first, second =>
    self.collate (stateValue (self.subscriptions.row first).state) ≤
      self.collate (stateValue (self.subscriptions.row second).state)

instance (self : Catalogue κ) (order : SortBy) : DecidableRel (order.le self) := fun first second =>
  match order with
  | .date => inferInstanceAs (Decidable (self.create_date second ≤ self.create_date first))
  | .name => inferInstanceAs (Decidable (self.collate _ ≤ self.collate _))
  | .state => inferInstanceAs (Decidable (self.collate _ ≤ self.collate _))

instance (self : Catalogue κ) (order : SortBy) : IsTrans Nat (order.le self) where
  trans first second third hfirst hsecond := by
    cases order with
    | date => exact Nat.le_trans hsecond hfirst
    | name => exact le_trans hfirst hsecond
    | state => exact le_trans hfirst hsecond

instance (self : Catalogue κ) (order : SortBy) : Std.Total (order.le self) where
  total first second := by
    cases order with
    | date => exact Nat.le_total _ _
    | name => exact le_total _ _
    | state => exact le_total _ _

/-- The subscriptions of a partner. -/
def Catalogue.ofPartner (self : Catalogue κ) (partner_id : Nat) : List Nat :=
  self.subscriptions.ids.filter fun id => decide ((self.subscriptions.row id).partner_id = partner_id)

/-- The framework's pager, with what it is documented to give for the pages there are. -/
structure PortalPager where
  offset : (total page step : Nat) → Nat
  offset_eq : ∀ total page step, page < pageCount total step → offset total (page + 1) step = page * step

/-- What the list of subscriptions may show on a page. -/
def portal_my_isp_subscriptions (self : Catalogue κ) (portal_pager : PortalPager) (partner_id page : Nat)
    (sortby : CharField) (subscriptions : List Nat) : Prop :=
  ∃ order, searchbar_sortings sortby = .ok order ∧
    Page (order.le self) (self.ofPartner partner_id)
      (portal_pager.offset (self.ofPartner partner_id).length page 10) 10 subscriptions

/-- Whatever the searches for the pages make of ties, going through the pages of the list
shows each of the customer's subscriptions once, if and only if those that tie in the
order asked for fit on one page. -/
theorem portal_pages_complete_iff (self : Catalogue κ) (portal_pager : PortalPager) (partner_id : Nat)
    {sortby : CharField} {order : SortBy} (horder : searchbar_sortings sortby = .ok order) :
    (∀ pages : Nat → List Nat,
      (∀ page < pageCount (self.ofPartner partner_id).length 10,
        portal_my_isp_subscriptions self portal_pager partner_id (page + 1) sortby (pages page)) →
      (shown (self.ofPartner partner_id).length 10 pages).Perm (self.ofPartner partner_id)) ↔
      TiesFit (order.le self) (self.ofPartner partner_id) 10 := by
  have hnodup : (self.ofPartner partner_id).Nodup := self.subscriptions.ids_nodup.filter _
  have hpage : ∀ page < pageCount (self.ofPartner partner_id).length 10, ∀ found,
      portal_my_isp_subscriptions self portal_pager partner_id (page + 1) sortby found ↔
        Page (order.le self) (self.ofPartner partner_id) (page * 10) 10 found := by
    intro page hcount found
    rw [portal_my_isp_subscriptions, portal_pager.offset_eq _ _ _ hcount]
    constructor
    · rintro ⟨other, hother, hfound⟩
      rw [horder] at hother
      cases hother
      exact hfound
    · exact fun hfound => ⟨order, horder, hfound⟩
  rw [← shown_perm_iff (by omega) hnodup]
  refine forall_congr' fun pages => imp_congr_left (forall_congr' fun page => forall_congr' fun hcount => ?_)
  exact hpage page hcount (pages page)

def firstPages : PortalPager where
  offset := fun _ page step => (page - 1) * step
  offset_eq := fun _ _ _ _ => rfl

/-- Eleven draft subscriptions of a customer, created one after the other. -/
def elevenDrafts : Catalogue Nat where
  subscriptions := (Store.empty IspSubscription.blank).createAll (List.replicate 11 IspSubscription.blank)
  create_date := id
  collate := String.length

/-- By date the list is complete. By state all of them tie, and one may be missing. -/
theorem portal_pages_complete_iff_eleven :
    (∀ pages, (∀ page < pageCount 11 10,
      portal_my_isp_subscriptions elevenDrafts firstPages 0 (page + 1) (some "date") (pages page)) →
      (shown 11 10 pages).Perm (elevenDrafts.ofPartner 0)) ∧
    ¬ (∀ pages, (∀ page < pageCount 11 10,
      portal_my_isp_subscriptions elevenDrafts firstPages 0 (page + 1) (some "state") (pages page)) →
      (shown 11 10 pages).Perm (elevenDrafts.ofPartner 0)) := by
  have hdate : TiesFit (SortBy.date.le elevenDrafts) (elevenDrafts.ofPartner 0) 10 := by decide
  have hstate : ¬ TiesFit (SortBy.state.le elevenDrafts) (elevenDrafts.ofPartner 0) 10 := by decide
  exact ⟨(portal_pages_complete_iff elevenDrafts firstPages 0 rfl).mpr hdate,
    fun h => hstate ((portal_pages_complete_iff elevenDrafts firstPages 0 rfl).mp h)⟩

end getupnet.isp_portal

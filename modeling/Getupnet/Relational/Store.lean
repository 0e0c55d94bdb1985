import Mathlib.Data.Finset.Card

namespace relational

/-- A table of records under numeric identifiers, in creation order. Records
are only ever added under fresh identifiers, which the fields state. -/
structure Store (α : Type) where
  ids : List Nat
  row : Nat → α
  next_id : Nat
  ids_ascending : ids.Pairwise (· < ·)
  ids_fresh : ∀ id ∈ ids, id < next_id

theorem Store.ids_nodup {α : Type} (self : Store α) : self.ids.Nodup :=
  self.ids_ascending.imp (fun h => Nat.ne_of_lt h)

theorem Store.next_id_not_mem {α : Type} (self : Store α) : self.next_id ∉ self.ids :=
  fun hmem => Nat.lt_irrefl _ (self.ids_fresh _ hmem)

/-- An empty table; the value of `row` outside the identifiers is irrelevant. -/
def Store.empty {α : Type} (default : α) : Store α where
  ids := []
  row := fun _ => default
  next_id := 0
  ids_ascending := .nil
  ids_fresh := by simp

def Store.write {α : Type} (self : Store α) (id : Nat) (change : α → α) : Store α :=
  { self with row := fun other => if other = id then change (self.row id) else self.row other }

@[simp] theorem Store.write_ids {α : Type} (self : Store α) (id : Nat) (change : α → α) :
    (self.write id change).ids = self.ids := rfl

theorem Store.write_row {α : Type} (self : Store α) (id other : Nat) (change : α → α) :
    (self.write id change).row other = if other = id then change (self.row id) else self.row other := rfl

@[simp] theorem Store.write_row_self {α : Type} (self : Store α) (id : Nat) (change : α → α) :
    (self.write id change).row id = change (self.row id) := if_pos rfl

theorem Store.write_row_ne {α : Type} (self : Store α) {id other : Nat} (h : other ≠ id) (change : α → α) :
    (self.write id change).row other = self.row other := if_neg h

/-- Writes to one record compose. -/
theorem Store.write_write {α : Type} (self : Store α) (id : Nat) (first second : α → α) :
    (self.write id first).write id second = self.write id (fun record => second (first record)) := by
  simp only [Store.write, if_true, Store.mk.injEq, true_and, and_true]
  funext other
  by_cases h : other = id <;> simp [h]

/-- Only what a write makes of its own record matters. -/
theorem Store.write_congr {α : Type} (self : Store α) {id : Nat} {first second : α → α}
    (h : first (self.row id) = second (self.row id)) : self.write id first = self.write id second := by
  simp only [Store.write, h]

theorem Store.write_unchanged {α : Type} (self : Store α) {id : Nat} {change : α → α}
    (h : change (self.row id) = self.row id) : self.write id change = self := by
  have hrow : (self.write id change).row = self.row := by
    funext other
    by_cases hsame : other = id
    · rw [hsame, Store.write_row_self, h]
    · exact self.write_row_ne hsame change
  cases self
  exact congrArg (fun row => Store.mk _ row _ _ _) hrow

def Store.create {α : Type} (self : Store α) (record : α) : Store α where
  ids := self.ids ++ [self.next_id]
  row := fun other => if other = self.next_id then record else self.row other
  next_id := self.next_id + 1
  ids_ascending := by
    rw [List.pairwise_append]
    refine ⟨self.ids_ascending, List.pairwise_singleton _ _, fun id hid fresh hfresh => ?_⟩
    rw [List.mem_singleton.mp hfresh]
    exact self.ids_fresh id hid
  ids_fresh := by
    intro id hid
    rcases List.mem_append.mp hid with hold | hnew
    · exact Nat.lt_succ_of_lt (self.ids_fresh id hold)
    · rw [List.mem_singleton.mp hnew]
      exact Nat.lt_succ_self _

@[simp] theorem Store.create_ids {α : Type} (self : Store α) (record : α) :
    (self.create record).ids = self.ids ++ [self.next_id] := rfl

@[simp] theorem Store.create_next_id {α : Type} (self : Store α) (record : α) :
    (self.create record).next_id = self.next_id + 1 := rfl

@[simp] theorem Store.create_row_new {α : Type} (self : Store α) (record : α) :
    (self.create record).row self.next_id = record := if_pos rfl

theorem Store.create_row_of_lt {α : Type} (self : Store α) {id : Nat} (h : id < self.next_id) (record : α) :
    (self.create record).row id = self.row id := if_neg (Nat.ne_of_lt h)

/-- A record may as well be created the way it is written next. -/
theorem Store.create_write {α : Type} (self : Store α) (record : α) (change : α → α) :
    (self.create record).write self.next_id change = self.create (change record) := by
  simp only [Store.create, Store.write, if_true, Store.mk.injEq, true_and, and_true]
  funext other
  by_cases h : other = self.next_id <;> simp [h]

/-- Creating a batch of records, one after the other. -/
def Store.createAll {α : Type} (self : Store α) (records : List α) : Store α :=
  records.foldl Store.create self

@[simp] theorem Store.createAll_nil {α : Type} (self : Store α) : self.createAll [] = self := rfl

@[simp] theorem Store.createAll_cons {α : Type} (self : Store α) (record : α) (records : List α) :
    self.createAll (record :: records) = (self.create record).createAll records := rfl

theorem Store.createAll_append {α : Type} (self : Store α) (first second : List α) :
    self.createAll (first ++ second) = (self.createAll first).createAll second :=
  List.foldl_append

theorem Store.createAll_row_of_lt {α : Type} (self : Store α) (records : List α) {id : Nat}
    (h : id < self.next_id) : (self.createAll records).row id = self.row id := by
  induction records generalizing self with
  | nil => rfl
  | cons record records ih =>
    rw [Store.createAll_cons, ih _ (Nat.lt_succ_of_lt h), self.create_row_of_lt h]

theorem Store.createAll_ids {α : Type} (self : Store α) (records : List α) :
    (self.createAll records).ids = self.ids ++ List.range' self.next_id records.length := by
  induction records generalizing self with
  | nil => simp
  | cons record records ih =>
    rw [Store.createAll_cons, ih, Store.create_ids, Store.create_next_id, List.length_cons,
      List.range'_succ, List.append_assoc, List.singleton_append]

theorem Store.createAll_next_id {α : Type} (self : Store α) (records : List α) :
    (self.createAll records).next_id = self.next_id + records.length := by
  induction records generalizing self with
  | nil => rfl
  | cons record records ih =>
    rw [Store.createAll_cons, ih, Store.create_next_id, List.length_cons, Nat.add_assoc, Nat.add_comm 1]

/-- Records present before a batch are still present and unchanged after it. -/
theorem Store.createAll_row_of_mem {α : Type} (self : Store α) (records : List α) {id : Nat}
    (h : id ∈ self.ids) : (self.createAll records).row id = self.row id :=
  self.createAll_row_of_lt records (self.ids_fresh id h)

theorem Store.mem_createAll_ids_of_mem {α : Type} (self : Store α) (records : List α) {id : Nat}
    (h : id ∈ self.ids) : id ∈ (self.createAll records).ids := by
  rw [self.createAll_ids]
  exact List.mem_append_left _ h

/-- A record found after a batch was there before, or comes from the batch. -/
theorem Store.mem_createAll_ids {α : Type} (self : Store α) (records : List α) {id : Nat}
    (h : id ∈ (self.createAll records).ids) :
    id ∈ self.ids ∨ id ∉ self.ids ∧ (self.createAll records).row id ∈ records := by
  induction records generalizing self with
  | nil => exact Or.inl h
  | cons record records ih =>
    rw [Store.createAll_cons] at h ⊢
    rcases ih (self.create record) h with hold | ⟨hnew, hrow⟩
    · rw [Store.create_ids, List.mem_append, List.mem_singleton] at hold
      rcases hold with hid | rfl
      · exact Or.inl hid
      · refine Or.inr ⟨self.next_id_not_mem, ?_⟩
        rw [Store.createAll_row_of_lt _ _ (Nat.lt_succ_self _), Store.create_row_new]
        exact List.mem_cons_self
    · refine Or.inr ⟨fun hid => hnew ?_, List.mem_cons_of_mem _ hrow⟩
      rw [Store.create_ids]
      exact List.mem_append_left _ hid

/-- Writing the same to several records, one after the other. -/
def Store.writeAll {α : Type} (self : Store α) (ids : List Nat) (change : α → α) : Store α :=
  ids.foldl (fun table id => table.write id change) self

@[simp] theorem Store.writeAll_ids {α : Type} (self : Store α) (ids : List Nat) (change : α → α) :
    (self.writeAll ids change).ids = self.ids := by
  induction ids generalizing self with
  | nil => rfl
  | cons id ids ih => exact ih (self.write id change)

theorem Store.writeAll_row_of_not_mem {α : Type} (self : Store α) {ids : List Nat} {id : Nat} (h : id ∉ ids)
    (change : α → α) : (self.writeAll ids change).row id = self.row id := by
  induction ids generalizing self with
  | nil => rfl
  | cons first ids ih =>
    rw [List.mem_cons, not_or] at h
    exact (ih (self.write first change) h.2).trans (self.write_row_ne h.1 change)

/-- What the change sets in every record, the writes set in theirs. -/
theorem Store.writeAll_sets {α β : Type} (self : Store α) {ids : List Nat} {change : α → α} {view : α → β}
    {value : β}
    (h : ∀ record, view (change record) = value) {id : Nat} (hid : id ∈ ids) :
    view ((self.writeAll ids change).row id) = value := by
  induction ids generalizing self with
  | nil => exact absurd hid List.not_mem_nil
  | cons first ids ih =>
    by_cases hrest : id ∈ ids
    · exact ih (self.write first change) hrest
    · have hfirst : id = first := (List.mem_cons.mp hid).resolve_right hrest
      have hkept : (self.writeAll (first :: ids) change).row id = (self.write first change).row id :=
        (self.write first change).writeAll_row_of_not_mem hrest change
      rw [hkept, hfirst, Store.write_row_self, h]

/-- What the change keeps of every record, the writes keep. -/
theorem Store.writeAll_keeps {α β : Type} (self : Store α) (ids : List Nat) {change : α → α} {view : α → β}
    (h : ∀ record, view (change record) = view record) (id : Nat) :
    view ((self.writeAll ids change).row id) = view (self.row id) := by
  induction ids generalizing self with
  | nil => rfl
  | cons first ids ih =>
    refine (ih (self.write first change)).trans ?_
    rw [self.write_row]
    split
    · rename_i hsame
      rw [hsame, h]
    · rfl

/-- What the change preserves of a record, the writes preserve. -/
theorem Store.writeAll_preserves {α : Type} (self : Store α) (ids : List Nat) {change : α → α}
    {property : α → Prop}
    (h : ∀ record, property record → property (change record)) {id : Nat} (hid : property (self.row id)) :
    property ((self.writeAll ids change).row id) := by
  induction ids generalizing self with
  | nil => exact hid
  | cons first ids ih =>
    refine ih (self.write first change) ?_
    rw [self.write_row]
    split
    · rename_i hsame
      rw [hsame] at hid
      exact h _ hid
    · exact hid

/-- Writing to several records one after the other, to each what is due there. -/
def Store.writeEach {α : Type} (self : Store α) (ids : List Nat) (change : Nat → α → α) : Store α :=
  ids.foldl (fun table id => table.write id (change id)) self

@[simp] theorem Store.writeEach_ids {α : Type} (self : Store α) (ids : List Nat) (change : Nat → α → α) :
    (self.writeEach ids change).ids = self.ids := by
  induction ids generalizing self with
  | nil => rfl
  | cons id ids ih => exact ih (self.write id (change id))

/-- A change that is the same when made twice is made of each of the records. -/
theorem Store.writeEach_row {α : Type} (self : Store α) (ids : List Nat) {change : Nat → α → α}
    (htwice : ∀ id record, change id (change id record) = change id record) (id : Nat) :
    (self.writeEach ids change).row id = if id ∈ ids then change id (self.row id) else self.row id := by
  induction ids generalizing self with
  | nil => rfl
  | cons first ids ih =>
    refine (ih (self.write first (change first))).trans ?_
    by_cases hsame : id = first
    · subst hsame
      rw [Store.write_row_self, htwice, if_pos List.mem_cons_self, ite_self]
    · rw [self.write_row_ne hsame]
      simp only [List.mem_cons, hsame, false_or]

@[simp] theorem Store.writeEach_next_id {α : Type} (self : Store α) (ids : List Nat) (change : Nat → α → α) :
    (self.writeEach ids change).next_id = self.next_id := by
  induction ids generalizing self with
  | nil => rfl
  | cons id ids ih => exact ih (self.write id (change id))

/-- Two loops over the same records make one of both changes. -/
theorem Store.writeEach_writeEach {α : Type} (self : Store α) (ids : List Nat) {first second : Nat → α → α}
    (hfirst : ∀ id record, first id (first id record) = first id record)
    (hsecond : ∀ id record, second id (second id record) = second id record)
    (hboth : ∀ id record, second id (first id (second id (first id record))) = second id (first id record)) :
    (self.writeEach ids first).writeEach ids second =
      self.writeEach ids fun id record => second id (first id record) := by
  have hrow : ((self.writeEach ids first).writeEach ids second).row =
      (self.writeEach ids fun id record => second id (first id record)).row := by
    funext id
    rw [Store.writeEach_row _ _ hsecond, Store.writeEach_row _ _ hfirst, Store.writeEach_row _ _ hboth]
    split <;> rfl
  have hids : ((self.writeEach ids first).writeEach ids second).ids =
      (self.writeEach ids fun id record => second id (first id record)).ids := by simp
  have hnext : ((self.writeEach ids first).writeEach ids second).next_id =
      (self.writeEach ids fun id record => second id (first id record)).next_id := by simp
  cases hleft : (self.writeEach ids first).writeEach ids second
  cases hright : self.writeEach ids fun id record => second id (first id record)
  rw [hleft, hright] at hrow hids hnext
  cases hrow
  cases hids
  cases hnext
  rfl

/-- The records that a later state of the table has on top of an earlier one. -/
def Store.added {α : Type} (before after : Store α) : List α :=
  (after.ids.filter (fun id => decide (before.next_id ≤ id))).map after.row

private theorem Store.filter_next_id_ids {α : Type} (self : Store α) :
    self.ids.filter (fun id => decide (self.next_id ≤ id)) = [] := by
  rw [List.filter_eq_nil_iff]
  intro id hid hle
  have hlt := self.ids_fresh id hid
  simp only [decide_eq_true_eq] at hle
  omega

/-- The rows under the identifiers of a batch are the batch. -/
theorem Store.map_row_createAll {α : Type} (self : Store α) (records : List α) :
    (List.range' self.next_id records.length).map (self.createAll records).row = records := by
  induction records generalizing self with
  | nil => rfl
  | cons record records ih =>
    have hfirst : ((self.create record).createAll records).row self.next_id = record := by
      rw [Store.createAll_row_of_lt _ _ (Nat.lt_succ_self _), Store.create_row_new]
    have hrest := ih (self.create record)
    rw [Store.create_next_id] at hrest
    rw [Store.createAll_cons, List.length_cons, List.range'_succ, List.map_cons, hfirst, hrest]

theorem Store.createAll_row_new {α : Type} (self : Store α) {records : List α} {i : Nat} {record : α}
    (h : records[i]? = some record) : (self.createAll records).row (self.next_id + i) = record := by
  have hi : i < records.length := (List.getElem?_eq_some_iff.mp h).1
  have hrow := congrArg (fun rows : List α => rows[i]?) (self.map_row_createAll records)
  simp only [List.getElem?_map, List.getElem?_range' hi, Nat.one_mul, Option.map_some, h] at hrow
  exact Option.some.inj hrow

/-- The identifiers of a batch, by the positions of its records. -/
theorem Store.mem_batch_iff {α : Type} (self : Store α) {records : List α} {id : Nat} :
    id ∈ List.range' self.next_id records.length ↔
      ∃ i record, records[i]? = some record ∧ id = self.next_id + i := by
  rw [List.mem_range'_1]
  constructor
  · rintro ⟨hle, hlt⟩
    have hi : id - self.next_id < records.length := by omega
    exact ⟨id - self.next_id, records[id - self.next_id], List.getElem?_eq_getElem hi, by omega⟩
  · rintro ⟨i, record, hrecord, rfl⟩
    have hi : i < records.length := (List.getElem?_eq_some_iff.mp hrecord).1
    omega

/-- The records added by a batch are the batch. -/
@[simp] theorem Store.added_createAll {α : Type} (self : Store α) (records : List α) :
    Store.added self (self.createAll records) = records := by
  have hnew : (List.range' self.next_id records.length).filter (fun id => decide (self.next_id ≤ id)) =
      List.range' self.next_id records.length := by
    rw [List.filter_eq_self]
    intro id hid
    exact decide_eq_true (List.mem_range'_1.mp hid).1
  rw [Store.added, self.createAll_ids, List.filter_append, self.filter_next_id_ids, hnew,
    List.nil_append, self.map_row_createAll]

/-- The identifiers whose records satisfy a domain, in creation order. -/
def Store.search {α : Type} (self : Store α) (domain : α → Bool) : List Nat :=
  self.ids.filter (fun id => domain (self.row id))

@[simp] theorem Store.mem_search {α : Type} (self : Store α) (domain : α → Bool) (id : Nat) :
    id ∈ self.search domain ↔ id ∈ self.ids ∧ domain (self.row id) = true := List.mem_filter

theorem Store.search_nodup {α : Type} (self : Store α) (domain : α → Bool) : (self.search domain).Nodup :=
  self.ids_nodup.filter _

/-- A search finds at most one record when no two records satisfy its domain. -/
theorem Store.search_length_le_one_iff {α : Type} (self : Store α) (domain : α → Bool) :
    (self.search domain).length ≤ 1 ↔
      ∀ first ∈ self.ids, ∀ second ∈ self.ids, domain (self.row first) = true → domain (self.row second) = true →
        first = second := by
  rw [← List.toFinset_card_of_nodup (self.search_nodup domain), Finset.card_le_one]
  simp only [List.mem_toFinset, self.mem_search]
  constructor
  · exact fun h first hfirst second hsecond hone htwo => h first ⟨hfirst, hone⟩ second ⟨hsecond, htwo⟩
  · exact fun h first hfirst second hsecond => h first hfirst.1 second hsecond.1 hfirst.2 hsecond.2

/-- A search that asks for no order may return the matching identifiers in any. -/
def Store.Finds {α : Type} (self : Store α) (domain : α → Bool) (found : List Nat) : Prop :=
  found.Perm (self.search domain)

theorem Store.Finds.mem_iff {α : Type} {self : Store α} {domain : α → Bool} {found : List Nat}
    (h : self.Finds domain found) (id : Nat) :
    id ∈ found ↔ id ∈ self.ids ∧ domain (self.row id) = true :=
  (List.Perm.mem_iff h).trans (self.mem_search domain id)

theorem Store.Finds.nodup {α : Type} {self : Store α} {domain : α → Bool} {found : List Nat}
    (h : self.Finds domain found) : found.Nodup :=
  (List.Perm.nodup_iff h).mpr (self.search_nodup domain)

/-- A search with a sort key and a limit: the first matches of some listing in
ascending key order. Records with equal keys may come in any order. -/
def Store.Selects {α κ : Type} [LE κ] (self : Store α) (domain : α → Bool) (key : α → κ) (limit : Nat)
    (found : List Nat) : Prop :=
  ∃ listing, self.Finds domain listing ∧
    listing.Pairwise (fun first second => key (self.row first) ≤ key (self.row second)) ∧
    found = listing.take limit

theorem Store.Selects.mem {α κ : Type} [LE κ] {self : Store α} {domain : α → Bool} {key : α → κ}
    {limit id : Nat} {found : List Nat} (h : self.Selects domain key limit found) (hid : id ∈ found) :
    id ∈ self.ids ∧ domain (self.row id) = true := by
  obtain ⟨listing, hfinds, _, rfl⟩ := h
  exact (hfinds.mem_iff id).mp (List.mem_of_mem_take hid)

theorem Store.Selects.nodup {α κ : Type} [LE κ] {self : Store α} {domain : α → Bool} {key : α → κ}
    {limit : Nat} {found : List Nat} (h : self.Selects domain key limit found) : found.Nodup := by
  obtain ⟨listing, hfinds, _, rfl⟩ := h
  exact hfinds.nodup.sublist (List.take_sublist _ _)

/-- A search in descending order of the identifiers. -/
def Store.searchDesc {α : Type} (self : Store α) (domain : α → Bool) : List Nat :=
  (self.search domain).reverse

@[simp] theorem Store.mem_searchDesc {α : Type} (self : Store α) (domain : α → Bool) (id : Nat) :
    id ∈ self.searchDesc domain ↔ id ∈ self.ids ∧ domain (self.row id) = true := by
  rw [Store.searchDesc, List.mem_reverse, self.mem_search]

theorem Store.searchDesc_nodup {α : Type} (self : Store α) (domain : α → Bool) :
    (self.searchDesc domain).Nodup :=
  (List.reverse_perm _).nodup_iff.mpr (self.search_nodup domain)

theorem Store.searchDesc_descending {α : Type} (self : Store α) (domain : α → Bool) :
    (self.searchDesc domain).Pairwise (fun first second => second < first) :=
  List.pairwise_reverse.mpr (self.ids_ascending.filter _)

end relational

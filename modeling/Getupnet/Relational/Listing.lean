import Mathlib.Data.List.Nodup
import Mathlib.Data.List.Perm.Basic

namespace relational

/-- A table whose rows stand in an order of their own, under numeric
identifiers. A row is added last, and may be moved to the front. -/
@[ext]
structure Listing (α : Type) where
  entries : List (Nat × α)
  next_id : Nat
  ids_nodup : (entries.map Prod.fst).Nodup
  ids_fresh : ∀ entry ∈ entries, entry.1 < next_id

variable {α : Type}

def Listing.empty : Listing α where
  entries := []
  next_id := 0
  ids_nodup := .nil
  ids_fresh := by simp

def Listing.add (self : Listing α) (record : α) : Listing α where
  entries := self.entries ++ [(self.next_id, record)]
  next_id := self.next_id + 1
  ids_nodup := by
    rw [List.map_append, List.map_singleton, List.nodup_append]
    refine ⟨self.ids_nodup, List.nodup_singleton _, fun id hid fresh hfresh => ?_⟩
    obtain ⟨entry, hentry, rfl⟩ := List.mem_map.mp hid
    rw [List.mem_singleton.mp hfresh]
    exact Nat.ne_of_lt (self.ids_fresh entry hentry)
  ids_fresh := by
    intro entry hentry
    cases List.mem_append.mp hentry with
    | inl hold => exact Nat.lt_succ_of_lt (self.ids_fresh entry hold)
    | inr hnew =>
      rw [List.mem_singleton.mp hnew]
      exact Nat.lt_succ_self _

@[simp] theorem Listing.add_entries (self : Listing α) (record : α) :
    (self.add record).entries = self.entries ++ [(self.next_id, record)] := rfl

/-- The change of one row, as a change of the whole table. -/
private def changed (id : Nat) (change : α → α) (entry : Nat × α) : Nat × α :=
  if entry.1 = id then (entry.1, change entry.2) else entry

private theorem changed_id (id : Nat) (change : α → α) (entry : Nat × α) :
    (changed id change entry).1 = entry.1 := by
  rw [changed]
  split <;> rfl

def Listing.set (self : Listing α) (id : Nat) (change : α → α) : Listing α where
  entries := self.entries.map (changed id change)
  next_id := self.next_id
  ids_nodup := by
    have hids : (self.entries.map (changed id change)).map Prod.fst = self.entries.map Prod.fst := by
      rw [List.map_map]
      exact List.map_congr_left fun entry _ => changed_id id change entry
    rw [hids]
    exact self.ids_nodup
  ids_fresh := by
    intro entry hentry
    obtain ⟨old, hold, rfl⟩ := List.mem_map.mp hentry
    rw [changed_id]
    exact self.ids_fresh old hold

private theorem Listing.front_perm (self : Listing α) (id : Nat) :
    (self.entries.filter (fun entry => entry.1 == id) ++
      self.entries.filter (fun entry => !(entry.1 == id))).Perm self.entries :=
  List.filter_append_perm _ _

def Listing.move_to_front (self : Listing α) (id : Nat) : Listing α where
  entries := self.entries.filter (fun entry => entry.1 == id) ++
    self.entries.filter (fun entry => !(entry.1 == id))
  next_id := self.next_id
  ids_nodup := ((self.front_perm id).map Prod.fst).nodup_iff.mpr self.ids_nodup
  ids_fresh entry hentry := self.ids_fresh entry ((self.front_perm id).mem_iff.mp hentry)

/-- The first row that satisfies a domain. -/
def Listing.first (self : Listing α) (domain : α → Bool) : Option (Nat × α) :=
  self.entries.find? (fun entry => domain entry.2)

/-- Whether some row satisfies a domain. -/
def Listing.has (self : Listing α) (domain : α → Bool) : Bool := self.entries.any (fun entry => domain entry.2)

theorem Listing.has_iff {self : Listing α} {domain : α → Bool} :
    self.has domain = true ↔ ∃ entry ∈ self.entries, domain entry.2 = true := List.any_eq_true

theorem Listing.first_isSome (self : Listing α) (domain : α → Bool) :
    (self.first domain).isSome = self.has domain := by
  rw [Bool.eq_iff_iff, Listing.first, List.find?_isSome, Listing.has_iff]

theorem Listing.first_eq_none_iff {self : Listing α} {domain : α → Bool} :
    self.first domain = none ↔ self.has domain = false := by
  rw [← Option.not_isSome_iff_eq_none, self.first_isSome, Bool.not_eq_true]

theorem Listing.has_of_first {self : Listing α} {domain : α → Bool} {entry : Nat × α}
    (h : self.first domain = some entry) : self.has domain = true := by
  rw [← self.first_isSome, h]
  rfl

theorem Listing.exists_first {self : Listing α} {domain : α → Bool} (h : self.has domain = true) :
    ∃ entry, self.first domain = some entry := by
  rw [← self.first_isSome] at h
  exact Option.isSome_iff_exists.mp h

theorem Listing.mem_of_first {self : Listing α} {domain : α → Bool} {entry : Nat × α}
    (h : self.first domain = some entry) : entry ∈ self.entries := List.mem_of_find?_eq_some h

theorem Listing.domain_of_first {self : Listing α} {domain : α → Bool} {entry : Nat × α}
    (h : self.first domain = some entry) : domain entry.2 = true :=
  List.find?_some (p := fun entry : Nat × α => domain entry.2) h

/-- Rows are told apart by their identifiers. -/
theorem Listing.eq_of_id_eq (self : Listing α) {first second : Nat × α} (hfirst : first ∈ self.entries)
    (hsecond : second ∈ self.entries) (h : first.1 = second.1) : first = second :=
  List.inj_on_of_nodup_map self.ids_nodup hfirst hsecond h

@[simp] theorem Listing.has_add (self : Listing α) (record : α) (domain : α → Bool) :
    (self.add record).has domain = (self.has domain || domain record) := by
  simp [Listing.has, Listing.add]

theorem Listing.first_add_of_has (self : Listing α) (record : α) {domain : α → Bool}
    (h : self.has domain = true) :
    (self.add record).first domain = self.first domain := by
  obtain ⟨entry, hentry⟩ := Listing.exists_first h
  rw [hentry]
  rw [Listing.first] at hentry
  simp [Listing.first, Listing.add, hentry]

theorem Listing.first_add_of_not_has (self : Listing α) {record : α} {domain : α → Bool}
    (h : self.has domain = false) (hrecord : domain record = true) :
    (self.add record).first domain = some (self.next_id, record) := by
  have hnone := Listing.first_eq_none_iff.mpr h
  rw [Listing.first] at hnone
  simp [Listing.first, Listing.add, hnone, hrecord]

theorem Listing.first_set (self : Listing α) (id : Nat) {change : α → α} {domain : α → Bool}
    (h : ∀ record, domain (change record) = domain record) :
    (self.set id change).first domain = (self.first domain).map (changed id change) := by
  have hdomain : ((fun entry : Nat × α => domain entry.2) ∘ changed id change) = fun entry => domain entry.2 := by
    funext entry
    simp only [Function.comp_apply, changed]
    split
    · exact h entry.2
    · rfl
  rw [Listing.first, Listing.set, List.find?_map, hdomain]
  rfl

@[simp] theorem Listing.has_move_to_front (self : Listing α) (id : Nat) (domain : α → Bool) :
    (self.move_to_front id).has domain = self.has domain := by
  rw [Bool.eq_iff_iff, Listing.has_iff, Listing.has_iff]
  simp only [Listing.move_to_front, (self.front_perm id).mem_iff]

theorem Listing.add_ne (self : Listing α) (record : α) : self.add record ≠ self := by
  intro h
  have hnext := congrArg Listing.next_id h
  exact absurd hnext (Nat.succ_ne_self _)

theorem Listing.set_eq_self_iff (self : Listing α) {entry : Nat × α} (hentry : entry ∈ self.entries)
    (change : α → α) : self.set entry.1 change = self ↔ change entry.2 = entry.2 := by
  constructor
  · intro h
    have hmem : changed entry.1 change entry ∈ (self.set entry.1 change).entries := List.mem_map_of_mem hentry
    rw [h] at hmem
    have hsame := self.eq_of_id_eq hmem hentry (changed_id _ _ _)
    rw [changed, if_pos rfl] at hsame
    exact congrArg Prod.snd hsame
  · intro h
    apply Listing.ext
    · refine (List.map_congr_left fun other hother => ?_).trans (List.map_id _)
      rw [changed]
      split
      · rename_i hid
        obtain rfl := self.eq_of_id_eq hother hentry hid
        rw [h]
        rfl
      · rfl
    · rfl

/-- A row is added unless one satisfies the domain. -/
def Listing.ensure (self : Listing α) (domain : α → Bool) (record : α) : Listing α :=
  if self.has domain then self else self.add record

/-- The first row that satisfies the domain is changed. -/
def Listing.amend (self : Listing α) (domain : α → Bool) (change : α → α) : Listing α :=
  match self.first domain with
  | some entry => self.set entry.1 change
  | none => self

/-- The first row that satisfies the domain is changed, or one is added. -/
def Listing.ensure_as (self : Listing α) (domain : α → Bool) (change : α → α) (record : α) : Listing α :=
  if self.has domain then self.amend domain change else self.add record

/-- The first row that satisfies the domain is moved to the front. -/
def Listing.raise (self : Listing α) (domain : α → Bool) : Listing α :=
  match self.first domain with
  | some entry => self.move_to_front entry.1
  | none => self

theorem Listing.ensure_of_has {self : Listing α} {domain : α → Bool} (h : self.has domain = true) (record : α) :
    self.ensure domain record = self := if_pos h

theorem Listing.ensure_of_not_has {self : Listing α} {domain : α → Bool} (h : self.has domain = false)
    (record : α) : self.ensure domain record = self.add record := by
  rw [Listing.ensure, h, if_neg Bool.false_ne_true]

theorem Listing.ensure_eq_self_iff (self : Listing α) (domain : α → Bool) (record : α) :
    self.ensure domain record = self ↔ self.has domain = true := by
  rw [Listing.ensure]
  split
  · rename_i h
    exact ⟨fun _ => h, fun _ => rfl⟩
  · rename_i h
    exact ⟨fun hadd => absurd hadd (self.add_ne record), fun hhas => absurd hhas h⟩

theorem Listing.has_ensure (self : Listing α) {domain : α → Bool} {record : α} (h : domain record = true) :
    (self.ensure domain record).has domain = true := by
  rw [Listing.ensure]
  split
  · assumption
  · rw [Listing.has_add, h, Bool.or_true]

/-- A search that succeeded before a row was ensured succeeds after it. -/
theorem Listing.has_ensure_of_has {self : Listing α} {sought : α → Bool} (h : self.has sought = true)
    (domain : α → Bool) (record : α) : (self.ensure domain record).has sought = true := by
  rw [Listing.ensure]
  split
  · exact h
  · rw [Listing.has_add, h, Bool.true_or]

theorem Listing.has_ensure_of_not (self : Listing α) {sought : α → Bool} (domain : α → Bool) {record : α}
    (h : sought record = false) : (self.ensure domain record).has sought = self.has sought := by
  rw [Listing.ensure]
  split
  · rfl
  · rw [Listing.has_add, h, Bool.or_false]

theorem Listing.first_ensure_of_has {self : Listing α} {sought : α → Bool} (h : self.has sought = true)
    (domain : α → Bool) (record : α) : (self.ensure domain record).first sought = self.first sought := by
  rw [Listing.ensure]
  split
  · rfl
  · exact self.first_add_of_has record h

theorem Listing.amend_eq_self_iff (self : Listing α) (domain : α → Bool) (change : α → α) :
    self.amend domain change = self ↔ ∀ entry, self.first domain = some entry → change entry.2 = entry.2 := by
  rw [Listing.amend]
  cases hfirst : self.first domain with
  | none => simp
  | some entry =>
    rw [self.set_eq_self_iff (Listing.mem_of_first hfirst) change]
    simp

theorem Listing.first_amend (self : Listing α) {domain : α → Bool} {change : α → α}
    (h : ∀ record, domain (change record) = domain record) :
    (self.amend domain change).first domain = (self.first domain).map (fun entry => (entry.1, change entry.2)) := by
  rw [Listing.amend]
  cases hfirst : self.first domain with
  | none => rw [hfirst]; rfl
  | some entry =>
    rw [self.first_set entry.1 h, hfirst]
    simp [changed]

/-- Ensuring a row's contents has nothing to do exactly where the first row of
its kind has them. -/
theorem Listing.ensure_as_eq_self_iff (self : Listing α) (domain : α → Bool) (change : α → α) (record : α) :
    self.ensure_as domain change record = self ↔
      ∃ entry, self.first domain = some entry ∧ change entry.2 = entry.2 := by
  rw [Listing.ensure_as]
  cases hfirst : self.first domain with
  | none =>
    rw [Listing.first_eq_none_iff.mp hfirst, if_neg Bool.false_ne_true]
    simp [self.add_ne record]
  | some entry =>
    rw [Listing.has_of_first hfirst, if_pos rfl, self.amend_eq_self_iff]
    simp [hfirst]

theorem Listing.first_ensure_as (self : Listing α) {domain : α → Bool} {change : α → α} {record : α}
    (hchange : ∀ record, domain (change record) = domain record) (hrecord : domain record = true)
    (hidem : ∀ record, change (change record) = change record) (hnew : change record = record) :
    ∃ entry, (self.ensure_as domain change record).first domain = some entry ∧ change entry.2 = entry.2 := by
  rw [Listing.ensure_as]
  cases hhas : self.has domain with
  | true =>
    obtain ⟨entry, hentry⟩ := Listing.exists_first hhas
    rw [if_pos rfl, self.first_amend hchange, hentry]
    exact ⟨(entry.1, change entry.2), rfl, hidem entry.2⟩
  | false =>
    rw [if_neg Bool.false_ne_true, self.first_add_of_not_has hhas hrecord]
    exact ⟨_, rfl, hnew⟩

@[simp] theorem Listing.has_raise (self : Listing α) (domain sought : α → Bool) :
    (self.raise domain).has sought = self.has sought := by
  rw [Listing.raise]
  split
  · exact self.has_move_to_front _ _
  · rfl

private theorem Listing.filter_id (self : Listing α) {entry : Nat × α} (hentry : entry ∈ self.entries) :
    self.entries.filter (fun other => other.1 == entry.1) = [entry] := by
  have hsame : ∀ other ∈ self.entries, (other.1 == entry.1) = true → other = entry := by
    intro other hother hid
    exact self.eq_of_id_eq hother hentry (by simpa using hid)
  have hnodup : self.entries.Nodup := List.Nodup.of_map _ self.ids_nodup
  have hmem : entry ∈ self.entries.filter (fun other => other.1 == entry.1) := by simp [hentry]
  have hall : ∀ other ∈ self.entries.filter (fun other => other.1 == entry.1), other = entry := by
    intro other hother
    rw [List.mem_filter] at hother
    exact hsame other hother.1 hother.2
  cases hlist : self.entries.filter (fun other => other.1 == entry.1) with
  | nil =>
    rw [hlist] at hmem
    exact absurd hmem List.not_mem_nil
  | cons head tail =>
    have hfiltered := hnodup.filter (fun other => other.1 == entry.1)
    rw [hlist] at hfiltered hall
    obtain rfl := hall head List.mem_cons_self
    cases tail with
    | nil => rfl
    | cons second rest =>
      have hsecond := hall second (by simp)
      subst hsecond
      simp at hfiltered

/-- The moved row comes first, and the others keep their order. -/
theorem Listing.raise_entries {self : Listing α} {domain : α → Bool} {entry : Nat × α}
    (h : self.first domain = some entry) :
    (self.raise domain).entries = entry :: self.entries.filter (fun other => !(other.1 == entry.1)) := by
  rw [Listing.raise, h]
  change self.entries.filter (fun other => other.1 == entry.1) ++ _ = _
  rw [self.filter_id (Listing.mem_of_first h)]
  rfl

/-- A row that comes first already stays where it is. -/
theorem Listing.raise_of_head {self : Listing α} {domain : α → Bool} {entry : Nat × α}
    (h : self.entries.head? = some entry) (hdomain : domain entry.2 = true) : self.raise domain = self := by
  cases hentries : self.entries with
  | nil =>
    rw [hentries] at h
    cases h
  | cons head rest =>
    rw [hentries] at h
    cases h
    have hfirst : self.first domain = some entry := by simp [Listing.first, hentries, hdomain]
    apply Listing.ext
    · rw [Listing.raise_entries hfirst, hentries]
      have hnodup := self.ids_nodup
      rw [hentries, List.map_cons, List.nodup_cons] at hnodup
      have hrest : rest.filter (fun other => !(other.1 == entry.1)) = rest := by
        rw [List.filter_eq_self]
        intro other hother
        have hne : other.1 ≠ entry.1 := fun hid => hnodup.1 (hid ▸ List.mem_map_of_mem hother)
        simpa using hne
      rw [List.filter_cons_of_neg (by simp), hrest]
    · rw [Listing.raise, hfirst]
      rfl

theorem Listing.raise_head {self : Listing α} {domain : α → Bool} (h : self.has domain = true) :
    ∃ entry, (self.raise domain).entries.head? = some entry ∧ domain entry.2 = true := by
  obtain ⟨entry, hentry⟩ := Listing.exists_first h
  refine ⟨entry, ?_, Listing.domain_of_first hentry⟩
  rw [Listing.raise_entries hentry]
  rfl

/-- A table has kept its rows, and those it got since are such records. -/
def Listing.Extends (record : α → Prop) (before after : Listing α) : Prop :=
  ∃ added, after.entries = before.entries ++ added ∧ ∀ entry ∈ added, record entry.2

section

variable {record : α → Prop} {before after : Listing α} {domain : α → Bool}

theorem Listing.Extends.refl (before : Listing α) : before.Extends record before :=
  ⟨[], (List.append_nil _).symm, List.forall_mem_nil _⟩

theorem Listing.Extends.add {value : α} (h : before.Extends record after) (hvalue : record value) :
    before.Extends record (after.add value) := by
  obtain ⟨added, hentries, hadded⟩ := h
  refine ⟨added ++ [(after.next_id, value)], ?_, fun entry hentry => ?_⟩
  · rw [Listing.add_entries, hentries, List.append_assoc]
  · obtain hold | hnew := List.mem_append.mp hentry
    · exact hadded entry hold
    · rw [List.mem_singleton.mp hnew]
      exact hvalue

theorem Listing.Extends.has (h : before.Extends record after) (hhas : before.has domain = true) :
    after.has domain = true := by
  obtain ⟨added, hentries, _⟩ := h
  rw [Listing.has, hentries, List.any_append, ← Listing.has, hhas, Bool.true_or]

/-- What the table has got is among its new records. -/
theorem Listing.Extends.of_has (h : before.Extends record after) (hhas : after.has domain = true) :
    before.has domain = true ∨ ∃ value, record value ∧ domain value = true := by
  obtain ⟨added, hentries, hadded⟩ := h
  rw [Listing.has, hentries, List.any_append, Bool.or_eq_true] at hhas
  refine hhas.imp id fun hnew => ?_
  obtain ⟨entry, hentry, hdomain⟩ := List.any_eq_true.mp hnew
  exact ⟨entry.2, hadded entry hentry, hdomain⟩

end

end relational

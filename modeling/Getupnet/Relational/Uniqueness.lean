import Getupnet.Relational.Store

namespace relational

variable {α κ : Type} {key : α → Option κ} {visible : α → Bool} {before after : Store α} {written : List Nat}

/-- No two records of a table have the same key. A record without a key is
compared with none. -/
def UniqueKey (key : α → Option κ) (table : Store α) : Prop :=
  ∀ id ∈ table.ids, ∀ other ∈ table.ids, key (table.row id) ≠ none → key (table.row other) = key (table.row id) →
    other = id

/-- A record has the key of another one. -/
def Clash (key : α → Option κ) (table : Store α) (id other : Nat) : Prop :=
  other ∈ table.ids ∧ other ≠ id ∧ key (table.row id) ≠ none ∧ key (table.row other) = key (table.row id)

/-- A check of the written records that sees the visible records only has found
no clash. -/
def CheckPasses (key : α → Option κ) (visible : α → Bool) (written : List Nat) (table : Store α) : Prop :=
  ∀ id ∈ written, ∀ other, Clash key table id other → visible (table.row other) = false

/-- Whatever clashes with a written record is visible. -/
def ClashesVisible (key : α → Option κ) (visible : α → Bool) (written : List Nat) (table : Store α) : Prop :=
  ∀ id ∈ written, ∀ other, Clash key table id other → visible (table.row other) = true

/-- A change of a table that adds no record and changes no key but those of the
written records. -/
structure Rewrites (key : α → Option κ) (before after : Store α) (written : List Nat) : Prop where
  written_mem : ∀ id ∈ written, id ∈ after.ids
  kept : ∀ id ∈ after.ids, id ∉ written → id ∈ before.ids ∧ key (after.row id) = key (before.row id)

instance [DecidableEq κ] {table : Store α} : Decidable (UniqueKey key table) :=
  inferInstanceAs (Decidable (∀ id ∈ table.ids, ∀ other ∈ table.ids, key (table.row id) ≠ none →
    key (table.row other) = key (table.row id) → other = id))

/-- Where a key is unique no record clashes with another one, so a check has
nothing to see, whatever is visible to it. -/
theorem UniqueKey.clashesVisible {table : Store α} (h : UniqueKey key table)
    (hwritten : ∀ id ∈ written, id ∈ table.ids) : ClashesVisible key visible written table := by
  rintro id hid other ⟨hother, hne, hkey, hsame⟩
  exact absurd (h id (hwritten id hid) other hother hkey hsame) hne

/-- A change that keeps every key, of the records that were there before. -/
theorem UniqueKey.of_kept (h : UniqueKey key before)
    (hkept : ∀ id ∈ after.ids, id ∈ before.ids ∧ key (after.row id) = key (before.row id)) :
    UniqueKey key after := by
  intro id hid other hother hkey hsame
  obtain ⟨hidBefore, hidKey⟩ := hkept id hid
  obtain ⟨hotherBefore, hotherKey⟩ := hkept other hother
  rw [hidKey] at hkey hsame
  rw [hotherKey] at hsame
  exact h id hidBefore other hotherBefore hkey hsame

/-- A checked change of a table keeps a key unique exactly when the check has seen
all that clashes with what was written. -/
theorem UniqueKey.rewrites_iff (h : UniqueKey key before) (hrewrites : Rewrites key before after written)
    (hcheck : CheckPasses key visible written after) :
    UniqueKey key after ↔ ClashesVisible key visible written after := by
  constructor
  · exact fun hunique => hunique.clashesVisible hrewrites.written_mem
  · intro hvisible
    have hclean : ∀ id ∈ written, ∀ other, ¬ Clash key after id other := by
      intro id hid other hclash
      have hseen := hvisible id hid other hclash
      rw [hcheck id hid other hclash] at hseen
      cases hseen
    intro id hid other hother hkey hsame
    by_contra hne
    by_cases hidWritten : id ∈ written
    · exact hclean id hidWritten other ⟨hother, hne, hkey, hsame⟩
    · by_cases hotherWritten : other ∈ written
      · exact hclean other hotherWritten id ⟨hid, Ne.symm hne, hsame ▸ hkey, hsame.symm⟩
      · obtain ⟨hidBefore, hidKey⟩ := hrewrites.kept id hid hidWritten
        obtain ⟨hotherBefore, hotherKey⟩ := hrewrites.kept other hother hotherWritten
        rw [hidKey] at hkey hsame
        rw [hotherKey] at hsame
        exact hne (h id hidBefore other hotherBefore hkey hsame)

/-- A new record keeps a key unique exactly when it has none or its own. -/
theorem UniqueKey.create_iff {record : α} (h : UniqueKey key before) :
    UniqueKey key (before.create record) ↔
      (key record ≠ none → ∀ id ∈ before.ids, key (before.row id) ≠ key record) := by
  have hold : ∀ id ∈ before.ids, (before.create record).row id = before.row id :=
    fun id hid => before.create_row_of_lt (before.ids_fresh id hid) record
  constructor
  · intro hunique hkey id hid hsame
    have hne : id ≠ before.next_id := Nat.ne_of_lt (before.ids_fresh id hid)
    refine hne (hunique before.next_id ?_ id ?_ ?_ ?_)
    · rw [Store.create_ids]
      exact List.mem_append_right _ (List.mem_singleton_self _)
    · rw [Store.create_ids]
      exact List.mem_append_left _ hid
    · rwa [Store.create_row_new]
    · rw [Store.create_row_new, hold id hid, hsame]
  · intro hfree id hid other hother hkey hsame
    rw [Store.create_ids] at hid hother
    obtain hid | hid := List.mem_append.mp hid
    · obtain hother | hother := List.mem_append.mp hother
      · rw [hold id hid] at hkey hsame
        rw [hold other hother] at hsame
        exact h id hid other hother hkey hsame
      · rw [List.mem_singleton.mp hother, Store.create_row_new, hold id hid] at hsame
        rw [hold id hid, ← hsame] at hkey
        exact absurd hsame.symm (hfree hkey id hid)
    · rw [List.mem_singleton.mp hid, Store.create_row_new] at hkey hsame
      obtain hother | hother := List.mem_append.mp hother
      · rw [hold other hother] at hsame
        exact absurd hsame (hfree hkey other hother)
      · rw [List.mem_singleton.mp hid, List.mem_singleton.mp hother]

/-- Creating a batch gives keys to the new records only. -/
theorem Rewrites.createAll (table : Store α) (records : List α) :
    Rewrites key table (table.createAll records) (List.range' table.next_id records.length) := by
  constructor
  · intro id hid
    rw [table.createAll_ids]
    exact List.mem_append_right _ hid
  · intro id hid hnew
    rw [table.createAll_ids] at hid
    have hold := (List.mem_append.mp hid).resolve_right hnew
    exact ⟨hold, by rw [table.createAll_row_of_mem records hold]⟩

/-- The check of a created batch passes when it sees no clash of a new record, with
one that was there before or with another new one. -/
theorem CheckPasses.createAll_iff (table : Store α) (records : List α) :
    CheckPasses key visible (List.range' table.next_id records.length) (table.createAll records) ↔
      (∀ record ∈ records, key record ≠ none → ∀ id ∈ table.ids, key (table.row id) = key record →
          visible (table.row id) = false) ∧
        ∀ (i j : Nat) first second, records[i]? = some first → records[j]? = some second → j ≠ i →
          key first ≠ none →
          key second = key first → visible second = false := by
  have hids : ∀ {id}, id ∈ (table.createAll records).ids ↔
      id ∈ table.ids ∨ id ∈ List.range' table.next_id records.length := by
    intro id
    rw [table.createAll_ids, List.mem_append]
  constructor
  · intro hpasses
    refine ⟨fun record hrecord hkey id hid hsame => ?_, fun i j first second hfirst hsecond hne hkey hsame => ?_⟩
    · obtain ⟨i, hi⟩ := List.mem_iff_getElem?.mp hrecord
      have hrow := table.createAll_row_new hi
      have hold := table.createAll_row_of_mem records hid
      rw [← hold]
      refine hpasses (table.next_id + i) (table.mem_batch_iff.mpr ⟨i, record, hi, rfl⟩) id
        ⟨hids.mpr (Or.inl hid), ?_, ?_, ?_⟩
      · have hlt := table.ids_fresh id hid
        omega
      · rwa [hrow]
      · rw [hrow, hold, hsame]
    · have hfirstRow := table.createAll_row_new hfirst
      have hsecondRow := table.createAll_row_new hsecond
      rw [← hsecondRow]
      refine hpasses (table.next_id + i) (table.mem_batch_iff.mpr ⟨i, first, hfirst, rfl⟩) (table.next_id + j)
        ⟨hids.mpr (Or.inr (table.mem_batch_iff.mpr ⟨j, second, hsecond, rfl⟩)), ?_, ?_, ?_⟩
      · omega
      · rwa [hfirstRow]
      · rw [hfirstRow, hsecondRow, hsame]
  · rintro ⟨hunheld, hdistinct⟩ id hid other ⟨hother, hne, hkey, hsame⟩
    obtain ⟨i, first, hfirst, rfl⟩ := table.mem_batch_iff.mp hid
    rw [table.createAll_row_new hfirst] at hkey hsame
    obtain hold | hnew := hids.mp hother
    · rw [table.createAll_row_of_mem records hold] at hsame ⊢
      exact hunheld first (List.mem_of_getElem? hfirst) hkey other hold hsame
    · obtain ⟨j, second, hsecond, rfl⟩ := table.mem_batch_iff.mp hnew
      rw [table.createAll_row_new hsecond] at hsame ⊢
      exact hdistinct i j first second hfirst hsecond (by omega) hkey hsame

end relational

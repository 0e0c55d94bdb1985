import Getupnet.Relational.Uniqueness

namespace relational

variable {α κ : Type} [DecidableEq κ] {key : α → Option κ} {table after : Store α} {value other : κ} {id : Nat}
  {record : α}

/-- The records that have the key. -/
def Store.holding (self : Store α) (key : α → Option κ) (value : κ) : List Nat :=
  self.search fun record => decide (key record = some value)

theorem Store.mem_holding : id ∈ table.holding key value ↔ id ∈ table.ids ∧ key (table.row id) = some value := by
  rw [Store.holding, Store.mem_search, decide_eq_true_eq]

/-- A unique key is held once. -/
theorem UniqueKey.holding_eq (h : UniqueKey key table) (hid : id ∈ table.holding key value) :
    table.holding key value = [id] := by
  obtain ⟨hmem, hkey⟩ := Store.mem_holding.mp hid
  refine List.perm_singleton.mp ((List.perm_ext_iff_of_nodup (table.search_nodup _) (List.nodup_singleton id)).mpr ?_)
  intro found
  rw [List.mem_singleton]
  constructor
  · intro hfound
    obtain ⟨hother, hsame⟩ := Store.mem_holding.mp hfound
    have hset : key (table.row id) ≠ none := by
      rw [hkey]
      exact Option.some_ne_none value
    exact h id hmem found hother hset (hsame.trans hkey.symm)
  · rintro rfl
    exact hid

/-- A table is unique in its key when no key is held twice. -/
theorem UniqueKey.of_holding (h : ∀ value, (table.holding key value).length ≤ 1) : UniqueKey key table := by
  intro id hid other hother hset hsame
  obtain ⟨value, hvalue⟩ := Option.ne_none_iff_exists'.mp hset
  have hone := (Store.search_length_le_one_iff _ _).mp (h value)
  exact (hone id hid other hother (decide_eq_true hvalue) (decide_eq_true (hsame.trans hvalue))).symm

/-- A new record holds its own key, on top of those that hold it. -/
theorem Store.holding_create (table : Store α) (key : α → Option κ) (record : α) (value : κ) :
    (table.create record).holding key value =
      table.holding key value ++ if key record = some value then [table.next_id] else [] := by
  have hold : (table.ids.filter fun id => decide (key ((table.create record).row id) = some value)) =
      table.holding key value := by
    refine List.filter_congr fun id hid => ?_
    rw [Store.create_row_of_lt _ (table.ids_fresh id hid)]
  have hsplit : (table.create record).holding key value = table.holding key value ++
      [table.next_id].filter fun id => decide (key ((table.create record).row id) = some value) := by
    rw [Store.holding, Store.search, Store.create_ids, List.filter_append, hold]
  rw [hsplit]
  by_cases hkey : key record = some value
  · simp [hkey]
  · simp [hkey]

/-- Records that keep their keys hold them. -/
theorem Store.holding_congr (hids : after.ids = table.ids)
    (hkeys : ∀ id ∈ table.ids, key (after.row id) = key (table.row id)) (value : κ) :
    after.holding key value = table.holding key value := by
  rw [Store.holding, Store.holding, Store.search, Store.search, hids]
  exact List.filter_congr fun id hid => by rw [hkeys id hid]

/-- A new record whose key nobody holds keeps the key unique. -/
theorem UniqueKey.create (h : UniqueKey key table)
    (hfree : ∀ value, key record = some value → table.holding key value = []) :
    UniqueKey key (table.create record) := by
  refine .of_holding fun value => ?_
  rw [Store.holding_create]
  split
  · rename_i hkey
    rw [hfree value hkey]
    exact Nat.le_refl 1
  · rw [List.append_nil]
    cases hheld : table.holding key value with
    | nil => exact Nat.zero_le 1
    | cons first rest =>
      have hone := h.holding_eq (hheld ▸ List.mem_cons_self : first ∈ table.holding key value)
      rw [← hheld, hone]
      exact Nat.le_refl 1

omit [DecidableEq κ] in
theorem UniqueKey.congr (h : UniqueKey key table) (hids : after.ids = table.ids)
    (hkeys : ∀ id ∈ table.ids, key (after.row id) = key (table.row id)) : UniqueKey key after := by
  refine h.of_kept fun id hid => ?_
  rw [hids] at hid
  exact ⟨hid, hkeys id hid⟩

/-- What a search for a key finds in any order, if all that hold it are visible. -/
theorem UniqueKey.search_eq {order : List Nat → List Nat} {visible : α → Bool} (h : UniqueKey key table)
    (horder : ∀ ids, (order ids).Perm ids)
    (hvisible : ∀ id ∈ table.holding key value, visible (table.row id) = true) :
    order (table.search fun record => decide (key record = some value) && visible record) =
      table.holding key value := by
  have hall : (table.search fun record => decide (key record = some value) && visible record) =
      table.holding key value := by
    refine List.filter_congr fun id hid => ?_
    dsimp only
    by_cases hkey : key (table.row id) = some value
    · rw [hvisible id (Store.mem_holding.mpr ⟨hid, hkey⟩), Bool.and_true]
    · rw [decide_eq_false hkey, Bool.false_and]
  rw [hall]
  cases hheld : table.holding key value with
  | nil => exact List.perm_nil.mp (horder [])
  | cons first rest =>
    have hone := h.holding_eq (hheld ▸ List.mem_cons_self : first ∈ table.holding key value)
    rw [← hheld, hone]
    exact List.perm_singleton.mp (horder [first])

end relational

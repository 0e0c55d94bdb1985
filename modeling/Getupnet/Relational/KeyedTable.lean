import Mathlib.Logic.Function.Basic

namespace relational

/-- A table of a remote device whose entries are named by a key. Its commands
fail exactly on the wrong presence of the key. -/
@[ext]
structure KeyedTable (κ ν : Type) where
  find : κ → Option ν

variable {κ ν : Type} [DecidableEq κ]

/-- A table with one key's entry replaced, added or removed. -/
def KeyedTable.update (self : KeyedTable κ ν) (key : κ) (entry : Option ν) : KeyedTable κ ν :=
  ⟨Function.update self.find key entry⟩

@[simp] theorem KeyedTable.update_find_self (self : KeyedTable κ ν) (key : κ) (entry : Option ν) :
    (self.update key entry).find key = entry := Function.update_self _ _ _

@[simp] theorem KeyedTable.update_find (self : KeyedTable κ ν) (key : κ) :
    self.update key (self.find key) = self :=
  KeyedTable.ext (Function.update_eq_self _ _)

/-- Adding an entry is rejected, as `none`, when the key is taken. -/
def KeyedTable.add (self : KeyedTable κ ν) (key : κ) (entry : ν) : Option (KeyedTable κ ν) :=
  match self.find key with
  | none => some (self.update key (some entry))
  | some _ => none

/-- Changing an entry is rejected when the key is absent. -/
def KeyedTable.set (self : KeyedTable κ ν) (key : κ) (change : ν → ν) : Option (KeyedTable κ ν) :=
  match self.find key with
  | none => none
  | some entry => some (self.update key (some (change entry)))

/-- Removing an entry is rejected when the key is absent. -/
def KeyedTable.remove (self : KeyedTable κ ν) (key : κ) : Option (KeyedTable κ ν) :=
  match self.find key with
  | none => none
  | some _ => some (self.update key none)

section

variable {self after : KeyedTable κ ν} {key other : κ}

theorem KeyedTable.update_find_ne (self : KeyedTable κ ν) (h : other ≠ key) (entry : Option ν) :
    (self.update key entry).find other = self.find other := Function.update_of_ne h _ _

/-- An accepted addition leaves every other entry alone. -/
theorem KeyedTable.add_find_ne {entry : ν} (hadd : self.add key entry = some after) (h : other ≠ key) :
    after.find other = self.find other := by
  unfold KeyedTable.add at hadd
  split at hadd
  · cases hadd
    exact self.update_find_ne h _
  · cases hadd

theorem KeyedTable.set_find_ne {change : ν → ν} (hset : self.set key change = some after) (h : other ≠ key) :
    after.find other = self.find other := by
  unfold KeyedTable.set at hset
  split at hset
  · cases hset
  · cases hset
    exact self.update_find_ne h _

theorem KeyedTable.remove_find_ne (hremove : self.remove key = some after) (h : other ≠ key) :
    after.find other = self.find other := by
  unfold KeyedTable.remove at hremove
  split at hremove
  · cases hremove
  · cases hremove
    exact self.update_find_ne h _

end

/-- The outcome of adding an entry and falling back to changing the one there is. -/
def KeyedTable.ensure (self : KeyedTable κ ν) (key : κ) (entry : ν) (change : ν → ν) : KeyedTable κ ν :=
  self.update key (some ((self.find key).elim entry change))

/-- The outcome of changing an entry if there is one. -/
def KeyedTable.adjust (self : KeyedTable κ ν) (key : κ) (change : ν → ν) : KeyedTable κ ν :=
  self.update key ((self.find key).map change)

/-- The outcome of removing an entry if there is one. -/
def KeyedTable.discard (self : KeyedTable κ ν) (key : κ) : KeyedTable κ ν :=
  self.update key none

@[simp] theorem KeyedTable.ensure_find_self (self : KeyedTable κ ν) (key : κ) (entry : ν) (change : ν → ν) :
    (self.ensure key entry change).find key = some ((self.find key).elim entry change) :=
  self.update_find_self _ _

@[simp] theorem KeyedTable.adjust_find_self (self : KeyedTable κ ν) (key : κ) (change : ν → ν) :
    (self.adjust key change).find key = (self.find key).map change := self.update_find_self _ _

/-- Adding to a table and setting on rejection never ends in a rejection. -/
theorem KeyedTable.add_or_set (self : KeyedTable κ ν) (key : κ) (entry : ν) (change : ν → ν) :
    self.add key entry = some (self.ensure key entry change) ∨
      self.add key entry = none ∧ self.set key change = some (self.ensure key entry change) := by
  cases hfind : self.find key <;> simp [KeyedTable.add, KeyedTable.set, KeyedTable.ensure, hfind]

/-- A change is accepted with the outcome of `adjust`, or rejected when that
outcome is the table itself. -/
theorem KeyedTable.set_or_unchanged (self : KeyedTable κ ν) (key : κ) (change : ν → ν) :
    self.set key change = some (self.adjust key change) ∨
      self.set key change = none ∧ self.adjust key change = self := by
  cases hfind : self.find key with
  | none =>
    have hsame := self.update_find key
    rw [hfind] at hsame
    simp [KeyedTable.set, KeyedTable.adjust, hfind, hsame]
  | some entry => simp [KeyedTable.set, KeyedTable.adjust, hfind]

/-- A removal is accepted with the outcome of `discard`, or rejected when that
outcome is the table itself. -/
theorem KeyedTable.remove_or_unchanged (self : KeyedTable κ ν) (key : κ) :
    self.remove key = some (self.discard key) ∨
      self.remove key = none ∧ self.discard key = self := by
  cases hfind : self.find key with
  | none =>
    have hsame := self.update_find key
    rw [hfind] at hsame
    simp [KeyedTable.remove, KeyedTable.discard, hfind, hsame]
  | some entry => simp [KeyedTable.remove, KeyedTable.discard, hfind]

theorem KeyedTable.update_update (self : KeyedTable κ ν) (key : κ) (first second : Option ν) :
    (self.update key first).update key second = self.update key second :=
  KeyedTable.ext (Function.update_idem _ _ _)

theorem KeyedTable.discard_discard (self : KeyedTable κ ν) (key : κ) :
    (self.discard key).discard key = self.discard key := self.update_update key _ _

/-- Changing an entry twice is one change. -/
theorem KeyedTable.adjust_adjust (self : KeyedTable κ ν) (key : κ) (first second : ν → ν) :
    (self.adjust key first).adjust key second = self.adjust key (fun entry => second (first entry)) := by
  rw [KeyedTable.adjust, KeyedTable.adjust_find_self, KeyedTable.adjust, KeyedTable.update_update, Option.map_map]
  rfl

/-- A change that keeps the entry, if there is one, keeps the table. -/
theorem KeyedTable.adjust_unchanged {self : KeyedTable κ ν} {key : κ} {change : ν → ν}
    (h : ∀ entry, self.find key = some entry → change entry = entry) : self.adjust key change = self := by
  have hsame : (self.find key).map change = self.find key := by
    cases hfind : self.find key with
    | none => rfl
    | some entry => rw [Option.map_some, h entry hfind]
  rw [KeyedTable.adjust, hsame, KeyedTable.update_find]

/-- An entry that is there and that the change keeps is ensured already. -/
theorem KeyedTable.ensure_unchanged {self : KeyedTable κ ν} {key : κ} {entry present : ν} {change : ν → ν}
    (hfind : self.find key = some present) (h : change present = present) :
    self.ensure key entry change = self := by
  rw [KeyedTable.ensure, hfind, Option.elim_some, h, ← hfind, KeyedTable.update_find]

/-- Ensuring an entry after it was changed is ensuring it, when the later change
overwrites the earlier one. -/
theorem KeyedTable.ensure_adjust {self : KeyedTable κ ν} {key : κ} {entry : ν} {first second : ν → ν}
    (h : ∀ present, second (first present) = second present) :
    (self.adjust key first).ensure key entry second = self.ensure key entry second := by
  rw [KeyedTable.ensure, KeyedTable.adjust_find_self, KeyedTable.adjust, KeyedTable.update_update, KeyedTable.ensure]
  cases self.find key with
  | none => rfl
  | some present => rw [Option.map_some, Option.elim_some, Option.elim_some, h]

/-- Ensuring an entry twice is ensuring it once. -/
theorem KeyedTable.ensure_ensure {self : KeyedTable κ ν} {key : κ} {entry : ν} {change : ν → ν}
    (hentry : change entry = entry) (hchange : ∀ present, change (change present) = change present) :
    (self.ensure key entry change).ensure key entry change = self.ensure key entry change := by
  apply KeyedTable.ensure_unchanged (KeyedTable.ensure_find_self _ _ _ _)
  cases self.find key with
  | none => exact hentry
  | some present => exact hchange present

theorem KeyedTable.ensure_find_ne (self : KeyedTable κ ν) {key other : κ} (h : other ≠ key) (entry : ν)
    (change : ν → ν) : (self.ensure key entry change).find other = self.find other :=
  self.update_find_ne h _

/-- The entries of a table are only changed in an allowed way exactly when the one that
is ensured is. -/
theorem KeyedTable.ensure_changes_iff (self : KeyedTable κ ν) (key : κ) (entry : ν) (change : ν → ν)
    (allowed : ν → ν → Prop) (hrefl : ∀ present, allowed present present) :
    (∀ other present, self.find other = some present →
        ∃ later, (self.ensure key entry change).find other = some later ∧ allowed present later) ↔
      ∀ present, self.find key = some present → allowed present (change present) := by
  constructor
  · intro h present hfind
    obtain ⟨later, hlater, hallowed⟩ := h key present hfind
    rw [KeyedTable.ensure_find_self, hfind, Option.elim_some, Option.some.injEq] at hlater
    exact hlater ▸ hallowed
  · intro h other present hfind
    by_cases hsame : other = key
    · subst hsame
      refine ⟨change present, ?_, h present hfind⟩
      rw [KeyedTable.ensure_find_self, hfind, Option.elim_some]
    · exact ⟨present, (self.ensure_find_ne hsame entry change).trans hfind, hrefl present⟩

/-- Ensuring an entry adds none exactly when it is there already. -/
theorem KeyedTable.ensure_adds_none_iff (self : KeyedTable κ ν) (key : κ) (entry : ν) (change : ν → ν) :
    (∀ other, self.find other = none → (self.ensure key entry change).find other = none) ↔
    self.find key ≠ none := by
  constructor
  · intro h hnone
    have hadded := h key hnone
    rw [KeyedTable.ensure_find_self] at hadded
    cases hadded
  · intro hpresent other hnone
    have hother : other ≠ key := fun hsame => hpresent (hsame ▸ hnone)
    exact (self.ensure_find_ne hother entry change).trans hnone

/-- Ensuring an entry changes nothing exactly when it is there as it would be changed. -/
theorem KeyedTable.ensure_eq_self_iff (self : KeyedTable κ ν) (key : κ) (entry : ν) (change : ν → ν) :
    self.ensure key entry change = self ↔ ∃ present, self.find key = some present ∧ change present = present := by
  constructor
  · intro hsame
    have hfind := self.ensure_find_self key entry change
    rw [hsame] at hfind
    cases hpresent : self.find key with
    | none =>
      rw [hpresent] at hfind
      cases hfind
    | some present =>
      rw [hpresent, Option.elim_some] at hfind
      exact ⟨present, rfl, (Option.some.inj hfind).symm⟩
  · rintro ⟨present, hfind, hchange⟩
    exact KeyedTable.ensure_unchanged hfind hchange

end relational

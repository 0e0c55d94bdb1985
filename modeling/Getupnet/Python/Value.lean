import Mathlib.Data.List.Basic

namespace python

/-- The values of configuration files and of remote calls. `other` stands for one of
another type, such as a number with a fraction or a date, by its truth value and
its text. -/
inductive Value where
  | none
  | bool (value : Bool)
  | int (value : Int)
  | str (text : String)
  | list (items : List Value)
  | dict (entries : List (String × Value))
  | other (truth : Bool) (text : String)

/-- The entries of a dictionary, in the order in which its keys were added. -/
abbrev Dict : Type := List (String × Value)

/-- What operations raise on a value of the wrong type, or without the key. -/
inductive Raised where
  | attribute_error
  | type_error
  | key_error (key : String)
  deriving DecidableEq

/-- The truth value. -/
def Value.truthy : Value → Bool
  | .none => false
  | .bool value => value
  | .int value => value != 0
  | .str text => text != ""
  | .list items => !items.isEmpty
  | .dict entries => !entries.isEmpty
  | .other truth _ => truth

/-- `self is None` -/
def Value.isNone : Value → Bool
  | .none => true
  | _ => false

/-- `entries[key] = value`, in place where the key is there. -/
def Dict.set (key : String) (value : Value) : Dict → Dict
  | [] => [(key, value)]
  | (other, old) :: rest => if other = key then (key, value) :: rest else (other, old) :: Dict.set key value rest

/-- `self.get(key, default)` -/
def Value.get (self : Value) (key : String) (default : Value) : Except Raised Value :=
  match self with
  | .dict entries => .ok ((entries.lookup key).getD default)
  | _ => .error .attribute_error

/-- `self[key]` -/
def Value.item (self : Value) (key : String) : Except Raised Value :=
  match self with
  | .dict entries =>
    match entries.lookup key with
    | some value => .ok value
    | Option.none => .error (.key_error key)
  | _ => .error .type_error

/-- `self or other` -/
def Value.orElse (self other : Value) : Value := if self.truthy then self else other

/-- `(self or {}).items()` -/
def Value.itemsOrEmpty (self : Value) : Except Raised Dict :=
  if self.truthy then
    match self with
    | .dict entries => .ok entries
    | _ => .error .attribute_error
  else .ok []

mutual

/-- Each dictionary of a value has each key once. -/
def Value.UniqueKeys : Value → Prop
  | .dict entries => (entries.map Prod.fst).Nodup ∧ Dict.UniqueKeys entries
  | _ => True

def Dict.UniqueKeys : List (String × Value) → Prop
  | [] => True
  | entry :: rest => entryUniqueKeys entry ∧ Dict.UniqueKeys rest

def entryUniqueKeys : String × Value → Prop
  | (_, value) => value.UniqueKeys

end

mutual

/-- `None` is the value or somewhere in it. -/
def Value.hasNone : Value → Bool
  | .none => true
  | .list items => itemsHaveNone items
  | .dict entries => Dict.hasNone entries
  | _ => false

def itemsHaveNone : List Value → Bool
  | [] => false
  | item :: rest => item.hasNone || itemsHaveNone rest

def Dict.hasNone : List (String × Value) → Bool
  | [] => false
  | entry :: rest => entryHasNone entry || Dict.hasNone rest

def entryHasNone : String × Value → Bool
  | (_, value) => value.hasNone

end

/-- What a remote call carries of a value. The protocol has nothing for `None`. -/
def marshal (value : Value) : Except String Value :=
  if value.hasNone then .error "cannot marshal None unless allow_none is enabled" else .ok value

section

variable {key other : String} {value : Value} {entries : Dict}

theorem Dict.lookup_cons (first : String) (old : Value) (rest : Dict) (key : String) :
    List.lookup key ((first, old) :: rest) = if key = first then some old else rest.lookup key := by
  rw [List.lookup_cons]
  by_cases h : key = first
  · rw [h, beq_self_eq_true, if_pos rfl]
  · rw [beq_eq_false_iff_ne.mpr h, if_neg h]

theorem Dict.lookup_eq_none_iff : entries.lookup key = none ↔ key ∉ entries.map Prod.fst := by
  induction entries with
  | nil => simp
  | cons entry rest ih =>
    obtain ⟨first, old⟩ := entry
    rw [Dict.lookup_cons, List.map_cons, List.mem_cons, not_or, ← ih]
    split
    · rename_i hkey
      simp [hkey]
    · rename_i hkey
      simp [hkey]

@[simp] theorem Dict.lookup_set_self (key : String) (value : Value) (entries : Dict) :
    (Dict.set key value entries).lookup key = some value := by
  induction entries with
  | nil =>
    rw [Dict.set, Dict.lookup_cons, if_pos rfl]
  | cons entry rest ih =>
    obtain ⟨first, old⟩ := entry
    rw [Dict.set]
    split
    · rw [Dict.lookup_cons, if_pos rfl]
    · rename_i hne
      rw [Dict.lookup_cons, if_neg (Ne.symm hne), ih]

theorem Dict.lookup_set_ne (h : other ≠ key) (value : Value) (entries : Dict) :
    (Dict.set key value entries).lookup other = entries.lookup other := by
  induction entries with
  | nil => rw [Dict.set, Dict.lookup_cons, if_neg h]
  | cons entry rest ih =>
    obtain ⟨first, old⟩ := entry
    rw [Dict.set]
    split
    · rename_i hfirst
      rw [Dict.lookup_cons, Dict.lookup_cons, hfirst, if_neg h, if_neg h]
    · rw [Dict.lookup_cons, Dict.lookup_cons, ih]

/-- A new key comes last. -/
theorem Dict.set_of_notMem (h : key ∉ entries.map Prod.fst) (value : Value) :
    Dict.set key value entries = entries ++ [(key, value)] := by
  induction entries with
  | nil => rfl
  | cons entry rest ih =>
    obtain ⟨first, old⟩ := entry
    obtain ⟨hne, hrest⟩ := not_or.mp (mt List.mem_cons.mpr h)
    rw [Dict.set, if_neg (Ne.symm hne), ih hrest, List.cons_append]

/-- Setting a key to what it has already changes nothing. -/
theorem Dict.set_eq_self_iff : Dict.set key value entries = entries ↔ entries.lookup key = some value := by
  constructor
  · intro h
    rw [← h, Dict.lookup_set_self]
  · intro h
    induction entries with
    | nil => cases h
    | cons entry rest ih =>
      obtain ⟨first, old⟩ := entry
      rw [Dict.lookup_cons] at h
      rw [Dict.set]
      split
      · rename_i hfirst
        rw [if_pos hfirst.symm] at h
        rw [hfirst, Option.some.inj h]
      · rename_i hne
        rw [if_neg (Ne.symm hne)] at h
        rw [ih h]

/-- A key that is set twice has the later value. -/
theorem Dict.set_set (key : String) (first second : Value) (entries : Dict) :
    Dict.set key second (Dict.set key first entries) = Dict.set key second entries := by
  induction entries with
  | nil => simp [Dict.set]
  | cons entry rest ih =>
    obtain ⟨other, old⟩ := entry
    by_cases h : other = key
    · simp [Dict.set, h]
    · simp [Dict.set, h, ih]

theorem Dict.lookup_of_mem (hnodup : (entries.map Prod.fst).Nodup) (h : (key, value) ∈ entries) :
    entries.lookup key = some value := by
  induction entries with
  | nil => cases h
  | cons entry rest ih =>
    obtain ⟨first, old⟩ := entry
    obtain ⟨hfirst, hrest⟩ := List.nodup_cons.mp hnodup
    rw [Dict.lookup_cons]
    obtain heq | hin := List.mem_cons.mp h
    · obtain ⟨rfl, rfl⟩ := Prod.mk.inj heq
      rw [if_pos rfl]
    · have hne : key ≠ first := by
        rintro rfl
        exact hfirst (List.mem_map.mpr ⟨(key, value), hin, rfl⟩)
      rw [if_neg hne, ih hrest hin]

theorem Dict.mem_of_lookup (h : entries.lookup key = some value) : (key, value) ∈ entries := by
  obtain ⟨before, rest, rfl, -⟩ := List.lookup_eq_some_iff.mp h
  exact List.mem_append_right before List.mem_cons_self

theorem Dict.UniqueKeys.lookup (h : Dict.UniqueKeys entries) (hlookup : entries.lookup key = some value) :
    value.UniqueKeys := by
  induction entries with
  | nil => cases hlookup
  | cons entry rest ih =>
    obtain ⟨first, old⟩ := entry
    rw [Dict.lookup_cons] at hlookup
    split at hlookup
    · cases hlookup
      exact h.1
    · exact ih h.2 hlookup

theorem Dict.UniqueKeys.getD (h : Dict.UniqueKeys entries) (key : String) {default : Value}
    (hdefault : default.UniqueKeys) : ((entries.lookup key).getD default).UniqueKeys := by
  cases hlookup : entries.lookup key with
  | none => exact hdefault
  | some value => exact h.lookup hlookup

theorem Value.itemsOrEmpty_ok {src : Value} (h : src.itemsOrEmpty = .ok entries) :
    src = .dict entries ∨ (∀ items, src ≠ .dict items) ∧ entries = [] := by
  unfold Value.itemsOrEmpty at h
  by_cases htruthy : src.truthy
  · rw [if_pos htruthy] at h
    cases src with
    | dict items =>
      cases h
      exact .inl rfl
    | none | bool | int | str | list | other => cases h
  · rw [if_neg htruthy] at h
    cases h
    cases src with
    | dict items =>
      rw [Value.truthy, Bool.not_eq_true, Bool.not_eq_false', List.isEmpty_iff] at htruthy
      rw [htruthy]
      exact .inl rfl
    | none | bool | int | str | list | other => exact .inr ⟨fun _ => nofun, rfl⟩

theorem Value.itemsOrEmpty_of_truthy {src : Value} (htruthy : src.truthy) (h : src.itemsOrEmpty = .ok entries) :
    src = .dict entries := by
  unfold Value.itemsOrEmpty at h
  rw [if_pos htruthy] at h
  cases src with
  | dict items =>
    cases h
    rfl
  | none | bool | int | str | list | other => cases h

theorem Value.UniqueKeys.items {src : Value} (h : src.UniqueKeys) (hitems : src.itemsOrEmpty = .ok entries) :
    (Value.dict entries).UniqueKeys := by
  obtain rfl | ⟨-, rfl⟩ := Value.itemsOrEmpty_ok hitems
  · exact h
  · exact ⟨List.nodup_nil, trivial⟩

end

end python

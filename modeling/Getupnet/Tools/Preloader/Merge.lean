import Getupnet.Python.Value
import Getupnet.Relational.Transaction

open python relational

namespace getupnet.mikrotik_preloader

mutual

/-- `_merge_dict(dst, src)`, given the items of `src`: what it raises, and what it has
made of `dst` by then. -/
def merge_dict : List (String × Value) → Value → Except Raised Unit × Value
  | [], dst => (.ok (), dst)
  | entry :: rest, dst =>
    match merge_entry entry dst with
    | (.ok _, after) => merge_dict rest after
    | (.error exception, after) => (.error exception, after)

def merge_entry : String × Value → Value → Except Raised Unit × Value
  | (key, value), dst => merge_value key value dst

/-- The body of the loop: a dictionary is merged into what `dst` has under its key,
which `setdefault` provides, and another value is assigned. -/
def merge_value (key : String) : Value → Value → Except Raised Unit × Value
  | .none, dst => (.ok (), dst)
  | .dict entries, .dict fields =>
    let merged := merge_dict entries ((fields.lookup key).getD (.dict []))
    (merged.1, .dict (Dict.set key merged.2 fields))
  | .dict _, dst => (.error .attribute_error, dst)
  | value, .dict fields => (.ok (), .dict (Dict.set key value fields))
  | _, dst => (.error .type_error, dst)

end

mutual

/-- Wherever the items have a dictionary, `dst` has one or nothing. -/
def Fits : List (String × Value) → Value → Prop
  | [], _ => True
  | entry :: rest, dst => EntryFits entry dst ∧ Fits rest dst

def EntryFits : String × Value → Value → Prop
  | (key, value), dst => ValueFits key value dst

def ValueFits (key : String) : Value → Value → Prop
  | .none, _ => True
  | .dict entries, .dict fields => Fits entries ((fields.lookup key).getD (.dict []))
  | .dict _, _ => False
  | _, .dict _ => True
  | _, _ => False

end

mutual

/-- All items are in `dst` already. -/
def AlreadyIn : List (String × Value) → Value → Prop
  | [], _ => True
  | entry :: rest, dst => EntryIn entry dst ∧ AlreadyIn rest dst

def EntryIn : String × Value → Value → Prop
  | (key, value), dst => ValueIn key value dst

def ValueIn (key : String) : Value → Value → Prop
  | .none, _ => True
  | .dict entries, .dict fields => ∃ old, fields.lookup key = some old ∧ AlreadyIn entries old
  | .dict _, _ => False
  | value, .dict fields => fields.lookup key = some value
  | _, _ => False

end

mutual

/-- There is an item that does not fit, and those before it are in `dst` already. -/
def StopsEarly : List (String × Value) → Value → Prop
  | [], _ => False
  | entry :: rest, dst => EntryStops entry dst ∨ EntryIn entry dst ∧ StopsEarly rest dst

def EntryStops : String × Value → Value → Prop
  | (key, value), dst => ValueStops key value dst

def ValueStops (key : String) : Value → Value → Prop
  | .none, _ => False
  | .dict entries, .dict fields => ∃ old, fields.lookup key = some old ∧ StopsEarly entries old
  | .dict _, _ => True
  | _, .dict _ => False
  | _, _ => True

end

section

variable {key other : String} {value dst : Value} {entries fields : Dict}

/-- A merge of one key into a dictionary leaves one with the other keys as they are. -/
theorem merge_value_dict (key : String) (value : Value) (fields : Dict) :
    ∃ after : Dict, (merge_value key value (.dict fields)).2 = .dict after ∧
      ∀ other, other ≠ key → after.lookup other = fields.lookup other := by
  cases value with
  | none => exact ⟨fields, rfl, fun _ _ => rfl⟩
  | dict entries => exact ⟨_, rfl, fun _ h => Dict.lookup_set_ne h _ _⟩
  | bool | int | str | list | other => exact ⟨_, rfl, fun _ h => Dict.lookup_set_ne h _ _⟩

theorem merge_dict_cons_ok {entry : String × Value} (h : (merge_entry entry dst).1 = .ok ()) :
    merge_dict (entry :: entries) dst = merge_dict entries (merge_entry entry dst).2 := by
  rw [merge_dict]
  cases hentry : merge_entry entry dst with
  | mk result after =>
    rw [hentry] at h
    cases h
    rfl

theorem merge_dict_cons_error {entry : String × Value} {exception : Raised}
    (h : (merge_entry entry dst).1 = .error exception) :
    merge_dict (entry :: entries) dst = (.error exception, (merge_entry entry dst).2) := by
  rw [merge_dict]
  cases hentry : merge_entry entry dst with
  | mk result after =>
    rw [hentry] at h
    cases h
    rfl

/-- A merge into a dictionary leaves one with the keys that are not merged as they
are, also when it raises. -/
theorem merge_dict_dict (entries fields : Dict) :
    ∃ after : Dict, (merge_dict entries (.dict fields)).2 = .dict after ∧
      ∀ other, other ∉ entries.map Prod.fst → after.lookup other = fields.lookup other := by
  induction entries generalizing fields with
  | nil => exact ⟨fields, rfl, fun _ _ => rfl⟩
  | cons entry rest ih =>
    obtain ⟨key, value⟩ := entry
    obtain ⟨middle, hmiddle, hkept⟩ := merge_value_dict key value fields
    have hentry : (merge_entry (key, value) (.dict fields)).2 = .dict middle := by
      rw [merge_entry]
      exact hmiddle
    cases hresult : (merge_entry (key, value) (.dict fields)).1 with
    | error exception =>
      refine ⟨middle, by rw [merge_dict_cons_error hresult, hentry], fun other hother => hkept other ?_⟩
      rintro rfl
      exact hother List.mem_cons_self
    | ok _ =>
      obtain ⟨after, hafter, hrest⟩ := ih middle
      refine ⟨after, by rw [merge_dict_cons_ok hresult, hentry, hafter], fun other hother => ?_⟩
      rw [List.map_cons, List.mem_cons, not_or] at hother
      rw [hrest other hother.2, hkept other hother.1]

/-- A merge of one key leaves a dictionary as it is, or sets the key. -/
theorem merge_value_writes (key : String) (value : Value) (fields : Dict) :
    (merge_value key value (.dict fields)).2 = .dict fields ∨
      ∃ written, (merge_value key value (.dict fields)).2 = .dict (Dict.set key written fields) := by
  cases value with
  | none => exact .inl rfl
  | dict entries => exact .inr ⟨_, rfl⟩
  | bool | int | str | list | other => exact .inr ⟨_, rfl⟩

/-- What is no dictionary stays as it is. -/
theorem merge_value_not_dict (h : ∀ fields, dst ≠ .dict fields) : (merge_value key value dst).2 = dst := by
  cases dst with
  | dict fields => exact absurd rfl (h fields)
  | none | bool | int | str | list | other => cases value <;> rfl

/-- As long as no key comes twice, a merge that changes nothing has changed nothing
with its first entry. -/
theorem merge_dict_cons_unchanged (hkey : key ∉ entries.map Prod.fst)
    (h : (merge_dict ((key, value) :: entries) dst).2 = dst) : (merge_value key value dst).2 = dst := by
  by_cases hdict : ∃ fields, dst = .dict fields
  · obtain ⟨fields, rfl⟩ := hdict
    cases hresult : (merge_entry (key, value) (.dict fields)).1 with
    | error exception =>
      rw [merge_dict_cons_error hresult] at h
      exact h
    | ok _ =>
      rw [merge_dict_cons_ok hresult] at h
      obtain hsame | ⟨written, hset⟩ := merge_value_writes key value fields
      · exact hsame
      · have hentry : (merge_entry (key, value) (.dict fields)).2 = .dict (Dict.set key written fields) := hset
        rw [hentry] at h
        obtain ⟨after, hafter, hkept⟩ := merge_dict_dict entries (Dict.set key written fields)
        rw [hafter] at h
        have hlookup := hkept key hkey
        rw [Value.dict.inj h, Dict.lookup_set_self] at hlookup
        rw [hset, Dict.set_eq_self_iff.mpr hlookup]
  · exact merge_value_not_dict fun fields hfields => hdict ⟨fields, hfields⟩

/-- How a merge can end with nothing changed: its first entry raises without a change,
or that entry changes nothing and the others end so. -/
theorem merge_dict_cons_eq_iff (hkey : key ∉ entries.map Prod.fst) (result : Except Raised Unit) :
    merge_dict ((key, value) :: entries) dst = (result, dst) ↔
      merge_value key value dst = (result, dst) ∧ result ≠ .ok () ∨
        merge_value key value dst = (.ok (), dst) ∧ merge_dict entries dst = (result, dst) := by
  constructor
  · intro h
    have hfirst : (merge_value key value dst).2 = dst := merge_dict_cons_unchanged hkey (congrArg Prod.snd h)
    cases hresult : (merge_value key value dst).1 with
    | error exception =>
      have hentry : (merge_entry (key, value) dst).1 = .error exception := hresult
      rw [merge_dict_cons_error hentry] at h
      have hexception := (Prod.mk.inj h).1
      left
      refine ⟨Prod.ext (hresult.trans hexception) hfirst, ?_⟩
      rw [← hexception]
      simp
    | ok _ =>
      have hentry : (merge_entry (key, value) dst).1 = .ok () := hresult
      have hmiddle : (merge_entry (key, value) dst).2 = dst := hfirst
      rw [merge_dict_cons_ok hentry, hmiddle] at h
      exact .inr ⟨Prod.ext hresult hfirst, h⟩
  · rintro (⟨hfirst, hraised⟩ | ⟨hfirst, hrest⟩)
    · cases result with
      | ok _ => exact absurd rfl hraised
      | error exception =>
        have hentry : merge_entry (key, value) dst = (.error exception, dst) := hfirst
        rw [merge_dict_cons_error (congrArg Prod.fst hentry), hentry]
    · have hentry : merge_entry (key, value) dst = (.ok (), dst) := hfirst
      rw [merge_dict_cons_ok (congrArg Prod.fst hentry), hentry, hrest]

/-- A merge of a dictionary under a key changes nothing when the key has a dictionary
that the merge does not change. -/
theorem merge_value_dict_eq_iff (result : Except Raised Unit) :
    merge_value key (.dict entries) (.dict fields) = (result, .dict fields) ↔
      ∃ old, fields.lookup key = some old ∧ merge_dict entries old = (result, old) := by
  rw [merge_value]
  constructor
  · intro h
    obtain ⟨hresult, hfields⟩ := Prod.mk.inj h
    have hset := Dict.set_eq_self_iff.mp (Value.dict.inj hfields)
    cases hlookup : fields.lookup key with
    | none =>
      rw [hlookup] at hset
      cases hset
    | some old =>
      rw [hlookup, Option.getD_some] at hset hresult
      exact ⟨old, rfl, Prod.ext hresult (Option.some.inj hset).symm⟩
  · rintro ⟨old, hlookup, hmerge⟩
    rw [hlookup, Option.getD_some, hmerge, Dict.set_eq_self_iff.mpr hlookup]

end

mutual

/-- A merge returns without a change exactly when all its items are in the dictionary
already. -/
theorem merge_dict_alreadyIn_iff : ∀ (entries : Dict) (dst : Value), (entries.map Prod.fst).Nodup →
    Dict.UniqueKeys entries → (merge_dict entries dst = (.ok (), dst) ↔ AlreadyIn entries dst)
  | [], _, _, _ => ⟨fun _ => trivial, fun _ => rfl⟩
  | (key, value) :: rest, dst, hnodup, hunique => by
    obtain ⟨hkey, hrest⟩ := List.nodup_cons.mp hnodup
    have hentry : merge_value key value dst = (.ok (), dst) ↔ EntryIn (key, value) dst :=
      merge_entry_alreadyIn_iff (key, value) dst hunique.1
    have hothers := merge_dict_alreadyIn_iff rest dst hrest hunique.2
    rw [merge_dict_cons_eq_iff hkey, AlreadyIn, hentry, hothers]
    simp

theorem merge_entry_alreadyIn_iff : ∀ (entry : String × Value) (dst : Value), entryUniqueKeys entry →
    (merge_entry entry dst = (.ok (), dst) ↔ EntryIn entry dst)
  | (key, value), dst, hunique => merge_value_alreadyIn_iff key value dst hunique

theorem merge_value_alreadyIn_iff (key : String) : ∀ (value dst : Value), value.UniqueKeys →
    (merge_value key value dst = (.ok (), dst) ↔ ValueIn key value dst)
  | .dict entries, .dict fields, hunique => by
    rw [merge_value_dict_eq_iff, ValueIn]
    constructor
    · rintro ⟨old, hlookup, hmerge⟩
      exact ⟨old, hlookup, (merge_dict_alreadyIn_iff entries old hunique.1 hunique.2).mp hmerge⟩
    · rintro ⟨old, hlookup, hin⟩
      exact ⟨old, hlookup, (merge_dict_alreadyIn_iff entries old hunique.1 hunique.2).mpr hin⟩
  | .none, _, _ => by simp [merge_value, ValueIn]
  | .bool _, .dict fields, _ | .int _, .dict fields, _ | .str _, .dict fields, _ | .list _, .dict fields, _
  | .other _ _, .dict fields, _ => by simp [merge_value, ValueIn, Dict.set_eq_self_iff]
  | .dict _, .none, _ | .dict _, .bool _, _ | .dict _, .int _, _ | .dict _, .str _, _ | .dict _, .list _, _
  | .dict _, .other _ _, _ => by simp [merge_value, ValueIn]
  | .bool _, dst, _ | .int _, dst, _ | .str _, dst, _ | .list _, dst, _ | .other _ _, dst, _ => by
    cases dst <;> simp [merge_value, ValueIn, Dict.set_eq_self_iff]

end

mutual

/-- A merge raises without a change exactly when it stops early. -/
theorem merge_dict_stopsEarly_iff : ∀ (entries : Dict) (dst : Value), (entries.map Prod.fst).Nodup →
    Dict.UniqueKeys entries →
      ((∃ exception, merge_dict entries dst = (.error exception, dst)) ↔ StopsEarly entries dst)
  | [], _, _, _ => by simp [merge_dict, StopsEarly]
  | (key, value) :: rest, dst, hnodup, hunique => by
    obtain ⟨hkey, hrest⟩ := List.nodup_cons.mp hnodup
    have hentry : merge_value key value dst = (.ok (), dst) ↔ EntryIn (key, value) dst :=
      merge_entry_alreadyIn_iff (key, value) dst hunique.1
    have hstops : (∃ exception, merge_value key value dst = (.error exception, dst)) ↔
      EntryStops (key, value) dst :=
      merge_entry_stopsEarly_iff (key, value) dst hunique.1
    have hothers := merge_dict_stopsEarly_iff rest dst hrest hunique.2
    rw [StopsEarly, ← hstops, ← hothers, ← hentry]
    simp [merge_dict_cons_eq_iff hkey, exists_or]

theorem merge_entry_stopsEarly_iff : ∀ (entry : String × Value) (dst : Value), entryUniqueKeys entry →
    ((∃ exception, merge_entry entry dst = (.error exception, dst)) ↔ EntryStops entry dst)
  | (key, value), dst, hunique => merge_value_stopsEarly_iff key value dst hunique

theorem merge_value_stopsEarly_iff (key : String) : ∀ (value dst : Value), value.UniqueKeys →
    ((∃ exception, merge_value key value dst = (.error exception, dst)) ↔ ValueStops key value dst)
  | .dict entries, .dict fields, hunique => by
    have hentries := fun old => merge_dict_stopsEarly_iff entries old hunique.1 hunique.2
    simp only [merge_value_dict_eq_iff, ValueStops]
    constructor
    · rintro ⟨exception, old, hlookup, hmerge⟩
      exact ⟨old, hlookup, (hentries old).mp ⟨exception, hmerge⟩⟩
    · rintro ⟨old, hlookup, hstops⟩
      obtain ⟨exception, hmerge⟩ := (hentries old).mpr hstops
      exact ⟨exception, old, hlookup, hmerge⟩
  | .none, _, _ => by simp [merge_value, ValueStops]
  | .dict _, .none, _ | .dict _, .bool _, _ | .dict _, .int _, _ | .dict _, .str _, _ | .dict _, .list _, _
  | .dict _, .other _ _, _ => by simp [merge_value, ValueStops]
  | .bool _, dst, _ | .int _, dst, _ | .str _, dst, _ | .list _, dst, _ | .other _ _, dst, _ => by
    cases dst <;> simp [merge_value, ValueStops]

end

mutual

/-- Entries that a dictionary has are in it. -/
theorem alreadyIn_of_lookup : ∀ (entries fields : Dict), Dict.UniqueKeys entries →
    (∀ key value, (key, value) ∈ entries → fields.lookup key = some value) → AlreadyIn entries (.dict fields)
  | [], _, _, _ => trivial
  | (key, value) :: rest, fields, hunique, h =>
    ⟨entryIn_of_lookup (key, value) fields hunique.1 (h key value List.mem_cons_self),
      alreadyIn_of_lookup rest fields hunique.2 fun other old hother =>
        h other old (List.mem_cons_of_mem _ hother)⟩

theorem entryIn_of_lookup : ∀ (entry : String × Value) (fields : Dict), entryUniqueKeys entry →
    fields.lookup entry.1 = some entry.2 → EntryIn entry (.dict fields)
  | (key, value), fields, hunique, h => valueIn_of_lookup key value fields hunique h

theorem valueIn_of_lookup (key : String) : ∀ (value : Value) (fields : Dict), value.UniqueKeys →
    fields.lookup key = some value → ValueIn key value (.dict fields)
  | .dict entries, _, hunique, h =>
    ⟨.dict entries, h, alreadyIn_of_lookup entries entries hunique.2 fun _ _ => Dict.lookup_of_mem hunique.1⟩
  | .none, _, _, _ => trivial
  | .bool _, _, _, h | .int _, _, _, h | .str _, _, _, h | .list _, _, _, h | .other _ _, _, _, h => h

end

/-- What becomes of the entry of a key when a value is merged into it. -/
def merged_entry : Value → Option Value → Except Raised Unit × Option Value
  | .none, old => (.ok (), old)
  | .dict entries, old => ((merge_dict entries (old.getD (.dict []))).1, some (merge_dict entries (old.getD (.dict []))).2)
  | value, _ => (.ok (), some value)

section

variable {key : String} {value dst : Value} {entries fields : Dict}

theorem merge_value_entry (key : String) (value : Value) (fields : Dict) :
    ∃ after : Dict, merge_value key value (.dict fields) = ((merged_entry value (fields.lookup key)).1, .dict after) ∧
      after.lookup key = (merged_entry value (fields.lookup key)).2 ∧
      ∀ other, other ≠ key → after.lookup other = fields.lookup other := by
  cases value with
  | none => exact ⟨fields, rfl, rfl, fun _ _ => rfl⟩
  | dict entries => exact ⟨_, rfl, Dict.lookup_set_self .., fun _ h => Dict.lookup_set_ne h _ _⟩
  | bool | int | str | list | other =>
    exact ⟨_, rfl, Dict.lookup_set_self .., fun _ h => Dict.lookup_set_ne h _ _⟩

/-- A value that is merged into itself stays the same. -/
theorem merged_entry_self (h : value.UniqueKeys) : merged_entry value (some value) = (.ok (), some value) := by
  cases value with
  | dict entries =>
    have hin : AlreadyIn entries (.dict entries) :=
      alreadyIn_of_lookup entries entries h.2 fun _ _ => Dict.lookup_of_mem h.1
    have hmerge := (merge_dict_alreadyIn_iff entries (.dict entries) h.1 h.2).mpr hin
    rw [merged_entry, Option.getD_some, hmerge]
  | none | bool | int | str | list | other => rfl

/-- A merge that returns has merged each item into the entry of its key, and has left
the other entries as they were. -/
theorem merge_dict_lookup (hnodup : (entries.map Prod.fst).Nodup)
    (h : (merge_dict entries (.dict fields)).1 = .ok ()) :
    ∃ after : Dict, (merge_dict entries (.dict fields)).2 = .dict after ∧ ∀ key,
      after.lookup key = match entries.lookup key with
        | none => fields.lookup key
        | some value => (merged_entry value (fields.lookup key)).2 := by
  induction entries generalizing fields with
  | nil => exact ⟨fields, rfl, fun _ => rfl⟩
  | cons entry rest ih =>
    obtain ⟨first, value⟩ := entry
    obtain ⟨hfirst, hrest⟩ := List.nodup_cons.mp hnodup
    obtain ⟨middle, hmerge, hwritten, hkept⟩ := merge_value_entry first value fields
    have hentry : merge_entry (first, value) (.dict fields) =
        ((merged_entry value (fields.lookup first)).1, .dict middle) := hmerge
    cases hresult : (merge_entry (first, value) (.dict fields)).1 with
    | error exception =>
      rw [merge_dict_cons_error hresult] at h
      cases h
    | ok _ =>
      rw [merge_dict_cons_ok hresult, hentry] at h ⊢
      obtain ⟨after, hafter, hlookup⟩ := ih hrest h
      refine ⟨after, hafter, fun key => ?_⟩
      rw [hlookup key, Dict.lookup_cons]
      by_cases hkey : key = first
      · subst hkey
        rw [Dict.lookup_eq_none_iff.mpr hfirst, if_pos rfl]
        exact hwritten
      · rw [if_neg hkey, hkept key hkey]

theorem Fits.lookup (h : Fits entries dst) (hlookup : entries.lookup key = some value) :
    ValueFits key value dst := by
  induction entries with
  | nil => cases hlookup
  | cons entry rest ih =>
    obtain ⟨first, old⟩ := entry
    rw [Dict.lookup_cons] at hlookup
    split at hlookup
    · rename_i hkey
      cases hlookup
      rw [hkey]
      exact h.1
    · exact ih h.2 hlookup

theorem fits_iff_forall : Fits entries dst ↔ ∀ entry ∈ entries, ValueFits entry.1 entry.2 dst := by
  induction entries with
  | nil => simp [Fits]
  | cons entry rest ih => rw [Fits, List.forall_mem_cons, ih, EntryFits]

theorem valueFits_of_lookup {other : Dict} (h : fields.lookup key = other.lookup key) :
    ValueFits key value (.dict fields) ↔ ValueFits key value (.dict other) := by
  cases value with
  | dict entries => rw [ValueFits, ValueFits, h]
  | none | bool | int | str | list | other => exact Iff.rfl

/-- Whether items fit depends on what a dictionary has under their keys only. -/
theorem fits_of_lookup {other : Dict} (h : ∀ key ∈ entries.map Prod.fst, fields.lookup key = other.lookup key) :
    Fits entries (.dict fields) ↔ Fits entries (.dict other) := by
  induction entries with
  | nil => exact Iff.rfl
  | cons entry rest ih =>
    obtain ⟨first, value⟩ := entry
    have hfirst : ValueFits first value (.dict fields) ↔ ValueFits first value (.dict other) :=
      valueFits_of_lookup (h first List.mem_cons_self)
    exact and_congr hfirst (ih fun key hkey => h key (List.mem_cons_of_mem _ hkey))

end

mutual

/-- A merge returns exactly when all its items fit. -/
theorem merge_dict_fits_iff : ∀ (entries : Dict) (dst : Value), (entries.map Prod.fst).Nodup →
    Dict.UniqueKeys entries → ((merge_dict entries dst).1 = .ok () ↔ Fits entries dst)
  | [], _, _, _ => ⟨fun _ => trivial, fun _ => rfl⟩
  | (key, value) :: rest, dst, hnodup, hunique => by
    obtain ⟨hkey, hrest⟩ := List.nodup_cons.mp hnodup
    have hentry := merge_entry_fits_iff (key, value) dst hunique.1
    have hothers := fun after => merge_dict_fits_iff rest after hrest hunique.2
    have hkept : Fits rest (merge_entry (key, value) dst).2 ↔ Fits rest dst := by
      by_cases hdict : ∃ fields, dst = .dict fields
      · obtain ⟨fields, rfl⟩ := hdict
        obtain ⟨middle, hmiddle, hkept⟩ := merge_value_dict key value fields
        rw [merge_entry, hmiddle]
        refine fits_of_lookup fun other hother => hkept other ?_
        rintro rfl
        exact hkey hother
      · rw [merge_entry, merge_value_not_dict fun fields hfields => hdict ⟨fields, hfields⟩]
    rw [Fits, ← hentry]
    cases hresult : (merge_entry (key, value) dst).1 with
    | error exception =>
      rw [merge_dict_cons_error hresult]
      simp
    | ok _ =>
      rw [merge_dict_cons_ok hresult, hothers, hkept]
      simp

theorem merge_entry_fits_iff : ∀ (entry : String × Value) (dst : Value), entryUniqueKeys entry →
    ((merge_entry entry dst).1 = .ok () ↔ EntryFits entry dst)
  | (key, value), dst, hunique => merge_value_fits_iff key value dst hunique

theorem merge_value_fits_iff (key : String) : ∀ (value dst : Value), value.UniqueKeys →
    ((merge_value key value dst).1 = .ok () ↔ ValueFits key value dst)
  | .dict entries, .dict fields, hunique => merge_dict_fits_iff entries _ hunique.1 hunique.2
  | .none, _, _ => by simp [merge_value, ValueFits]
  | .dict _, .none, _ | .dict _, .bool _, _ | .dict _, .int _, _ | .dict _, .str _, _ | .dict _, .list _, _
  | .dict _, .other _ _, _ => by simp [merge_value, ValueFits]
  | .bool _, dst, _ | .int _, dst, _ | .str _, dst, _ | .list _, dst, _ | .other _ _, dst, _ => by
    cases dst <;> simp [merge_value, ValueFits]

end

/-- A value that merges changes its entry unless it is there already. -/
theorem merged_entry_eq_iff {key : String} {value : Value} {fields : Dict} (hunique : value.UniqueKeys)
    (hfits : ValueFits key value (.dict fields)) :
    (merged_entry value (fields.lookup key)).2 = fields.lookup key ↔ ValueIn key value (.dict fields) := by
  rw [← merge_value_alreadyIn_iff key value _ hunique]
  rw [← merge_value_fits_iff key value _ hunique] at hfits
  obtain ⟨after, hmerge, hwritten, -⟩ := merge_value_entry key value fields
  rw [hmerge] at hfits
  rw [hmerge, ← hwritten]
  constructor
  · intro h
    obtain hsame | ⟨written, hset⟩ := merge_value_writes key value fields
    · rw [hmerge] at hsame
      exact Prod.ext hfits hsame
    · rw [hmerge] at hset
      obtain rfl := Value.dict.inj hset
      rw [Dict.lookup_set_self] at h
      rw [Dict.set_eq_self_iff.mpr h.symm]
      exact Prod.ext hfits rfl
  · intro h
    rw [Value.dict.inj (Prod.mk.inj h).2]

end getupnet.mikrotik_preloader

import Getupnet.Python.Value

namespace python

/-- `isinstance(self, dict)` -/
def Value.isDict : Value → Bool
  | .dict _ => true
  | _ => false

/-- What the keys of a path lead to, from dictionary to dictionary. -/
def Value.under : List String → Value → Option Value
  | [], self => some self
  | key :: rest, .dict entries => (entries.lookup key).bind (Value.under rest)
  | _ :: _, _ => Option.none

/-- What a path leads to, where it ends with a value that is no dictionary. -/
def Value.leaf (path : List String) (self : Value) : Option Value :=
  (self.under path).filter fun value => !value.isDict

/-- The first value, unless it is missing or `None`, and then the second. -/
def preferred (first second : Option Value) : Option Value :=
  (first.filter fun value => !value.isNone).or second

/-- Where one of the values has a dictionary, the other has one or nothing; `src` may
also have `None`. -/
structure Alike (dst src : Value) : Prop where
  under_dst : ∀ path fields, dst.under path = some (.dict fields) → ∀ value, src.under path = some value →
    value = .none ∨ value.isDict
  under_src : ∀ path entries, src.under path = some (.dict entries) → ∀ value, dst.under path = some value →
    value.isDict

section

variable {key : String} {path : List String} {value old dst src : Value} {entries fields : Dict}

theorem Value.isDict_iff : value.isDict ↔ ∃ entries, value = .dict entries := by
  cases value <;> simp [Value.isDict]

theorem Value.under_cons_of_not_dict (h : value.isDict = false) (key : String) (path : List String) :
    value.under (key :: path) = Option.none := by
  cases value with
  | dict entries => cases h
  | none | bool | int | str | list | other => rfl

@[simp] theorem Value.under_singleton (key : String) (entries : Dict) :
    (Value.dict entries).under [key] = entries.lookup key := by
  rw [Value.under]
  cases entries.lookup key <;> rfl

@[simp] theorem Value.leaf_dict_nil (entries : Dict) : (Value.dict entries).leaf [] = Option.none := rfl

@[simp] theorem Value.leaf_dict_cons (key : String) (path : List String) (entries : Dict) :
    (Value.dict entries).leaf (key :: path) = (entries.lookup key).bind (Value.leaf path) := by
  rw [Value.leaf, Value.under]
  cases entries.lookup key <;> rfl

theorem Value.leaf_cons_of_not_dict (h : value.isDict = false) (key : String) (path : List String) :
    value.leaf (key :: path) = Option.none := by
  rw [Value.leaf, Value.under_cons_of_not_dict h]
  rfl

@[simp] theorem preferred_none (second : Option Value) : preferred none second = second := rfl

theorem preferred_some (h : value.isNone = false) (second : Option Value) :
    preferred (some value) second = some value := by
  rw [preferred, Option.filter_some, h]
  rfl

/-- `None` is preferred to nothing, wherever one looks in it. -/
theorem preferred_leaf_none (path : List String) (second : Option Value) :
    preferred (Value.none.leaf path) second = second := by
  cases path <;> rfl

theorem Alike.lookup (h : Alike (.dict fields) (.dict entries)) (hold : fields.lookup key = some old)
    (hvalue : entries.lookup key = some value) : Alike old value := by
  have hunder : ∀ path, (Value.dict fields).under (key :: path) = old.under path ∧
      (Value.dict entries).under (key :: path) = value.under path := by
    intro path
    rw [Value.under, Value.under, hold, hvalue]
    exact ⟨rfl, rfl⟩
  refine ⟨fun path fields hfields found hfound => ?_, fun path entries hentries found hfound => ?_⟩
  · exact h.under_dst (key :: path) fields ((hunder path).1.trans hfields) found ((hunder path).2.trans hfound)
  · exact h.under_src (key :: path) entries ((hunder path).2.trans hentries) found ((hunder path).1.trans hfound)

/-- Dictionaries are alike when what they have under a common key is. -/
theorem Alike.dict (h : ∀ entry ∈ entries, ∀ old, fields.lookup entry.1 = some old → Alike old entry.2) :
    Alike (.dict fields) (.dict entries) := by
  have hstep : ∀ key path found other, (Value.dict fields).under (key :: path) = some found →
      (Value.dict entries).under (key :: path) = some other →
        ∃ old value, Alike old value ∧ old.under path = some found ∧ value.under path = some other := by
    intro key path found other hfound hother
    obtain ⟨old, hold, hfound⟩ := Option.bind_eq_some_iff.mp hfound
    obtain ⟨value, hvalue, hother⟩ := Option.bind_eq_some_iff.mp hother
    exact ⟨old, value, h (key, value) (Dict.mem_of_lookup hvalue) old hold, hfound, hother⟩
  refine ⟨fun path inner hinner value hvalue => ?_, fun path inner hinner value hvalue => ?_⟩
  · cases path with
    | nil =>
      cases hvalue
      exact .inr rfl
    | cons key path =>
      obtain ⟨_, _, halike, hold, hnew⟩ := hstep key path _ _ hinner hvalue
      exact halike.under_dst path inner hold value hnew
  · cases path with
    | nil =>
      cases hvalue
      rfl
    | cons key path =>
      obtain ⟨_, _, halike, hold, hnew⟩ := hstep key path _ _ hvalue hinner
      exact halike.under_src path inner hnew value hold

theorem Alike.of_not_dict (hdst : dst.isDict = false) (hsrc : src.isDict = false) : Alike dst src := by
  refine ⟨fun path fields hfields _ _ => ?_, fun path entries hentries _ _ => ?_⟩
  · cases path with
    | nil =>
      cases hfields
      cases hdst
    | cons key path =>
      rw [Value.under_cons_of_not_dict hdst] at hfields
      cases hfields
  · cases path with
    | nil =>
      cases hentries
      cases hsrc
    | cons key path =>
      rw [Value.under_cons_of_not_dict hsrc] at hentries
      cases hentries

/-- `None` in the source is alike everything. -/
theorem Alike.none (dst : Value) : Alike dst .none := by
  refine ⟨fun path _ _ value hvalue => ?_, fun path entries hentries _ _ => ?_⟩
  · cases path with
    | nil =>
      cases hvalue
      exact .inl rfl
    | cons key path => cases hvalue
  · cases path <;> cases hentries

/-- A dictionary comes to a dictionary. -/
theorem Alike.isDict_dst (h : Alike dst (.dict entries)) : ∃ fields, dst = .dict fields :=
  Value.isDict_iff.mp (h.under_src [] entries rfl dst rfl)

/-- What is no dictionary, and not `None`, comes to no dictionary. -/
theorem Alike.not_isDict_dst (h : Alike dst src) (hsrc : src.isDict = false) (hnone : src.isNone = false) :
    dst.isDict = false := by
  cases dst with
  | dict fields =>
    obtain rfl | hdict := h.under_dst [] fields rfl src rfl
    · cases hnone
    · rw [hsrc] at hdict
      cases hdict
  | none | bool | int | str | list | other => rfl

end

end python

import Getupnet.Python.Value
import Getupnet.Relational.Transaction

open relational

namespace python

variable {ε : Type}

/-- Whatever it returns or raises, the method leaves the dictionary as it is or sets
the key, and it looks at no other key. -/
structure Touches (key : String) (method : Method Dict ε Unit) : Prop where
  writes : ∀ entries, (method.exec entries).2 = entries ∨
    ∃ value, (method.exec entries).2 = Dict.set key value entries
  reads : ∀ entries others : Dict, entries.lookup key = others.lookup key →
    (method.exec entries).1 = (method.exec others).1 ∧
      (method.exec entries).2.lookup key = (method.exec others).2.lookup key

section

variable {key other : String} {method : Method Dict ε Unit} {edits : List (String × Method Dict ε Unit)}
  {entries : Dict}

theorem Touches.lookup_ne (htouches : Touches key method) (h : other ≠ key) (entries : Dict) :
    (method.exec entries).2.lookup other = entries.lookup other := by
  obtain hsame | ⟨value, hset⟩ := htouches.writes entries
  · rw [hsame]
  · rw [hset, Dict.lookup_set_ne h]

/-- When the key keeps what it has, so does the dictionary. -/
theorem Touches.eq_self (htouches : Touches key method)
    (h : (method.exec entries).2.lookup key = entries.lookup key) : (method.exec entries).2 = entries := by
  obtain hsame | ⟨value, hset⟩ := htouches.writes entries
  · exact hsame
  · rw [hset, Dict.lookup_set_self] at h
    rw [hset, Dict.set_eq_self_iff.mpr h.symm]

theorem Touches.pure (key : String) : Touches key (pure () : Method Dict ε Unit) :=
  ⟨fun _ => .inl rfl, fun _ _ h => ⟨rfl, h⟩⟩

/-- What an assignment computes from the entry of its key. -/
theorem Touches.ofEntry (key : String) (outcome : Option Value → Except ε Unit × Value)
    (h : ∀ entries, method.exec entries =
      ((outcome (entries.lookup key)).1, Dict.set key (outcome (entries.lookup key)).2 entries)) :
    Touches key method := by
  refine ⟨fun entries => .inr ⟨_, congrArg Prod.snd (h entries)⟩, fun entries others hlookup => ?_⟩
  rw [h entries, h others, Dict.lookup_set_self, Dict.lookup_set_self, hlookup]
  exact ⟨rfl, rfl⟩

theorem Touches.bind {second : Method Dict ε Unit} (hfirst : Touches key method) (hsecond : Touches key second) :
    Touches key (do method; second) := by
  constructor
  · intro entries
    rw [Method.exec_bind]
    have hwrites := hfirst.writes entries
    cases hexec : method.exec entries with
    | mk result middle =>
      rw [hexec] at hwrites
      cases result with
      | error exception => exact hwrites
      | ok _ =>
        obtain rfl | ⟨value, rfl⟩ := hwrites
        · exact hsecond.writes middle
        · obtain hsame | ⟨later, hset⟩ := hsecond.writes (Dict.set key value entries)
          · exact .inr ⟨value, hsame⟩
          · exact .inr ⟨later, hset.trans (Dict.set_set key value later entries)⟩
  · intro entries others h
    obtain ⟨hresult, hlookup⟩ := hfirst.reads entries others h
    rw [Method.exec_bind, Method.exec_bind]
    cases hexec : method.exec entries with
    | mk result middle =>
      cases hother : method.exec others with
      | mk otherResult otherMiddle =>
        rw [hexec, hother] at hresult hlookup
        obtain rfl : result = otherResult := hresult
        cases result with
        | error exception => exact ⟨rfl, hlookup⟩
        | ok _ => exact hsecond.reads middle otherMiddle hlookup

/-- Methods in a row, each with the key it touches. -/
def runEdits (edits : List (String × Method Dict ε Unit)) : Method Dict ε Unit :=
  Method.forEach Prod.snd edits

theorem runEdits_lookup_of_not_mem (htouches : ∀ edit ∈ edits, Touches edit.1 edit.2)
    (h : other ∉ edits.map Prod.fst) (entries : Dict) :
    ((runEdits edits).exec entries).2.lookup other = entries.lookup other := by
  induction edits generalizing entries with
  | nil => rfl
  | cons edit rest ih =>
    rw [List.map_cons, List.mem_cons, not_or] at h
    have hfirst := (htouches edit List.mem_cons_self).lookup_ne h.1 entries
    have hrest := ih (fun later hlater => htouches later (List.mem_cons_of_mem _ hlater)) h.2
    rw [runEdits, Method.exec_forEach_cons]
    cases hexec : edit.2.exec entries with
    | mk result middle =>
      rw [hexec] at hfirst
      cases result with
      | ok _ => exact (hrest middle).trans hfirst
      | error exception => exact hfirst

/-- How methods in a row that touch different keys can end with nothing changed: the
first raises without a change, or it changes nothing and the others end so. -/
theorem runEdits_cons_eq_iff (htouches : ∀ edit ∈ (key, method) :: edits, Touches edit.1 edit.2)
    (hkey : key ∉ edits.map Prod.fst) (result : Except ε Unit) :
    (runEdits ((key, method) :: edits)).exec entries = (result, entries) ↔
      method.exec entries = (result, entries) ∧ result ≠ .ok () ∨
        method.exec entries = (.ok (), entries) ∧ (runEdits edits).exec entries = (result, entries) := by
  have hfirst : Touches key method := htouches (key, method) List.mem_cons_self
  have hrest : ∀ edit ∈ edits, Touches edit.1 edit.2 :=
    fun edit hedit => htouches edit (List.mem_cons_of_mem _ hedit)
  rw [runEdits, Method.exec_forEach_cons]
  cases hexec : method.exec entries with
  | mk reached middle =>
    cases reached with
    | error exception =>
      simp only [Prod.mk.injEq, reduceCtorEq, false_and, or_false]
      constructor
      · rintro ⟨rfl, rfl⟩
        simp
      · exact And.left
    | ok _ =>
      have hmiddle : (method.exec entries).2 = middle := congrArg Prod.snd hexec
      constructor
      · intro h
        have hkept := runEdits_lookup_of_not_mem hrest hkey middle
        have hend : ((runEdits edits).exec middle).2 = entries := congrArg Prod.snd h
        rw [hend] at hkept
        have hself : middle = entries := by
          rw [← hmiddle]
          refine hfirst.eq_self ?_
          rw [hmiddle, hkept]
        subst hself
        exact .inr ⟨rfl, h⟩
      · rintro (⟨h, hraised⟩ | ⟨h, hlater⟩)
        · exact absurd (Prod.mk.inj h).1.symm hraised
        · rw [(Prod.mk.inj h).2]
          exact hlater

/-- Methods in a row that touch different keys return when each of them does. -/
theorem runEdits_ok_iff (htouches : ∀ edit ∈ edits, Touches edit.1 edit.2) (hkeys : (edits.map Prod.fst).Nodup) :
    ((runEdits edits).exec entries).1 = .ok () ↔ ∀ edit ∈ edits, (edit.2.exec entries).1 = .ok () := by
  induction edits generalizing entries with
  | nil => simp [runEdits, Method.forEach]
  | cons edit rest ih =>
    obtain ⟨hkey, hnodup⟩ := List.nodup_cons.mp hkeys
    have hfirst := htouches edit List.mem_cons_self
    have hrest : ∀ later ∈ rest, Touches later.1 later.2 :=
      fun later hlater => htouches later (List.mem_cons_of_mem _ hlater)
    rw [List.forall_mem_cons, runEdits, Method.exec_forEach_cons]
    have hkept := fun other (hother : other ≠ edit.1) => hfirst.lookup_ne hother entries
    cases hexec : edit.2.exec entries with
    | mk result middle =>
      rw [hexec] at hkept
      cases result with
      | error exception => simp
      | ok _ =>
        refine (ih hrest hnodup).trans ?_
        simp only [true_and]
        refine forall₂_congr fun later hlater => ?_
        have hne : later.1 ≠ edit.1 := by
          intro heq
          exact hkey (heq ▸ List.mem_map_of_mem hlater)
        rw [((hrest later hlater).reads middle entries (hkept later.1 hne)).1]

/-- After methods in a row that return, each key has what its own method makes of it. -/
theorem runEdits_lookup (htouches : ∀ edit ∈ edits, Touches edit.1 edit.2) (hkeys : (edits.map Prod.fst).Nodup)
    (h : ((runEdits edits).exec entries).1 = .ok ()) {edit : String × Method Dict ε Unit} (hedit : edit ∈ edits) :
    ((runEdits edits).exec entries).2.lookup edit.1 = (edit.2.exec entries).2.lookup edit.1 := by
  induction edits generalizing entries with
  | nil => cases hedit
  | cons first rest ih =>
    obtain ⟨hkey, hnodup⟩ := List.nodup_cons.mp hkeys
    have hfirst := htouches first List.mem_cons_self
    have hrest : ∀ later ∈ rest, Touches later.1 later.2 :=
      fun later hlater => htouches later (List.mem_cons_of_mem _ hlater)
    have hkept := fun other (hother : other ≠ first.1) => hfirst.lookup_ne hother entries
    rw [runEdits, Method.exec_forEach_cons] at h ⊢
    cases hexec : first.2.exec entries with
    | mk result middle =>
      rw [hexec] at h hkept
      cases result with
      | error exception => cases h
      | ok _ =>
        obtain rfl | hin := List.mem_cons.mp hedit
        · rw [hexec]
          exact runEdits_lookup_of_not_mem hrest hkey middle
        · have hne : edit.1 ≠ first.1 := by
            intro heq
            exact hkey (heq ▸ List.mem_map_of_mem hin)
          have hreads := ((hrest edit hin).reads middle entries (hkept edit.1 hne)).2
          exact (ih hrest hnodup h hin).trans hreads

/-- Methods that each change nothing change nothing in a row. -/
theorem runEdits_unchanged (h : ∀ edit ∈ edits, edit.2.exec entries = (.ok (), entries)) :
    (runEdits edits).exec entries = (.ok (), entries) := by
  induction edits with
  | nil => rfl
  | cons edit rest ih =>
    obtain ⟨hfirst, hrest⟩ := List.forall_mem_cons.mp h
    rw [runEdits, Method.exec_forEach_cons, hfirst]
    exact ih hrest

/-- Methods in a row that touch different keys change nothing when they are run again,
if each of them does. -/
theorem runEdits_again (htouches : ∀ edit ∈ edits, Touches edit.1 edit.2) (hkeys : (edits.map Prod.fst).Nodup)
    (h : ((runEdits edits).exec entries).1 = .ok ())
    (hagain : ∀ edit ∈ edits, edit.2.exec (edit.2.exec entries).2 = (.ok (), (edit.2.exec entries).2)) :
    (runEdits edits).exec ((runEdits edits).exec entries).2 = (.ok (), ((runEdits edits).exec entries).2) := by
  refine runEdits_unchanged fun edit hedit => ?_
  have htouch := htouches edit hedit
  have hlookup := runEdits_lookup htouches hkeys h hedit
  obtain ⟨hresult, hkept⟩ := htouch.reads _ _ hlookup
  rw [hagain edit hedit] at hresult hkept
  exact Prod.ext hresult (htouch.eq_self (hkept.trans hlookup.symm))

end

end python

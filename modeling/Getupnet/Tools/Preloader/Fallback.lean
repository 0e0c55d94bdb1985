import Getupnet.Tools.Preloader.Preconfig

open python relational

namespace getupnet.mikrotik_preloader.untyped

/-- What the merge does with a key of the configuration. -/
inductive Edit where
  | skip
  | assign (value : Value)
  | merge (src : Value)
  | configure (routeros : Value)

def Edit.run (key : String) : Edit → Method Dict Raised Unit
  | .skip => pure ()
  | .assign value => untyped.assign key value
  | .merge src => merge_section key src
  | .configure routeros => merge_routeros routeros

def Edit.when (condition : Bool) (edit : Edit) : Edit := if condition then edit else .skip

/-- What a preconfiguration does with each key, in the order of the merge. -/
def edits (preconfig : Dict) : List (String × Edit) :=
  let entry key := (preconfig.lookup key).getD .none
  let routeros := (entry "routeros").orElse (.dict [])
  [("mgmt_subnet", .when (entry "mgmt_subnet").truthy (.assign (entry "mgmt_subnet"))),
    ("target_mac", .when (!(entry "target_mac").isNone) (.assign (entry "target_mac"))),
    ("bootstrap", .when (!(entry "bootstrap").isNone) (.merge (entry "bootstrap"))),
    ("routeros", .when routeros.truthy (.configure routeros)),
    ("call_home", .when (!(entry "call_home").isNone) (.merge (entry "call_home"))),
    ("webhook", .when (!(entry "webhook").isNone) (.merge (entry "webhook"))),
    ("naming", .when (!(entry "naming").isNone) (.merge (entry "naming")))]

def edit_methods (preconfig : Dict) : List (String × Method Dict Raised Unit) :=
  (edits preconfig).map fun edit => (edit.1, edit.2.run edit.1)

theorem edits_nodup (preconfig : Dict) : ((edits preconfig).map Prod.fst).Nodup := by
  simp [edits]

theorem Edit.run_when (key : String) (condition : Bool) (edit : Edit) :
    (Edit.when condition edit).run key = Method.when condition (edit.run key) := by
  cases condition <;> rfl

/-- The merge does to each key what its edit says, one key after the other. -/
theorem merge_preconfig_dict {preconfig : Dict} (h : (Value.dict preconfig).truthy) :
    merge_preconfig (.dict preconfig) = runEdits (edit_methods preconfig) := by
  rw [merge_preconfig, if_pos h]
  simp only [Value.get, Method.ofExcept_ok_bind, runEdits, edit_methods, edits, List.map_cons, List.map_nil,
    Edit.run_when, Method.forEach]
  simp only [Edit.run, bind_pure_unit]

theorem merge_section_exec (key : String) (src : Value) (cfg : Dict) :
    (merge_section key src).exec cfg = match src.itemsOrEmpty with
      | .ok entries => ((merge_dict entries ((cfg.lookup key).getD (.dict []))).1,
          Dict.set key (merge_dict entries ((cfg.lookup key).getD (.dict []))).2 cfg)
      | .error exception => (.error exception, Dict.set key ((cfg.lookup key).getD (.dict [])) cfg) := by
  rw [merge_section]
  cases src.itemsOrEmpty <;> rfl

theorem touches_assign (key : String) (value : Value) : Touches key (assign key value) :=
  Touches.ofEntry key (fun _ => (.ok (), value)) fun _ => rfl

theorem touches_merge_section (key : String) (src : Value) : Touches key (merge_section key src) := by
  cases hitems : src.itemsOrEmpty with
  | error exception =>
    refine Touches.ofEntry key (fun old => (.error exception, old.getD (.dict []))) fun cfg => ?_
    rw [merge_section_exec, hitems]
  | ok entries =>
    refine Touches.ofEntry key (fun old => merge_dict entries (old.getD (.dict []))) fun cfg => ?_
    rw [merge_section_exec, hitems]

theorem assign_item_exec (key item : String) (value : Value) (cfg : Dict) :
    (assign_item key item value).exec cfg = match cfg.lookup key with
      | some (.dict fields) => (.ok (), Dict.set key (.dict (Dict.set item value fields)) cfg)
      | some _ => (.error .type_error, cfg)
      | none => (.error (.key_error key), cfg) := by
  rw [assign_item, Method.exec_get_bind]
  cases cfg.lookup key with
  | none => rfl
  | some old => cases old <;> rfl

theorem touches_assign_item (key item : String) (value : Value) : Touches key (assign_item key item value) := by
  constructor
  · intro cfg
    rw [assign_item_exec]
    split
    · exact .inr ⟨_, rfl⟩
    · exact .inl rfl
    · exact .inl rfl
  · intro cfg other h
    rw [assign_item_exec, assign_item_exec, ← h]
    split
    · exact ⟨rfl, by rw [Dict.lookup_set_self, Dict.lookup_set_self]⟩
    · exact ⟨rfl, h⟩
    · exact ⟨rfl, h⟩

theorem touches_merge_routeros (routeros : Value) : Touches "routeros" (merge_routeros routeros) := by
  refine (touches_merge_section "routeros" routeros).bind ?_
  split
  · split
    · exact touches_assign_item ..
    · exact Touches.pure "routeros"
  · exact Touches.pure "routeros"

/-- The section of the router is the one whose `config` is taken over. -/
def Edit.Placed (key : String) : Edit → Prop
  | .configure _ => key = "routeros"
  | _ => True

def Edit.UniqueKeys : Edit → Prop
  | .merge src | .configure src => src.UniqueKeys
  | _ => True

theorem Edit.touches {key : String} : ∀ {edit : Edit}, edit.Placed key → Touches key (edit.run key)
  | .skip, _ => Touches.pure key
  | .assign value, _ => touches_assign key value
  | .merge src, _ => touches_merge_section key src
  | .configure routeros, hplaced => hplaced ▸ touches_merge_routeros routeros

theorem edits_placed {preconfig : Dict} : ∀ edit ∈ edits preconfig, edit.2.Placed edit.1 := by
  have hwhen : ∀ key condition edit, Edit.Placed key edit → Edit.Placed key (Edit.when condition edit) := by
    intro key condition edit hedit
    cases condition
    · trivial
    · exact hedit
  simp only [edits, List.forall_mem_cons, List.not_mem_nil, false_imp_iff, implies_true, and_true]
  refine ⟨?_, ?_, ?_, ?_, ?_, ?_, ?_⟩ <;> exact hwhen _ _ _ (by trivial)

theorem edits_uniqueKeys {preconfig : Dict} (h : Dict.UniqueKeys preconfig) :
    ∀ edit ∈ edits preconfig, edit.2.UniqueKeys := by
  have hwhen : ∀ condition edit, Edit.UniqueKeys edit → Edit.UniqueKeys (Edit.when condition edit) := by
    intro condition edit hedit
    cases condition
    · trivial
    · exact hedit
  have hentry : ∀ key, ((preconfig.lookup key).getD .none).UniqueKeys := fun key => h.getD key trivial
  have hrouteros : (((preconfig.lookup "routeros").getD .none).orElse (.dict [])).UniqueKeys := by
    rw [Value.orElse]
    split
    · exact hentry "routeros"
    · exact ⟨List.nodup_nil, trivial⟩
  simp only [edits, List.forall_mem_cons, List.not_mem_nil, false_imp_iff, implies_true, and_true]
  exact ⟨hwhen _ _ trivial, hwhen _ _ trivial, hwhen _ _ (hentry _), hwhen _ _ hrouteros, hwhen _ _ (hentry _),
    hwhen _ _ (hentry _), hwhen _ _ (hentry _)⟩

/-- The edit merges a dictionary or nothing, and its items fit. -/
def Edit.Fits (key : String) (cfg : Dict) : Edit → Prop
  | .skip | .assign _ => True
  | .merge src | .configure src => ∃ entries, src.itemsOrEmpty = .ok entries ∧ ValueFits key (.dict entries) (.dict cfg)

/-- What the edit brings is in the configuration already. -/
def Edit.In (key : String) (cfg : Dict) : Edit → Prop
  | .skip => True
  | .assign value => cfg.lookup key = some value
  | .merge src => ∃ entries, src.itemsOrEmpty = .ok entries ∧ ValueIn key (.dict entries) (.dict cfg)
  | .configure src => ∃ entries fields, src.itemsOrEmpty = .ok entries ∧ cfg.lookup key = some (.dict fields) ∧
      AlreadyIn entries (.dict fields) ∧ ∀ config, entries.lookup "config" = some config →
        fields.lookup "config" = some config

/-- The edit brings something that does not fit, and nothing new before it. -/
def Edit.Stops (key : String) (cfg : Dict) : Edit → Prop
  | .skip | .assign _ => False
  | .merge src | .configure src =>
    match src.itemsOrEmpty with
    | .ok entries => ValueStops key (.dict entries) (.dict cfg)
    | .error _ => (cfg.lookup key).isSome

/-- One of the edits stops, and those before it bring nothing new. -/
def StopsBefore (cfg : Dict) : List (String × Edit) → Prop
  | [] => False
  | edit :: rest => edit.2.Stops edit.1 cfg ∨ edit.2.In edit.1 cfg ∧ StopsBefore cfg rest

section

variable {key : String} {src : Value} {entries cfg fields : Dict}

theorem merge_section_ok (hitems : src.itemsOrEmpty = .ok entries) :
    merge_value key (.dict entries) (.dict cfg) =
      (((merge_section key src).exec cfg).1, .dict ((merge_section key src).exec cfg).2) := by
  rw [merge_section_exec, hitems]
  rfl

theorem merge_section_stops_iff {exception : Raised} (hitems : src.itemsOrEmpty = .error exception) :
    (∃ raised, (merge_section key src).exec cfg = (.error raised, cfg)) ↔ (cfg.lookup key).isSome := by
  rw [merge_section_exec, hitems]
  simp only [Prod.mk.injEq, Except.error.injEq, exists_eq_left', Dict.set_eq_self_iff]
  cases cfg.lookup key <;> simp

theorem merge_routeros_error {exception : Raised} (hitems : src.itemsOrEmpty = .error exception) :
    (merge_routeros src).exec cfg = (merge_section "routeros" src).exec cfg := by
  unfold merge_routeros
  rw [Method.exec_bind, merge_section_exec, hitems]

theorem merge_section_eq_iff (hitems : src.itemsOrEmpty = .ok entries) (result : Except Raised Unit) :
    (merge_section key src).exec cfg = (result, cfg) ↔
      merge_value key (.dict entries) (.dict cfg) = (result, .dict cfg) := by
  rw [merge_section_ok hitems]
  simp [Prod.ext_iff]

/-- The `config` is taken over after the merge only. -/
theorem merge_routeros_section (h : ((merge_routeros src).exec cfg).1 = .ok ()) :
    ((merge_section "routeros" src).exec cfg).1 = .ok () := by
  unfold merge_routeros at h
  rw [Method.exec_bind] at h
  cases hsection : (merge_section "routeros" src).exec cfg with
  | mk result after =>
    rw [hsection] at h
    cases result with
    | ok _ => rfl
    | error exception => cases h

theorem node_of_lookup (h : cfg.lookup key = some (.dict fields)) :
    (cfg.lookup key).getD (.dict []) = .dict fields := by
  rw [h, Option.getD_some]

/-- What the merge of the section of the router makes of it, and of its `config`. -/
theorem merge_routeros_exec (hitems : src.itemsOrEmpty = .ok entries)
    (hcfg : (cfg.lookup "routeros").getD (.dict []) = .dict fields) :
    ∃ after : Dict, merge_dict entries (.dict fields) = ((merge_dict entries (.dict fields)).1, .dict after) ∧
      (merge_routeros src).exec cfg = match (merge_dict entries (.dict fields)).1 with
        | .error exception => (.error exception, Dict.set "routeros" (.dict after) cfg)
        | .ok _ => (.ok (), Dict.set "routeros" (.dict (match entries.lookup "config" with
            | some config => Dict.set "config" config after
            | none => after)) cfg) := by
  obtain ⟨after, hafter, -⟩ := merge_dict_dict entries fields
  refine ⟨after, Prod.ext rfl hafter, ?_⟩
  have hsection : (merge_section "routeros" src).exec cfg =
      ((merge_dict entries (.dict fields)).1, Dict.set "routeros" (.dict after) cfg) := by
    rw [merge_section_exec, hitems, hcfg, ← hafter]
  unfold merge_routeros
  rw [Method.exec_bind, hsection]
  cases (merge_dict entries (.dict fields)).1 with
  | error exception => rfl
  | ok _ =>
    obtain rfl | ⟨hnot, rfl⟩ := Value.itemsOrEmpty_ok hitems
    · dsimp only
      cases entries.lookup "config" with
      | none => rfl
      | some config =>
        simp only [assign_item_exec, Dict.lookup_set_self, Dict.set_set]
    · cases src with
      | dict items => exact absurd rfl (hnot items)
      | none | bool | int | str | list | other => rfl

/-- The section of the router does not change exactly when the merge does not change it
and the `config` that is taken over is the one that it has. -/
theorem merge_routeros_in_iff (hitems : src.itemsOrEmpty = .ok entries)
    (hunique : (Value.dict entries).UniqueKeys)
    (hcfg : cfg.lookup "routeros" = some (.dict fields)) :
    (merge_routeros src).exec cfg = (.ok (), cfg) ↔ AlreadyIn entries (.dict fields) ∧
      ∀ config, entries.lookup "config" = some config → fields.lookup "config" = some config := by
  obtain ⟨after, hmerge, hexec⟩ := merge_routeros_exec hitems (node_of_lookup hcfg)
  rw [hexec, ← merge_dict_alreadyIn_iff entries _ hunique.1 hunique.2]
  cases hresult : (merge_dict entries (.dict fields)).1 with
  | error exception =>
    rw [hmerge, hresult]
    simp
  | ok _ =>
    rw [hresult] at hmerge
    simp only [Prod.mk.injEq, true_and, Dict.set_eq_self_iff, hcfg, Option.some.injEq, Value.dict.injEq, hmerge]
    cases hconfig : entries.lookup "config" with
    | none =>
      simp only [reduceCtorEq, false_imp_iff, implies_true, and_true]
      exact eq_comm
    | some config =>
      obtain ⟨merged, hmerged, hlookup⟩ := merge_dict_lookup hunique.1 hresult
      rw [hmerge] at hmerged
      obtain rfl := Value.dict.inj hmerged
      have hwritten := hlookup "config"
      rw [hconfig] at hwritten
      simp only [Option.some.injEq, forall_eq']
      constructor
      · intro h
        have hsame : fields.lookup "config" = some config := by
          rw [h, Dict.lookup_set_self]
        simp only [hsame, merged_entry_self (hunique.2.lookup hconfig)] at hwritten
        rw [Dict.set_eq_self_iff.mpr hwritten] at h
        exact ⟨h.symm, hsame⟩
      · rintro ⟨rfl, hsame⟩
        exact (Dict.set_eq_self_iff.mpr hsame).symm

theorem merge_routeros_stops_iff (hitems : src.itemsOrEmpty = .ok entries)
    (hunique : (Value.dict entries).UniqueKeys) (hcfg : cfg.lookup "routeros" = some (.dict fields)) :
    (∃ exception, (merge_routeros src).exec cfg = (.error exception, cfg)) ↔
      StopsEarly entries (.dict fields) := by
  obtain ⟨after, hmerge, hexec⟩ := merge_routeros_exec hitems (node_of_lookup hcfg)
  rw [hexec, ← merge_dict_stopsEarly_iff entries _ hunique.1 hunique.2, hmerge]
  cases hresult : (merge_dict entries (.dict fields)).1 with
  | error exception =>
    simp only [Prod.mk.injEq, Dict.set_eq_self_iff, hcfg, Option.some.injEq, Value.dict.injEq]
    exact exists_congr fun _ => and_congr Iff.rfl eq_comm
  | ok _ => simp

theorem merge_routeros_fits_iff (hitems : src.itemsOrEmpty = .ok entries)
    (hunique : (Value.dict entries).UniqueKeys) (hcfg : (cfg.lookup "routeros").getD (.dict []) = .dict fields) :
    ((merge_routeros src).exec cfg).1 = .ok () ↔ Fits entries (.dict fields) := by
  obtain ⟨after, hmerge, hexec⟩ := merge_routeros_exec hitems hcfg
  rw [hexec, ← merge_dict_fits_iff entries _ hunique.1 hunique.2]
  cases (merge_dict entries (.dict fields)).1 <;> simp

/-- What a merge that fits leaves in the section of the router: the `config` is taken over,
and the rest is merged. -/
theorem merge_routeros_lookup (hitems : src.itemsOrEmpty = .ok entries)
    (hunique : (Value.dict entries).UniqueKeys)
    (hcfg : (cfg.lookup "routeros").getD (.dict []) = .dict fields) (hfits : Fits entries (.dict fields)) :
    ∃ after : Dict, ((merge_routeros src).exec cfg).2.lookup "routeros" = some (.dict after) ∧
      after.lookup "config" = (entries.lookup "config").or (fields.lookup "config") ∧
      ∀ key, key ≠ "config" → after.lookup key = match entries.lookup key with
        | none => fields.lookup key
        | some value => (merged_entry value (fields.lookup key)).2 := by
  have hreturned := (merge_dict_fits_iff entries _ hunique.1 hunique.2).mpr hfits
  obtain ⟨after, hmerge, hexec⟩ := merge_routeros_exec hitems hcfg
  obtain ⟨merged, hmerged, hentry⟩ := merge_dict_lookup hunique.1 hreturned
  rw [hmerge] at hmerged
  obtain rfl := Value.dict.inj hmerged
  rw [hexec, hreturned]
  refine ⟨_, Dict.lookup_set_self .., ?_, fun key hkey => ?_⟩
  · cases hconfig : entries.lookup "config" with
    | none =>
      have hkept := hentry "config"
      rw [hconfig] at hkept
      exact hkept
    | some config => exact Dict.lookup_set_self ..
  refine Eq.trans ?_ (hentry key)
  split
  · exact Dict.lookup_set_ne hkey _ after
  · rfl

/-- An edit returns exactly when it fits. -/
theorem Edit.run_fits_iff (hcfg : (cfg.lookup "routeros").getD (.dict []) = .dict fields) :
    ∀ {edit : Edit}, edit.Placed key → edit.UniqueKeys →
      (((edit.run key).exec cfg).1 = .ok () ↔ edit.Fits key cfg)
  | .skip, _, _ => ⟨fun _ => trivial, fun _ => rfl⟩
  | .assign value, _, _ => ⟨fun _ => trivial, fun _ => rfl⟩
  | .merge src, _, hunique => by
    cases hitems : src.itemsOrEmpty with
    | error exception => simp [Edit.run, Edit.Fits, merge_section_exec, hitems]
    | ok entries =>
      have hsection : (merge_value key (.dict entries) (.dict cfg)).1 = ((merge_section key src).exec cfg).1 :=
        congrArg Prod.fst (merge_section_ok hitems)
      rw [Edit.run, ← hsection, merge_value_fits_iff key _ _ (hunique.items hitems)]
      simp [Edit.Fits, hitems]
  | .configure src, hplaced, hunique => by
    obtain rfl := hplaced
    cases hitems : src.itemsOrEmpty with
    | error exception => simp [Edit.run, Edit.Fits, merge_routeros_error hitems, merge_section_exec, hitems]
    | ok entries =>
      rw [Edit.run, merge_routeros_fits_iff hitems (hunique.items hitems) hcfg]
      simp [Edit.Fits, ValueFits, hitems, hcfg]

/-- An edit returns without a change exactly when it brings nothing new. -/
theorem Edit.run_in_iff (hcfg : cfg.lookup "routeros" = some (.dict fields)) :
    ∀ {edit : Edit}, edit.Placed key → edit.UniqueKeys →
      ((edit.run key).exec cfg = (.ok (), cfg) ↔ edit.In key cfg)
  | .skip, _, _ => ⟨fun _ => trivial, fun _ => rfl⟩
  | .assign value, _, _ => by
    simp [Edit.run, Edit.In, untyped.assign, Dict.set_eq_self_iff]
  | .merge src, _, hunique => by
    cases hitems : src.itemsOrEmpty with
    | error exception => simp [Edit.run, Edit.In, merge_section_exec, hitems]
    | ok entries =>
      rw [Edit.run, merge_section_eq_iff hitems, merge_value_alreadyIn_iff key _ _ (hunique.items hitems)]
      simp [Edit.In, hitems]
  | .configure src, hplaced, hunique => by
    obtain rfl := hplaced
    cases hitems : src.itemsOrEmpty with
    | error exception => simp [Edit.run, Edit.In, merge_routeros_error hitems, merge_section_exec, hitems]
    | ok entries =>
      rw [Edit.run, merge_routeros_in_iff hitems (hunique.items hitems) hcfg]
      simp [Edit.In, hitems, hcfg]

/-- An edit raises without a change exactly when it stops. -/
theorem Edit.run_stops_iff (hcfg : cfg.lookup "routeros" = some (.dict fields)) :
    ∀ {edit : Edit}, edit.Placed key → edit.UniqueKeys →
      ((∃ exception, (edit.run key).exec cfg = (.error exception, cfg)) ↔ edit.Stops key cfg)
  | .skip, _, _ => by simp [Edit.run, Edit.Stops]
  | .assign value, _, _ => by simp [Edit.run, Edit.Stops, untyped.assign]
  | .merge src, _, hunique => by
    cases hitems : src.itemsOrEmpty with
    | error exception =>
      rw [Edit.run, merge_section_stops_iff hitems]
      simp [Edit.Stops, hitems]
    | ok entries =>
      simp only [Edit.run, Edit.Stops, hitems, merge_section_eq_iff hitems]
      exact merge_value_stopsEarly_iff key _ _ (hunique.items hitems)
  | .configure src, hplaced, hunique => by
    obtain rfl := hplaced
    cases hitems : src.itemsOrEmpty with
    | error exception =>
      rw [Edit.run, merge_routeros_error hitems, merge_section_stops_iff hitems]
      simp [Edit.Stops, hitems]
    | ok entries =>
      rw [Edit.run, merge_routeros_stops_iff hitems (hunique.items hitems) hcfg]
      simp [Edit.Stops, ValueStops, hitems, hcfg]

/-- Edits in a row raise without a change exactly when one of them stops and those
before it bring nothing new. -/
theorem runEdits_stopsBefore_iff (hcfg : cfg.lookup "routeros" = some (.dict fields)) :
    ∀ {list : List (String × Edit)}, (∀ edit ∈ list, edit.2.Placed edit.1) → (∀ edit ∈ list, edit.2.UniqueKeys) →
      (list.map Prod.fst).Nodup →
      ((∃ exception, (runEdits (list.map fun edit => (edit.1, edit.2.run edit.1))).exec cfg = (.error exception, cfg)) ↔
        StopsBefore cfg list)
  | [], _, _, _ => by simp [runEdits, Method.forEach, StopsBefore]
  | (key, edit) :: rest, hplaced, hunique, hnodup => by
    obtain ⟨hfirst, hothers⟩ := List.forall_mem_cons.mp hplaced
    obtain ⟨huniqueFirst, huniqueOthers⟩ := List.forall_mem_cons.mp hunique
    obtain ⟨hkey, hrest⟩ := List.nodup_cons.mp hnodup
    have htouches : ∀ other ∈ ((key, edit) :: rest).map fun edit => (edit.1, edit.2.run edit.1),
        Touches other.1 other.2 := by
      intro other hother
      obtain ⟨found, hfound, rfl⟩ := List.mem_map.mp hother
      exact Edit.touches (hplaced found hfound)
    have hkeys : key ∉ (rest.map fun edit => (edit.1, edit.2.run edit.1)).map Prod.fst := by
      rwa [List.map_map]
    rw [StopsBefore, ← Edit.run_stops_iff hcfg hfirst huniqueFirst, ← Edit.run_in_iff hcfg hfirst huniqueFirst,
      ← runEdits_stopsBefore_iff hcfg hothers huniqueOthers hrest]
    simp only [List.map_cons, runEdits_cons_eq_iff htouches hkeys]
    simp [exists_or]

end

section

variable {cfg fields preconfig : Dict}

theorem edit_methods_touch : ∀ edit ∈ edit_methods preconfig, Touches edit.1 edit.2 := by
  intro edit hedit
  obtain ⟨found, hfound, rfl⟩ := List.mem_map.mp hedit
  exact Edit.touches (edits_placed found hfound)

theorem edit_methods_nodup : ((edit_methods preconfig).map Prod.fst).Nodup := by
  rw [edit_methods, List.map_map]
  exact edits_nodup preconfig

theorem merge_preconfig_stops_iff (htruthy : (Value.dict preconfig).truthy) (hunique : Dict.UniqueKeys preconfig)
    (hcfg : cfg.lookup "routeros" = some (.dict fields)) :
    (∃ exception, (merge_preconfig (.dict preconfig)).exec cfg = (.error exception, cfg)) ↔
      StopsBefore cfg (edits preconfig) := by
  rw [merge_preconfig_dict htruthy]
  exact runEdits_stopsBefore_iff hcfg edits_placed (edits_uniqueKeys hunique) (edits_nodup preconfig)

theorem merge_preconfig_fits_iff (htruthy : (Value.dict preconfig).truthy) (hunique : Dict.UniqueKeys preconfig)
    (hcfg : (cfg.lookup "routeros").getD (.dict []) = .dict fields) :
    ((merge_preconfig (.dict preconfig)).exec cfg).1 = .ok () ↔
      ∀ edit ∈ edits preconfig, edit.2.Fits edit.1 cfg := by
  rw [merge_preconfig_dict htruthy, runEdits_ok_iff edit_methods_touch edit_methods_nodup, edit_methods,
    List.forall_mem_map]
  refine forall₂_congr fun edit hedit => ?_
  exact Edit.run_fits_iff hcfg (edits_placed edit hedit) (edits_uniqueKeys hunique edit hedit)

/-- The keys that no edit names stay as they are, also when the merge raises. -/
theorem merge_preconfig_lookup_of_not_mem (htruthy : (Value.dict preconfig).truthy) {key : String}
    (hkey : key ∉ (edits preconfig).map Prod.fst) :
    ((merge_preconfig (.dict preconfig)).exec cfg).2.lookup key = cfg.lookup key := by
  rw [merge_preconfig_dict htruthy]
  refine runEdits_lookup_of_not_mem edit_methods_touch ?_ cfg
  rwa [edit_methods, List.map_map]

/-- The subnet is the first to be merged, and nothing before it raises. -/
theorem merge_preconfig_mgmt_subnet (htruthy : (Value.dict preconfig).truthy) :
    ((merge_preconfig (.dict preconfig)).exec cfg).2.lookup "mgmt_subnet" =
      if ((preconfig.lookup "mgmt_subnet").getD .none).truthy then preconfig.lookup "mgmt_subnet"
      else cfg.lookup "mgmt_subnet" := by
  have hsplit : edit_methods preconfig =
      ("mgmt_subnet", (Edit.when ((preconfig.lookup "mgmt_subnet").getD .none).truthy
        (.assign ((preconfig.lookup "mgmt_subnet").getD .none))).run "mgmt_subnet") :: (edit_methods preconfig).tail :=
    rfl
  have htouches : ∀ edit ∈ (edit_methods preconfig).tail, Touches edit.1 edit.2 :=
    fun edit hedit => edit_methods_touch edit (List.mem_of_mem_tail hedit)
  have hkey : "mgmt_subnet" ∉ ((edit_methods preconfig).tail).map Prod.fst := by
    have hnodup := @edit_methods_nodup preconfig
    rw [hsplit] at hnodup
    exact (List.nodup_cons.mp hnodup).1
  have hrest := fun middle => runEdits_lookup_of_not_mem htouches hkey middle
  rw [merge_preconfig_dict htruthy, hsplit, runEdits, Method.exec_forEach_cons, Edit.run_when]
  by_cases hsubnet : ((preconfig.lookup "mgmt_subnet").getD .none).truthy
  · rw [if_pos hsubnet, hsubnet]
    have hlookup : preconfig.lookup "mgmt_subnet" = some ((preconfig.lookup "mgmt_subnet").getD .none) := by
      cases hfound : preconfig.lookup "mgmt_subnet" with
      | none =>
        rw [hfound] at hsubnet
        cases hsubnet
      | some value => rfl
    rw [hlookup]
    exact (hrest _).trans (Dict.lookup_set_self ..)
  · rw [if_neg hsubnet, Bool.not_eq_true _ |>.mp hsubnet]
    exact hrest cfg

/-- The port that the preconfiguration brings, if any, is the one that is there. -/
def PortAgrees (preconfig cfg : Dict) : Prop :=
  ∀ entries routeros port, preconfig.lookup "routeros" = some (.dict entries) →
    cfg.lookup "routeros" = some routeros → entries.lookup "api_port" = some port →
      ValueIn "api_port" port routeros

theorem api_port_of_eq_ok_iff {port : Value} : api_port_of cfg = .ok port ↔
    ∃ fields, cfg.lookup "routeros" = some (.dict fields) ∧ fields.lookup "api_port" = some port := by
  rw [api_port_of, bind_ok_iff]
  constructor
  · rintro ⟨routeros, hrouteros, hport⟩
    cases hlookup : cfg.lookup "routeros" with
    | none =>
      rw [Value.item, hlookup] at hrouteros
      cases hrouteros
    | some found =>
      rw [Value.item, hlookup] at hrouteros
      cases hrouteros
      cases routeros with
      | dict fields =>
        refine ⟨fields, rfl, ?_⟩
        rw [Value.item] at hport
        cases hfound : fields.lookup "api_port" with
        | none =>
          rw [hfound] at hport
          cases hport
        | some found =>
          rw [hfound] at hport
          cases hport
          rfl
      | none | bool | int | str | list | other => cases hport
  · rintro ⟨fields, hrouteros, hport⟩
    refine ⟨.dict fields, ?_, ?_⟩
    · rw [Value.item, hrouteros]
    · rw [Value.item, hport]

/-- After a merge that returns, each key has what its own edit makes of it. -/
theorem merge_preconfig_lookup (htruthy : (Value.dict preconfig).truthy)
    (h : ((merge_preconfig (.dict preconfig)).exec cfg).1 = .ok ()) {key : String} {edit : Edit}
    (hedit : (key, edit) ∈ edits preconfig) :
    ((merge_preconfig (.dict preconfig)).exec cfg).2.lookup key = ((edit.run key).exec cfg).2.lookup key := by
  rw [merge_preconfig_dict htruthy] at h ⊢
  exact runEdits_lookup edit_methods_touch edit_methods_nodup h
    (List.mem_map_of_mem (f := fun edit => (edit.1, edit.2.run edit.1)) hedit)

/-- The section of the router after a merge that returns. -/
theorem merge_preconfig_routeros (htruthy : (Value.dict preconfig).truthy)
    (h : ((merge_preconfig (.dict preconfig)).exec cfg).1 = .ok ()) :
    ((merge_preconfig (.dict preconfig)).exec cfg).2.lookup "routeros" =
      if ((preconfig.lookup "routeros").getD .none).truthy then
        ((merge_routeros ((preconfig.lookup "routeros").getD .none)).exec cfg).2.lookup "routeros"
      else cfg.lookup "routeros" := by
  let routeros := ((preconfig.lookup "routeros").getD .none).orElse (.dict [])
  have hedit : ("routeros", Edit.when routeros.truthy (.configure routeros)) ∈ edits preconfig := by
    simp [edits, routeros]
  rw [merge_preconfig_lookup htruthy h hedit, Edit.run_when]
  by_cases hrouteros : ((preconfig.lookup "routeros").getD .none).truthy
  · have hsame : routeros = (preconfig.lookup "routeros").getD .none := if_pos hrouteros
    rw [hsame, if_pos hrouteros, hrouteros]
    rfl
  · have hempty : routeros = .dict [] := if_neg hrouteros
    rw [hempty, if_neg hrouteros]
    rfl

/-- After a merge that returns, the port is the one from before exactly when the
preconfiguration agrees: it brings no port, or the same one. -/
theorem merge_preconfig_port_iff {port : Value} (htruthy : (Value.dict preconfig).truthy)
    (hunique : Dict.UniqueKeys preconfig) (hport : api_port_of cfg = .ok port)
    (h : ((merge_preconfig (.dict preconfig)).exec cfg).1 = .ok ()) :
    api_port_of ((merge_preconfig (.dict preconfig)).exec cfg).2 = .ok port ↔ PortAgrees preconfig cfg := by
  obtain ⟨fields, hcfg, hport⟩ := api_port_of_eq_ok_iff.mp hport
  have hfits := (merge_preconfig_fits_iff htruthy hunique (node_of_lookup hcfg)).mp h
  rw [api_port_of_eq_ok_iff, merge_preconfig_routeros htruthy h]
  by_cases hrouteros : ((preconfig.lookup "routeros").getD .none).truthy
  · obtain ⟨src, hsrc⟩ : ∃ src, preconfig.lookup "routeros" = some src := by
      cases hfound : preconfig.lookup "routeros" with
      | none =>
        rw [hfound] at hrouteros
        cases hrouteros
      | some src => exact ⟨src, rfl⟩
    rw [if_pos hrouteros]
    rw [hsrc, Option.getD_some] at hrouteros ⊢
    have hedit : ("routeros", Edit.configure src) ∈ edits preconfig := by
      simp [edits, Edit.when, Value.orElse, hsrc, hrouteros]
    have hfit : (Edit.configure src).Fits "routeros" cfg := hfits _ hedit
    obtain ⟨entries, hitems, hfit⟩ := hfit
    obtain rfl := Value.itemsOrEmpty_of_truthy hrouteros hitems
    rw [ValueFits, hcfg, Option.getD_some] at hfit
    have hkeys : (Value.dict entries).UniqueKeys := hunique.lookup hsrc
    obtain ⟨after, hafter, -, hlookup⟩ := merge_routeros_lookup hitems hkeys (node_of_lookup hcfg) hfit
    have hentry := hlookup "api_port" (by decide)
    have hagrees : PortAgrees preconfig cfg ↔ ∀ value, entries.lookup "api_port" = some value →
        ValueIn "api_port" value (.dict fields) := by
      simp only [PortAgrees, hsrc, hcfg, Option.some.injEq, Value.dict.injEq]
      constructor
      · exact fun hagrees value hvalue => hagrees entries _ value rfl rfl hvalue
      · rintro hagrees _ _ value rfl rfl hvalue
        exact hagrees value hvalue
    rw [hafter, hagrees]
    simp only [Option.some.injEq, Value.dict.injEq, exists_eq_left', hentry]
    cases hvalue : entries.lookup "api_port" with
    | none => simp [hport]
    | some value =>
      have hvalueFits : ValueFits "api_port" value (.dict fields) := hfit.lookup hvalue
      simp only [Option.some.injEq, forall_eq']
      rw [← hport]
      exact merged_entry_eq_iff (hkeys.2.lookup hvalue) hvalueFits
  · rw [if_neg hrouteros]
    have hagrees : PortAgrees preconfig cfg := by
      intro entries routeros value hsrc _ hvalue
      rw [hsrc, Option.getD_some] at hrouteros
      rw [Value.truthy, Bool.not_eq_true, Bool.not_eq_false', List.isEmpty_iff] at hrouteros
      rw [hrouteros] at hvalue
      cases hvalue
    exact ⟨fun _ => hagrees, fun _ => ⟨fields, hcfg, hport⟩⟩

end

end getupnet.mikrotik_preloader.untyped

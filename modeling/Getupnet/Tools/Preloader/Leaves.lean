import Getupnet.Python.Paths
import Getupnet.Tools.Preloader.Fallback

open python relational

namespace getupnet.mikrotik_preloader

section

variable {key : String} {value dst : Value} {entries fields : Dict}

theorem alreadyIn_iff_forall : AlreadyIn entries dst ↔ ∀ entry ∈ entries, ValueIn entry.1 entry.2 dst := by
  induction entries with
  | nil => simp [AlreadyIn]
  | cons entry rest ih => rw [AlreadyIn, List.forall_mem_cons, ih, EntryIn]

end

mutual

/-- Items that are alike what `dst` has under their keys fit. -/
theorem fits_of_alike : ∀ (entries fields : Dict), Dict.UniqueKeys entries →
    (∀ entry ∈ entries, ∀ old, fields.lookup entry.1 = some old → Alike old entry.2) →
      Fits entries (.dict fields)
  | [], _, _, _ => trivial
  | entry :: rest, fields, hunique, h =>
    ⟨entryFits_of_alike entry fields hunique.1 (h entry List.mem_cons_self),
      fits_of_alike rest fields hunique.2 fun other hother => h other (List.mem_cons_of_mem _ hother)⟩

theorem entryFits_of_alike : ∀ (entry : String × Value) (fields : Dict), entryUniqueKeys entry →
    (∀ old, fields.lookup entry.1 = some old → Alike old entry.2) → EntryFits entry (.dict fields)
  | (key, value), fields, hunique, h => valueFits_of_alike key value fields hunique h

theorem valueFits_of_alike (key : String) : ∀ (value : Value) (fields : Dict), value.UniqueKeys →
    (∀ old, fields.lookup key = some old → Alike old value) → ValueFits key value (.dict fields)
  | .dict entries, fields, hunique, h => by
    rw [ValueFits]
    cases hold : fields.lookup key with
    | none => exact fits_of_alike entries [] hunique.2 fun _ _ _ hnone => nomatch hnone
    | some old =>
      obtain ⟨inner, rfl⟩ := (h old hold).isDict_dst
      refine fits_of_alike entries inner hunique.2 fun entry hentry found hfound => ?_
      exact (h _ hold).lookup hfound (Dict.lookup_of_mem hunique.1 hentry)
  | .none, _, _, _ | .bool _, _, _, _ | .int _, _, _, _ | .str _, _, _, _ | .list _, _, _, _
  | .other _ _, _, _, _ => trivial

end

/-- Only `None` fits what is no dictionary. -/
theorem valueFits_not_dict {key : String} {value dst : Value} (hdst : dst.isDict = false)
    (h : ValueFits key value dst) : value = .none := by
  cases dst with
  | dict fields => cases hdst
  | none | bool | int | str | list | other =>
    cases value with
    | none => rfl
    | bool | int | str | list | dict | other => exact h.elim

theorem alreadyIn_of_fits_not_dict {entries : Dict} {dst : Value} (hdst : dst.isDict = false)
    (h : Fits entries dst) (other : Value) : AlreadyIn entries other := by
  refine alreadyIn_iff_forall.mpr fun entry hentry => ?_
  rw [valueFits_not_dict hdst (fits_iff_forall.mp h entry hentry)]
  trivial

mutual

/-- A dictionary that has under each key what a merge makes of it has all items of the
merge. -/
theorem alreadyIn_of_merged : ∀ (entries fields after : Dict), Dict.UniqueKeys entries →
    (∀ entry ∈ entries, ValueFits entry.1 entry.2 (.dict fields) ∧
      after.lookup entry.1 = (merged_entry entry.2 (fields.lookup entry.1)).2) → AlreadyIn entries (.dict after)
  | [], _, _, _, _ => trivial
  | entry :: rest, fields, after, hunique, h =>
    ⟨entryIn_of_merged entry fields after hunique.1 (h entry List.mem_cons_self),
      alreadyIn_of_merged rest fields after hunique.2 fun other hother => h other (List.mem_cons_of_mem _ hother)⟩

theorem entryIn_of_merged : ∀ (entry : String × Value) (fields after : Dict), entryUniqueKeys entry →
    ValueFits entry.1 entry.2 (.dict fields) ∧
      after.lookup entry.1 = (merged_entry entry.2 (fields.lookup entry.1)).2 → EntryIn entry (.dict after)
  | (key, value), fields, after, hunique, h => valueIn_of_merged key value fields after hunique h.1 h.2

theorem valueIn_of_merged (key : String) : ∀ (value : Value) (fields after : Dict), value.UniqueKeys →
    ValueFits key value (.dict fields) → after.lookup key = (merged_entry value (fields.lookup key)).2 →
      ValueIn key value (.dict after)
  | .dict entries, fields, after, hunique, hfits, h => by
    refine ⟨_, h, ?_⟩
    rw [ValueFits] at hfits
    cases hnode : (fields.lookup key).getD (.dict []) with
    | dict inner =>
      rw [hnode] at hfits
      have hreturned := (merge_dict_fits_iff entries _ hunique.1 hunique.2).mpr hfits
      obtain ⟨merged, hmerged, hlookup⟩ := merge_dict_lookup hunique.1 hreturned
      rw [hmerged]
      refine alreadyIn_of_merged entries inner merged hunique.2 fun entry hentry => ?_
      refine ⟨fits_iff_forall.mp hfits entry hentry, ?_⟩
      rw [hlookup entry.1, Dict.lookup_of_mem hunique.1 hentry]
    | none | bool | int | str | list | other =>
      rw [hnode] at hfits
      exact alreadyIn_of_fits_not_dict rfl hfits _
  | .none, _, _, _, _, _ => trivial
  | .bool _, _, _, _, _, h | .int _, _, _, _, _, h | .str _, _, _, _, _, h | .list _, _, _, _, _, h
  | .other _ _, _, _, _, _, h => h

end

section

variable {key : String} {value : Value} {old : Option Value} {entries fields after : Dict}

theorem fits_of_alike_dict (hunique : (Value.dict entries).UniqueKeys)
    (h : Alike (.dict fields) (.dict entries)) :
    Fits entries (.dict fields) :=
  fits_of_alike entries fields hunique.2 fun _ hentry _ hold =>
    h.lookup hold (Dict.lookup_of_mem hunique.1 hentry)

/-- What a dictionary is merged into: the old entry of the key, or an empty one. -/
theorem alike_node (halike : ∀ dst ∈ old, Alike dst (.dict entries)) :
    ∃ fields, old.getD (.dict []) = .dict fields ∧ Alike (.dict fields) (.dict entries) ∧
      ∀ path, old.bind (Value.leaf path) = (Value.dict fields).leaf path := by
  cases old with
  | none =>
    refine ⟨[], rfl, Alike.dict (fun _ _ _ hold => nomatch hold), fun path => ?_⟩
    cases path <;> rfl
  | some dst =>
    have hdst := halike dst rfl
    obtain ⟨fields, rfl⟩ := hdst.isDict_dst
    exact ⟨fields, rfl, hdst, fun _ => rfl⟩

/-- After the merge of a value into the entry of a key, the path leads to the leaf that
the value has there, unless that is `None` or missing, and then to the old one. -/
def MergesLeaf (path : List String) : Prop :=
  ∀ (value : Value) (old : Option Value), value.UniqueKeys → (∀ dst ∈ old, Alike dst value) →
    (merged_entry value old).2.bind (Value.leaf path) = preferred (value.leaf path) (old.bind (Value.leaf path))

theorem MergesLeaf.lookup {path : List String} (h : MergesLeaf path) (hunique : Dict.UniqueKeys entries)
    (halike : Alike (.dict fields) (.dict entries))
    (hlookup : after.lookup key = match entries.lookup key with
      | none => fields.lookup key
      | some value => (merged_entry value (fields.lookup key)).2) :
    (Value.dict after).leaf (key :: path) =
      preferred ((Value.dict entries).leaf (key :: path)) ((Value.dict fields).leaf (key :: path)) := by
  rw [Value.leaf_dict_cons, Value.leaf_dict_cons, Value.leaf_dict_cons, hlookup]
  cases hvalue : entries.lookup key with
  | none => rfl
  | some value => exact h value _ (hunique.lookup hvalue) fun dst hdst => halike.lookup hdst hvalue

theorem mergesLeaf (path : List String) : MergesLeaf path := by
  induction path with
  | nil =>
    intro value old hunique halike
    cases value with
    | none => exact (preferred_leaf_none [] _).symm
    | dict entries =>
      obtain ⟨fields, hnode, -, hleaf⟩ := alike_node halike
      obtain ⟨after, hafter, -⟩ := merge_dict_dict entries fields
      rw [merged_entry, hnode, hafter, hleaf]
      rfl
    | bool | int | str | list | other => rfl
  | cons key rest ih =>
    intro value old hunique halike
    cases value with
    | none => exact (preferred_leaf_none (key :: rest) _).symm
    | dict entries =>
      obtain ⟨fields, hnode, hfields, hleaf⟩ := alike_node halike
      have hfits := fits_of_alike_dict hunique hfields
      have hreturned := (merge_dict_fits_iff entries _ hunique.1 hunique.2).mpr hfits
      obtain ⟨after, hafter, hlookup⟩ := merge_dict_lookup hunique.1 hreturned
      rw [merged_entry, hnode, hafter, hleaf]
      exact ih.lookup hunique.2 hfields (hlookup key)
    | bool | int | str | list | other =>
      -- The path goes on where the value ends, and the old one, which is no dictionary, as well.
      cases old with
      | none => rfl
      | some dst =>
        have hdst := (halike dst rfl).not_isDict_dst rfl rfl
        exact (Value.leaf_cons_of_not_dict hdst key rest).symm

end

end getupnet.mikrotik_preloader

namespace getupnet.mikrotik_preloader.untyped

/-- The keys whose dictionaries are merged. -/
def sections : List String := ["bootstrap", "routeros", "call_home", "webhook", "naming"]

/-- Where one of configuration and preconfiguration has a dictionary, so has the other, or
nothing, and the sections are dictionaries. -/
structure Mergeable (cfg : Dict) (preconfig : Value) : Prop where
  alike : Alike (.dict cfg) preconfig
  cfg_sections : ∀ key ∈ sections, ∀ value, cfg.lookup key = some value → value.isDict
  preconfig_sections : ∀ key ∈ sections, ∀ value, preconfig.under [key] = some value →
    value = .none ∨ value.isDict

/-- What a merge makes of a configuration: leaf by leaf, the preconfiguration's value if it
has one that is not `None`, and the configuration's otherwise. -/
structure MergedLeafwise (cfg : Dict) (preconfig : Value) (after : Dict) : Prop where
  leaves : ∀ key ∈ sections, ∀ path, ¬ ["routeros", "config"] <+: key :: path →
    (Value.dict after).leaf (key :: path) =
      preferred (preconfig.leaf (key :: path)) ((Value.dict cfg).leaf (key :: path))
  config : (Value.dict after).under ["routeros", "config"] =
    (preconfig.under ["routeros", "config"]).or ((Value.dict cfg).under ["routeros", "config"])
  mgmt_subnet : after.lookup "mgmt_subnet" =
    ((preconfig.under ["mgmt_subnet"]).filter Value.truthy).or (cfg.lookup "mgmt_subnet")
  target_mac : after.lookup "target_mac" = preferred (preconfig.under ["target_mac"]) (cfg.lookup "target_mac")
  others : ∀ key, key ∉ "mgmt_subnet" :: "target_mac" :: sections → after.lookup key = cfg.lookup key

section

variable {cfg entries fields preconfig : Dict} {key : String} {payload value : Value}

/-- Where there is nothing in the preconfiguration, the configuration stays. -/
theorem MergedLeafwise.of_nothing (h : ∀ key path, payload.under (key :: path) = none) :
    MergedLeafwise cfg payload cfg where
  leaves key _ path _ := by
    have hleaf : payload.leaf (key :: path) = none := by
      rw [Value.leaf, h]
      rfl
    rw [hleaf, preferred_none]
  config := by rw [h, Option.none_or]
  mgmt_subnet := by
    rw [h]
    rfl
  target_mac := by rw [h, preferred_none]
  others _ _ := rfl

theorem Mergeable.node (h : Mergeable cfg payload) (hkey : key ∈ sections) :
    ∃ fields, (cfg.lookup key).getD (.dict []) = .dict fields := by
  cases hlookup : cfg.lookup key with
  | none => exact ⟨[], rfl⟩
  | some value => exact Value.isDict_iff.mp (h.cfg_sections key hkey value hlookup)

theorem itemsOrEmpty_dict (entries : Dict) : (Value.dict entries).itemsOrEmpty = .ok entries := by
  cases entries <;> rfl

/-- What holds of a skipped key, of an assignment and of the merges of dictionaries holds
of all edits of a preconfiguration with such sections. -/
theorem forall_edits {holds : String → Edit → Prop}
    (hsections : ∀ key ∈ sections, ∀ value, preconfig.lookup key = some value → value = .none ∨ value.isDict)
    (hskip : ∀ key, holds key .skip) (hassign : ∀ key value, holds key (.assign value))
    (hmerge : ∀ key entries, preconfig.lookup key = some (.dict entries) → holds key (.merge (.dict entries)))
    (hconfigure : ∀ entries, preconfig.lookup "routeros" = some (.dict entries) →
      holds "routeros" (.configure (.dict entries))) :
    ∀ edit ∈ edits preconfig, holds edit.1 edit.2 := by
  have hassigned : ∀ key condition value, holds key (.when condition (.assign value)) := by
    intro key condition value
    cases condition
    · exact hskip key
    · exact hassign key value
  have hmerged : ∀ key ∈ sections,
      holds key (.when (!((preconfig.lookup key).getD .none).isNone) (.merge ((preconfig.lookup key).getD .none))) := by
    intro key hkey
    cases hvalue : preconfig.lookup key with
    | none => exact hskip key
    | some value =>
      obtain rfl | hdict := hsections key hkey value hvalue
      · exact hskip key
      · obtain ⟨entries, rfl⟩ := Value.isDict_iff.mp hdict
        exact hmerge key entries hvalue
  have hrouteros : holds "routeros" (.when (((preconfig.lookup "routeros").getD .none).orElse (.dict [])).truthy
      (.configure (((preconfig.lookup "routeros").getD .none).orElse (.dict [])))) := by
    cases hvalue : preconfig.lookup "routeros" with
    | none => exact hskip "routeros"
    | some value =>
      obtain rfl | hdict := hsections "routeros" (by decide) value hvalue
      · exact hskip "routeros"
      · obtain ⟨entries, rfl⟩ := Value.isDict_iff.mp hdict
        cases entries with
        | nil => exact hskip "routeros"
        | cons entry rest => exact hconfigure (entry :: rest) hvalue
  simp only [edits, List.forall_mem_cons, List.not_mem_nil, false_imp_iff, implies_true, and_true]
  exact ⟨hassigned _ _ _, hassigned _ _ _, hmerged _ (by decide), hrouteros, hmerged _ (by decide),
    hmerged _ (by decide), hmerged _ (by decide)⟩

theorem merge_section_again (hunique : (Value.dict entries).UniqueKeys)
    (halike : ∀ old, cfg.lookup key = some old → Alike old (.dict entries)) :
    (merge_section key (.dict entries)).exec ((merge_section key (.dict entries)).exec cfg).2 =
      (.ok (), ((merge_section key (.dict entries)).exec cfg).2) := by
  have hitems := itemsOrEmpty_dict entries
  rw [merge_section_eq_iff hitems, merge_value_alreadyIn_iff key _ _ hunique]
  refine valueIn_of_merged key (.dict entries) cfg _ hunique (valueFits_of_alike key _ cfg hunique halike) ?_
  rw [merge_section_exec, hitems]
  exact Dict.lookup_set_self ..

theorem merge_routeros_again (hunique : (Value.dict entries).UniqueKeys)
    (hcfg : (cfg.lookup "routeros").getD (.dict []) = .dict fields)
    (hfits : Fits entries (.dict fields)) :
    (merge_routeros (.dict entries)).exec ((merge_routeros (.dict entries)).exec cfg).2 =
      (.ok (), ((merge_routeros (.dict entries)).exec cfg).2) := by
  have hitems := itemsOrEmpty_dict entries
  obtain ⟨after, hafter, hconfig, hlookup⟩ := merge_routeros_lookup hitems hunique hcfg hfits
  rw [merge_routeros_in_iff hitems hunique hafter]
  refine ⟨alreadyIn_iff_forall.mpr fun entry hentry => ?_, fun config hpresent => ?_⟩
  · have hfound : entries.lookup entry.1 = some entry.2 := Dict.lookup_of_mem hunique.1 hentry
    have hentryUnique := hunique.2.lookup hfound
    by_cases hkey : entry.1 = "config"
    · refine valueIn_of_lookup entry.1 entry.2 after hentryUnique ?_
      rw [hkey, hconfig, ← hkey, hfound, Option.some_or]
    · refine valueIn_of_merged entry.1 entry.2 fields after hentryUnique (fits_iff_forall.mp hfits entry hentry) ?_
      rw [hlookup entry.1 hkey, hfound]
  · rw [hconfig, hpresent, Option.some_or]

theorem Mergeable.alike_lookup (h : Mergeable cfg (.dict preconfig))
    (hvalue : preconfig.lookup key = some value) :
    ∀ old, cfg.lookup key = some old → Alike old value :=
  fun _ hold => h.alike.lookup hold hvalue

theorem Mergeable.sections_lookup (h : Mergeable cfg (.dict preconfig)) :
    ∀ key ∈ sections, ∀ value, preconfig.lookup key = some value → value = .none ∨ value.isDict := by
  intro key hkey value hvalue
  exact h.preconfig_sections key hkey value ((Value.under_singleton key preconfig).trans hvalue)

theorem Mergeable.fits_routeros (h : Mergeable cfg (.dict preconfig)) (hunique : Dict.UniqueKeys preconfig)
    (hrouteros : preconfig.lookup "routeros" = some (.dict entries))
    (hcfg : (cfg.lookup "routeros").getD (.dict []) = .dict fields) :
    Fits entries (.dict fields) := by
  have hfits := valueFits_of_alike "routeros" (.dict entries) cfg (hunique.lookup hrouteros) (h.alike_lookup hrouteros)
  rwa [ValueFits, hcfg] at hfits

theorem Mergeable.returns (h : Mergeable cfg (.dict preconfig)) (hunique : Dict.UniqueKeys preconfig)
    (htruthy : (Value.dict preconfig).truthy) : ((merge_preconfig (.dict preconfig)).exec cfg).1 = .ok () := by
  obtain ⟨fields, hcfg⟩ := h.node (by decide : "routeros" ∈ sections)
  rw [merge_preconfig_fits_iff htruthy hunique hcfg]
  refine @forall_edits _ (fun key edit => edit.Fits key cfg) h.sections_lookup (fun _ => trivial)
    (fun _ _ => trivial) (fun key entries hvalue => ?_) fun entries hvalue => ?_
  · exact ⟨entries, itemsOrEmpty_dict entries,
      valueFits_of_alike key _ cfg (hunique.lookup hvalue) (h.alike_lookup hvalue)⟩
  · exact ⟨entries, itemsOrEmpty_dict entries,
      valueFits_of_alike "routeros" _ cfg (hunique.lookup hvalue) (h.alike_lookup hvalue)⟩

theorem Mergeable.again (h : Mergeable cfg (.dict preconfig)) (hunique : Dict.UniqueKeys preconfig)
    (htruthy : (Value.dict preconfig).truthy) :
    (merge_preconfig (.dict preconfig)).exec ((merge_preconfig (.dict preconfig)).exec cfg).2 =
      (.ok (), ((merge_preconfig (.dict preconfig)).exec cfg).2) := by
  have hreturns := h.returns hunique htruthy
  rw [merge_preconfig_dict htruthy] at hreturns ⊢
  refine runEdits_again edit_methods_touch edit_methods_nodup hreturns ?_
  rw [edit_methods, List.forall_mem_map]
  refine @forall_edits _ (fun key edit =>
    (edit.run key).exec ((edit.run key).exec cfg).2 = (.ok (), ((edit.run key).exec cfg).2)) h.sections_lookup
    (fun _ => rfl) (fun key value => ?_) (fun key entries hvalue => ?_) fun entries hvalue => ?_
  · exact Prod.ext rfl (Dict.set_set key value value cfg)
  · exact merge_section_again (hunique.lookup hvalue) (h.alike_lookup hvalue)
  · obtain ⟨fields, hcfg⟩ := h.node (by decide : "routeros" ∈ sections)
    exact merge_routeros_again (hunique.lookup hvalue) hcfg (h.fits_routeros hunique hvalue hcfg)

/-- The sections other than that of the router, after the merge. -/
theorem Mergeable.section_lookup (h : Mergeable cfg (.dict preconfig)) (hunique : Dict.UniqueKeys preconfig)
    (htruthy : (Value.dict preconfig).truthy) (hkey : key ∈ sections) (hne : key ≠ "routeros") :
    ((merge_preconfig (.dict preconfig)).exec cfg).2.lookup key = match preconfig.lookup key with
      | none => cfg.lookup key
      | some value => (merged_entry value (cfg.lookup key)).2 := by
  have hedit : (key, Edit.when (!((preconfig.lookup key).getD .none).isNone)
      (.merge ((preconfig.lookup key).getD .none))) ∈ edits preconfig := by
    simp only [sections, List.mem_cons, List.not_mem_nil, or_false] at hkey
    obtain rfl | rfl | rfl | rfl | rfl := hkey
    case inr.inl => exact absurd rfl hne
    all_goals simp [edits]
  rw [merge_preconfig_lookup htruthy (h.returns hunique htruthy) hedit, Edit.run_when]
  cases hvalue : preconfig.lookup key with
  | none => rfl
  | some value =>
    obtain rfl | hdict := h.sections_lookup key hkey value hvalue
    · rfl
    · obtain ⟨entries, rfl⟩ := Value.isDict_iff.mp hdict
      have hexec : ((Edit.merge (.dict entries)).run key).exec cfg = _ :=
        merge_section_exec key (.dict entries) cfg
      rw [itemsOrEmpty_dict] at hexec
      refine (congrArg (fun result => result.2.lookup key) hexec).trans ?_
      exact Dict.lookup_set_self ..

/-- What becomes of the section of the router, given the preconfiguration's: its `config`
is taken over, and outside it is merged leaf by leaf. -/
structure RouterosMerged (payload old after : Option Value) : Prop where
  leaves : ∀ path, ¬ ["config"] <+: path →
    after.bind (Value.leaf path) = preferred (payload.bind (Value.leaf path)) (old.bind (Value.leaf path))
  config : after.bind (Value.under ["config"]) =
    (payload.bind (Value.under ["config"])).or (old.bind (Value.under ["config"]))

theorem merge_routeros_merged (hunique : (Value.dict entries).UniqueKeys)
    (halike : ∀ old, cfg.lookup "routeros" = some old → Alike old (.dict entries)) :
    RouterosMerged (some (.dict entries)) (cfg.lookup "routeros")
      (((merge_routeros (.dict entries)).exec cfg).2.lookup "routeros") := by
  obtain ⟨fields, hnode, hfields, hleaf⟩ := alike_node halike
  have hfits := fits_of_alike_dict hunique hfields
  obtain ⟨after, hafter, hconfig, hlookup⟩ :=
    merge_routeros_lookup (itemsOrEmpty_dict entries) hunique hnode hfits
  rw [hafter]
  refine ⟨fun path hpath => ?_, ?_⟩
  · rw [hleaf path]
    cases path with
    | nil => rfl
    | cons key rest =>
      have hkey : key ≠ "config" := by
        rintro rfl
        exact hpath ⟨rest, rfl⟩
      exact (mergesLeaf rest).lookup hunique.2 hfields (hlookup key hkey)
  · have hold : (cfg.lookup "routeros").bind (Value.under ["config"]) = fields.lookup "config" := by
      cases hold : cfg.lookup "routeros" with
      | none =>
        rw [hold] at hnode
        obtain rfl := Value.dict.inj hnode
        rfl
      | some old =>
        rw [hold, Option.getD_some] at hnode
        rw [hnode, Option.bind_some, Value.under_singleton]
    rw [hold, Option.bind_some, Option.bind_some, Value.under_singleton, Value.under_singleton, hconfig]

/-- The section of the router, after the merge. -/
theorem Mergeable.routeros_merged (h : Mergeable cfg (.dict preconfig)) (hunique : Dict.UniqueKeys preconfig)
    (htruthy : (Value.dict preconfig).truthy) :
    RouterosMerged (preconfig.lookup "routeros") (cfg.lookup "routeros")
      (((merge_preconfig (.dict preconfig)).exec cfg).2.lookup "routeros") := by
  rw [merge_preconfig_routeros htruthy (h.returns hunique htruthy)]
  cases hvalue : preconfig.lookup "routeros" with
  | none => exact ⟨fun _ _ => rfl, rfl⟩
  | some value =>
    obtain rfl | hdict := h.sections_lookup "routeros" (by decide) value hvalue
    · exact ⟨fun path _ => (preferred_leaf_none path _).symm, rfl⟩
    · obtain ⟨entries, rfl⟩ := Value.isDict_iff.mp hdict
      cases entries with
      | nil =>
        refine ⟨fun path _ => ?_, rfl⟩
        cases path <;> rfl
      | cons entry rest => exact merge_routeros_merged (hunique.lookup hvalue) (h.alike_lookup hvalue)

theorem Mergeable.mergedLeafwise (h : Mergeable cfg (.dict preconfig)) (hunique : Dict.UniqueKeys preconfig)
    (htruthy : (Value.dict preconfig).truthy) :
    MergedLeafwise cfg (.dict preconfig) ((merge_preconfig (.dict preconfig)).exec cfg).2 := by
  have hreturns := h.returns hunique htruthy
  have hrouteros := h.routeros_merged hunique htruthy
  refine ⟨fun key hkey path hpath => ?_, hrouteros.config, ?_, ?_, fun key hkey => ?_⟩
  · by_cases hne : key = "routeros"
    · subst hne
      rw [Value.leaf_dict_cons, Value.leaf_dict_cons, Value.leaf_dict_cons]
      exact hrouteros.leaves path fun hconfig => hpath (List.cons_prefix_cons.mpr ⟨rfl, hconfig⟩)
    · exact (mergesLeaf path).lookup hunique h.alike (h.section_lookup hunique htruthy hkey hne)
  · rw [merge_preconfig_mgmt_subnet htruthy, Value.under_singleton]
    cases hvalue : preconfig.lookup "mgmt_subnet" with
    | none => rfl
    | some value =>
      rw [Option.getD_some, Option.filter_some]
      cases value.truthy <;> rfl
  · have hedit : ("target_mac", Edit.when (!((preconfig.lookup "target_mac").getD .none).isNone)
        (.assign ((preconfig.lookup "target_mac").getD .none))) ∈ edits preconfig := by simp [edits]
    rw [merge_preconfig_lookup htruthy hreturns hedit, Value.under_singleton, Edit.run_when]
    cases hvalue : preconfig.lookup "target_mac" with
    | none => rfl
    | some value =>
      rw [Option.getD_some]
      cases hnone : value.isNone with
      | true =>
        rw [preferred, Option.filter_some, hnone]
        rfl
      | false =>
        rw [preferred_some hnone]
        exact Dict.lookup_set_self ..
  · refine merge_preconfig_lookup_of_not_mem htruthy ?_
    simpa [edits, sections] using hkey

/-- A preconfiguration that is empty changes nothing. -/
theorem merge_preconfig_falsy (h : payload.truthy = false) :
    (merge_preconfig payload).exec cfg = (.ok (), cfg) := by
  rw [merge_preconfig, h]
  rfl

end

/-- A preconfiguration that has dictionaries only where the configuration has them or
nothing, and the other way round, is merged leaf by leaf, and a second merge changes
nothing. -/
theorem merge_preconfig_leafwise (cfg : Dict) (preconfig : Payload) (h : Mergeable cfg preconfig.1) :
    ∃ after, (merge_preconfig preconfig.1).exec cfg = (.ok (), after) ∧ MergedLeafwise cfg preconfig.1 after ∧
      (merge_preconfig preconfig.1).exec after = (.ok (), after) := by
  obtain ⟨payload, hunique⟩ := preconfig
  cases htruthy : payload.truthy with
  | false =>
    refine ⟨cfg, merge_preconfig_falsy htruthy, .of_nothing fun key path => ?_, merge_preconfig_falsy htruthy⟩
    obtain rfl | hdict := h.alike.under_dst [] cfg rfl payload rfl
    · rfl
    · obtain ⟨entries, rfl⟩ := Value.isDict_iff.mp hdict
      obtain rfl : entries = [] := by simpa [Value.truthy] using htruthy
      rfl
  | true =>
    have hdict : payload.isDict := by
      obtain rfl | hdict := h.alike.under_dst [] cfg rfl payload rfl
      · cases htruthy
      · exact hdict
    obtain ⟨entries, rfl⟩ := Value.isDict_iff.mp hdict
    exact ⟨_, Prod.ext (h.returns hunique.2 htruthy) rfl, h.mergedLeafwise hunique.2 htruthy,
      h.again hunique.2 htruthy⟩

/-- A site that is managed over the port of the API. -/
def site_cfg : Dict :=
  [("mgmt_subnet", .str "192.168.88.0/24"), ("bootstrap", .dict [("user", .str "admin")]),
    ("routeros", .dict [("api_port", .int 8728), ("config", .dict [("lan_bridge", .str "bridge")])])]

/-- What is stored for the sector: another port and another bridge, and no user. -/
def site_preconfig : Dict :=
  [("mgmt_subnet", .str ""), ("bootstrap", .dict [("user", .none), ("pass", .str "admin")]),
    ("routeros", .dict [("api_port", .int 8729), ("config", .dict [("lan_bridge", .str "br-lan")])])]

example : (merge_preconfig (.dict site_preconfig)).exec site_cfg = (.ok (),
    [("mgmt_subnet", .str "192.168.88.0/24"), ("bootstrap", .dict [("user", .str "admin"), ("pass", .str "admin")]),
      ("routeros", .dict [("api_port", .int 8729), ("config", .dict [("lan_bridge", .str "br-lan")])])]) := rfl

theorem merge_preconfig_leafwise_site :
    ∃ after, (merge_preconfig (.dict site_preconfig)).exec site_cfg = (.ok (), after) ∧
      MergedLeafwise site_cfg (.dict site_preconfig) after ∧
      (merge_preconfig (.dict site_preconfig)).exec after = (.ok (), after) := by
  have hunique : (Value.dict site_preconfig).UniqueKeys := by
    simp [site_preconfig, Value.UniqueKeys, Dict.UniqueKeys, entryUniqueKeys]
  have hbootstrap : Alike (.dict [("user", .str "admin")]) (.dict [("user", .none), ("pass", .str "admin")]) := by
    refine Alike.dict (List.forall_mem_cons.mpr ⟨fun old _ => Alike.none old, ?_⟩)
    exact List.forall_mem_singleton.mpr fun old hold => nomatch hold
  have hconfig : Alike (.dict [("lan_bridge", .str "bridge")]) (.dict [("lan_bridge", .str "br-lan")]) := by
    refine Alike.dict (List.forall_mem_singleton.mpr fun old hold => ?_)
    cases hold
    exact Alike.of_not_dict rfl rfl
  have hrouteros : Alike (.dict [("api_port", .int 8728), ("config", .dict [("lan_bridge", .str "bridge")])])
      (.dict [("api_port", .int 8729), ("config", .dict [("lan_bridge", .str "br-lan")])]) := by
    refine Alike.dict (List.forall_mem_cons.mpr ⟨fun old hold => ?_, List.forall_mem_singleton.mpr fun old hold => ?_⟩)
    · cases hold
      exact Alike.of_not_dict rfl rfl
    · cases hold
      exact hconfig
  have halike : Alike (.dict site_cfg) (.dict site_preconfig) := by
    refine Alike.dict (List.forall_mem_cons.mpr ⟨fun old hold => ?_, List.forall_mem_cons.mpr
      ⟨fun old hold => ?_, List.forall_mem_singleton.mpr fun old hold => ?_⟩⟩)
    · cases hold
      exact Alike.of_not_dict rfl rfl
    · cases hold
      exact hbootstrap
    · cases hold
      exact hrouteros
  have hdicts : ∀ key ∈ sections,
      (site_cfg.lookup key).all Value.isDict ∧ (site_preconfig.lookup key).all Value.isDict := by decide
  have hmergeable : Mergeable site_cfg (.dict site_preconfig) := by
    refine ⟨halike, fun key hkey value hvalue => ?_, fun key hkey value hvalue => .inr ?_⟩
    · have hdict := (hdicts key hkey).1
      rwa [hvalue] at hdict
    · have hdict := (hdicts key hkey).2
      rw [Value.under_singleton] at hvalue
      rwa [hvalue] at hdict
  exact merge_preconfig_leafwise site_cfg ⟨.dict site_preconfig, hunique⟩ hmergeable

end getupnet.mikrotik_preloader.untyped

import Getupnet.Relational.Foremost
import Getupnet.Relational.Runs
import Getupnet.Relational.Transaction
import Getupnet.IspMikrotik.Preconfig

open python
open relational
open getupnet.isp_core

namespace getupnet.isp_mikrotik

/-- The profiles, and the id that the next one gets. -/
structure PreconfigTable extends Preconfigs where
  next_id : Nat

/-- The values of a creation or a write: the fields that decide which profile is found,
where they are given, and what becomes of the others. -/
structure PreconfigVals where
  active : Option Bool := none
  sequence : Option Int := none
  sector_id : Option (Option Nat) := none
  is_default : Option Bool := none
  settings : IspMikrotikPreconfig → IspMikrotikPreconfig := id

def PreconfigVals.apply (self : PreconfigVals) (profile : IspMikrotikPreconfig) : IspMikrotikPreconfig :=
  { self.settings profile with
    id := profile.id
    active := self.active.getD profile.active
    sequence := self.sequence.getD profile.sequence
    sector_id := self.sector_id.getD profile.sector_id
    is_default := self.is_default.getD profile.is_default }

def _check_default (self : List IspMikrotikPreconfig) : Except OdooError Unit :=
  self.forM fun rec =>
    if rec.is_default = true ∧ rec.sector_id ≠ none then
      throw (.validation "El perfil default no debe estar asociado a un sector.")
    else
      pure ()

/-- A write runs the check when it has a field that the check declares. -/
def PreconfigVals.checked (self : PreconfigVals) : Bool := self.is_default.isSome || self.sector_id.isSome

/-- Calls that create, write and delete profiles, and changes of the sectors: some are
deleted, and the codes are given anew. -/
inductive PreconfigCall where
  | create (vals_list : List PreconfigVals)
  | write (self : List Nat) (vals : PreconfigVals)
  | unlink (self : List Nat)
  | change_sectors (deleted : List Nat) (sector_of_code : Value → Option Nat)

/-- What the deletion of sectors leaves of a profile. -/
def IspMikrotikPreconfig.set_null (deleted : List Nat) (self : IspMikrotikPreconfig) : IspMikrotikPreconfig :=
  if self.sector_id.any fun sector => decide (sector ∈ deleted) then { self with sector_id := none } else self

/-- What a write makes of one of the profiles. -/
def PreconfigVals.written (ids : List Nat) (self : PreconfigVals) (profile : IspMikrotikPreconfig) :
    IspMikrotikPreconfig :=
  if profile.id ∈ ids then self.apply profile else profile

namespace PreconfigTable

variable (self : PreconfigTable)

/-- The profiles that a creation makes of its values. -/
def created (vals_list : List PreconfigVals) : List IspMikrotikPreconfig :=
  vals_list.mapIdx fun place vals => vals.apply { id := self.next_id + place }

/-- The profiles with the values of a call stored. -/
def stored : PreconfigCall → PreconfigTable
  | .create vals_list =>
    { self with
      profiles := self.profiles ++ self.created vals_list
      next_id := self.next_id + vals_list.length }
  | .write ids vals => { self with profiles := self.profiles.map (vals.written ids) }
  | .unlink ids => { self with profiles := self.profiles.filter fun profile => decide (profile.id ∉ ids) }
  | .change_sectors deleted sector_of_code =>
    { self with
      profiles := self.profiles.map (IspMikrotikPreconfig.set_null deleted)
      sector_of_code := sector_of_code }

/-- The profiles that a call checks, as it leaves them. A sector is taken from its
profiles by the database, with no check. -/
def checked : PreconfigCall → List IspMikrotikPreconfig
  | .create vals_list => self.created vals_list
  | .write ids vals =>
    if vals.checked then (self.profiles.map (vals.written ids)).filter fun profile => decide (profile.id ∈ ids)
    else []
  | .unlink _ | .change_sectors _ _ => []

/-- A call with its transaction: it raises, or the values stay stored. -/
def call (call : PreconfigCall) : Except OdooError PreconfigTable := do
  _check_default (self.checked call)
  return self.stored call

end PreconfigTable

/-- A call that returns. -/
def PreconfigStep (before : PreconfigTable) (call : PreconfigCall) (after : PreconfigTable) : Prop :=
  before.call call = .ok after

/-- The ids are distinct and used up, and no default profile has a sector. -/
structure PreconfigTable.Sound (table : PreconfigTable) : Prop where
  distinct : table.profiles.Pairwise fun first second => first.id ≠ second.id
  used : ∀ profile ∈ table.profiles, profile.id < table.next_id
  default_free : ∀ profile ∈ table.profiles, profile.is_default = true → profile.sector_id = none

/-- An active profile is for its sector; a default one without a sector is for all. -/
def IspMikrotikPreconfig.Serves (self : IspMikrotikPreconfig) : Option Nat → Prop
  | some sector => self.active = true ∧ self.sector_id = some sector
  | none => self.active = true ∧ self.is_default = true ∧ self.sector_id = none

instance (self : IspMikrotikPreconfig) : (sector : Option Nat) → Decidable (self.Serves sector)
  | some _ => inferInstanceAs (Decidable (_ ∧ _))
  | none => inferInstanceAs (Decidable (_ ∧ _ ∧ _))

namespace Preconfigs

variable (self : Preconfigs)

/-- The sector that has a code. -/
def sector (sector_code : Value) : Option Nat :=
  if sector_code.truthy then self.sector_of_code sector_code else none

/-- The first of the profiles that are for a sector, or for all. -/
def First (sector : Option Nat) (profile : IspMikrotikPreconfig) : Prop :=
  IsForemost IspMikrotikPreconfig.precedes (IspMikrotikPreconfig.Serves · sector) self.profiles profile

/-- The profile that a sector is due: the first of its own, and only if it has none the
first of those for all. -/
def Due (sector : Option Nat) (profile : IspMikrotikPreconfig) : Prop :=
  self.First sector profile ∨ (∀ other ∈ self.profiles, ¬ other.Serves sector) ∧ self.First none profile

end Preconfigs

/-- A call leaves those profiles alone that are for a sector: it makes none, and it changes
and deletes none. -/
def PreconfigCall.Spares (before : PreconfigTable) (sector : Option Nat) : PreconfigCall → Prop
  | .create vals_list => ∀ rec ∈ before.created vals_list, ¬ rec.Serves sector
  | .write ids vals =>
    ∀ rec ∈ before.profiles, rec.id ∈ ids → ¬ rec.Serves sector ∧ ¬ (vals.apply rec).Serves sector
  | .unlink ids => ∀ rec ∈ before.profiles, rec.id ∈ ids → ¬ rec.Serves sector
  | .change_sectors deleted _ => ∀ id ∈ deleted, sector ≠ some id

/-- What a sector gets depends on its own profiles, and if it has none on those for all. -/
def Preconfigs.Relies (self : Preconfigs) (sector kind : Option Nat) : Prop :=
  kind = sector ∨ kind = none ∧ ∀ rec ∈ self.profiles, ¬ rec.Serves sector

/-- The table is sound, and of the profiles that a sector relies on it has the same as
another. -/
structure PreconfigTable.SameFor (first : PreconfigTable) (sector : Option Nat) (second : PreconfigTable) : Prop where
  sound : second.Sound
  same : ∀ kind, first.Relies sector kind →
    ∀ rec, rec.Serves kind → (rec ∈ first.profiles ↔ rec ∈ second.profiles)

instance : IsTrans IspMikrotikPreconfig IspMikrotikPreconfig.precedes where
  trans first second third hfirst hsecond := by
    simp only [IspMikrotikPreconfig.precedes] at *
    omega

instance : Std.Total IspMikrotikPreconfig.precedes where
  total first second := by
    simp only [IspMikrotikPreconfig.precedes]
    omega

section

variable {before after : PreconfigTable} {call : PreconfigCall} {profile : IspMikrotikPreconfig}

theorem _check_default_ok_iff {profiles : List IspMikrotikPreconfig} :
    _check_default profiles = .ok () ↔ ∀ rec ∈ profiles, rec.is_default = true → rec.sector_id = none := by
  rw [_check_default, forM_ok_iff]
  refine forall₂_congr fun rec _ => ?_
  split
  · rename_i hraises
    exact iff_of_false nofun fun h => hraises.2 (h hraises.1)
  · rename_i hpasses
    exact iff_of_true rfl fun hdefault => by_contra fun hsector => hpasses ⟨hdefault, hsector⟩

theorem preconfigStep_iff : PreconfigStep before call after ↔
    (∀ rec ∈ before.checked call, rec.is_default = true → rec.sector_id = none) ∧ after = before.stored call := by
  rw [PreconfigStep, PreconfigTable.call, ← _check_default_ok_iff]
  cases _check_default (before.checked call) with
  | error exception => exact iff_of_false nofun nofun
  | ok value => exact ⟨fun h => ⟨rfl, (Except.ok.inj h).symm⟩, fun h => congrArg Except.ok h.2.symm⟩

/-- The own profile of the code's sector, or else the default one. -/
theorem Preconfigs.record_for_sector_eq (self : Preconfigs) (sector_code : Value) :
    self.record_for_sector sector_code =
      ((self.sector sector_code).bind fun id => self.search fun rec => rec.active && rec.sector_id == some id).or
        (self.search fun rec => rec.active && rec.is_default) := by
  simp only [Preconfigs.record_for_sector, Preconfigs.sector]
  split
  · rename_i hown
    rw [hown, Option.some_or]
  · rename_i hown
    rw [hown, Option.none_or]

theorem IspMikrotikPreconfig.serves_own (sector : Nat) :
    (profile.active && profile.sector_id == some sector) = true ↔ profile.Serves (some sector) := by
  rw [Bool.and_eq_true, beq_iff_eq, IspMikrotikPreconfig.Serves]

@[simp] theorem PreconfigVals.apply_id (vals : PreconfigVals) : (vals.apply profile).id = profile.id := rfl

@[simp] theorem PreconfigVals.written_id (vals : PreconfigVals) (ids : List Nat) :
    (vals.written ids profile).id = profile.id := by
  rw [PreconfigVals.written]
  split <;> rfl

@[simp] theorem IspMikrotikPreconfig.set_null_id (deleted : List Nat) :
    (profile.set_null deleted).id = profile.id := by
  rw [IspMikrotikPreconfig.set_null]
  split <;> rfl

namespace PreconfigTable

theorem mem_created {vals_list : List PreconfigVals} (h : profile ∈ before.created vals_list) :
    before.next_id ≤ profile.id ∧ profile.id < before.next_id + vals_list.length := by
  obtain ⟨place, hplace, rfl⟩ := List.mem_mapIdx.mp h
  exact ⟨Nat.le_add_right _ _, Nat.add_lt_add_left hplace _⟩

theorem created_distinct (vals_list : List PreconfigVals) :
    (before.created vals_list).Pairwise fun first second => first.id ≠ second.id := by
  refine List.pairwise_iff_getElem.mpr fun place later _ _ hlt => ?_
  simp only [created, List.getElem_mapIdx, PreconfigVals.apply_id]
  omega

namespace Sound

/-- A creation takes new ids, and no other call changes an id. -/
theorem stored_distinct (h : before.Sound) :
    (before.stored call).profiles.Pairwise fun first second => first.id ≠ second.id := by
  cases call with
  | create vals_list =>
    refine List.pairwise_append.mpr ⟨h.distinct, created_distinct vals_list, fun old hold new hnew => ?_⟩
    exact Nat.ne_of_lt (Nat.lt_of_lt_of_le (h.used old hold) (mem_created hnew).1)
  | write ids vals => exact List.pairwise_map.mpr (h.distinct.imp fun hne => by simpa using hne)
  | unlink ids => exact h.distinct.filter _
  | change_sectors deleted sector_of_code =>
    exact List.pairwise_map.mpr (h.distinct.imp fun hne => by simpa using hne)

theorem stored_used (h : before.Sound) :
    ∀ profile ∈ (before.stored call).profiles, profile.id < (before.stored call).next_id := by
  intro profile hprofile
  cases call with
  | create vals_list =>
    obtain hold | hnew := List.mem_append.mp hprofile
    · exact Nat.lt_add_right _ (h.used profile hold)
    · exact (mem_created hnew).2
  | write ids vals =>
    obtain ⟨old, hold, rfl⟩ := List.mem_map.mp hprofile
    rw [PreconfigVals.written_id]
    exact h.used old hold
  | unlink ids => exact h.used profile (List.mem_of_mem_filter hprofile)
  | change_sectors deleted sector_of_code =>
    obtain ⟨old, hold, rfl⟩ := List.mem_map.mp hprofile
    rw [IspMikrotikPreconfig.set_null_id]
    exact h.used old hold

/-- What a call does not check it leaves with the default flag and the sector it had, or
with no sector. -/
theorem stored_default_free (h : before.Sound)
    (hchecked : ∀ rec ∈ before.checked call, rec.is_default = true → rec.sector_id = none) :
    ∀ profile ∈ (before.stored call).profiles, profile.is_default = true → profile.sector_id = none := by
  intro profile hprofile
  cases call with
  | create vals_list =>
    obtain hold | hnew := List.mem_append.mp hprofile
    · exact h.default_free profile hold
    · exact hchecked profile hnew
  | write ids vals =>
    obtain ⟨old, hold, rfl⟩ := List.mem_map.mp hprofile
    by_cases hid : old.id ∈ ids
    · by_cases hchecks : vals.checked = true
      · refine hchecked _ ?_
        rw [checked, if_pos hchecks]
        exact List.mem_filter.mpr ⟨hprofile, by simpa using hid⟩
      · have hfields : vals.is_default = none ∧ vals.sector_id = none := by
          simpa [PreconfigVals.checked] using hchecks
        rw [PreconfigVals.written, if_pos hid]
        simpa [PreconfigVals.apply, hfields.1, hfields.2] using h.default_free old hold
    · rw [PreconfigVals.written, if_neg hid]
      exact h.default_free old hold
  | unlink ids => exact h.default_free profile (List.mem_of_mem_filter hprofile)
  | change_sectors deleted sector_of_code =>
    obtain ⟨old, hold, rfl⟩ := List.mem_map.mp hprofile
    rw [IspMikrotikPreconfig.set_null]
    split
    · exact fun _ => rfl
    · exact h.default_free old hold

theorem step (h : before.Sound) (hstep : PreconfigStep before call after) : after.Sound := by
  obtain ⟨hchecked, rfl⟩ := preconfigStep_iff.mp hstep
  exact ⟨h.stored_distinct, h.stored_used, h.stored_default_free hchecked⟩

/-- The order of the profiles tells any two of them apart. -/
theorem antisymm (h : before.Sound) : ∀ first ∈ before.profiles, ∀ second ∈ before.profiles,
    first.precedes second → second.precedes first → first = second := by
  intro first hfirst second hsecond hle hge
  have hid : first.id = second.id := by
    simp only [IspMikrotikPreconfig.precedes] at hle hge
    omega
  exact List.inj_on_of_nodup_map (List.pairwise_map.mpr h.distinct) hfirst hsecond hid

theorem search_own (h : before.Sound) (sector : Nat) :
    before.search (fun rec => rec.active && rec.sector_id == some sector) = some profile ↔
      before.First (some sector) profile :=
  head?_sorted_filter_eq_some (fun _ _ => IspMikrotikPreconfig.serves_own sector) h.antisymm

/-- The search for a default one does not look at the sector, which the check keeps
away from it. -/
theorem search_default (h : before.Sound) :
    before.search (fun rec => rec.active && rec.is_default) = some profile ↔ before.First none profile := by
  refine head?_sorted_filter_eq_some (fun rec hrec => ?_) h.antisymm
  have hfree := h.default_free rec hrec
  rw [Bool.and_eq_true, IspMikrotikPreconfig.Serves]
  constructor
  · exact fun ⟨hactive, hdefault⟩ => ⟨hactive, hdefault, hfree hdefault⟩
  · exact fun ⟨hactive, hdefault, _⟩ => ⟨hactive, hdefault⟩

theorem set_null_of_serves {sector : Option Nat} {deleted : List Nat} (hdeleted : ∀ id ∈ deleted, sector ≠ some id)
    (hserves : profile.Serves sector) : profile.set_null deleted = profile := by
  refine if_neg fun hany => ?_
  obtain ⟨id, hid, hmem⟩ := (Option.any_eq_true _ _).mp hany
  cases sector with
  | none => exact Option.some_ne_none id (hid.symm.trans hserves.2.2)
  | some sector => exact hdeleted id (of_decide_eq_true hmem) (hserves.2.symm.trans hid)

/-- A call that leaves the profiles for a sector alone leaves the same of them. -/
theorem spared {sector : Option Nat} (h : before.Sound) (hspares : call.Spares before sector)
    (hserves : profile.Serves sector) : profile ∈ before.profiles ↔ profile ∈ (before.stored call).profiles := by
  cases call with
  | create vals_list =>
    refine ⟨List.mem_append_left _, fun hafter => (List.mem_append.mp hafter).resolve_right fun hnew => ?_⟩
    exact hspares profile hnew hserves
  | write ids vals =>
    constructor
    · intro hbefore
      refine List.mem_map.mpr ⟨profile, hbefore, if_neg fun hid => ?_⟩
      exact (hspares profile hbefore hid).1 hserves
    · intro hafter
      obtain ⟨old, hold, rfl⟩ := List.mem_map.mp hafter
      by_cases hid : old.id ∈ ids
      · rw [PreconfigVals.written, if_pos hid] at hserves
        exact absurd hserves (hspares old hold hid).2
      · rwa [PreconfigVals.written, if_neg hid]
  | unlink ids =>
    refine ⟨fun hbefore => List.mem_filter.mpr ⟨hbefore, decide_eq_true fun hid => ?_⟩, List.mem_of_mem_filter⟩
    exact hspares profile hbefore hid hserves
  | change_sectors deleted sector_of_code =>
    constructor
    · exact fun hbefore => List.mem_map.mpr ⟨profile, hbefore, set_null_of_serves hspares hserves⟩
    · intro hafter
      obtain ⟨old, hold, rfl⟩ := List.mem_map.mp hafter
      -- A profile that loses its sector is no default one, so it is for nobody.
      by_cases hany : (old.sector_id.any fun id => decide (id ∈ deleted)) = true
      · rw [IspMikrotikPreconfig.set_null, if_pos hany] at hserves
        cases sector with
        | none =>
          rw [h.default_free old hold hserves.2.1] at hany
          exact absurd hany Bool.false_ne_true
        | some sector => exact absurd hserves.2 nofun
      · rwa [IspMikrotikPreconfig.set_null, if_neg hany]

theorem record_for_sector_iff (h : before.Sound) (sector_code : Value) :
    before.record_for_sector sector_code = some profile ↔ before.Due (before.sector sector_code) profile := by
  rw [Preconfigs.record_for_sector_eq, Preconfigs.Due]
  cases before.sector sector_code with
  | none =>
    rw [Option.bind_none, Option.none_or]
    refine h.search_default.trans ⟨Or.inl, ?_⟩
    rintro (hfirst | ⟨_, hfirst⟩) <;> exact hfirst
  | some sector =>
    rw [Option.bind_some]
    cases hown : before.search fun rec => rec.active && rec.sector_id == some sector with
    | none =>
      have hnone : ∀ rec ∈ before.profiles, ¬ rec.Serves (some sector) :=
        (head?_sorted_filter_eq_none fun _ _ => IspMikrotikPreconfig.serves_own sector).mp hown
      rw [Option.none_or]
      refine h.search_default.trans ⟨fun hfirst => Or.inr ⟨hnone, hfirst⟩, ?_⟩
      rintro (hfirst | ⟨_, hfirst⟩)
      · exact absurd hfirst.meets (hnone profile hfirst.mem)
      · exact hfirst
    | some rec =>
      have hrec := (h.search_own sector).mp hown
      rw [Option.some_or]
      constructor
      · intro heq
        exact Or.inl (Option.some.inj heq ▸ hrec)
      · rintro (hfirst | ⟨hnone, _⟩)
        · exact congrArg some (hrec.unique h.antisymm hfirst)
        · exact absurd hrec.meets (hnone rec hrec.mem)

end Sound

end PreconfigTable

variable {initial reached : PreconfigTable} {taken : List (PreconfigTable × PreconfigCall)}

/-- Whatever calls are made, at any time the profile found for a code is the one that its
sector is due: the first of its own, and only if it has none the first of those for all
sectors. -/
theorem preconfig_due (hinitial : initial.Sound) (run : Run PreconfigStep initial taken reached) :
    ∀ table ∈ Run.visited taken reached, ∀ sector_code profile,
      table.record_for_sector sector_code = some profile ↔ table.Due (table.sector sector_code) profile := by
  have hkeep : ∀ before call after, before.Sound → True → PreconfigStep before call after → after.Sound :=
    fun _ _ _ hbefore _ hstep => hbefore.step hstep
  have hsound := Run.invariant_of_condition hinitial hkeep run fun _ _ => trivial
  intro table htable sector_code profile
  exact (hsound table htable).record_for_sector_iff sector_code

/-- A default profile and one of a sector. -/
def two_preconfigs : PreconfigTable where
  profiles := [{ id := 1, is_default := true }, { id := 2, sector_id := some 1 }]
  sector_of_code
    | .str code => if code = "N1" then some 1 else none
    | _ => none
  next_id := 3

theorem two_preconfigs_sound : two_preconfigs.Sound := ⟨by decide, by decide, by decide⟩

def earlier_preconfig : PreconfigCall := .create [{ sector_id := some (some 1), sequence := some 5 }]

theorem preconfig_due_earlier :
    (two_preconfigs.stored earlier_preconfig).Due (some 1) { id := 3, sequence := 5, sector_id := some 1 } :=
  have run : Run PreconfigStep two_preconfigs [(two_preconfigs, earlier_preconfig)]
      (two_preconfigs.stored earlier_preconfig) := .step .start (preconfigStep_iff.mpr ⟨by decide, rfl⟩)
  (preconfig_due two_preconfigs_sound run _ (Run.reached_mem_visited _ _) (.str "N1") _).mp rfl

namespace PreconfigTable.SameFor

variable {sector : Option Nat}

theorem step (h : initial.SameFor sector before)
    (hspares : ∀ kind, initial.Relies sector kind → call.Spares before kind)
    (hstep : PreconfigStep before call after) : initial.SameFor sector after where
  sound := h.sound.step hstep
  same kind hkind rec hserves := by
    refine (h.same kind hkind rec hserves).trans ?_
    rw [(preconfigStep_iff.mp hstep).2]
    exact h.sound.spared (hspares kind hkind) hserves

/-- What the sector is due is among the profiles it relies on. -/
theorem due (h : initial.SameFor sector reached) (hdue : initial.Due sector profile) :
    reached.Due sector profile := by
  have hown := h.same sector (Or.inl rfl)
  obtain hfirst | ⟨hnone, hfirst⟩ := hdue
  · exact Or.inl (hfirst.of_same hown)
  · refine Or.inr ⟨fun rec hrec hserves => hnone rec ((hown rec hserves).mpr hrec) hserves, ?_⟩
    exact hfirst.of_same (h.same none (Or.inr ⟨rfl, hnone⟩))

end PreconfigTable.SameFor

/-- What a sector gets is not touched by calls that leave its own profiles alone, and if
it has none those for all. The payload that is answered stays the same as a whole. -/
theorem preconfig_kept {sector : Option Nat} (hinitial : initial.Sound)
    (run : Run PreconfigStep initial taken reached)
    (hspares : ∀ entry ∈ taken, ∀ kind, initial.Relies sector kind → entry.2.Spares entry.1 kind)
    (hdue : initial.Due sector profile) :
    ∀ table ∈ Run.visited taken reached, ∀ sector_code, table.sector sector_code = sector →
      table.get_preconfig_for_sector sector_code = .dict profile.to_preloader_payload := by
  have hstart : initial.SameFor sector initial := ⟨hinitial, fun _ _ _ _ => Iff.rfl⟩
  have hkeep : ∀ before call after, initial.SameFor sector before →
      (∀ kind, initial.Relies sector kind → call.Spares before kind) → PreconfigStep before call after →
      initial.SameFor sector after := fun _ _ _ hbefore hcall hstep => hbefore.step hcall hstep
  have hsame := Run.invariant_of_condition hstart hkeep run hspares
  intro table htable sector_code hsector
  have hfound : table.record_for_sector sector_code = some profile := by
    rw [(hsame table htable).sound.record_for_sector_iff, hsector]
    exact (hsame table htable).due hdue
  rw [Preconfigs.get_preconfig_for_sector, hfound]

def default_first : PreconfigCall := .write [1] { sequence := some 0 }

theorem preconfig_kept_default_first :
    (two_preconfigs.stored default_first).get_preconfig_for_sector (.str "N1") =
      .dict (IspMikrotikPreconfig.to_preloader_payload { id := 2, sector_id := some 1 }) := by
  have run : Run PreconfigStep two_preconfigs [(two_preconfigs, default_first)]
      (two_preconfigs.stored default_first) := .step .start (preconfigStep_iff.mpr ⟨by decide, rfl⟩)
  have hdue : two_preconfigs.Due (some 1) { id := 2, sector_id := some 1 } :=
    (two_preconfigs_sound.record_for_sector_iff (.str "N1")).mp rfl
  refine preconfig_kept two_preconfigs_sound run (fun entry hentry kind hkind => ?_) hdue _
    (Run.reached_mem_visited _ _) _ rfl
  obtain rfl := List.mem_singleton.mp hentry
  obtain rfl | ⟨rfl, hnone⟩ := hkind
  · change ∀ rec ∈ two_preconfigs.profiles, rec.id ∈ [1] →
      ¬ rec.Serves (some 1) ∧ ¬ (PreconfigVals.apply { sequence := some 0 } rec).Serves (some 1)
    decide
  · exact absurd ⟨rfl, rfl⟩ (hnone { id := 2, sector_id := some 1 } (List.mem_cons_of_mem _ List.mem_cons_self))

end

end getupnet.isp_mikrotik

import Mathlib.Algebra.BigOperators.Group.Finset.Basic
import Mathlib.Algebra.Order.BigOperators.Group.Finset
import Mathlib.Algebra.Order.Ring.Rat
import Mathlib.Algebra.Field.Rat

namespace relational

variable {κ : Type} [DecidableEq κ] {keys : List κ} {amount : κ → ℚ}

theorem sum_dedup (keys : List κ) (amount : κ → ℚ) :
    (keys.dedup.map amount).sum = ∑ key ∈ keys.toFinset, amount key := by
  have hsame : keys.dedup.toFinset = keys.toFinset := by
    ext key
    rw [List.mem_toFinset, List.mem_toFinset, List.mem_dedup]
  rw [← hsame, List.sum_toFinset amount keys.nodup_dedup]

/-- What a key counts for in a total: its amount as often as it occurs. -/
theorem sum_eq_count (keys : List κ) (amount : κ → ℚ) :
    (keys.map amount).sum = ∑ key ∈ keys.toFinset, keys.count key * amount key := by
  rw [Finset.sum_list_map_count]
  simp only [nsmul_eq_mul]

theorem amount_le_count (h : ∀ key ∈ keys, 0 ≤ amount key) :
    ∀ key ∈ keys.toFinset, amount key ≤ keys.count key * amount key := by
  intro key hkey
  have hmem := List.mem_toFinset.mp hkey
  have hcount : 1 ≤ keys.count key := List.count_pos_iff.mpr hmem
  have hcast : (1 : ℚ) ≤ keys.count key := by exact_mod_cast hcount
  exact le_mul_of_one_le_left (h key hmem) hcast

/-- Counting each key once counts no more than counting it each time. -/
theorem sum_dedup_le (h : ∀ key ∈ keys, 0 ≤ amount key) : (keys.dedup.map amount).sum ≤ (keys.map amount).sum := by
  rw [sum_dedup, sum_eq_count]
  exact Finset.sum_le_sum (amount_le_count h)

/-- And it counts as much exactly when no key with an amount occurs twice. -/
theorem sum_dedup_eq_iff (h : ∀ key ∈ keys, 0 ≤ amount key) :
    (keys.dedup.map amount).sum = (keys.map amount).sum ↔
      ∀ key ∈ keys, amount key ≠ 0 → keys.count key = 1 := by
  rw [sum_dedup, sum_eq_count, Finset.sum_eq_sum_iff_of_le (amount_le_count h)]
  constructor
  · intro heq key hkey hamount
    have hsame := heq key (List.mem_toFinset.mpr hkey)
    have hcast : ((keys.count key : Nat) : ℚ) = 1 := by
      have hcancel : ((keys.count key : Nat) : ℚ) * amount key = 1 * amount key := by rw [← hsame, one_mul]
      exact mul_right_cancel₀ hamount hcancel
    exact_mod_cast hcast
  · intro honce key hkey
    by_cases hamount : amount key = 0
    · rw [hamount, mul_zero]
    · rw [honce key (List.mem_toFinset.mp hkey) hamount, Nat.cast_one, one_mul]

/-- A value has its key to itself. -/
theorem count_map_eq_one_iff {ι : Type} {values : List ι} {value : ι} (key : ι → κ) (hnodup : values.Nodup)
    (hvalue : value ∈ values) :
    (values.map key).count (key value) = 1 ↔ ∀ other ∈ values, key other = key value → other = value := by
  have hcount : (values.map key).count (key value) =
      (values.filter fun other => decide (key other = key value)).length := by
    rw [List.count, List.countP_map, List.countP_eq_length_filter]
    rfl
  have hmem : value ∈ values.filter fun other => decide (key other = key value) :=
    List.mem_filter.mpr ⟨hvalue, decide_eq_true rfl⟩
  rw [hcount]
  constructor
  · intro hone other hother hkey
    obtain ⟨only, honly⟩ := List.length_eq_one_iff.mp hone
    have hfiltered : other ∈ values.filter fun other => decide (key other = key value) :=
      List.mem_filter.mpr ⟨hother, decide_eq_true hkey⟩
    rw [honly, List.mem_singleton] at hmem hfiltered
    rw [hmem, hfiltered]
  · intro hunique
    have hsubset : values.filter (fun other => decide (key other = key value)) ⊆ [value] := by
      intro other hother
      obtain ⟨hmember, hkey⟩ := List.mem_filter.mp hother
      exact List.mem_singleton.mpr (hunique other hmember (of_decide_eq_true hkey))
    have hle := ((hnodup.filter _).subperm hsubset).length_le
    have hpos := List.length_pos_of_mem hmem
    rw [List.length_singleton] at hle
    omega

end relational

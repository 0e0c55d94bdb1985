import Mathlib.Data.List.Count
import Mathlib.Data.List.Nodup
import Mathlib.Data.List.Pairwise
import Mathlib.Data.List.Perm.Basic
import Mathlib.Order.Lattice

namespace relational

variable {α κ : Type} [LinearOrder κ]

/-- A stable sort by descending keys. -/
def ranked (key : α → κ) (values : List α) : List α :=
  values.mergeSort fun first second => decide (key second ≤ key first)

/-- A list shows, in descending order, at most `limit` of the candidates, those with the
largest keys. -/
structure IsTop (limit : Nat) (key : α → κ) (candidate : α → Prop) (listed : List α) : Prop where
  nodup : listed.Nodup
  length_le : listed.length ≤ limit
  candidates : ∀ value ∈ listed, candidate value
  descending : listed.Pairwise fun first second => key second ≤ key first
  largest : ∀ value, candidate value → value ∉ listed →
    listed.length = limit ∧ ∀ other ∈ listed, key value ≤ key other

section Ranked

variable {key : α → κ} {values : List α} {first second : α}

theorem ranked_perm : (ranked key values).Perm values := List.mergeSort_perm _ _

theorem mem_ranked : first ∈ ranked key values ↔ first ∈ values := ranked_perm.mem_iff

theorem ranked_descending :
    (ranked key values).Pairwise fun first second => key second ≤ key first := by
  refine (List.pairwise_mergeSort ?_ ?_ values).imp of_decide_eq_true
  · intro first second third hfirst hsecond
    exact decide_eq_true (le_trans (of_decide_eq_true hsecond) (of_decide_eq_true hfirst))
  · intro first second
    simpa using le_total (key second) (key first)

/-- Elements of equal keys keep their order. -/
theorem ranked_pair_sublist (hle : key second ≤ key first)
    (h : [first, second].Sublist values) : [first, second].Sublist (ranked key values) := by
  refine List.pair_sublist_mergeSort ?_ ?_ (decide_eq_true hle) h
  · intro first second third hfirst hsecond
    exact decide_eq_true (le_trans (of_decide_eq_true hsecond) (of_decide_eq_true hfirst))
  · intro first second
    simpa using le_total (key second) (key first)

end Ranked

variable [DecidableEq α]

/-- An element stands before another in the order by keys: its key is larger, or the
keys are equal and it comes first in the list. -/
def Ahead (key : α → κ) (values : List α) (first second : α) : Prop :=
  key second < key first ∨ key first = key second ∧ values.idxOf first < values.idxOf second

instance (key : α → κ) (values : List α) (first second : α) :
    Decidable (Ahead key values first second) :=
  inferInstanceAs (Decidable (_ ∨ _))

/-- How many elements stand before one. -/
def ahead (key : α → κ) (values : List α) (value : α) : Nat :=
  values.countP fun other => decide (Ahead key values other value)

section

variable {key : α → κ} {values : List α} {first second : α}

theorem Ahead.asymm (h : Ahead key values first second) : ¬ Ahead key values second first := by
  rintro (hlt | ⟨heq, hindex⟩)
  · obtain hother | ⟨hsame, _⟩ := h
    · exact lt_asymm hlt hother
    · exact ne_of_lt hlt hsame
  · obtain hother | ⟨_, hbefore⟩ := h
    · exact ne_of_lt hother heq
    · exact Nat.lt_asymm hindex hbefore

theorem Ahead.irrefl : ¬ Ahead key values first first := fun h => h.asymm h

theorem Ahead.total (hfirst : first ∈ values) (hne : first ≠ second) :
    Ahead key values first second ∨ Ahead key values second first := by
  have hindex : values.idxOf first ≠ values.idxOf second := fun h => hne ((List.idxOf_inj hfirst).1 h)
  obtain hlt | heq | hlt := lt_trichotomy (key first) (key second)
  · exact Or.inr (Or.inl hlt)
  · obtain hbefore | hbefore := Nat.lt_or_gt_of_ne hindex
    · exact Or.inl (Or.inr ⟨heq, hbefore⟩)
    · exact Or.inr (Or.inr ⟨heq.symm, hbefore⟩)
  · exact Or.inl (Or.inl hlt)

/-- No element stands before itself, so fewer than all stand before it. -/
theorem ahead_lt_length (h : first ∈ values) : ahead key values first < values.length := by
  refine List.countP_lt_length_iff.mpr ⟨first, h, ?_⟩
  simpa using Ahead.irrefl

theorem pair_sublist_of_idxOf_lt :
    ∀ {values : List α}, second ∈ values → values.idxOf first < values.idxOf second →
      [first, second].Sublist values
  | [], hsecond, _ => absurd hsecond (by simp)
  | head :: tail, hsecond, h => by
    have hne : head ≠ second := by
      rintro rfl
      simp at h
    have htail : second ∈ tail := (List.mem_cons.1 hsecond).resolve_left (Ne.symm hne)
    by_cases hhead : head = first
    · subst hhead
      exact (List.singleton_sublist.2 htail).cons_cons _
    · rw [List.idxOf_cons_ne _ hhead, List.idxOf_cons_ne _ hne] at h
      exact (pair_sublist_of_idxOf_lt htail (Nat.lt_of_succ_lt_succ h)).cons _

theorem idxOf_lt_of_pair_sublist :
    ∀ {values : List α}, values.Nodup → [first, second].Sublist values →
      values.idxOf first < values.idxOf second
  | [], _, h => by simp at h
  | head :: tail, hnodup, h => by
    obtain ⟨hnotin, htail⟩ := List.nodup_cons.1 hnodup
    cases h with
    | cons _ h =>
      have hfirst : head ≠ first := fun heq => hnotin (heq ▸ h.subset (by simp))
      have hsecond : head ≠ second := fun heq => hnotin (heq ▸ h.subset (by simp))
      rw [List.idxOf_cons_ne _ hfirst, List.idxOf_cons_ne _ hsecond]
      exact Nat.succ_lt_succ (idxOf_lt_of_pair_sublist htail h)
    | cons_cons _ h =>
      have hsecond : first ≠ second := fun heq => hnotin (heq ▸ h.subset (by simp))
      rw [List.idxOf_cons_self, List.idxOf_cons_ne _ hsecond]
      exact Nat.succ_pos _

theorem ranked_pairwise_ahead (hnodup : values.Nodup) :
    (ranked key values).Pairwise (Ahead key values) := by
  have hranked : (ranked key values).Nodup := ranked_perm.nodup_iff.2 hnodup
  refine List.pairwise_iff_forall_sublist.2 fun {first second} h => ?_
  have hfirst : first ∈ values := mem_ranked.1 (h.subset (by simp))
  have hne : first ≠ second := by
    rintro rfl
    exact absurd (h.nodup hranked) (by simp)
  have hle : key second ≤ key first := List.pairwise_iff_forall_sublist.1 ranked_descending h
  refine (Ahead.total hfirst hne).resolve_right fun hahead => ?_
  obtain hlt | ⟨heq, hbefore⟩ := hahead
  · exact not_lt_of_ge hle hlt
  · have hother : [second, first].Sublist (ranked key values) :=
      ranked_pair_sublist (le_of_eq heq.symm) (pair_sublist_of_idxOf_lt hfirst hbefore)
    exact Nat.lt_asymm (idxOf_lt_of_pair_sublist hranked h) (idxOf_lt_of_pair_sublist hranked hother)

/-- Of a list in a strict order, the first elements are those with few before them. -/
theorem mem_take_iff_countP {before : α → α → Prop} [DecidableRel before]
    (hasymm : ∀ first second, before first second → ¬ before second first) :
    ∀ {values : List α} (limit : Nat), values.Pairwise before →
      (first ∈ values.take limit ↔
        first ∈ values ∧ values.countP (fun other => decide (before other first)) < limit)
  | [], limit, _ => by simp
  | head :: tail, 0, _ => by simp
  | head :: tail, limit + 1, h => by
    obtain ⟨hhead, htail⟩ := List.pairwise_cons.1 h
    rw [List.take_succ_cons, List.mem_cons, List.mem_cons, mem_take_iff_countP hasymm limit htail]
    by_cases heq : first = head
    · subst heq
      have hself : ¬ before first first := fun hself => hasymm _ _ hself hself
      have hnone : tail.countP (fun other => decide (before other first)) = 0 :=
        List.countP_eq_zero.2 fun other hother => by simpa using hasymm _ _ (hhead other hother)
      simp [hself, hnone]
    · simp only [heq, false_or]
      refine and_congr_right fun hmem => ?_
      have hbefore : decide (before head first) = true := decide_eq_true (hhead first hmem)
      rw [List.countP_cons, if_pos hbefore]
      exact Nat.succ_lt_succ_iff.symm

theorem mem_take_ranked (hnodup : values.Nodup) (limit : Nat) :
    first ∈ (ranked key values).take limit ↔ first ∈ values ∧ ahead key values first < limit := by
  rw [mem_take_iff_countP (fun _ _ => Ahead.asymm) limit (ranked_pairwise_ahead hnodup),
    mem_ranked, ranked_perm.countP_eq, ahead]

/-- The elements that one order puts first are the largest candidates of another order
when every one of them is a candidate, and no candidate behind it is larger. -/
theorem isTop_take_iff {other : α → κ} {candidate : α → Prop} (limit : Nat)
    (hnodup : values.Nodup) (hmem : ∀ value, candidate value → value ∈ values) :
    IsTop limit other candidate ((ranked key values).take limit) ↔
      ∀ value ∈ values, ahead key values value < limit →
        candidate value ∧ ∀ behind, candidate behind → Ahead key values value behind →
          other behind ≤ other value := by
  have hpairs := @ranked_pairwise_ahead _ _ _ _ key _ hnodup
  constructor
  · intro h value hvalue hahead
    have hlisted := (mem_take_ranked hnodup limit).2 ⟨hvalue, hahead⟩
    refine ⟨h.candidates value hlisted, fun behind hcandidate hbehind => ?_⟩
    by_cases hin : behind ∈ (ranked key values).take limit
    · -- both are listed: the list is in both orders
      have hboth : ((ranked key values).take limit).Pairwise fun first second =>
          (Ahead key values first second → other second ≤ other first) ∧
            (Ahead key values second first → other first ≤ other second) :=
        (h.descending.and (hpairs.sublist (List.take_sublist _ _))).imp fun hpair =>
          ⟨fun _ => hpair.1, fun hreverse => absurd hpair.2 hreverse.asymm⟩
      have hne : value ≠ behind := by
        rintro rfl
        exact Ahead.irrefl hbehind
      have : Std.Symm fun first second =>
          (Ahead key values first second → other second ≤ other first) ∧
            (Ahead key values second first → other first ≤ other second) :=
        ⟨fun _ _ hpair => hpair.symm⟩
      exact (hboth.forall hlisted hin hne).1 hbehind
    · exact (h.largest behind hcandidate hin).2 value hlisted
  · intro h
    have hlisted : ∀ value ∈ (ranked key values).take limit, candidate value ∧
        ∀ behind, candidate behind → Ahead key values value behind → other behind ≤ other value :=
      fun value hvalue =>
        have hfirst := (mem_take_ranked hnodup limit).1 hvalue
        h value hfirst.1 hfirst.2
    refine ⟨(ranked_perm.nodup_iff.2 hnodup).sublist (List.take_sublist _ _),
      List.length_take_le _ _, fun value hvalue => (hlisted value hvalue).1, ?_, ?_⟩
    · refine (hpairs.sublist (List.take_sublist _ _)).imp_of_mem fun hfirst hsecond hpair => ?_
      exact (hlisted _ hfirst).2 _ (hlisted _ hsecond).1 hpair
    · intro value hcandidate hout
      rw [← List.take_append_drop limit (ranked key values), List.pairwise_append] at hpairs
      have hin : value ∈ (ranked key values).take limit ++ (ranked key values).drop limit := by
        rw [List.take_append_drop]
        exact mem_ranked.2 (hmem value hcandidate)
      have hdrop := (List.mem_append.1 hin).resolve_left hout
      have hlength : limit ≤ (ranked key values).length :=
        Nat.le_of_lt (Nat.lt_of_sub_pos (List.length_drop ▸ List.length_pos_of_mem hdrop))
      refine ⟨by rw [List.length_take, Nat.min_eq_left hlength], fun first hfirst => ?_⟩
      exact (hlisted first hfirst).2 value hcandidate (hpairs.2.2 first hfirst value hdrop)

/-- By its own keys, a list of the candidates shows the largest of them first. -/
theorem isTop_take {candidate : α → Prop} {limit : Nat} (hnodup : values.Nodup)
    (hmem : ∀ value, candidate value ↔ value ∈ values) :
    IsTop limit key candidate ((ranked key values).take limit) := by
  refine (isTop_take_iff limit hnodup fun value => (hmem value).1).2 fun value hvalue _ =>
    ⟨(hmem value).2 hvalue, fun behind _ hbehind => ?_⟩
  obtain hlt | ⟨heq, _⟩ := hbehind
  · exact le_of_lt hlt
  · exact le_of_eq heq.symm

end

end relational

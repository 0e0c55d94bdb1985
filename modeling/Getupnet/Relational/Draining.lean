import Mathlib.Data.List.Sort

namespace relational

variable {α κ : Type} [DecidableEq α] [LinearOrder κ]

/-- What has been taken from a queue, in order, by batches: each takes the first
elements of some listing of the rest in ascending key order. Elements with equal keys
may be listed in any order. -/
inductive Drained (queue : List α) (key : α → κ) (limit : Nat) : List α → Prop where
  | start : Drained queue key limit []
  | batch {done listing : List α} (before : Drained queue key limit done)
      (hlisting : listing.Perm (queue.filter fun value => decide (value ∉ done)))
      (hsorted : listing.Pairwise fun first second => key first ≤ key second) :
      Drained queue key limit (done ++ listing.take limit)

variable {queue done listing : List α} {key : α → κ} {limit : Nat} {member : α → Bool}

/-- In a list without duplicates two elements stand in one order only. -/
theorem not_pair_sublist_swap {β : Type} {values : List β} {first second : β} (hnodup : values.Nodup)
    (h : List.Sublist [first, second] values) : ¬ List.Sublist [second, first] values := by
  intro hswap
  have hne : first ≠ second := List.pairwise_iff_forall_sublist.mp hnodup h
  induction values with
  | nil => cases h
  | cons head rest ih =>
    obtain ⟨hhead, hrest⟩ := List.nodup_cons.mp hnodup
    cases h with
    | cons _ hfirst =>
      cases hswap with
      | cons _ hsecond => exact ih hrest hfirst hsecond
      | cons_cons _ hsecond => exact hhead (hfirst.subset (List.mem_cons_of_mem _ (List.mem_singleton_self _)))
    | cons_cons _ hfirst =>
      cases hswap with
      | cons _ hsecond => exact hhead (hsecond.subset (List.mem_cons_of_mem _ (List.mem_singleton_self _)))
      | cons_cons _ _ => exact hne rfl

/-- The members that are left are taken in the order of the queue when their keys
ascend in it. -/
theorem Drained.rest_eq {rest : List α} (hqueue : queue.Nodup)
    (hkeys : (queue.filter member).Pairwise fun first second => key first < key second)
    (hlisting : listing.Perm (queue.filter fun value => decide (value ∉ done)))
    (hsorted : listing.Pairwise fun first second => key first ≤ key second)
    (hrest : queue.filter member = done.filter member ++ rest) : listing.filter member = rest := by
  have hnodup : (done.filter member ++ rest).Nodup := hrest ▸ hqueue.filter member
  have hleft : rest = (queue.filter fun value => decide (value ∉ done)).filter member := by
    rw [List.filter_comm, hrest, List.filter_append]
    have hdone : (done.filter member).filter (fun value => decide (value ∉ done)) = [] := by
      rw [List.filter_eq_nil_iff]
      intro value hvalue hnot
      exact of_decide_eq_true hnot (List.mem_of_mem_filter hvalue)
    have hnew : rest.filter (fun value => decide (value ∉ done)) = rest := by
      rw [List.filter_eq_self]
      intro value hvalue
      have hmember : member value = true := by
        refine List.of_mem_filter (l := queue) ?_
        rw [hrest]
        exact List.mem_append_right _ hvalue
      exact decide_eq_true fun hdone =>
        List.disjoint_of_nodup_append hnodup (List.mem_filter.mpr ⟨hdone, hmember⟩) hvalue
    rw [hdone, hnew, List.nil_append]
  have hperm : (listing.filter member).Perm rest := hleft ▸ hlisting.filter member
  have hrestKeys : rest.Pairwise fun first second => key first < key second :=
    (List.pairwise_append.mp (hrest ▸ hkeys)).2.1
  have hinjective : ∀ first ∈ rest, ∀ second ∈ rest, key first = key second → first = second := by
    intro first hfirst second hsecond hsame
    have hkeysNodup : (rest.map key).Nodup := List.pairwise_map.mpr (hrestKeys.imp fun h => ne_of_lt h)
    exact List.inj_on_of_nodup_map hkeysNodup hfirst hsecond hsame
  have hantisymm : ∀ first second, first ∈ listing.filter member → second ∈ rest → key first ≤ key second →
      key second ≤ key first → first = second := fun first second hfirst hsecond hle hge =>
    hinjective first (hperm.mem_iff.mp hfirst) second hsecond (le_antisymm hle hge)
  exact List.Perm.eq_of_pairwise hantisymm (hsorted.filter member) (hrestKeys.imp fun h => le_of_lt h) hperm

/-- Members whose keys ascend along the queue are taken in its order. -/
theorem Drained.prefix_of_ascending (hqueue : queue.Nodup)
    (hkeys : (queue.filter member).Pairwise fun first second => key first < key second)
    (h : Drained queue key limit done) : List.IsPrefix (done.filter member) (queue.filter member) := by
  induction h with
  | start => exact List.nil_prefix
  | batch before hlisting hsorted ih =>
    obtain ⟨rest, hrest⟩ := ih
    have hlisted := Drained.rest_eq hqueue hkeys hlisting hsorted hrest.symm
    rw [List.filter_append, ← hrest, ← hlisted]
    exact List.prefix_append_right_inj _ |>.mpr ((List.take_prefix limit _).filter member)

theorem filter_not_mem_take {values : List α} (hnodup : values.Nodup) (count : Nat) :
    values.filter (fun value => decide (value ∉ values.take count)) = values.drop count := by
  have hsplit := List.take_append_drop count values
  have htaken : (values.take count).filter (fun value => decide (value ∉ values.take count)) = [] := by
    rw [List.filter_eq_nil_iff]
    exact fun value hvalue hnot => of_decide_eq_true hnot hvalue
  have hdropped : (values.drop count).filter (fun value => decide (value ∉ values.take count)) =
      values.drop count := by
    rw [List.filter_eq_self]
    exact fun value hvalue => decide_eq_true fun htake =>
      List.disjoint_of_nodup_append (hsplit.symm ▸ hnodup) htake hvalue
  conv_lhs => rw [← hsplit, List.filter_append]
  rw [hsplit, htaken, hdropped, List.nil_append]

/-- One listing of the whole queue can be followed through all batches. -/
theorem Drained.follow (hqueue : queue.Nodup) (hlisting : listing.Perm queue)
    (hsorted : listing.Pairwise fun first second => key first ≤ key second) (count : Nat) :
    Drained queue key limit (listing.take (limit * count)) := by
  induction count with
  | zero => exact .start
  | succ count ih =>
    have hnodup : listing.Nodup := hlisting.nodup_iff.mpr hqueue
    have hrest : (listing.drop (limit * count)).Perm
        (queue.filter fun value => decide (value ∉ listing.take (limit * count))) := by
      rw [← filter_not_mem_take hnodup]
      exact hlisting.filter _
    have hnext := Drained.batch ih hrest (hsorted.sublist (List.drop_sublist _ _))
    rwa [← List.take_add, ← Nat.mul_succ] at hnext

/-- The members are always taken in the order of the queue exactly when their keys
ascend along it. -/
theorem drained_in_order_iff (hqueue : queue.Nodup) (hlimit : 0 < limit) :
    (∀ done, Drained queue key limit done → List.IsPrefix (done.filter member) (queue.filter member)) ↔
      (queue.filter member).Pairwise fun first second => key first < key second := by
  refine ⟨fun hordered => ?_, fun hkeys done h => h.prefix_of_ascending hqueue hkeys⟩
  rw [List.pairwise_iff_forall_sublist]
  intro first second hpair
  by_contra hnot
  -- with ties in reverse order, the later of the two is listed first
  let le : α → α → Bool := fun first second => decide (key first ≤ key second)
  have htrans : ∀ first second third, le first second → le second third → le first third := by
    intro first second third hfirst hsecond
    exact decide_eq_true (le_trans (of_decide_eq_true hfirst) (of_decide_eq_true hsecond))
  have htotal : ∀ first second, le first second || le second first := by
    intro first second
    simpa [le] using le_total (key first) (key second)
  let listing := queue.reverse.mergeSort le
  have hlisting : listing.Perm queue := (List.mergeSort_perm _ _).trans (List.reverse_perm queue)
  have hsorted : listing.Pairwise fun first second => key first ≤ key second :=
    (List.pairwise_mergeSort htrans htotal _).imp fun h => of_decide_eq_true h
  have hall := hordered _ (Drained.follow hqueue hlisting hsorted listing.length)
  rw [List.take_of_length_le (Nat.le_mul_of_pos_left _ hlimit)] at hall
  have hreversed : List.Sublist [second, first] listing := by
    refine List.pair_sublist_mergeSort htrans htotal (decide_eq_true (not_lt.mp hnot)) ?_
    exact (hpair.trans (List.filter_sublist)).reverse
  have hmembers : List.Sublist [second, first] (listing.filter member) := by
    have hfiltered := hreversed.filter member
    have hfirst := List.of_mem_filter (hpair.subset List.mem_cons_self)
    have hsecond := List.of_mem_filter (hpair.subset (List.mem_cons_of_mem _ (List.mem_singleton_self second)))
    rwa [List.filter_cons_of_pos hsecond, List.filter_cons_of_pos hfirst, List.filter_nil] at hfiltered
  exact not_pair_sublist_swap (hqueue.filter member) hpair (hmembers.trans hall.sublist)

/-- Only what is queued is taken, and nothing twice. -/
theorem Drained.nodup_subset (hqueue : queue.Nodup) (h : Drained queue key limit done) :
    done.Nodup ∧ ∀ value ∈ done, value ∈ queue := by
  induction h with
  | start => exact ⟨List.nodup_nil, fun value hvalue => absurd hvalue List.not_mem_nil⟩
  | @batch done listing before hlisting hsorted ih =>
    obtain ⟨hnodup, hsubset⟩ := ih
    have hlisted : ∀ value ∈ listing.take limit, value ∈ queue ∧ value ∉ done := by
      intro value hvalue
      have hmem := hlisting.mem_iff.mp (List.mem_of_mem_take hvalue)
      exact ⟨List.mem_of_mem_filter hmem, of_decide_eq_true (List.mem_filter.mp hmem).2⟩
    have htaken : (listing.take limit).Nodup :=
      (hlisting.nodup_iff.mpr (hqueue.filter _)).sublist (List.take_sublist _ _)
    refine ⟨List.nodup_append.mpr ⟨hnodup, htaken, ?_⟩, fun value hvalue => ?_⟩
    · rintro value hdone _ hnew rfl
      exact (hlisted value hnew).2 hdone
    · obtain hdone | hnew := List.mem_append.mp hvalue
      · exact hsubset value hdone
      · exact (hlisted value hnew).1

theorem length_filter_not_mem (hqueue : queue.Nodup) (hdone : done.Nodup) (hsubset : ∀ value ∈ done, value ∈ queue) :
    (queue.filter fun value => decide (value ∉ done)).length = queue.length - done.length := by
  have htaken : (queue.filter fun value => decide (value ∈ done)).Perm done := by
    refine (List.perm_ext_iff_of_nodup (hqueue.filter _) hdone).mpr fun value => ?_
    simp only [List.mem_filter, decide_eq_true_eq]
    exact ⟨fun h => h.2, fun h => ⟨hsubset value h, h⟩⟩
  have hcounted := List.length_eq_length_filter_add (l := queue) fun value => decide (value ∈ done)
  have hlength := htaken.length_eq
  simp only [decide_not] at hcounted ⊢
  omega

/-- A batch is full, unless it takes all that is left. -/
theorem Drained.batch_length (hqueue : queue.Nodup) (h : Drained queue key limit done)
    (hlisting : listing.Perm (queue.filter fun value => decide (value ∉ done))) :
    (listing.take limit).length = min limit (queue.length - done.length) := by
  obtain ⟨hnodup, hsubset⟩ := h.nodup_subset hqueue
  rw [List.length_take, hlisting.length_eq, length_filter_not_mem hqueue hnodup hsubset]

/-- What is taken has keys at most those of what is left. -/
theorem Drained.key_le (h : Drained queue key limit done) :
    ∀ first ∈ done, ∀ other ∈ queue, other ∉ done → key first ≤ key other := by
  induction h with
  | start => exact fun first hfirst => absurd hfirst List.not_mem_nil
  | @batch done listing before hlisting hsorted ih =>
    intro first hfirst other hother hleft
    rw [List.mem_append, not_or] at hleft
    obtain hdone | hnew := List.mem_append.mp hfirst
    · exact ih first hdone other hother hleft.1
    · have hlisted : other ∈ listing :=
        hlisting.mem_iff.mpr (List.mem_filter.mpr ⟨hother, decide_eq_true hleft.1⟩)
      rw [← List.take_append_drop limit listing] at hlisted hsorted
      have hlater := (List.mem_append.mp hlisted).resolve_left hleft.2
      exact (List.pairwise_append.mp hsorted).2.2 first hnew other hlater

omit [DecidableEq α] in
/-- An element is in the next batch when no more than a batch have keys up to its own. -/
theorem mem_take_of_countP_le {values : List α} {value : α} (hvalue : value ∈ values)
    (hsorted : values.Pairwise fun first second => key first ≤ key second)
    (hfew : values.countP (fun other => decide (key other ≤ key value)) ≤ limit) : value ∈ values.take limit := by
  rw [← List.take_append_drop limit values] at hvalue
  refine (List.mem_append.mp hvalue).resolve_right fun hdropped => ?_
  have hsplit := List.take_append_drop limit values
  have hle : ∀ other ∈ values.take limit, key other ≤ key value := by
    intro other hother
    rw [← hsplit] at hsorted
    exact (List.pairwise_append.mp hsorted).2.2 other hother value hdropped
  have hfull : (values.take limit).countP (fun other => decide (key other ≤ key value)) = limit := by
    have hpositive := List.length_pos_of_mem hdropped
    rw [List.length_drop] at hpositive
    rw [List.countP_eq_length.mpr fun other hother => decide_eq_true (hle other hother), List.length_take]
    omega
  have hself : 0 < (values.drop limit).countP (fun other => decide (key other ≤ key value)) :=
    List.countP_pos_iff.mpr ⟨value, hdropped, decide_eq_true (le_refl _)⟩
  rw [← hsplit, List.countP_append, hfull] at hfew
  omega

end relational

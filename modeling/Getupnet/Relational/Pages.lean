import Mathlib.Data.List.Nodup
import Mathlib.Data.List.Pairwise
import Mathlib.Data.List.Perm.Basic
import Mathlib.Order.Defs.Unbundled

namespace relational

section

variable {α : Type} {q : α → Bool} {values : List α}

/-- A test that holds of all values after the first that passes it holds of those past
the values that fail it. -/
theorem countP_not_le_iff (h : values.Pairwise fun first second => q first = true → q second = true)
    {index : Nat} (hindex : index < values.length) :
    values.countP (fun value => !q value) ≤ index ↔ q values[index] = true := by
  induction values generalizing index with
  | nil => cases hindex
  | cons first rest ih =>
    obtain ⟨hfirst, hrest⟩ := List.pairwise_cons.mp h
    by_cases hq : q first = true
    · have hall : ∀ value ∈ first :: rest, q value = true :=
        List.forall_mem_cons.mpr ⟨hq, fun value hvalue => hfirst value hvalue hq⟩
      have hnone : (first :: rest).countP (fun value => !q value) = 0 := by
        rw [List.countP_eq_zero]
        intro value hvalue
        simp [hall value hvalue]
      rw [hnone]
      exact iff_of_true (Nat.zero_le index) (hall _ (List.getElem_mem hindex))
    · rw [List.countP_cons_of_pos (by simpa using hq)]
      cases index with
      | zero => exact iff_of_false (by omega) hq
      | succ index =>
        rw [List.getElem_cons_succ, ← ih hrest (Nat.lt_of_succ_lt_succ hindex)]
        omega

end

variable {α : Type} (le : α → α → Prop)

/-- What a search with an order, a limit and an offset may return. Records that tie come
in any order, which may be another one in the next search. -/
def Page (records : List α) (offset limit : Nat) (page : List α) : Prop :=
  ∃ order : List α, order.Perm records ∧ order.Pairwise le ∧ page = (order.drop offset).take limit

def pageCount (total step : Nat) : Nat := (total + step - 1) / step

/-- The pages of a listing, each from a search of its own. -/
def Pages (records : List α) (step : Nat) (pages : Nat → List α) : Prop :=
  ∀ page < pageCount records.length step, Page le records (page * step) step (pages page)

/-- What the pages show, one after the other. -/
def shown (total step : Nat) (pages : Nat → List α) : List α :=
  (List.range (pageCount total step)).flatMap pages

section

variable [DecidableRel le]

/-- How many records come before one in every order. -/
def before (records : List α) (record : α) : Nat := records.countP fun other => !decide (le record other)

/-- How many records come no later than one in some order. -/
def upTo (records : List α) (record : α) : Nat := records.countP fun other => decide (le other record)

/-- The records that tie with one fit on one page. -/
def TiesFit (records : List α) (step : Nat) : Prop :=
  ∀ record ∈ records, before le records record / step = (upTo le records record - 1) / step

instance [DecidableEq α] (records : List α) (step : Nat) : Decidable (TiesFit le records step) :=
  inferInstanceAs (Decidable (∀ record ∈ records, _ = _))

end

variable {le}

theorem Page.nodup {records found : List α} {offset limit : Nat} (hnodup : records.Nodup)
    (hpage : Page le records offset limit found) : found.Nodup := by
  obtain ⟨order, hperm, -, rfl⟩ := hpage
  have horder := hperm.nodup_iff.mpr hnodup
  exact (horder.sublist (List.drop_sublist offset order)).sublist (List.take_sublist limit _)

/-- Two neighbours in an order that tie may change places. -/
theorem pairwise_swap {first second : α} {front rest : List α}
    (h : (front ++ first :: second :: rest).Pairwise le) (hties : le second first) : (front ++ second :: first :: rest).Pairwise le := by
  obtain ⟨hfront, htail, hcross⟩ := List.pairwise_append.mp h
  obtain ⟨hfirst, hrest⟩ := List.pairwise_cons.mp htail
  obtain ⟨hsecond, hlast⟩ := List.pairwise_cons.mp hrest
  refine List.pairwise_append.mpr ⟨hfront, List.pairwise_cons.mpr ⟨?_, List.pairwise_cons.mpr ⟨?_, hlast⟩⟩, ?_⟩
  · exact List.forall_mem_cons.mpr ⟨hties, hsecond⟩
  · exact fun other hother => hfirst other (List.mem_cons_of_mem second hother)
  · intro one hone other hother
    refine hcross one hone other ?_
    simp only [List.mem_cons] at hother ⊢
    tauto

section

variable [DecidableRel le] [IsTrans α le] {records order : List α} {record : α} {step index : Nat}
  {pages : Nat → List α}

theorem le_getElem_iff (hperm : order.Perm records) (hsorted : order.Pairwise le)
    (hindex : index < order.length) :
    le record order[index] ↔ before le records record ≤ index := by
  have hclosed : order.Pairwise fun first second =>
      decide (le record first) = true → decide (le record second) = true := by
    refine hsorted.imp fun hle hfirst => ?_
    exact decide_eq_true (trans_of le (of_decide_eq_true hfirst) hle)
  rw [before, ← hperm.countP_eq, countP_not_le_iff hclosed hindex, decide_eq_true_iff]

theorem getElem_le_iff (hperm : order.Perm records) (hsorted : order.Pairwise le)
    (hindex : index < order.length) :
    le order[index] record ↔ index < upTo le records record := by
  have hclosed : order.Pairwise fun first second =>
      (!decide (le first record)) = true → (!decide (le second record)) = true := by
    refine hsorted.imp fun hle hfirst => ?_
    simp only [Bool.not_eq_true', decide_eq_false_iff_not] at hfirst ⊢
    exact fun hsecond => hfirst (trans_of le hle hsecond)
  have hcount := countP_not_le_iff hclosed hindex
  simp only [Bool.not_not, Bool.not_eq_true', decide_eq_false_iff_not] at hcount
  rw [upTo, ← hperm.countP_eq, ← Nat.not_le, hcount, not_not]

/-- A record stands in every order between the records before it and those up to it. -/
theorem before_le_lt_upTo [Std.Refl le] (hperm : order.Perm records) (hsorted : order.Pairwise le)
    (hindex : index < order.length) :
    before le records order[index] ≤ index ∧ index < upTo le records order[index] :=
  ⟨(le_getElem_iff hperm hsorted hindex).mp (refl_of le _),
    (getElem_le_iff hperm hsorted hindex).mp (refl_of le _)⟩

theorem mem_slice_iff (hstep : 0 < step) {page : Nat} :
    record ∈ (order.drop (page * step)).take step ↔
      ∃ (index : Nat) (hindex : index < order.length), order[index] = record ∧ index / step = page := by
  rw [List.mem_iff_getElem]
  constructor
  · rintro ⟨index, hindex, rfl⟩
    rw [List.length_take, List.length_drop] at hindex
    refine ⟨page * step + index, by omega, by simp, ?_⟩
    rw [Nat.add_comm, Nat.add_mul_div_right _ _ hstep, Nat.div_eq_of_lt (by omega), Nat.zero_add]
  · rintro ⟨index, hindex, rfl, rfl⟩
    have hdiv := Nat.div_add_mod index step
    have hmod := Nat.mod_lt index hstep
    rw [Nat.mul_comm] at hdiv
    refine ⟨index % step, ?_, ?_⟩
    · rw [List.length_take, List.length_drop]
      omega
    · simp only [List.getElem_take, List.getElem_drop]
      congr 1

/-- Where ties fit, a page shows the records whose place is on it, whatever the search
makes of the ties. -/
theorem TiesFit.mem_page_iff [Std.Refl le] (h : TiesFit le records step) (hstep : 0 < step) {page : Nat}
    {found : List α} (hpage : Page le records (page * step) step found) :
    record ∈ found ↔ record ∈ records ∧ before le records record / step = page := by
  obtain ⟨order, hperm, hsorted, rfl⟩ := hpage
  have hplace : ∀ (index : Nat) (hindex : index < order.length),
      before le records order[index] / step = index / step := by
    intro index hindex
    obtain ⟨hbefore, hupTo⟩ := before_le_lt_upTo hperm hsorted hindex
    have hfit := h order[index] (hperm.mem_iff.mp (List.getElem_mem hindex))
    have hlow := Nat.div_le_div_right (c := step) hbefore
    have hhigh := Nat.div_le_div_right (c := step) (Nat.le_sub_one_of_lt hupTo)
    omega
  rw [mem_slice_iff hstep]
  constructor
  · rintro ⟨index, hindex, rfl, hat_page⟩
    exact ⟨hperm.mem_iff.mp (List.getElem_mem hindex), (hplace index hindex).trans hat_page⟩
  · rintro ⟨hmem, hat_page⟩
    obtain ⟨index, hindex, rfl⟩ := List.mem_iff_getElem.mp (hperm.mem_iff.mpr hmem)
    exact ⟨index, hindex, rfl, (hplace index hindex).symm.trans hat_page⟩

theorem div_lt_pageCount {total : Nat} (hstep : 0 < step) (h : index < total) :
    index / step < pageCount total step := by
  rw [pageCount, Nat.div_lt_iff_lt_mul hstep]
  have hceil := Nat.lt_div_mul_add (a := total + step - 1) hstep
  omega

/-- Where ties fit, the pages show each record once. -/
theorem TiesFit.shown_perm [Std.Refl le] (h : TiesFit le records step) (hstep : 0 < step) (hnodup : records.Nodup)
    (hpages : Pages le records step pages) : (shown records.length step pages).Perm records := by
  have hshown : (shown records.length step pages).Nodup := by
    refine List.nodup_flatMap.mpr ⟨fun page hpage => (hpages page (List.mem_range.mp hpage)).nodup hnodup, ?_⟩
    refine List.nodup_range.imp_of_mem fun {first second} hone hother hne record hfirst hsecond => hne ?_
    have hat_first := (h.mem_page_iff hstep (hpages first (List.mem_range.mp hone))).mp hfirst
    have hat_second := (h.mem_page_iff hstep (hpages second (List.mem_range.mp hother))).mp hsecond
    exact hat_first.2.symm.trans hat_second.2
  refine (List.perm_ext_iff_of_nodup hshown hnodup).mpr fun record => ?_
  rw [shown, List.mem_flatMap]
  constructor
  · rintro ⟨page, hpage, hfound⟩
    exact ((h.mem_page_iff hstep (hpages page (List.mem_range.mp hpage))).mp hfound).1
  · intro hmem
    have hlt : before le records record < records.length := by
      have hself : ¬ (!decide (le record record)) = true := by simp [refl_of le record]
      refine Nat.lt_of_le_of_ne List.countP_le_length fun hall => ?_
      exact hself (List.countP_eq_length.mp hall record hmem)
    have hpage := div_lt_pageCount hstep hlt
    exact ⟨_, List.mem_range.mpr hpage, (h.mem_page_iff hstep (hpages _ hpage)).mpr ⟨hmem, rfl⟩⟩

theorem exists_order (le : α → α → Prop) [DecidableRel le] [IsTrans α le] [Std.Total le] (records : List α) :
    ∃ order : List α, order.Perm records ∧ order.Pairwise le := by
  refine ⟨records.mergeSort fun first second => decide (le first second), List.mergeSort_perm _ _, ?_⟩
  refine (List.pairwise_mergeSort ?_ ?_ records).imp of_decide_eq_true
  · intro first second third hfirst hsecond
    exact decide_eq_true (trans_of le (of_decide_eq_true hfirst) (of_decide_eq_true hsecond))
  · intro first second
    simpa using total_of le first second

omit [DecidableRel le] [IsTrans α le] in
/-- Ties across the end of a page may come in another order in the search for the next
page, which then shows a record again. -/
theorem exists_pages_of_tie {front rest : List α} {first second : α} {page : Nat}
    (hperm : (front ++ first :: second :: rest).Perm records)
    (hsorted : (front ++ first :: second :: rest).Pairwise le) (htie : le second first)
    (hstart : front.length + 1 = page * step) (hstep : 0 < step) (hnodup : records.Nodup) :
    ∃ pages, Pages le records step pages ∧ ¬ (shown records.length step pages).Perm records := by
  obtain ⟨page, rfl⟩ : ∃ earlier, page = earlier + 1 := ⟨page - 1, by cases page <;> omega⟩
  have hshown : first ∈ ((front ++ first :: second :: rest).drop (page * step)).take step := by
    refine (mem_slice_iff hstep).mpr ⟨front.length, by simp, by simp, ?_⟩
    have hplace : front.length = step - 1 + page * step := by
      rw [Nat.succ_mul] at hstart
      omega
    rw [hplace, Nat.add_mul_div_right _ _ hstep, Nat.div_eq_of_lt (by omega), Nat.zero_add]
  have hagain : first ∈ ((front ++ second :: first :: rest).drop ((page + 1) * step)).take step := by
    refine (mem_slice_iff hstep).mpr ⟨front.length + 1, by simp, by simp, ?_⟩
    rw [hstart, Nat.mul_div_cancel _ hstep]
  have hlength : (page + 1) * step < records.length := by
    rw [← hperm.length_eq, ← hstart]
    simp
  refine ⟨fun number =>
    if number = page + 1 then ((front ++ second :: first :: rest).drop (number * step)).take step
    else ((front ++ first :: second :: rest).drop (number * step)).take step, fun number _ => ?_, fun hall => ?_⟩
  · dsimp only
    split
    · exact ⟨_, ((List.Perm.swap _ _ _).append_left front).trans hperm, pairwise_swap hsorted htie, rfl⟩
    · exact ⟨_, hperm, hsorted, rfl⟩
  · have hcount : page + 1 < pageCount records.length step := by
      have hlast := div_lt_pageCount hstep hlength
      rwa [Nat.mul_div_cancel _ hstep] at hlast
    have hdistinct := (List.nodup_flatMap.mp (hall.nodup_iff.mpr hnodup)).2
    have hdisjoint := List.pairwise_iff_getElem.mp hdistinct page (page + 1) (by rw [List.length_range]; omega)
      (by rwa [List.length_range]) (Nat.lt_succ_self page)
    refine @hdisjoint first ?_ ?_
    · simpa using hshown
    · simpa using hagain

/-- The pages of a listing show each record once, whatever the searches make of ties, if
and only if the records that tie fit on one page. -/
theorem shown_perm_iff [Std.Total le] (hstep : 0 < step) (hnodup : records.Nodup) :
    (∀ pages, Pages le records step pages → (shown records.length step pages).Perm records) ↔
      TiesFit le records step := by
  constructor
  · intro hall
    by_contra hties
    obtain ⟨order, hperm, hsorted⟩ := exists_order le records
    obtain ⟨record, hrecord, hsplit⟩ : ∃ record ∈ records,
        before le records record / step ≠ (upTo le records record - 1) / step := by
      simpa only [TiesFit, not_forall, exists_prop] using hties
    obtain ⟨place, hplace, rfl⟩ := List.mem_iff_getElem.mp (hperm.mem_iff.mpr hrecord)
    obtain ⟨hbefore, hupTo⟩ := before_le_lt_upTo hperm hsorted hplace
    have hle := Nat.div_le_div_right (c := step) (Nat.le_sub_one_of_lt (Nat.lt_of_le_of_lt hbefore hupTo))
    have hmul := Nat.div_mul_le_self (upTo le records order[place] - 1) step
    have hcount : upTo le records order[place] ≤ records.length := List.countP_le_length
    obtain ⟨page, hpage⟩ : ∃ page, page = (upTo le records order[place] - 1) / step := ⟨_, rfl⟩
    have hfirst : before le records order[place] < page * step := (Nat.div_lt_iff_lt_mul hstep).mp (by omega)
    -- the last index of the page before, at which the ties began
    obtain ⟨last, hlast⟩ : ∃ last, page * step = last + 1 := ⟨page * step - 1, by omega⟩
    rw [← hpage] at hmul
    have hlength : last + 1 < order.length := by
      rw [hperm.length_eq]
      omega
    have hafter : le order[last + 1] order[place] := (getElem_le_iff hperm hsorted hlength).mpr (by omega)
    have hahead : le order[place] order[last] :=
      (le_getElem_iff hperm hsorted (Nat.lt_of_succ_lt hlength)).mpr (by omega)
    have horder : order = order.take last ++ order[last] :: order[last + 1] :: order.drop (last + 2) := by
      conv_lhs => rw [← List.take_append_drop last order,
        List.drop_eq_getElem_cons (Nat.lt_of_succ_lt hlength), List.drop_eq_getElem_cons hlength]
    have hfront : (order.take last).length + 1 = page * step := by
      rw [List.length_take, hlast]
      omega
    obtain ⟨pages, hpages, hnot⟩ := exists_pages_of_tie (horder ▸ hperm) (horder ▸ hsorted)
      (trans_of le hafter hahead) hfront hstep hnodup
    exact hnot (hall pages hpages)
  · exact fun hfit pages hpages => hfit.shown_perm hstep hnodup hpages

end

end relational

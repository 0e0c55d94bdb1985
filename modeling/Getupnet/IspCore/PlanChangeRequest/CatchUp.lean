import Getupnet.IspCore.Records
import Getupnet.Relational.LastWriter

open relational
open calendar

namespace getupnet.isp_core

variable {μ ρ : Type}

theorem IspPlanChangeRequest.isDue_iff {today : Date} {self : IspPlanChangeRequest} :
    self.isDue today = true ↔
      self.state = .approved ∧ ∃ effective_date, self.effective_date = some effective_date ∧
        effective_date ≤ today := by
  unfold IspPlanChangeRequest.isDue
  split
  · rename_i effective_date hstate hdate
    simp [hstate, hdate]
  · rename_i hnot
    constructor
    · intro h
      cases h
    · rintro ⟨hstate, effective_date, hdate, _⟩
      exact absurd hdate (hnot effective_date hstate)

/-- A request stays due until it is applied. -/
theorem IspPlanChangeRequest.isDue_mono {day today : Date} (hle : day ≤ today) {self : IspPlanChangeRequest}
    (h : self.isDue day = true) : self.isDue today = true := by
  obtain ⟨hstate, effective_date, hdate, hday⟩ := IspPlanChangeRequest.isDue_iff.mp h
  exact IspPlanChangeRequest.isDue_iff.mpr ⟨hstate, effective_date, hdate, le_trans hday hle⟩

/-- What becomes due overnight takes effect on the new day. -/
theorem IspPlanChangeRequest.effective_date_of_newly_due {day : Date} {self : IspPlanChangeRequest}
    (hdue : self.isDue day.tomorrow = true) (hnot : self.isDue day = false) :
    self.effective_date = some day.tomorrow := by
  obtain ⟨hstate, effective_date, hdate, hle⟩ := IspPlanChangeRequest.isDue_iff.mp hdue
  obtain hday | rfl := Date.le_tomorrow_iff.mp hle
  · rw [IspPlanChangeRequest.isDue_iff.mpr ⟨hstate, effective_date, hdate, hday⟩] at hnot
    cases hnot
  · exact hdate

/-- The requests for a subscription that a pass applies, in its order. -/
def dueFor (requests : Store IspPlanChangeRequest) (today : Date) (sub : Nat) : List Nat :=
  (requests.searchDesc (IspPlanChangeRequest.isDue today)).filter fun id =>
    decide ((requests.row id).subscription_id = sub)

theorem mem_dueFor {requests : Store IspPlanChangeRequest} {today : Date} {sub id : Nat} :
    id ∈ dueFor requests today sub ↔
      id ∈ requests.ids ∧ (requests.row id).isDue today = true ∧ (requests.row id).subscription_id = sub := by
  simp only [dueFor, List.mem_filter, Store.mem_searchDesc, decide_eq_true_eq, and_assoc]

/-- Both requests have an effective date, and the first one's is earlier. -/
def IspPlanChangeRequest.EffectiveBefore (self other : IspPlanChangeRequest) : Prop :=
  ∃ first second, self.effective_date = some first ∧ other.effective_date = some second ∧ first < second

/-- The order of the effective dates, and another order for equal dates. -/
def EffectiveThen (tie : Nat → Nat → Prop) (requests : Store IspPlanChangeRequest) (first second : Nat) : Prop :=
  (requests.row first).EffectiveBefore (requests.row second) ∨
    (requests.row first).effective_date = (requests.row second).effective_date ∧ tie first second

theorem EffectiveThen.asymm {tie : Nat → Nat → Prop}
    (htie : ∀ first second, tie first second → ¬ tie second first)
    {requests : Store IspPlanChangeRequest} (first second : Nat) (h : EffectiveThen tie requests first second) :
    ¬ EffectiveThen tie requests second first := by
  intro hback
  obtain ⟨d, e, hd, he, hlt⟩ | ⟨hsame, hfirst⟩ := h
  · obtain ⟨e', d', he', hd', hlt'⟩ | ⟨hsame, _⟩ := hback
    · rw [hd] at hd'
      rw [he] at he'
      cases hd'
      cases he'
      exact lt_asymm hlt hlt'
    · rw [hd, he] at hsame
      cases hsame
      exact lt_irrefl _ hlt
  · obtain ⟨e, d, he, hd, hlt⟩ | ⟨_, hsecond⟩ := hback
    · rw [hd, he] at hsame
      cases hsame
      exact lt_irrefl _ hlt
    · exact htie first second hfirst hsecond

theorem EffectiveThen.trans {tie : Nat → Nat → Prop}
    (htie : ∀ first second third, tie first second → tie second third → tie first third)
    {requests : Store IspPlanChangeRequest} (first second third : Nat)
    (h : EffectiveThen tie requests first second) (hnext : EffectiveThen tie requests second third) :
    EffectiveThen tie requests first third := by
  obtain ⟨d, e, hd, he, hlt⟩ | ⟨hsame, hfirst⟩ := h
  · obtain ⟨e', f, he', hf, hlt'⟩ | ⟨hsame', _⟩ := hnext
    · rw [he] at he'
      cases he'
      exact Or.inl ⟨d, f, hd, hf, lt_trans hlt hlt'⟩
    · exact Or.inl ⟨d, e, hd, hsame' ▸ he, hlt⟩
  · obtain ⟨e, f, he, hf, hlt⟩ | ⟨hsame', hsecond⟩ := hnext
    · exact Or.inl ⟨e, f, hsame.trans he, hf, hlt⟩
    · exact Or.inr ⟨hsame.trans hsame', htie first second third hfirst hsecond⟩

/-- Any two due requests are compared when any two identifiers are. -/
theorem EffectiveThen.total {tie : Nat → Nat → Prop}
    (htie : ∀ first second : Nat, first ≠ second → tie first second ∨ tie second first)
    {requests : Store IspPlanChangeRequest} {today : Date} {sub first second : Nat}
    (hfirst : first ∈ dueFor requests today sub) (hsecond : second ∈ dueFor requests today sub)
    (hne : first ≠ second) :
    EffectiveThen tie requests first second ∨ EffectiveThen tie requests second first := by
  obtain ⟨_, d, hd, _⟩ := IspPlanChangeRequest.isDue_iff.mp (mem_dueFor.mp hfirst).2.1
  obtain ⟨_, e, he, _⟩ := IspPlanChangeRequest.isDue_iff.mp (mem_dueFor.mp hsecond).2.1
  obtain hlt | rfl | hgt := lt_trichotomy d e
  · exact Or.inl (Or.inl ⟨d, e, hd, he, hlt⟩)
  · obtain hside | hside := htie first second hne
    · exact Or.inl (Or.inr ⟨hd.trans he.symm, hside⟩)
    · exact Or.inr (Or.inr ⟨he.trans hd.symm, hside⟩)
  · exact Or.inr (Or.inl ⟨e, d, he, hd, hgt⟩)

/-- Last by effective date is a due request that no other one follows by its
date, and last in the other order among those of its date. -/
theorem isLast_effectiveThen_iff {tie : Nat → Nat → Prop} {requests : Store IspPlanChangeRequest} {today : Date}
    {sub latest : Nat} (hlatest : latest ∈ dueFor requests today sub) :
    IsLast (EffectiveThen tie requests) (dueFor requests today sub) latest ↔
      (∀ other ∈ dueFor requests today sub, ¬ (requests.row latest).EffectiveBefore (requests.row other)) ∧
        ∀ other ∈ dueFor requests today sub,
          (requests.row other).effective_date = (requests.row latest).effective_date → other ≠ latest →
            tie other latest := by
  obtain ⟨_, e, he, _⟩ := IspPlanChangeRequest.isDue_iff.mp (mem_dueFor.mp hlatest).2.1
  constructor
  · intro hlast
    constructor
    · rintro other hother ⟨e', d, he', hd, hlt⟩
      rw [he] at he'
      cases he'
      have hne : other ≠ latest := by
        rintro rfl
        rw [he] at hd
        cases hd
        exact lt_irrefl _ hlt
      obtain ⟨d', e', hd', he', hlt'⟩ | ⟨hsame, _⟩ := hlast.2 other hother hne
      · rw [hd] at hd'
        rw [he] at he'
        cases hd'
        cases he'
        exact lt_asymm hlt hlt'
      · rw [hd, he] at hsame
        cases hsame
        exact lt_irrefl _ hlt
    · intro other hother hsame hne
      obtain ⟨d, e', hd, he', hlt⟩ | ⟨_, htie⟩ := hlast.2 other hother hne
      · rw [hd, he'] at hsame
        cases hsame
        exact absurd hlt (lt_irrefl _)
      · exact htie
  · rintro ⟨hmax, htie⟩
    refine ⟨hlatest, fun other hother hne => ?_⟩
    obtain ⟨_, d, hd, _⟩ := IspPlanChangeRequest.isDue_iff.mp (mem_dueFor.mp hother).2.1
    obtain hlt | rfl | hgt := lt_trichotomy d e
    · exact Or.inl ⟨d, e, hd, he, hlt⟩
    · exact Or.inr ⟨hd.trans he.symm, htie other hother (hd.trans he.symm) hne⟩
    · exact absurd ⟨e, d, he, hd, hgt⟩ (hmax other hother)

/-- A plan is the one of the last due request in an order, or the old one when
no request is due. -/
def DecidedBy (order : Nat → Nat → Prop) (requests : Store IspPlanChangeRequest) (today : Date)
    (sub old new : Nat) : Prop :=
  (dueFor requests today sub = [] ∧ new = old) ∨
    ∃ last, IsLast order (dueFor requests today sub) last ∧ new = (requests.row last).requested_plan_id

section

variable (clock : Nat → Nat) (token_hex : Nat → String)

/-- What a run of the pass leaves. -/
def World.caughtUp (today : Date) (self : World (Records μ) ρ) : World (Records μ) ρ :=
  (IspPlanChangeRequest.cron_apply_plan_changes clock token_hex today).commit World.rollback self

/-- What a run of the pass on each of several days leaves. -/
def World.caughtUpDaily (clocks : Date → Nat → Nat) (tokens : Date → Nat → String) (days : List Date)
    (self : World (Records μ) ρ) : World (Records μ) ρ :=
  days.foldl (fun world day => world.caughtUp (clocks day) (tokens day) day) self

theorem World.caughtUp_eq (today : Date) (self : World (Records μ) ρ) :
    self.caughtUp clock token_hex today =
      self.appliedAll clock (self.records.plan_change_requests.searchDesc (IspPlanChangeRequest.isDue today)) :=
  Method.commit_of_ok (IspPlanChangeRequest.cron_apply_plan_changes_exec clock token_hex today self)

/-- In one pass the due request with the smallest identifier is applied last. -/
theorem World.caughtUp_decided (today : Date) (self : World (Records μ) ρ) (sub : Nat) :
    DecidedBy (fun first second => second < first) self.records.plan_change_requests today sub
      (self.subscription sub).plan_id ((self.caughtUp clock token_hex today).subscription sub).plan_id := by
  obtain ⟨profile, hsub⟩ := World.appliedAll_subscription clock
    (self.records.plan_change_requests.searchDesc (IspPlanChangeRequest.isDue today)) sub self
  rw [World.caughtUp_eq, hsub]
  change DecidedBy _ _ _ _ _ (((dueFor self.records.plan_change_requests today sub).getLast?.map fun id =>
    (self.records.plan_change_requests.row id).requested_plan_id).getD (self.subscription sub).plan_id)
  cases hlast : (dueFor self.records.plan_change_requests today sub).getLast? with
  | none => exact Or.inl ⟨List.getLast?_eq_none_iff.mp hlast, rfl⟩
  | some last =>
    have hsorted := (self.records.plan_change_requests.searchDesc_descending
      (IspPlanChangeRequest.isDue today)).filter fun id =>
        decide ((self.records.plan_change_requests.row id).subscription_id = sub)
    exact Or.inr ⟨last, isLast_getLast? hsorted hlast, rfl⟩

/-- What daily passes up to and including a day have done to a database: the
requests due by then are applied, and of those for a subscription the one with
the latest effective date came last, by the smallest identifier for equal dates. -/
structure World.CaughtUp (initial : World (Records μ) ρ) (day : Date) (current : World (Records μ) ρ) :
    Prop where
  ids : current.records.plan_change_requests.ids = initial.records.plan_change_requests.ids
  row : ∀ id, current.records.plan_change_requests.row id =
    if id ∈ initial.records.plan_change_requests.ids ∧
        (initial.records.plan_change_requests.row id).isDue day = true then
      (initial.records.plan_change_requests.row id).asApplied
    else initial.records.plan_change_requests.row id
  plan : ∀ sub, DecidedBy
    (EffectiveThen (fun first second => second < first) initial.records.plan_change_requests)
    initial.records.plan_change_requests day sub (initial.subscription sub).plan_id
    (current.subscription sub).plan_id

/-- A database is caught up with a day on which nothing is due. -/
theorem World.caughtUp_refl {initial : World (Records μ) ρ} {start : Date}
    (hstart : ∀ id ∈ initial.records.plan_change_requests.ids,
      (initial.records.plan_change_requests.row id).isDue start = false) : initial.CaughtUp start initial where
  ids := rfl
  row := by
    intro id
    rw [if_neg]
    rintro ⟨hid, hdue⟩
    rw [hstart id hid] at hdue
    cases hdue
  plan := by
    intro sub
    refine Or.inl ⟨?_, rfl⟩
    rw [List.eq_nil_iff_forall_not_mem]
    intro id hmem
    obtain ⟨hid, hdue, _⟩ := mem_dueFor.mp hmem
    rw [hstart id hid] at hdue
    cases hdue

/-- What is left to apply on the next day is what became due overnight. -/
theorem World.CaughtUp.mem_dueFor_tomorrow {initial self : World (Records μ) ρ} {day : Date}
    (h : initial.CaughtUp day self) (sub id : Nat) :
    id ∈ dueFor self.records.plan_change_requests day.tomorrow sub ↔
      id ∈ dueFor initial.records.plan_change_requests day.tomorrow sub ∧
        (initial.records.plan_change_requests.row id).isDue day = false := by
  rw [mem_dueFor, mem_dueFor, h.ids, h.row]
  cases hday : (initial.records.plan_change_requests.row id).isDue day with
  | true =>
    constructor
    · rintro ⟨hid, hdue, _⟩
      rw [if_pos ⟨hid, rfl⟩] at hdue
      cases hdue
    · rintro ⟨_, hfalse⟩
      cases hfalse
  | false =>
    rw [if_neg (fun hboth => Bool.false_ne_true hboth.2)]
    exact (and_iff_left rfl).symm

theorem World.CaughtUp.tomorrow {initial self : World (Records μ) ρ} {day : Date}
    (h : initial.CaughtUp day self) :
    initial.CaughtUp day.tomorrow (self.caughtUp clock token_hex day.tomorrow) := by
  have hle : day ≤ day.tomorrow := Date.le_tomorrow_iff.mpr (Or.inl (le_refl day))
  constructor
  · rw [World.caughtUp_eq, World.appliedAll_request_ids, h.ids]
  · intro id
    have hpass := World.appliedAll_row clock (self.records.plan_change_requests.searchDesc
      (IspPlanChangeRequest.isDue day.tomorrow)) id self
    have hrow := h.row id
    simp only [Store.mem_searchDesc, h.ids] at hpass
    rw [World.caughtUp_eq, hpass]
    by_cases hid : id ∈ initial.records.plan_change_requests.ids
    · cases hday : (initial.records.plan_change_requests.row id).isDue day with
      | true =>
        rw [if_pos ⟨hid, hday⟩] at hrow
        rw [hrow, if_neg (fun hboth => Bool.false_ne_true hboth.2),
          if_pos ⟨hid, IspPlanChangeRequest.isDue_mono hle hday⟩]
      | false =>
        rw [if_neg (fun hboth => Bool.false_ne_true (hday.symm.trans hboth.2))] at hrow
        rw [hrow]
    · rw [if_neg (fun hboth => hid hboth.1)] at hrow
      rw [hrow]
  · intro sub
    have hpass := self.caughtUp_decided clock token_hex day.tomorrow sub
    have hmem := h.mem_dueFor_tomorrow sub
    obtain ⟨hnil, hplan⟩ | ⟨last, hlast, hplan⟩ := hpass
    · -- nothing became due overnight, so the due requests are those of the day before
      have hsame : ∀ id, id ∈ dueFor initial.records.plan_change_requests day sub ↔
          id ∈ dueFor initial.records.plan_change_requests day.tomorrow sub := by
        intro id
        constructor
        · intro hdue
          obtain ⟨hid, hdue, hsub⟩ := mem_dueFor.mp hdue
          exact mem_dueFor.mpr ⟨hid, IspPlanChangeRequest.isDue_mono hle hdue, hsub⟩
        · intro hdue
          obtain ⟨hid, _, hsub⟩ := mem_dueFor.mp hdue
          cases hday : (initial.records.plan_change_requests.row id).isDue day with
          | true => exact mem_dueFor.mpr ⟨hid, hday, hsub⟩
          | false =>
            have hleft := (hmem id).mpr ⟨hdue, hday⟩
            rw [hnil] at hleft
            exact absurd hleft List.not_mem_nil
      rw [hplan]
      obtain ⟨hold, hkept⟩ | ⟨last, hlast, hkept⟩ := h.plan sub
      · refine Or.inl ⟨?_, hkept⟩
        rw [List.eq_nil_iff_forall_not_mem]
        intro id hdue
        have hday := (hsame id).mpr hdue
        rw [hold] at hday
        exact List.not_mem_nil hday
      · exact Or.inr ⟨last, (IsLast.congr hsame).mp hlast, hkept⟩
    · obtain ⟨hdue, hnot⟩ := (hmem last).mp hlast.1
      have hdate := IspPlanChangeRequest.effective_date_of_newly_due (mem_dueFor.mp hdue).2.1 hnot
      refine Or.inr ⟨last, ⟨hdue, fun other hother hne => ?_⟩, ?_⟩
      · cases hday : (initial.records.plan_change_requests.row other).isDue day with
        | true =>
          obtain ⟨_, earlier, hearlier, hbefore⟩ := IspPlanChangeRequest.isDue_iff.mp hday
          exact Or.inl ⟨earlier, day.tomorrow, hearlier, hdate, Date.lt_tomorrow_iff.mpr hbefore⟩
        | false =>
          have hother_date := IspPlanChangeRequest.effective_date_of_newly_due (mem_dueFor.mp hother).2.1 hday
          exact Or.inr ⟨hother_date.trans hdate.symm, hlast.2 other ((hmem other).mpr ⟨hother, hday⟩) hne⟩
      · rw [hplan, h.row, if_neg (fun hboth => Bool.false_ne_true (hnot.symm.trans hboth.2))]

theorem World.CaughtUp.following {initial self : World (Records μ) ρ} {day : Date}
    (clocks : Date → Nat → Nat) (tokens : Date → Nat → String) (h : initial.CaughtUp day self) (count : Nat) :
    initial.CaughtUp (day.addDays count) (self.caughtUpDaily clocks tokens (day.following count)) := by
  induction count generalizing self day with
  | zero => exact h
  | succ count ih =>
    have hrest := ih (h.tomorrow (clocks day.tomorrow) (tokens day.tomorrow))
    rw [Date.addDays_tomorrow] at hrest
    exact hrest

/-- Daily passes since a day on which nothing was due let the effective dates
decide, and the smallest identifier for equal dates. -/
theorem World.caughtUpDaily_decided (clocks : Date → Nat → Nat) (tokens : Date → Nat → String)
    (world : World (Records μ) ρ) (start today : Date)
    (hstart : ∀ id ∈ world.records.plan_change_requests.ids,
      (world.records.plan_change_requests.row id).isDue start = false) (sub : Nat) :
    DecidedBy (EffectiveThen (fun first second => second < first) world.records.plan_change_requests)
      world.records.plan_change_requests today sub (world.subscription sub).plan_id
      ((world.caughtUpDaily clocks tokens (start.daysUntil today)).subscription sub).plan_id := by
  obtain hle | hlt := le_or_gt start today
  · have hdays := (World.caughtUp_refl hstart).following clocks tokens (today.ordinal - start.ordinal).toNat
    rw [Date.addDays_difference hle] at hdays
    exact hdays.plan sub
  · have hcount : (today.ordinal - start.ordinal).toNat = 0 := by
      have hordinal := Date.lt_iff.mp hlt
      omega
    rw [Date.daysUntil, hcount]
    refine Or.inl ⟨?_, rfl⟩
    rw [List.eq_nil_iff_forall_not_mem]
    intro id hmem
    obtain ⟨hid, hdue, _⟩ := mem_dueFor.mp hmem
    have hearlier := IspPlanChangeRequest.isDue_mono hlt.le hdue
    rw [hstart id hid] at hearlier
    cases hearlier

end

/-- Two databases have the same plan of a subscription, the one of the request
for it with the latest effective date not after a day, the one created last for
equal dates. -/
structure World.CatchesUp (initial once daily : World (Records μ) ρ) (today : Date) (sub : Nat) : Prop where
  same : (once.subscription sub).plan_id = (daily.subscription sub).plan_id
  latest : DecidedBy (EffectiveThen (fun first second => first < second) initial.records.plan_change_requests)
    initial.records.plan_change_requests today sub (initial.subscription sub).plan_id
    (once.subscription sub).plan_id

/-- The due request for a subscription that was created first asks for the same
plan as those with the latest effective date that were created first and last. -/
def OldestAgrees (requests : Store IspPlanChangeRequest) (today : Date) (sub : Nat) : Prop :=
  ∀ oldest ∈ dueFor requests today sub, (∀ other ∈ dueFor requests today sub, oldest ≤ other) →
    ∀ latest ∈ dueFor requests today sub,
      (∀ other ∈ dueFor requests today sub, ¬ (requests.row latest).EffectiveBefore (requests.row other)) →
      ((∀ other ∈ dueFor requests today sub,
          (requests.row other).effective_date = (requests.row latest).effective_date → latest ≤ other) ∨
        ∀ other ∈ dueFor requests today sub,
          (requests.row other).effective_date = (requests.row latest).effective_date → other ≤ latest) →
      (requests.row oldest).requested_plan_id = (requests.row latest).requested_plan_id

/-- Of the due requests the one with the smallest identifier is the last in
descending order. -/
theorem isLast_descending_iff {requests : Store IspPlanChangeRequest} {today : Date} {sub oldest : Nat}
    (holdest : oldest ∈ dueFor requests today sub) :
    IsLast (fun first second => second < first) (dueFor requests today sub) oldest ↔
      ∀ other ∈ dueFor requests today sub, oldest ≤ other := by
  constructor
  · intro hlast other hother
    by_cases hsame : other = oldest
    · omega
    · exact Nat.le_of_lt (hlast.2 other hother hsame)
  · intro hle
    refine ⟨holdest, fun other hother hne => ?_⟩
    have hother_le := hle other hother
    omega

/-- One late run of the pass leaves a subscription on the same plan as the runs
of every day since one on which nothing was due, and on the plan of the request
with the latest effective date, exactly when the oldest due request agrees. -/
theorem IspPlanChangeRequest.cron_apply_plan_changes_catchesUp_iff (clock : Nat → Nat) (token_hex : Nat → String)
    (clocks : Date → Nat → Nat) (tokens : Date → Nat → String) (world : World (Records μ) ρ) (start today : Date)
    (hstart : ∀ id ∈ world.records.plan_change_requests.ids,
      (world.records.plan_change_requests.row id).isDue start = false) (sub : Nat) :
    world.CatchesUp (world.caughtUp clock token_hex today)
        (world.caughtUpDaily clocks tokens (start.daysUntil today)) today sub ↔
      OldestAgrees world.records.plan_change_requests today sub := by
  have hunique := @IsLast.unique Nat
    (EffectiveThen (fun first second => first < second) world.records.plan_change_requests)
    (dueFor world.records.plan_change_requests today sub)
    (EffectiveThen.asymm fun first second => Nat.lt_asymm)
  obtain ⟨hnil, honce⟩ | ⟨oldest, holdest, honce⟩ := world.caughtUp_decided clock token_hex today sub
  · obtain ⟨_, hdaily⟩ | ⟨last, hlast, _⟩ := world.caughtUpDaily_decided clocks tokens start today hstart sub
    · refine iff_of_true ⟨honce.trans hdaily.symm, Or.inl ⟨hnil, honce⟩⟩ ?_
      intro oldest holdest
      rw [hnil] at holdest
      exact absurd holdest List.not_mem_nil
    · exact absurd hnil hlast.ne_nil
  · obtain ⟨hnil, _⟩ | ⟨newest, hnewest, hdaily⟩ :=
      world.caughtUpDaily_decided clocks tokens start today hstart sub
    · exact absurd hnil holdest.ne_nil
    · obtain ⟨latest, hlatest⟩ : ∃ latest, IsLast
          (EffectiveThen (fun first second => first < second) world.records.plan_change_requests)
          (dueFor world.records.plan_change_requests today sub) latest := by
        refine exists_isLast (@EffectiveThen.trans (· < ·) (fun _ _ _ => Nat.lt_trans) _) ?_ holdest.ne_nil
        intro first hfirst second hsecond
        exact @EffectiveThen.total (· < ·) (fun _ _ => Nat.lt_or_gt_of_ne) _ _ _ _ _ hfirst hsecond
      have hmin := (isLast_descending_iff holdest.1).mp holdest
      have hdailyLast := (isLast_effectiveThen_iff hnewest.1).mp hnewest
      have hlatestLast := (isLast_effectiveThen_iff hlatest.1).mp hlatest
      constructor
      · intro h
        have hsame := h.same
        rw [honce, hdaily] at hsame
        have hdecided : (world.records.plan_change_requests.row oldest).requested_plan_id =
            (world.records.plan_change_requests.row latest).requested_plan_id := by
          obtain ⟨hnil, _⟩ | ⟨decider, hdecider, hplan⟩ := h.latest
          · exact absurd hnil holdest.ne_nil
          · rw [← honce, hplan, hunique hdecider hlatest]
        intro first hfirst hfirst_min last hlast hmax hside
        have hfirst_eq : first = oldest :=
          Nat.le_antisymm (hfirst_min oldest holdest.1) (hmin first hfirst)
        subst hfirst_eq
        obtain hside | hside := hside
        · have hlast_eq : last = newest := by
            refine IsLast.unique (EffectiveThen.asymm fun _ _ => Nat.lt_asymm)
              ((isLast_effectiveThen_iff hlast).mpr ⟨hmax, fun other hother heq hne => ?_⟩) hnewest
            have hle := hside other hother heq
            omega
          rw [hlast_eq]
          exact hsame
        · have hlast_eq : last = latest := by
            refine hunique ((isLast_effectiveThen_iff hlast).mpr ⟨hmax, fun other hother heq hne => ?_⟩) hlatest
            have hle := hside other hother heq
            omega
          rw [hlast_eq]
          exact hdecided
      · intro h
        have hfirst := h oldest holdest.1 hmin newest hnewest.1 hdailyLast.1 (Or.inl fun other hother heq => by
          by_cases hne : other = newest
          · omega
          · exact Nat.le_of_lt (hdailyLast.2 other hother heq hne))
        have hsecond := h oldest holdest.1 hmin latest hlatest.1 hlatestLast.1 (Or.inr fun other hother heq => by
          by_cases hne : other = latest
          · omega
          · exact Nat.le_of_lt (hlatestLast.2 other hother heq hne))
        exact ⟨honce.trans (hfirst.trans hdaily.symm), Or.inr ⟨latest, hlatest, honce.trans hsecond⟩⟩

theorem newYearsEve_isDay : IsDay 2025 12 31 := by decide

def newYearsEve : Date := .of newYearsEve_isDay

/-- A customer not yet connected, with some plan change requests. -/
def customerWith (extension : μ) (requests : List IspPlanChangeRequest) : World (Records μ) Unit where
  jobs := Store.empty { job_type := .change_plan, requested_at := 0 }
  records := {
    subscriptions := (Store.empty ⟨{ name := "SUB", partner_id := 0, plan_id := 0, sector_id := 0 }, rfl⟩).create
      ⟨{ name := "SUB", partner_id := 0, plan_id := 0, sector_id := 0 }, rfl⟩
    plans := fun _ => { name := "Plan", service_type := .dhcp }
    plan_change_requests := (Store.empty { subscription_id := 0, requested_plan_id := 0 }).createAll requests
    extension }
  outside := ()

/-- An approved request that takes effect some days after the last of the year. -/
def approvedFor (requested_plan_id days : Nat) : IspPlanChangeRequest where
  subscription_id := 0
  requested_plan_id
  effective_date_mode := .custom
  effective_date := some (newYearsEve.addDays days)
  state := .approved

/-- Two requests for one plan, of which the later one was created first. -/
theorem same_plan_catchesUp :
    (customerWith () [approvedFor 1 2, approvedFor 1 1]).CatchesUp
        ((customerWith () [approvedFor 1 2, approvedFor 1 1]).caughtUp (fun _ => 0) (fun _ => "")
          (newYearsEve.addDays 2))
        ((customerWith () [approvedFor 1 2, approvedFor 1 1]).caughtUpDaily (fun _ _ => 0) (fun _ _ => "")
          (newYearsEve.daysUntil (newYearsEve.addDays 2)))
        (newYearsEve.addDays 2) 0 ↔
      OldestAgrees (customerWith () [approvedFor 1 2, approvedFor 1 1]).records.plan_change_requests
        (newYearsEve.addDays 2) 0 :=
  IspPlanChangeRequest.cron_apply_plan_changes_catchesUp_iff _ _ _ _ _ newYearsEve _ (by decide) 0

/-- Of two requests, the first created takes effect a day before the second.
A run on the second day only leaves the plan of the first. -/
theorem late_run_reverts_plan :
    (∀ id ∈ (customerWith () [approvedFor 1 1, approvedFor 2 2]).records.plan_change_requests.ids,
        ((customerWith () [approvedFor 1 1, approvedFor 2 2]).records.plan_change_requests.row id).isDue newYearsEve =
          false) ∧
      ¬ (customerWith () [approvedFor 1 1, approvedFor 2 2]).CatchesUp
        ((customerWith () [approvedFor 1 1, approvedFor 2 2]).caughtUp (fun _ => 0) (fun _ => "")
          (newYearsEve.addDays 2))
        ((customerWith () [approvedFor 1 1, approvedFor 2 2]).caughtUpDaily (fun _ _ => 0) (fun _ _ => "")
          (newYearsEve.daysUntil (newYearsEve.addDays 2)))
        (newYearsEve.addDays 2) 0 := by
  refine ⟨by decide, fun h => ?_⟩
  have hsame := h.same
  revert hsame
  decide

end getupnet.isp_core

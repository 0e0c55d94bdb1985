import Getupnet.IspCore.PlanChangeRequest
import Getupnet.IspMikrotik.Frame
import Getupnet.Relational.Runs

open relational
open calendar
open getupnet.isp_core

namespace getupnet.isp_mikrotik

variable {ρ : Type}

/-- A command about a PPP secret carries a name and a password, neither empty. -/
def Command.Credentialed : Command → Prop
  | .ppp_secret_add name password _ _ => truthy name = true ∧ truthy password = true
  | .ppp_secret_set numbers password _ _ => truthy numbers = true ∧ truthy (password.getD none) = true
  | _ => True

/-- A method that keeps the commands sent before and adds only allowed ones,
whether it returns or raises. -/
def Sends (allowed : Command → Prop) (method : Method (List Command × ρ) OdooError Unit) : Prop :=
  ∀ state, ∃ sent, (method.exec state).2.1 = state.1 ++ sent ∧ ∀ command ∈ sent, allowed command

theorem Sends.nothing {allowed : Command → Prop} :
    Sends allowed (pure () : Method (List Command × ρ) OdooError Unit) :=
  fun state => ⟨[], (List.append_nil state.1).symm, by simp⟩

theorem Sends.recording {allowed : Command → Prop} {client : Client ρ} {command : Command}
    (h : allowed command) : Sends allowed (client.recording command) := by
  intro state
  refine ⟨[command], rfl, fun other hother => ?_⟩
  rw [List.mem_singleton.mp hother]
  exact h

theorem Sends.bind {allowed : Command → Prop} {first second : Method (List Command × ρ) OdooError Unit}
    (hfirst : Sends allowed first) (hsecond : Sends allowed second) :
    Sends allowed (do first; second) := by
  intro state
  obtain ⟨sent, hsent, hallowed⟩ := hfirst state
  rw [Method.exec_bind]
  cases hexec : first.exec state with
  | mk result between =>
    rw [hexec] at hsent
    cases result with
    | error exception => exact ⟨sent, hsent, hallowed⟩
    | ok value =>
      obtain ⟨more, hmore, hrest⟩ := hsecond between
      refine ⟨sent ++ more, ?_, fun command hcommand => ?_⟩
      · rw [← List.append_assoc, ← hsent]
        exact hmore
      · obtain hold | hnew := List.mem_append.mp hcommand
        · exact hallowed command hold
        · exact hrest command hnew

/-- The fallback of a rejected command is sent after it. -/
theorem Sends.exceptRouteros {allowed : Command → Prop}
    {body handler : Method (List Command × ρ) OdooError Unit} (hbody : Sends allowed body)
    (hhandler : Sends allowed handler) : Sends allowed (exceptRouteros body handler) := by
  intro state
  obtain ⟨sent, hsent, hallowed⟩ := hbody state
  rw [getupnet.isp_mikrotik.exceptRouteros, Method.exec_tryCatch]
  cases hexec : body.exec state with
  | mk result between =>
    rw [hexec] at hsent
    cases result with
    | ok value => exact ⟨sent, hsent, hallowed⟩
    | error exception =>
      cases exception with
      | routeros message =>
        obtain ⟨more, hmore, hrest⟩ := hhandler between
        refine ⟨sent ++ more, ?_, fun command hcommand => ?_⟩
        · rw [← List.append_assoc, ← hsent]
          exact hmore
        · obtain hold | hnew := List.mem_append.mp hcommand
          · exact hallowed command hold
          · exact hrest command hnew
      | user message => exact ⟨sent, hsent, hallowed⟩
      | validation message => exact ⟨sent, hsent, hallowed⟩
      | other message => exact ⟨sent, hsent, hallowed⟩

/-- What was sent stays sent. -/
theorem Sends.mem {allowed : Command → Prop} {method : Method (List Command × ρ) OdooError Unit}
    (h : Sends allowed method) {command : Command} {state : List Command × ρ} (hmem : command ∈ state.1) :
    command ∈ (method.exec state).2.1 := by
  obtain ⟨sent, hsent, _⟩ := h state
  rw [hsent]
  exact List.mem_append_left _ hmem

/-- A guarded command is sent in any case. -/
theorem mem_exceptRouteros_recording (client : Client ρ) (command : Command) {allowed : Command → Prop}
    {handler : Method (List Command × ρ) OdooError Unit} (hhandler : Sends allowed handler)
    (state : List Command × ρ) :
    command ∈ ((exceptRouteros (client.recording command) handler).exec state).2.1 := by
  have hsent : command ∈ ((client.recording command).exec state).2.1 :=
    List.mem_append_right state.1 (List.mem_singleton_self command)
  rw [exceptRouteros, Method.exec_tryCatch]
  cases hexec : (client.recording command).exec state with
  | mk result between =>
    rw [hexec] at hsent
    cases result with
    | ok value => exact hsent
    | error exception =>
      cases exception with
      | routeros message => exact hhandler.mem hsent
      | user message => exact hsent
      | validation message => exact hsent
      | other message => exact hsent

section

variable {client : Client ρ} {plan : IspServicePlan} {sub : IspSubscription}

theorem routeros_pppoe_ensure_secret_sends (h : sub.HasCredentials) :
    Sends Command.Credentialed (routeros_pppoe_ensure_secret client.recording plan sub) := by
  apply Sends.exceptRouteros
  · exact Sends.recording h
  · exact Sends.recording h

theorem routeros_dhcp_ensure_lease_sends :
    Sends Command.Credentialed (routeros_dhcp_ensure_lease client.recording sub) := by
  unfold routeros_dhcp_ensure_lease
  split
  · exact Sends.nothing
  · exact Sends.exceptRouteros (Sends.recording trivial) (Sends.recording trivial)

theorem routeros_queue_ensure_sends :
    Sends Command.Credentialed (routeros_queue_ensure client.recording plan sub) := by
  unfold routeros_queue_ensure
  split
  · exact Sends.nothing
  · exact Sends.exceptRouteros (Sends.recording trivial) (Sends.recording trivial)

/-- Every command sent so far about a PPP secret carried credentials. -/
def AllCredentialed (state : List Command × ρ) : Prop := ∀ command ∈ state.1, command.Credentialed

theorem Sends.allCredentialed_iff {method : Method (List Command × ρ) OdooError Unit}
    (h : Sends Command.Credentialed method) (state : List Command × ρ) :
    AllCredentialed (method.exec state).2 ↔ AllCredentialed state := by
  obtain ⟨sent, hsent, hallowed⟩ := h state
  unfold AllCredentialed
  rw [hsent]
  constructor
  · exact fun hall command hcommand => hall command (List.mem_append_left _ hcommand)
  · intro hall command hcommand
    obtain hold | hnew := List.mem_append.mp hcommand
    · exact hall command hold
    · exact hallowed command hnew

/-- Ensuring the secret of a PPPoE plan sends what credentials the subscription
has, be they missing. -/
theorem allCredentialed_ensure_secret_iff {rest : Method (List Command × ρ) OdooError Unit}
    (hrest : Sends Command.Credentialed rest) {state : List Command × ρ} (hstate : AllCredentialed state) :
    AllCredentialed
        ((do
          routeros_pppoe_ensure_secret client.recording plan sub
          rest : Method (List Command × ρ) OdooError Unit).exec state).2 ↔
      sub.HasCredentials := by
  constructor
  · intro hall
    have hset : Sends (fun _ => True) (client.recording (.ppp_secret_set sub.pppoe_username
        (some sub.pppoe_password) (some (textOr plan.mikrotik_profile "default")) false)) :=
      Sends.recording trivial
    have hadd := mem_exceptRouteros_recording client (.ppp_secret_add sub.pppoe_username sub.pppoe_password
      (textOr plan.mikrotik_profile "default") "pppoe") hset state
    refine hall (.ppp_secret_add sub.pppoe_username sub.pppoe_password
      (textOr plan.mikrotik_profile "default") "pppoe") ?_
    rw [Method.exec_bind, routeros_pppoe_ensure_secret]
    cases hexec : (exceptRouteros _ _).exec state with
    | mk result between =>
      rw [hexec] at hadd
      cases result with
      | ok value => exact hrest.mem hadd
      | error exception => exact hadd
  · intro hcredentials
    exact (((routeros_pppoe_ensure_secret_sends hcredentials).bind hrest).allCredentialed_iff state).mpr hstate

theorem handle_activate_subscription_credentialed_iff {today : Date} {token_hex : String}
    {state : List Command × ρ} (hstate : AllCredentialed state) :
    AllCredentialed
        ((handle_activate_subscription plan today token_hex (.ok client.recording)).exec (sub, state)).2.2 ↔
      (plan.service_type = .pppoe → sub.HasCredentials) := by
  rw [subscription_handler_outside (rfl : subscription_handler plan today token_hex (.ok client.recording)
    .activate_subscription = some _), job_commands]
  cases plan.service_type with
  | pppoe =>
    rw [forall_prop_of_true rfl]
    exact allCredentialed_ensure_secret_iff routeros_queue_ensure_sends hstate
  | dhcp =>
    refine iff_of_true ?_ (fun hservice => by cases hservice)
    exact ((routeros_dhcp_ensure_lease_sends.bind routeros_queue_ensure_sends).allCredentialed_iff state).mpr hstate
  | hotspot =>
    refine iff_of_true ?_ (fun hservice => by cases hservice)
    exact ((Sends.nothing.bind routeros_queue_ensure_sends).allCredentialed_iff state).mpr hstate

theorem handle_change_plan_credentialed_iff {state : List Command × ρ} (hstate : AllCredentialed state) :
    AllCredentialed ((handle_change_plan plan (.ok client.recording)).exec (sub, state)).2.2 ↔
      (plan.service_type = .pppoe → sub.HasCredentials) := by
  have hbody : ((handle_change_plan plan (.ok client.recording)).exec (sub, state)).2.2 =
      ((do
        if plan.service_type = .pppoe then routeros_pppoe_ensure_secret client.recording plan sub
        routeros_queue_ensure client.recording plan sub :
          Method (List Command × ρ) OdooError Unit).exec state).2 := rfl
  rw [hbody]
  by_cases hservice : plan.service_type = .pppoe
  · rw [if_pos hservice, forall_prop_of_true hservice]
    exact allCredentialed_ensure_secret_iff routeros_queue_ensure_sends hstate
  · rw [if_neg hservice]
    refine iff_of_true ?_ (fun h => absurd h hservice)
    exact (routeros_queue_ensure_sends.allCredentialed_iff state).mpr hstate

end

inductive CredentialsEvent (ρ : Type) where
  | activate (today : Date) (token_hex : String) (connection : Except OdooError (Client ρ))
  | change_plan (connection : Except OdooError (Client ρ))
  | apply_plan (requested_plan_id : Nat) (token_hex : String)

/-- A subscription, the commands sent for it so far and the router. -/
abbrev Sending (ρ : Type) : Type := IspSubscription × List Command × ρ

/-- An exception undoes what was stored, not what was sent. -/
def Sending.undo (before after : Sending ρ) : Sending ρ := (before.1, after.2)

/-- A job executed in its transaction, on a router that answers in any way, or
an applied plan change. -/
inductive CredentialsStep (plans : Nat → IspServicePlan) : Sending ρ → CredentialsEvent ρ → Sending ρ → Prop where
  | activate {before : Sending ρ} (today : Date) (token_hex : String)
      (connection : Except OdooError (Client ρ)) :
      CredentialsStep plans before (.activate today token_hex connection)
        ((handle_activate_subscription (plans before.1.plan_id) today token_hex
          (connection.map Client.recording)).commit Sending.undo before)
  | change_plan {before : Sending ρ} (connection : Except OdooError (Client ρ)) :
      CredentialsStep plans before (.change_plan connection)
        ((handle_change_plan (plans before.1.plan_id) (connection.map Client.recording)).commit Sending.undo before)
  | apply_plan {before : Sending ρ} {sub : IspSubscription} {requested_plan_id : Nat} {token_hex : String}
      (happly : before.1.apply_plan plans requested_plan_id token_hex = .ok sub) :
      CredentialsStep plans before (.apply_plan requested_plan_id token_hex) (sub, before.2)

/-- The job reaches a router and the subscription's plan is a PPPoE plan. -/
def CredentialsEvent.TakesPppoeBranch (plans : Nat → IspServicePlan) (sub : IspSubscription) :
    CredentialsEvent ρ → Prop
  | .activate _ _ connection => connection.isOk = true ∧ (plans sub.plan_id).service_type = .pppoe
  | .change_plan connection => connection.isOk = true ∧ (plans sub.plan_id).service_type = .pppoe
  | .apply_plan _ _ => False

theorem commit_undo_sent (handler : Handler (List Command × ρ) Unit) (before : Sending ρ) :
    (handler.commit Sending.undo before).2 = (handler.exec before).2.2 := by
  unfold Method.commit
  cases handler.exec before with
  | mk result after => cases result <;> rfl

/-- A step that sends commands keeps them credentialed exactly if the
subscription has credentials wherever its plan calls for them. -/
theorem CredentialsStep.allCredentialed_iff {plans : Nat → IspServicePlan} {before after : Sending ρ}
    {event : CredentialsEvent ρ} (hbefore : AllCredentialed before.2)
    (hstep : CredentialsStep plans before event after) :
    AllCredentialed after.2 ↔ (event.TakesPppoeBranch plans before.1 → before.1.HasCredentials) := by
  obtain ⟨sub, sent⟩ := before
  cases hstep with
  | activate today token_hex connection =>
    rw [commit_undo_sent]
    cases connection with
    | error exception =>
      refine iff_of_true ?_ (fun hbranch => by cases hbranch.1)
      rw [handle_activate_subscription, Method.exec_bind, Handler.exec_ensure_pppoe_credentials]
      exact hbefore
    | ok client =>
      rw [CredentialsEvent.TakesPppoeBranch]
      simp only [Except.isOk, Except.toBool, true_and]
      exact handle_activate_subscription_credentialed_iff hbefore
  | change_plan connection =>
    rw [commit_undo_sent]
    cases connection with
    | error exception => exact iff_of_true hbefore (fun hbranch => by cases hbranch.1)
    | ok client =>
      rw [CredentialsEvent.TakesPppoeBranch]
      simp only [Except.isOk, Except.toBool, true_and]
      exact handle_change_plan_credentialed_iff hbefore
  | apply_plan happly => exact iff_of_true hbefore (fun hbranch => hbranch.elim)

/-- No step touches the credentials themselves: jobs and plan changes write other fields,
so a subscription has them throughout a run or never. -/
theorem CredentialsStep.hasCredentials_iff {plans : Nat → IspServicePlan} {before after : Sending ρ}
    {event : CredentialsEvent ρ} (hstep : CredentialsStep plans before event after) :
    after.1.HasCredentials ↔ before.1.HasCredentials := by
  obtain ⟨sub, sent⟩ := before
  cases hstep with
  | activate today token_hex connection =>
    cases hexec : (handle_activate_subscription (plans sub.plan_id) today token_hex
        (connection.map Client.recording)).exec (sub, sent) with
    | mk result after =>
      cases result with
      | ok value =>
        rw [Method.commit_of_ok hexec]
        obtain ⟨_, _, hvalues, _⟩ := handle_activate_subscription_returns hexec
        rw [hvalues]
        exact Iff.rfl
      | error exception =>
        rw [Method.commit_of_error hexec]
        exact Iff.rfl
  | change_plan connection =>
    cases hexec : (handle_change_plan (plans sub.plan_id) (connection.map Client.recording)).exec (sub, sent) with
    | mk result after =>
      cases result with
      | ok value =>
        rw [Method.commit_of_ok hexec]
        obtain ⟨_, _, hsub, _⟩ := handle_change_plan_returns hexec
        rw [hsub]
      | error exception =>
        rw [Method.commit_of_error hexec]
        exact Iff.rfl
  | apply_plan happly =>
    rw [IspSubscription.apply_plan_eq] at happly
    cases happly
    exact Iff.rfl

/-- A created subscription has credentials if it authenticates by PPPoE, as
creation demands then, or if both were passed all the same. -/
theorem hasCredentials_of_create_iff {plans : Nat → IspServicePlan} {next_by_code : Nat → CharField}
    {token_hex : String → String} {vals_list : List SubscriptionVals} {records : List IspSubscription}
    (hcreate : IspSubscription.create plans next_by_code token_hex vals_list = .ok records) {i : Nat}
    {vals : SubscriptionVals} {sub : IspSubscription} (hvals : vals_list[i]? = some vals)
    (hsub : records[i]? = some sub) :
    sub.HasCredentials ↔
      vals.finalAuthMethod (plans vals.plan_id) = .pppoe ∨
        truthy vals.pppoe_username = true ∧ truthy vals.pppoe_password = true := by
  obtain ⟨given, profile, hgiven, hvalues⟩ := IspSubscription.create_values hcreate hsub
  rw [hvals, Option.some.injEq] at hgiven
  subst hgiven
  constructor
  · intro hcredentials
    rw [hvalues] at hcredentials
    exact Or.inr hcredentials
  · intro hcondition
    obtain hmethod | hboth := hcondition
    · apply sub.credentials_of_pppoe
      rw [hvalues]
      exact hmethod
    · rw [hvalues]
      exact hboth

/-- Along every run of a created subscription, the secret commands sent for it
carry credentials exactly if it was created with some, or no job ever reached
a router while it was on a PPPoE plan. -/
theorem allCredentialed_iff_created_with (plans : Nat → IspServicePlan) {next_by_code : Nat → CharField}
    {token_hex : String → String} {vals_list : List SubscriptionVals} {records : List IspSubscription}
    (hcreate : IspSubscription.create plans next_by_code token_hex vals_list = .ok records) {i : Nat}
    {vals : SubscriptionVals} {sub : IspSubscription} (hvals : vals_list[i]? = some vals)
    (hsub : records[i]? = some sub) {router : ρ} {taken : List (Sending ρ × CredentialsEvent ρ)}
    {reached : Sending ρ} (run : Run (CredentialsStep plans) (sub, [], router) taken reached) :
    (∀ state ∈ Run.visited taken reached, AllCredentialed state.2) ↔
      (vals.finalAuthMethod (plans vals.plan_id) = .pppoe ∨
        truthy vals.pppoe_username = true ∧ truthy vals.pppoe_password = true) ∨
      ∀ entry ∈ taken, ¬ entry.2.TakesPppoeBranch plans entry.1.1 := by
  let inv := fun (state : Sending ρ) =>
    AllCredentialed state.2 ∧ (state.1.HasCredentials ↔ sub.HasCredentials)
  let condition := fun (state : Sending ρ) (event : CredentialsEvent ρ) =>
    event.TakesPppoeBranch plans state.1 → sub.HasCredentials
  have hinitial : inv (sub, [], router) := by
    refine ⟨fun command hcommand => ?_, Iff.rfl⟩
    cases hcommand
  have hiff := @Run.property_iff_condition _ _ (CredentialsStep plans) (sub, [], router) inv
    (fun state => AllCredentialed state.2) condition hinitial
    (fun _ hinv => hinv.1)
    (fun _ _ _ hinv hcondition hstep =>
      ⟨(hstep.allCredentialed_iff hinv.1).mpr (fun hbranch => hinv.2.mpr (hcondition hbranch)),
        hstep.hasCredentials_iff.trans hinv.2⟩)
    (fun _ _ _ hinv hnot hstep hafter =>
      hnot (fun hbranch => hinv.2.mp ((hstep.allCredentialed_iff hinv.1).mp hafter hbranch)))
    taken reached run
  rw [hiff, ← hasCredentials_of_create_iff hcreate hvals hsub]
  constructor
  · intro hall
    by_cases hcredentials : sub.HasCredentials
    · exact Or.inl hcredentials
    · exact Or.inr fun entry hentry hbranch => hcredentials (hall entry hentry hbranch)
  · intro hcases entry hentry hbranch
    obtain hcredentials | hnever := hcases
    · exact hcredentials
    · exact absurd hbranch (hnever entry hentry)

/-- Plan 0 is a DHCP plan, every other one a PPPoE plan. -/
def dhcpThenPppoe (id : Nat) : IspServicePlan :=
  if id = 0 then { name := "Basic", service_type := .dhcp } else { name := "Fiber", service_type := .pppoe }

/-- A subscription passed without credentials, to one of the two plans. -/
def newCustomer (plan_id : Nat) : SubscriptionVals where
  partner_id := 0
  plan_id
  sector_id := 0
  gps_lat := 18
  gps_lng := 69

/-- A subscription as creation on plan 0 stores it. -/
def dhcpCustomer : IspSubscription where
  name := "SUB"
  partner_id := 0
  plan_id := 0
  sector_id := 0
  gps_lat := 18
  gps_lng := 69
  checked := rfl

/-- A dry run of a plan change job. -/
def dryChange : CredentialsEvent Unit := .change_plan (.ok Client.dry_run)

theorem dhcpCustomer_created :
    IspSubscription.create dhcpThenPppoe (fun _ => none) (fun _ => "c0ffee") [newCustomer 0] =
      .ok [dhcpCustomer] := rfl

/-- What a plan change job leaves. -/
def afterDryChange (state : Sending Unit) : Sending Unit :=
  (handle_change_plan (dhcpThenPppoe state.1.plan_id) (.ok (Client.recording Client.dry_run))).commit
    Sending.undo state

/-- A subscription passed with credentials, to the PPPoE plan. -/
def pppoeVals : SubscriptionVals :=
  { newCustomer 1 with pppoe_username := some "sub", pppoe_password := some "secret" }

/-- A subscription as creation on the PPPoE plan stores it. -/
def pppoeCustomer : IspSubscription :=
  { dhcpCustomer with
    plan_id := 1
    auth_method := .pppoe
    pppoe_username := some "sub"
    pppoe_password := some "secret"
    checked := rfl }

theorem pppoeCustomer_created :
    IspSubscription.create dhcpThenPppoe (fun _ => none) (fun _ => "c0ffee") [pppoeVals] = .ok [pppoeCustomer] := rfl

/-- The activation of a PPPoE customer sends his secret, with his credentials. -/
theorem allCredentialed_iff_created_with_pppoe :
    let today : Date := .of (show IsDay 2026 1 1 by decide)
    let reached := (handle_activate_subscription (dhcpThenPppoe 1) today "c0ffee"
      (.ok (Client.recording Client.dry_run))).commit Sending.undo (pppoeCustomer, [], ())
    .ppp_secret_add (some "sub") (some "secret") "default" "pppoe" ∈ reached.2.1 ∧ AllCredentialed reached.2 := by
  intro today reached
  have run : Run (CredentialsStep dhcpThenPppoe) (pppoeCustomer, [], ()) _ reached :=
    .step .start (.activate today "c0ffee" (.ok Client.dry_run))
  refine ⟨List.mem_cons_self, ?_⟩
  exact (allCredentialed_iff_created_with dhcpThenPppoe pppoeCustomer_created (i := 0) rfl rfl run).mpr
    (Or.inl (Or.inl rfl)) reached (Run.reached_mem_visited _ _)

/-- A customer created on a DHCP plan and moved to a PPPoE plan: the plan change
job adds a secret without name or password. -/
theorem moved_customer_sends_empty_credentials :
    IspSubscription.create dhcpThenPppoe (fun _ => none) (fun _ => "c0ffee") [newCustomer 0] =
        .ok [dhcpCustomer] ∧
      ∃ taken reached, Run (CredentialsStep dhcpThenPppoe) (dhcpCustomer, [], ()) taken reached ∧
        .ppp_secret_add none none "default" "pppoe" ∈ reached.2.1 ∧
        ¬ ∀ state ∈ Run.visited taken reached, AllCredentialed state.2 := by
  let moved : Sending Unit := (dhcpCustomer.movedTo dhcpThenPppoe 1, [], ())
  have hmove : CredentialsStep dhcpThenPppoe (dhcpCustomer, [], ()) (.apply_plan 1 "c0ffee") moved :=
    .apply_plan (dhcpCustomer.apply_plan_eq dhcpThenPppoe 1 "c0ffee")
  have hchange : CredentialsStep dhcpThenPppoe moved dryChange (afterDryChange moved) :=
    .change_plan (.ok Client.dry_run)
  have hsent : (afterDryChange moved).2.1 = [.ppp_secret_add none none "default" "pppoe"] := rfl
  have hmem : .ppp_secret_add none none "default" "pppoe" ∈ (afterDryChange moved).2.1 := by
    rw [hsent]
    exact List.mem_singleton_self _
  refine ⟨dhcpCustomer_created, _, _, .step (.step .start hmove) hchange, hmem, fun hall => ?_⟩
  have hcredentialed := hall _ (Run.reached_mem_visited _ _) _ hmem
  cases hcredentialed.1

end getupnet.isp_mikrotik

import Getupnet.Tools.Preloader.Steps

open interaction relational

namespace getupnet.mikrotik_preloader

/-- How a router reads its filter rules: the fields that restrict a rule to some
packets, when a packet satisfies such a field, and the actions that decide. -/
structure PacketFilter (Packet : Type) where
  matchers : List String
  satisfies : String → String → Packet → Bool
  verdict : String → Option Bool
  matches_source : "src-address" ∈ matchers
  matches_protocol : "protocol" ∈ matchers
  matches_port : "dst-port" ∈ matchers
  ignores_chain : "chain" ∉ matchers
  ignores_action : "action" ∉ matchers
  ignores_comment : "comment" ∉ matchers
  verdict_accept : verdict "accept" = some true
  verdict_drop : verdict "drop" = some false

variable {Packet : Type}

/-- What an input rule makes of a packet, if it decides about it. -/
def PacketFilter.decides (self : PacketFilter Packet) (packet : Packet) (rule : Fields) : Option Bool :=
  if rule "chain" == some "input" &&
      self.matchers.all (fun name => (rule name).all (fun value => self.satisfies name value packet)) then
    self.verdict ((rule "action").getD "accept")
  else
    none

/-- The first rule that decides about a packet. -/
def PacketFilter.evaluate (self : PacketFilter Packet) (rules : List Fields) (packet : Packet) : Option Bool :=
  rules.findSome? (self.decides packet)

/-- A packet that no rule decides about is accepted. -/
def PacketFilter.accepts (self : PacketFilter Packet) (rules : List Fields) (packet : Packet) : Bool :=
  (self.evaluate rules packet).getD true

/-- A TCP packet to the API port from an address. -/
def PacketFilter.requests (self : PacketFilter Packet) (port : Nat) (address : String) (packet : Packet) : Bool :=
  self.satisfies "src-address" address packet && self.satisfies "protocol" "tcp" packet &&
    self.satisfies "dst-port" (toString port) packet

/-- The filter rules of a router, in order. -/
def Router.chain (self : Router) : List Fields := (self.tables .filter).entries.map Prod.snd

/-- A rule that decides nothing may be left out. -/
theorem PacketFilter.evaluate_filter (self : PacketFilter Packet) {packet : Packet}
    (entries : List (Nat × Fields))
    {kept : Nat × Fields → Bool}
    (h : ∀ entry ∈ entries, kept entry = false → self.decides packet entry.2 = none) :
    self.evaluate ((entries.filter kept).map Prod.snd) packet = self.evaluate (entries.map Prod.snd) packet := by
  induction entries with
  | nil => rfl
  | cons entry entries ih =>
    have hrest := ih (fun other hother => h other (List.mem_cons_of_mem _ hother))
    cases hkept : kept entry with
    | true =>
      rw [List.filter_cons_of_pos hkept, List.map_cons, List.map_cons, PacketFilter.evaluate, PacketFilter.evaluate,
        List.findSome?_cons, List.findSome?_cons]
      cases self.decides packet entry.2 with
      | none => exact hrest
      | some verdict => rfl
    | false =>
      rw [List.filter_cons_of_neg (by rw [hkept]; exact Bool.false_ne_true), hrest, List.map_cons,
        PacketFilter.evaluate, PacketFilter.evaluate, List.findSome?_cons,
        h entry List.mem_cons_self hkept]

/-- A rule that also comes first changes nothing further down. -/
theorem PacketFilter.evaluate_cons_congr (self : PacketFilter Packet) {packet : Packet} {rule : Fields}
    {first second : List Fields}
    (h : self.decides packet rule = none → self.evaluate first packet = self.evaluate second packet) :
    self.evaluate (rule :: first) packet = self.evaluate (rule :: second) packet := by
  rw [PacketFilter.evaluate, PacketFilter.evaluate, List.findSome?_cons, List.findSome?_cons]
  cases hrule : self.decides packet rule with
  | none => exact h hrule
  | some verdict => rfl

theorem PacketFilter.evaluate_append (self : PacketFilter Packet) (first second : List Fields) (packet : Packet) :
    self.evaluate (first ++ second) packet = (self.evaluate first packet).or (self.evaluate second packet) :=
  List.findSome?_append

/-- The rule that carries the comment of the allow rules: the first that a
router has, or else the one for the first address of the list. -/
def leading_rule (cfg : Config) (address : String) (router : Router) : Fields :=
  match (router.tables .filter).first (Fields.is "comment" "ALLOW ODOO/NOC API") with
  | some entry => entry.2
  | none => Fields.of (allow_words cfg.routeros.api_port address "ALLOW ODOO/NOC API")

private theorem allow_words_comment (port : Nat) (address comment : String) :
    Fields.is "comment" comment (Fields.of (allow_words port address comment)) = true := by
  simp [Fields.is, allow_words]

/-- The first allow step puts the leading rule in front; past it, the chain
decides as before. -/
theorem allow_step_leads (filter : PacketFilter Packet) (cfg : Config) (address : String) (router : Router) :
    ∃ entry entries,
      ((allow_step cfg.routeros.api_port address "ALLOW ODOO/NOC API" router).tables .filter).entries =
        entry :: entries ∧
      entry.2 = leading_rule cfg address router ∧
      Fields.is "comment" "ALLOW ODOO/NOC API" entry.2 = true ∧
      ∀ packet, filter.decides packet entry.2 = none →
        filter.evaluate (entries.map Prod.snd) packet = filter.evaluate router.chain packet := by
  have hdropped : ∀ (entry : Nat × Fields) (table : Listing Fields) (packet : Packet), entry ∈ table.entries →
      filter.decides packet entry.2 = none →
      filter.evaluate ((table.entries.filter (fun other => !(other.1 == entry.1))).map Prod.snd) packet =
        filter.evaluate (table.entries.map Prod.snd) packet := by
    intro entry table packet hmem hnone
    refine filter.evaluate_filter _ fun other hother hkept => ?_
    rw [table.eq_of_id_eq hother hmem (by simpa using hkept)]
    exact hnone
  rw [allow_step, Router.alter_tables_self]
  cases hfirst : (router.tables .filter).first (Fields.is "comment" "ALLOW ODOO/NOC API") with
  | some entry =>
    rw [Listing.ensure_of_has (Listing.has_of_first hfirst)]
    refine ⟨entry, _, Listing.raise_entries hfirst, ?_, Listing.domain_of_first hfirst, ?_⟩
    · rw [leading_rule, hfirst]
    · exact fun packet => hdropped entry _ packet (Listing.mem_of_first hfirst)
  | none =>
    have hhas := Listing.first_eq_none_iff.mp hfirst
    have hcomment := allow_words_comment cfg.routeros.api_port address "ALLOW ODOO/NOC API"
    have hadded := (router.tables .filter).first_add_of_not_has hhas hcomment
    rw [Listing.ensure_of_not_has hhas]
    refine ⟨_, _, Listing.raise_entries hadded, ?_, hcomment, fun packet hnone => ?_⟩
    · rw [leading_rule, hfirst]
    · rw [hdropped _ _ packet (Listing.mem_of_first hadded) hnone, Listing.add_entries, List.map_append,
        filter.evaluate_append, Router.chain]
      have hlast : filter.evaluate [Fields.of (allow_words cfg.routeros.api_port address "ALLOW ODOO/NOC API")]
          packet = none := by
        rw [PacketFilter.evaluate, List.findSome?_singleton]
        exact hnone
      rw [List.map_singleton, hlast, Option.or_none]

/-- Allow steps after the first find the rule where the first has put it. -/
theorem allow_steps_replay (cfg : Config) {router : Router} {entry : Nat × Fields} {entries : List (Nat × Fields)}
    (hentries : (router.tables .filter).entries = entry :: entries)
    (hentry : Fields.is "comment" "ALLOW ODOO/NOC API" entry.2 = true) (addresses : List String) :
    replay (addresses.flatMap (allow_steps cfg)) router = router := by
  have hhas : (router.tables .filter).has (Fields.is "comment" "ALLOW ODOO/NOC API") = true := by
    refine Listing.has_iff.mpr ⟨entry, ?_, hentry⟩
    rw [hentries]
    exact List.mem_cons_self
  have hhead : (router.tables .filter).entries.head? = some entry := by rw [hentries, List.head?_cons]
  induction addresses with
  | nil => rfl
  | cons address addresses ih =>
    have hadd : Function.IsFixedPt (allow_add_step cfg.routeros.api_port address "ALLOW ODOO/NOC API") router :=
      ensure_step_fixed_iff.mpr hhas
    have hallow : Function.IsFixedPt (allow_step cfg.routeros.api_port address "ALLOW ODOO/NOC API") router := by
      refine (Router.alter_eq_self_iff _ _ _).mpr ?_
      rw [Listing.ensure_of_has hhas]
      exact Listing.raise_of_head hhead hentry
    rw [List.flatMap_cons, replay_append, allow_steps, replay_cons, replay_cons, replay_nil, hadd.eq, hallow.eq]
    exact ih

/-- The two steps for an address do as much to the rules as the second alone. -/
theorem allow_step_after_add (port : Nat) (address comment : String) (router : Router) :
    (allow_step port address comment (allow_add_step port address comment router)).tables .filter =
      (allow_step port address comment router).tables .filter := by
  have hhas := (router.tables .filter).has_ensure (allow_words_comment port address comment)
  rw [allow_step, allow_add_step, ensure_step, Router.alter_tables_self, Router.alter_tables_self,
    Router.alter_tables_self, Listing.ensure_of_has hhas]

/-- The chain that the firewall steps leave: the leading rule, rules that decide
as the ones before, and a drop rule unless there was one. -/
theorem firewall_chain (filter : PacketFilter Packet) {cfg : Config} {environ : Environ} {address : String}
    {rest : List String} (h : allowed_ips cfg environ = address :: rest) (router : Router) :
    ∃ others, (replay (firewall_steps cfg environ) router).chain =
        leading_rule cfg address router :: (others ++
          (if (router.tables .filter).has (Fields.is "comment" "DROP API OTHERS") then []
            else [Fields.of (drop_words cfg.routeros.api_port "DROP API OTHERS")])) ∧
      ∀ packet, filter.decides packet (leading_rule cfg address router) = none →
        filter.evaluate others packet = filter.evaluate router.chain packet := by
  obtain ⟨entry, entries, hentries, hrule, hcomment, hevaluate⟩ := allow_step_leads filter cfg address router
  have hadded := allow_step_after_add cfg.routeros.api_port address "ALLOW ODOO/NOC API" router
  have hreplay : replay ((allowed_ips cfg environ).flatMap (allow_steps cfg)) router =
      allow_step cfg.routeros.api_port address "ALLOW ODOO/NOC API"
        (allow_add_step cfg.routeros.api_port address "ALLOW ODOO/NOC API" router) := by
    rw [h, List.flatMap_cons, replay_append, allow_steps, replay_cons, replay_cons, replay_nil]
    exact allow_steps_replay cfg (by rw [hadded]; exact hentries) hcomment rest
  have hdrop : ((allow_step cfg.routeros.api_port address "ALLOW ODOO/NOC API" router).tables .filter).has
      (Fields.is "comment" "DROP API OTHERS") =
        (router.tables .filter).has (Fields.is "comment" "DROP API OTHERS") := by
    rw [allow_step, Router.alter_tables_self, Listing.has_raise]
    refine Listing.has_ensure_of_not _ _ ?_
    simp [Fields.is, allow_words]
  refine ⟨entries.map Prod.snd, ?_, fun packet hnone => hevaluate packet (by rw [hrule]; exact hnone)⟩
  rw [firewall_steps, replay_append, hreplay, replay_cons, replay_nil, drop_step, ensure_step, Router.chain,
    Router.alter_tables_self, hadded, Listing.ensure, hdrop, ← hrule]
  split
  · rw [hentries, List.map_cons, List.append_nil]
  · rw [Listing.add_entries, hentries, List.map_append, List.map_cons, List.map_singleton, List.cons_append]

/-- The exact condition: the leading rule, or the rules that were there, accept
every listed address, or nothing decides and an old drop rule stands in for the
new one. -/
def AllowlistServed (filter : PacketFilter Packet) (cfg : Config) (environ : Environ) (router : Router) : Prop :=
  ∀ leading rest, allowed_ips cfg environ = leading :: rest → ∀ address ∈ leading :: rest, ∀ packet,
    filter.requests cfg.routeros.api_port address packet = true →
    (filter.evaluate (leading_rule cfg leading router :: router.chain) packet).getD
      ((router.tables .filter).has (Fields.is "comment" "DROP API OTHERS")) = true

/-- A rule about the API port alone applies to a request by its address. -/
private theorem PacketFilter.decides_request (filter : PacketFilter Packet) {port : Nat} {address action : String}
    {packet : Packet} (h : filter.requests port address packet = true) {rule : Fields}
    (hchain : rule "chain" = some "input") (hprotocol : rule "protocol" = some "tcp")
    (hport : rule "dst-port" = some (toString port)) (haction : rule "action" = some action)
    (hothers : ∀ name, name ∉ ["chain", "action", "comment", "src-address", "protocol", "dst-port"] →
      rule name = none) :
    filter.decides packet rule =
      if (rule "src-address").all (fun value => filter.satisfies "src-address" value packet) then
        filter.verdict action
      else
        none := by
  simp only [PacketFilter.requests, Bool.and_eq_true] at h
  have hmatches : filter.matchers.all (fun name =>
      (rule name).all (fun value => filter.satisfies name value packet)) =
        (rule "src-address").all (fun value => filter.satisfies "src-address" value packet) := by
    rw [Bool.eq_iff_iff, List.all_eq_true]
    constructor
    · exact fun hall => hall _ filter.matches_source
    · intro hsource name hname
      have hnochain : name ≠ "chain" := fun hsame => filter.ignores_chain (hsame ▸ hname)
      have hnoaction : name ≠ "action" := fun hsame => filter.ignores_action (hsame ▸ hname)
      have hnocomment : name ≠ "comment" := fun hsame => filter.ignores_comment (hsame ▸ hname)
      by_cases hknown : name ∈ ["src-address", "protocol", "dst-port"]
      · simp only [List.mem_cons, List.not_mem_nil, or_false] at hknown
        obtain rfl | rfl | rfl := hknown
        · exact hsource
        · rw [hprotocol]
          exact h.1.2
        · rw [hport]
          exact h.2
      · rw [hothers name (by simpa [hnochain, hnoaction, hnocomment] using hknown)]
        rfl
  rw [PacketFilter.decides, hmatches, hchain, haction, beq_self_eq_true, Bool.true_and]
  rfl

theorem PacketFilter.decides_drop (filter : PacketFilter Packet) {port : Nat} {address : String} {packet : Packet}
    (h : filter.requests port address packet = true) (comment : String) :
    filter.decides packet (Fields.of (drop_words port comment)) = some false := by
  rw [@PacketFilter.decides_request _ filter port address "drop" packet h]
  · simp [drop_words, filter.verdict_drop]
  · simp [drop_words]
  · simp [drop_words]
  · simp [drop_words]
  · simp [drop_words]
  · intro name hname
    simp only [List.mem_cons, List.not_mem_nil, or_false, not_or] at hname
    simp [drop_words, hname]

/-- After the firewall steps a router accepts API connections from every listed address
exactly when one rule serves them all: the steps always return, and of the rules they
ensure for the addresses all but the first find that one's comment and add nothing. -/
theorem allowlist_admitted_iff (filter : PacketFilter Packet) (cfg : Config) (environ : Environ)
    (router : Router) :
    (∃ after, (routeros_onboard_firewall cfg environ).exec mikrotik.perform router = (.ok (), after) ∧
      ∀ address ∈ allowed_ips cfg environ, ∀ packet,
        filter.requests cfg.routeros.api_port address packet = true → filter.accepts after.chain packet = true) ↔
      AllowlistServed filter cfg environ router := by
  have hreturns := (routeros_onboard_firewall_performs cfg environ router).returns
  have hafter : ∀ {statement : Router → Prop},
      (∃ after, (routeros_onboard_firewall cfg environ).exec mikrotik.perform router = (.ok (), after) ∧
        statement after) ↔ statement (replay (firewall_steps cfg environ) router) := by
    intro statement
    constructor
    · rintro ⟨after, hexec, hstatement⟩
      rw [hreturns] at hexec
      cases hexec
      exact hstatement
    · exact fun hstatement => ⟨_, hreturns, hstatement⟩
  rw [hafter, AllowlistServed]
  cases hips : allowed_ips cfg environ with
  | nil => simp
  | cons leading rest =>
    obtain ⟨others, hchain, hothers⟩ := firewall_chain filter hips router
    have haccepts : ∀ address packet, filter.requests cfg.routeros.api_port address packet = true →
        filter.accepts (replay (firewall_steps cfg environ) router).chain packet =
          (filter.evaluate (leading_rule cfg leading router :: router.chain) packet).getD
            ((router.tables .filter).has (Fields.is "comment" "DROP API OTHERS")) := by
      intro address packet hrequests
      rw [PacketFilter.accepts, hchain, ← List.cons_append, filter.evaluate_append,
        filter.evaluate_cons_congr (hothers packet)]
      cases filter.evaluate (leading_rule cfg leading router :: router.chain) packet with
      | some verdict => rfl
      | none =>
        cases (router.tables .filter).has (Fields.is "comment" "DROP API OTHERS") with
        | true => rfl
        | false =>
          have hdrop : filter.evaluate [Fields.of (drop_words cfg.routeros.api_port "DROP API OTHERS")] packet =
              some false := by
            rw [PacketFilter.evaluate, List.findSome?_singleton]
            exact filter.decides_drop hrequests _
          rw [if_neg Bool.false_ne_true, hdrop]
          rfl
    constructor
    · intro h head tail hlist address hmem packet hrequests
      cases hlist
      rw [← haccepts address packet hrequests]
      exact h address hmem packet hrequests
    · intro h address hmem packet hrequests
      rw [haccepts address packet hrequests]
      exact h leading rest rfl address hmem packet hrequests

/-- A packet filter over connections to the API port, told apart by the address
they come from. -/
def connections : PacketFilter String where
  matchers := ["src-address", "protocol", "dst-port"]
  satisfies name value packet := name != "src-address" || value == packet
  verdict action := if action = "accept" then some true else if action = "drop" then some false else none
  matches_source := by simp
  matches_protocol := by simp
  matches_port := by simp
  ignores_chain := by simp
  ignores_action := by simp
  ignores_comment := by simp
  verdict_accept := rfl
  verdict_drop := rfl

/-- A configuration that allows two addresses. -/
def twoAddresses : Config := { routeros := { allowed_mgmt_ips := ["10.0.0.21", "192.168.137.1"] } }

/-- On a router without rules, the second address of a list of two is dropped. -/
theorem second_address_dropped :
    ∃ after, (routeros_onboard_firewall twoAddresses (fun _ => none)).exec mikrotik.perform Router.blank =
        (.ok (), after) ∧
      "192.168.137.1" ∈ allowed_ips twoAddresses (fun _ => none) ∧
      connections.requests twoAddresses.routeros.api_port "192.168.137.1" "192.168.137.1" = true ∧
      connections.accepts after.chain "192.168.137.1" = false :=
  ⟨_, rfl, by decide, by decide, by decide⟩

end getupnet.mikrotik_preloader

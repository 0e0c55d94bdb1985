import Getupnet.Interaction.Ends
import Getupnet.Tools.Preloader.Delivery

open interaction python

namespace getupnet.mikrotik_preloader.untyped

/-- Commands that only read what a menu shows. -/
def Call.Reads (call : Call) : Prop := "/print".toList <:+ call.path.toList

/-- The `RuntimeError`s are what the code itself raises over its configuration. -/
def Interruption.RuntimeError : Interruption → Prop
  | .failure (.runtime_error _) => True
  | _ => False

/-- What a connection answers: rows, or an exception that is no `RuntimeError`. -/
def from_connection : Except Interruption (List Dict) → Prop
  | .ok _ => True
  | .error interruption => ¬ interruption.RuntimeError

/-- Where a run raises over its configuration, it has changed nothing on the router. -/
def UntouchedWhenInvalid {σ : Type} (perform : σ → Call → Except Interruption (List Dict) × σ) (state : σ)
    (program : Session Unit) : Prop :=
  ∀ interruption after, program.exec perform state = (.error interruption, after) → interruption.RuntimeError →
    ∀ call ∈ program.issued perform state, call.Reads

/-- The `routeros.config` section, where there is one to apply. -/
def sector_settings_of (cfg : Dict) : Option SectorSettings :=
  match ((cfg.lookup "routeros").getD (.dict [])).get "config" (.dict []) with
  | .ok (.dict entries) => if (Value.dict entries).truthy then some (.of entries) else none
  | _ => none

/-- The webhook is enabled and has no token. -/
def TokenMissing (environ : Environ) (cfg : Dict) : Prop :=
  ∃ enabled token, ((cfg.lookup "webhook").getD (.dict [])).get "enabled" .none = .ok enabled ∧
    enabled.truthy = true ∧ lease_token_of environ ((cfg.lookup "webhook").getD (.dict [])) = .ok token ∧
    token.truthy = false

/-- The settings are complete and of the types that are needed to get past the LAN, so
that only the checks after it are left to fail. -/
structure SectorSettings.PassesLan (rcfg : SectorSettings) : Prop where
  complete : rcfg.complete = true
  lan_ports : ∃ ports, list_of rcfg.lan_ports = .ok ports
  lan_address : ∃ gateway, gateway_of rcfg.lan_address = .ok gateway

/-- What is done before the checks that come after the LAN. -/
def routeros_before_late_checks (py : Builtins) (mgmt_iface : Value) (rcfg : SectorSettings) : Session Unit := do
  routeros_apply_interfaces py mgmt_iface rcfg
  routeros_apply_dhcp py rcfg
  routeros_apply_services py rcfg
  Program.when rcfg.hotspot_dns_name.truthy (routeros_apply_hotspot py rcfg)

/-- The checks after the LAN do not fail. -/
def LateChecksPass (environ : Environ) (cfg : Dict) : Prop :=
  ∀ rcfg, sector_settings_of cfg = some rcfg → rcfg.PassesLan →
    (rcfg.enable_hotspot.truthy → rcfg.hotspot_dns_name.truthy) ∧ ¬ TokenMissing environ cfg

section

variable {py : Builtins} {environ : Environ} {cfg : Dict} {rcfg : SectorSettings} {path menu field : String}
  {value name : Value} {kwargs : Dict} {answers : Except Interruption (List Dict) → Prop}
  {raised : Interruption → Prop}

theorem api_exec_ends (hraised : ∀ interruption, answers (.error interruption) → raised interruption) :
    (api_exec path kwargs).Ends answers (fun _ => True) raised :=
  Program.Ends.command hraised

theorem routeros_find_ends (hraised : ∀ interruption, answers (.error interruption) → raised interruption) :
    (routeros_find py path field value).Ends answers (fun _ => True) raised := by
  refine Program.Ends.attempt (api_exec_ends fun _ hanswer => hanswer) fun interruption hanswer => ?_
  cases interruption with
  | failure failure => exact hraised _ hanswer
  | librouteros text =>
    dsimp only
    split
    · exact (api_exec_ends hraised).bind fun _ _ => trivial
    · exact hraised _ hanswer

theorem routeros_get_id_ends (hraised : ∀ interruption, answers (.error interruption) → raised interruption) :
    (routeros_get_id py path field value).Ends answers (fun _ => True) raised := by
  refine (routeros_find_ends hraised).bind fun items _ => ?_
  cases items <;> trivial

theorem routeros_ensure_ends (hraised : ∀ interruption, answers (.error interruption) → raised interruption) :
    (routeros_ensure py menu field value kwargs).Ends answers (fun _ => True) raised :=
  (routeros_find_ends hraised).bind fun _ _ => .when fun _ => (api_exec_ends hraised).bind fun _ _ => trivial

theorem routeros_ensure_named_ends (hraised : ∀ interruption, answers (.error interruption) → raised interruption) :
    (routeros_ensure_named py menu name kwargs).Ends answers (fun _ => True) raised := by
  refine (routeros_find_ends hraised).bind fun existing _ => ?_
  split
  · exact (api_exec_ends hraised).bind fun _ _ => trivial
  · exact (routeros_get_id_ends hraised).bind fun _ _ => (api_exec_ends hraised).bind fun _ _ => trivial

theorem routeros_interface_exists_ends (hraised : ∀ interruption, answers (.error interruption) → raised interruption) :
    (routeros_interface_exists py name).Ends answers (fun _ => True) raised :=
  (routeros_find_ends hraised).bind fun _ _ => trivial

theorem routeros_ensure_bridge_port_ends {bridge interface : Value}
    (hraised : ∀ interruption, answers (.error interruption) → raised interruption) :
    (routeros_ensure_bridge_port py bridge interface).Ends answers (fun _ => True) raised :=
  (routeros_interface_exists_ends hraised).bind fun _ _ => .when fun _ =>
    (routeros_find_ends hraised).bind fun _ _ => .when fun _ => (api_exec_ends hraised).bind fun _ _ => trivial

theorem routeros_ensure_ip_pool_ends {ranges : Value}
    (hraised : ∀ interruption, answers (.error interruption) → raised interruption) :
    (routeros_ensure_ip_pool py name ranges).Ends answers (fun _ => True) raised := by
  refine (routeros_find_ends hraised).bind fun existing _ => ?_
  split
  · exact (api_exec_ends hraised).bind fun _ _ => trivial
  · exact (api_exec_ends hraised).bind fun _ _ => trivial

theorem routeros_ensure_dhcp_network_ends {address gateway dns_server : Value}
    (hraised : ∀ interruption, answers (.error interruption) → raised interruption) :
    (routeros_ensure_dhcp_network py address gateway dns_server).Ends answers (fun _ => True) raised := by
  refine (routeros_get_id_ends hraised).bind fun existing_id _ => ?_
  split
  · exact (api_exec_ends hraised).bind fun _ _ => trivial
  · exact (api_exec_ends hraised).bind fun _ _ => trivial

theorem routeros_set_dhcp_lease_script_ends {dhcp_server script : Value} {clear_if_empty : Bool}
    (hraised : ∀ interruption, answers (.error interruption) → raised interruption) :
    (routeros_set_dhcp_lease_script py dhcp_server script clear_if_empty).Ends answers (fun _ => True) raised :=
  .when fun _ => (routeros_get_id_ends hraised).bind fun _ _ => (api_exec_ends hraised).bind fun _ _ => trivial

/-- The ports are added when they can be listed. -/
theorem routeros_apply_interfaces_ends {mgmt_iface : Value}
    (hraised : ∀ interruption, answers (.error interruption) → raised interruption)
    (hports : ∀ exception, list_of rcfg.lan_ports = .error exception → raised (.failure (.raised exception))) :
    (routeros_apply_interfaces py mgmt_iface rcfg).Ends answers
      (fun _ => ∃ ports, list_of rcfg.lan_ports = .ok ports) raised := by
  refine Program.Ends.bind (.when fun _ => routeros_ensure_ends hraised) fun _ _ => ?_
  refine (routeros_ensure_ends hraised).bind fun _ _ => ?_
  cases hlisted : list_of rcfg.lan_ports with
  | error exception => exact hports exception hlisted
  | ok ports =>
    refine Program.Ends.mono (Program.Ends.forEach fun port _ => ?_) (fun _ _ => ⟨ports, rfl⟩) fun _ h => h
    exact .when fun _ => routeros_ensure_bridge_port_ends hraised

theorem routeros_apply_dhcp_ends (hraised : ∀ interruption, answers (.error interruption) → raised interruption) :
    (routeros_apply_dhcp py rcfg).Ends answers (fun _ => True) raised :=
  (routeros_ensure_ends hraised).bind fun _ _ => (routeros_ensure_ip_pool_ends hraised).bind fun _ _ =>
    routeros_ensure_named_ends hraised

theorem routeros_apply_services_ends (hraised : ∀ interruption, answers (.error interruption) → raised interruption)
    (haddress : ∀ exception, gateway_of rcfg.lan_address = .error exception → raised (.failure (.raised exception))) :
    (routeros_apply_services py rcfg).Ends answers (fun _ => ∃ gateway, gateway_of rcfg.lan_address = .ok gateway)
      raised := by
  rw [routeros_apply_services]
  cases hgateway : gateway_of rcfg.lan_address with
  | error exception => exact haddress exception hgateway
  | ok gateway =>
    refine (routeros_ensure_dhcp_network_ends hraised).bind fun _ _ => ?_
    refine Program.Ends.bind (.when fun _ => (api_exec_ends hraised).bind fun _ _ => trivial) fun _ _ => ?_
    exact (Program.Ends.when fun _ => routeros_ensure_ends hraised).mono (fun _ _ => ⟨gateway, rfl⟩) fun _ h => h

theorem routeros_apply_hotspot_ends (hraised : ∀ interruption, answers (.error interruption) → raised interruption)
    (hmissing : rcfg.enable_hotspot.truthy = true → rcfg.hotspot_dns_name.truthy = false →
      raised (.failure (.runtime_error "hotspot_dns_name is required when enable_hotspot is true"))) :
    (routeros_apply_hotspot py rcfg).Ends answers
      (fun _ => rcfg.enable_hotspot.truthy → rcfg.hotspot_dns_name.truthy) raised := by
  rw [routeros_apply_hotspot]
  cases henabled : rcfg.enable_hotspot.truthy with
  | false => exact fun h => (Bool.false_ne_true h).elim
  | true =>
    cases hdns : rcfg.hotspot_dns_name.truthy with
    | false => exact hmissing henabled hdns
    | true =>
      refine (routeros_ensure_named_ends hraised).bind fun _ _ =>
        (routeros_ensure_named_ends hraised).bind fun _ _ => ?_
      exact (Program.Ends.when fun _ => routeros_ensure_ends hraised).mono (fun _ _ _ => rfl) fun _ h => h

theorem routeros_apply_lease_script_ends {dhcp_server : Value}
    (hraised : ∀ interruption, answers (.error interruption) → raised interruption)
    (hbuild : ∀ failure, build_lease_script py environ cfg = .error failure → raised (.failure failure))
    (hclear : ∀ exception, raised (.failure (.raised exception))) :
    (routeros_apply_lease_script py environ cfg dhcp_server).Ends answers
      (fun _ => ∃ script, build_lease_script py environ cfg = .ok script) raised := by
  rw [routeros_apply_lease_script]
  cases hscript : build_lease_script py environ cfg with
  | error failure => exact hbuild failure hscript
  | ok script =>
    cases hget : ((cfg.lookup "webhook").getD (.dict [])).get "clear_lease_script_on_disable" (.bool true) with
    | error exception => exact hclear exception
    | ok clear =>
      exact (routeros_set_dhcp_lease_script_ends hraised).mono (fun _ _ => ⟨script, rfl⟩) fun _ h => h

/-- The script cannot be built for want of a token. -/
theorem build_lease_script_of_tokenMissing (h : TokenMissing environ cfg) :
    build_lease_script py environ cfg =
      .error (.runtime_error "webhook token missing: set webhook.token_env or webhook.token_value") := by
  obtain ⟨enabled, token, henabled, hon, htoken, hempty⟩ := h
  simp [build_lease_script, henabled, raises, hon, htoken, hempty, bind, Except.bind, throw, throwThe, MonadExceptOf.throw]

/-- A result that is no `RuntimeError`. -/
def Quiet {α : Type} (result : Except Failure α) : Prop := ∀ message, result ≠ .error (.runtime_error message)

theorem Quiet.bind {α β : Type} {result : Except Failure α} {next : α → Except Failure β} (h : Quiet result)
    (hnext : ∀ value, result = .ok value → Quiet (next value)) : Quiet (result >>= next) := by
  cases result with
  | ok value => exact hnext value rfl
  | error failure => exact fun message heq => h message (congrArg Except.error (Except.error.inj heq))

theorem quiet_raises {α : Type} (result : Except Raised α) : Quiet (raises result) := by
  intro message
  cases result <;> exact nofun

theorem quiet_ok {α : Type} (value : α) : Quiet (.ok value) := fun _ => nofun

theorem quiet_environ_get (environ : Environ) (name default : Value) :
    Quiet (environ_get environ name default) := by
  intro message
  cases name <;> exact nofun

theorem quiet_lease_token_of (environ : Environ) (webhook : Value) : Quiet (lease_token_of environ webhook) := by
  have hchosen : ∀ token : Value,
      Quiet (if token.truthy then pure token else raises (webhook.get "token_value" .none)) := by
    intro token
    split
    · exact quiet_ok _
    · exact quiet_raises _
  refine (quiet_raises _).bind fun token_env _ => ?_
  dsimp only
  split
  · exact (quiet_environ_get environ token_env .none).bind fun token _ => hchosen token
  · exact hchosen .none

theorem quiet_lease_url_of (cfg : Dict) (webhook : Value) : Quiet (lease_url_of cfg webhook) := by
  refine (quiet_raises _).bind fun url _ => ?_
  split
  · exact quiet_ok _
  · refine (quiet_raises _).bind fun odoo _ => (quiet_raises _).bind fun odoo_url _ => ?_
    split
    · exact quiet_ok _
    · exact fun _ => nofun

/-- The only `RuntimeError` of the script is that of the token. -/
theorem quiet_build_lease_script (h : ¬ TokenMissing environ cfg) :
    Quiet (build_lease_script py environ cfg) := by
  refine (quiet_raises _).bind fun enabled henabled => ?_
  split
  · exact quiet_ok _
  · rename_i hon
    refine (quiet_lease_token_of _ _).bind fun token htoken => ?_
    split
    · rename_i hempty
      refine (h ⟨enabled, token, raises_eq_ok_iff.mp henabled, ?_, htoken, ?_⟩).elim
      · simpa using hon
      · simpa using hempty
    · refine (quiet_lease_url_of _ _).bind fun url _ => (quiet_raises _).bind fun sector_code _ => ?_
      exact quiet_ok _

/-- When the late checks pass, complete settings raise no `RuntimeError`. -/
theorem routeros_apply_settings_ends (hpass : LateChecksPass environ cfg)
    (hsection : sector_settings_of cfg = some rcfg) (hcomplete : rcfg.complete = true) (mgmt_iface : Value) :
    (routeros_apply_settings py environ cfg mgmt_iface rcfg).Ends from_connection (fun _ => True)
      (fun interruption => ¬ interruption.RuntimeError) := by
  have hraised : ∀ interruption : Interruption, from_connection (.error interruption) →
      ¬ interruption.RuntimeError := fun _ h => h
  have hquiet : ∀ exception : Raised, ¬ (Interruption.failure (.raised exception)).RuntimeError := fun _ h => h
  rw [routeros_apply_settings, hcomplete]
  refine (routeros_apply_interfaces_ends hraised fun exception _ => hquiet exception).bind fun _ hports => ?_
  refine (routeros_apply_dhcp_ends hraised).bind fun _ _ => ?_
  refine (routeros_apply_services_ends hraised fun exception _ => hquiet exception).bind fun _ haddress => ?_
  obtain ⟨hhotspot, htoken⟩ := hpass rcfg hsection ⟨hcomplete, hports, haddress⟩
  refine (routeros_apply_hotspot_ends hraised fun henabled hdns => ?_).bind fun _ _ => ?_
  · exact (Bool.false_ne_true (hdns.symm.trans (hhotspot henabled))).elim
  · refine (routeros_apply_lease_script_ends hraised (fun failure hbuild => ?_) hquiet).mono
      (fun _ _ => trivial) fun _ h => h
    cases failure with
    | runtime_error message => exact (quiet_build_lease_script htoken message hbuild).elim
    | raised exception => exact fun h => h
    | other text => exact fun h => h

variable {σ : Type} {perform : σ → Call → Except Interruption (List Dict) × σ} {state middle : σ}

/-- Where the run up to the check returns, complete settings run on like it. -/
theorem routeros_apply_settings_of_before {mgmt_iface : Value} (hcomplete : rcfg.complete = true)
    (hbefore : (routeros_before_late_checks py mgmt_iface rcfg).exec perform state = (.ok (), middle))
    (hlate : ¬ ((rcfg.enable_hotspot.truthy → rcfg.hotspot_dns_name.truthy) ∧ ¬ TokenMissing environ cfg)) :
    ∃ interruption after, (routeros_apply_settings py environ cfg mgmt_iface rcfg).exec perform state =
      (.error interruption, after) ∧ interruption.RuntimeError := by
  obtain ⟨_, first, hinterfaces, hbefore⟩ := Program.exists_exec_of_bind hbefore
  obtain ⟨_, second, hdhcp, hbefore⟩ := Program.exists_exec_of_bind hbefore
  obtain ⟨_, third, hservices, hbefore⟩ := Program.exists_exec_of_bind hbefore
  have hlease : TokenMissing environ cfg → ∀ reached : σ,
      (routeros_apply_lease_script py environ cfg rcfg.dhcp_server).exec perform reached =
        (.error (.failure (.runtime_error
          "webhook token missing: set webhook.token_env or webhook.token_value")), reached) := by
    intro htoken reached
    rw [routeros_apply_lease_script, build_lease_script_of_tokenMissing htoken]
    rfl
  rw [routeros_apply_settings, hcomplete, Bool.not_true, if_neg Bool.false_ne_true,
    Program.exec_bind_of_ok hinterfaces, Program.exec_bind_of_ok hdhcp, Program.exec_bind_of_ok hservices]
  cases hdns : rcfg.hotspot_dns_name.truthy with
  | true =>
    have htoken : TokenMissing environ cfg := not_not.mp fun h => hlate ⟨fun _ => hdns, h⟩
    rw [hdns] at hbefore
    have hhotspot : (routeros_apply_hotspot py rcfg).exec perform third = (.ok (), middle) := hbefore
    rw [Program.exec_bind_of_ok hhotspot, hlease htoken]
    exact ⟨_, _, rfl, trivial⟩
  | false =>
    rw [routeros_apply_hotspot, hdns]
    cases henabled : rcfg.enable_hotspot.truthy with
    | true => exact ⟨_, _, rfl, trivial⟩
    | false =>
      have htoken : TokenMissing environ cfg :=
        not_not.mp fun h => hlate ⟨fun hon => (Bool.false_ne_true (henabled.symm.trans hon)).elim, h⟩
      exact ⟨_, third, hlease htoken third, trivial⟩

/-- A run that raises a `RuntimeError` over complete settings has got to the check. -/
theorem routeros_before_late_checks_returns {mgmt_iface : Value} {interruption : Interruption} {after : σ}
    (hconnection : Gives from_connection perform) (hcomplete : rcfg.complete = true)
    (h : (routeros_apply_settings py environ cfg mgmt_iface rcfg).exec perform state = (.error interruption, after))
    (hruntime : interruption.RuntimeError) :
    ∃ middle, (routeros_before_late_checks py mgmt_iface rcfg).exec perform state = (.ok (), middle) := by
  have hraised : ∀ interruption : Interruption, from_connection (.error interruption) →
      ¬ interruption.RuntimeError := fun _ h => h
  have hquiet : ∀ exception : Raised, ¬ (Interruption.failure (.raised exception)).RuntimeError := fun _ h => h
  rw [routeros_apply_settings, hcomplete, Bool.not_true, if_neg Bool.false_ne_true] at h
  obtain herror | ⟨_, first, hinterfaces, h⟩ := Program.exec_error_of_bind h
  · have hends := @routeros_apply_interfaces_ends py rcfg from_connection _ mgmt_iface hraised fun exception _ =>
      hquiet exception
    exact (hends.of_exec_error hconnection herror hruntime).elim
  obtain herror | ⟨_, second, hdhcp, h⟩ := Program.exec_error_of_bind h
  · exact ((routeros_apply_dhcp_ends hraised).of_exec_error hconnection herror hruntime).elim
  obtain herror | ⟨_, third, hservices, h⟩ := Program.exec_error_of_bind h
  · have hends := @routeros_apply_services_ends py rcfg from_connection _ hraised fun exception _ =>
      hquiet exception
    exact (hends.of_exec_error hconnection herror hruntime).elim
  rw [routeros_before_late_checks, Program.exec_bind_of_ok hinterfaces, Program.exec_bind_of_ok hdhcp,
    Program.exec_bind_of_ok hservices]
  cases hdns : rcfg.hotspot_dns_name.truthy with
  | false => exact ⟨third, rfl⟩
  | true =>
    obtain herror | ⟨_, fourth, hhotspot, -⟩ := Program.exec_error_of_bind h
    · have hends := @routeros_apply_hotspot_ends py rcfg from_connection _ hraised fun _ hmissing =>
        (Bool.false_ne_true (hmissing.symm.trans hdns)).elim
      exact (hends.of_exec_error hconnection herror hruntime).elim
    · exact ⟨fourth, hhotspot⟩

/-- A pool that has been ensured has been set or added. -/
theorem routeros_ensure_ip_pool_changes {ranges : Value}
    (h : (routeros_ensure_ip_pool py name ranges).exec perform state = (.ok (), middle)) :
    ∃ call ∈ (routeros_ensure_ip_pool py name ranges).issued perform state, ¬ call.Reads := by
  obtain ⟨existing, found, hfind, -⟩ := Program.exists_exec_of_bind h
  cases hempty : existing.isEmpty with
  | true =>
    refine ⟨⟨"/ip/pool/add", [("name", name), ("ranges", ranges)]⟩, Program.mem_issued_bind_right hfind ?_, ?_⟩
    · rw [hempty]
      exact List.mem_cons_self
    · exact fun h => absurd h (by decide : ¬ "/print".toList <:+ "/ip/pool/add".toList)
  | false =>
    refine ⟨⟨"/ip/pool/set", [("numbers", name), ("ranges", ranges)]⟩, Program.mem_issued_bind_right hfind ?_, ?_⟩
    · rw [hempty]
      exact List.mem_cons_self
    · exact fun h => absurd h (by decide : ¬ "/print".toList <:+ "/ip/pool/set".toList)

/-- So a run that gets to the check has changed the router. -/
theorem routeros_apply_settings_changes {mgmt_iface : Value} (hcomplete : rcfg.complete = true)
    (hbefore : (routeros_before_late_checks py mgmt_iface rcfg).exec perform state = (.ok (), middle)) :
    ∃ call ∈ (routeros_apply_settings py environ cfg mgmt_iface rcfg).issued perform state, ¬ call.Reads := by
  obtain ⟨_, first, hinterfaces, hbefore⟩ := Program.exists_exec_of_bind hbefore
  obtain ⟨_, second, hdhcp, -⟩ := Program.exists_exec_of_bind hbefore
  obtain ⟨_, third, haddress, hdhcp⟩ := Program.exists_exec_of_bind hdhcp
  obtain ⟨_, fourth, hpool, -⟩ := Program.exists_exec_of_bind hdhcp
  obtain ⟨call, hcall, hchanges⟩ := routeros_ensure_ip_pool_changes hpool
  refine ⟨call, ?_, hchanges⟩
  rw [routeros_apply_settings, hcomplete]
  exact Program.mem_issued_bind_right hinterfaces (Program.mem_issued_bind_left
    (Program.mem_issued_bind_right haddress (Program.mem_issued_bind_left hcall)))

theorem routeros_apply_sector_config_of_settings (h : sector_settings_of cfg = some rcfg) (mgmt_iface : Value) :
    routeros_apply_sector_config py environ cfg mgmt_iface =
      routeros_apply_settings py environ cfg mgmt_iface rcfg := by
  rw [sector_settings_of] at h
  split at h
  · rename_i entries hget
    split at h
    · rename_i htruthy
      rw [routeros_apply_sector_config, hget, ← Option.some.inj h]
      exact if_pos htruthy
    · cases h
  · cases h

/-- A section that is not there, or is no dictionary, sends nothing. -/
theorem routeros_apply_sector_config_issued (h : sector_settings_of cfg = none) (mgmt_iface : Value) :
    (routeros_apply_sector_config py environ cfg mgmt_iface).issued perform state = [] := by
  rw [routeros_apply_sector_config]
  cases hget : ((cfg.lookup "routeros").getD (.dict [])).get "config" (.dict []) with
  | error exception => rfl
  | ok section_ =>
    rw [sector_settings_of, hget] at h
    change Program.issued perform (if section_.truthy then _ else _) state = []
    split
    · rename_i htruthy
      cases section_ with
      | dict entries =>
        simp [htruthy] at h
      | none | bool | int | str | list | other => rfl
    · rfl

end

/-- For every configuration and every connection, a run that raises over the
configuration has changed nothing on the router exactly when the checks after the LAN
pass, or the router has cut the run short before them. -/
theorem sector_config_untouched_iff {σ : Type} (py : Builtins) (environ : Environ) (cfg : Dict)
    (mgmt_iface : Value)
    (perform : σ → Call → Except Interruption (List Dict) × σ) (state : σ)
    (hconnection : Gives from_connection perform) :
    UntouchedWhenInvalid perform state (routeros_apply_sector_config py environ cfg mgmt_iface) ↔
      LateChecksPass environ cfg ∨ ∀ rcfg, sector_settings_of cfg = some rcfg →
        ∀ after, (routeros_before_late_checks py mgmt_iface rcfg).exec perform state ≠ (.ok (), after) := by
  cases hsection : sector_settings_of cfg with
  | none =>
    refine iff_of_true (fun _ _ _ _ call hcall => ?_) (Or.inr fun rcfg hrcfg => ?_)
    · rw [routeros_apply_sector_config_issued hsection] at hcall
      cases hcall
    · cases hrcfg
  | some rcfg =>
    rw [UntouchedWhenInvalid, routeros_apply_sector_config_of_settings hsection]
    constructor
    · intro h
      refine or_iff_not_imp_left.mpr fun hfails settings hsettings after hbefore => ?_
      obtain rfl := Option.some.inj hsettings
      rw [LateChecksPass] at hfails
      push Not at hfails
      obtain ⟨other, hother, hlan, hlate⟩ := hfails
      obtain rfl := Option.some.inj (hsection.symm.trans hother)
      obtain ⟨interruption, reached, hexec, hruntime⟩ := routeros_apply_settings_of_before hlan.complete hbefore
        fun hpass => hpass.2 (hlate hpass.1)
      obtain ⟨call, hcall, hchanges⟩ := @routeros_apply_settings_changes py environ cfg rcfg σ perform state after
        mgmt_iface hlan.complete hbefore
      exact hchanges (h interruption reached hexec hruntime call hcall)
    · intro h interruption after hexec hruntime
      cases hcomplete : rcfg.complete with
      | false =>
        rw [routeros_apply_settings, hcomplete]
        exact fun call hcall => absurd hcall List.not_mem_nil
      | true =>
        obtain hpass | hcut := h
        · have hends := @routeros_apply_settings_ends py environ cfg rcfg hpass hsection hcomplete mgmt_iface
          exact (hends.of_exec_error hconnection hexec hruntime).elim
        · obtain ⟨middle, hbefore⟩ := routeros_before_late_checks_returns hconnection hcomplete hexec hruntime
          exact (hcut rcfg rfl middle hbefore).elim

/-- A configuration file with the required values, and others for the hotspot. -/
def sector_file (hotspot : Dict) : Dict :=
  [("routeros", .dict [("config", .dict ([("wan_interface", .str "ether1"), ("lan_bridge", .str "br-lan"),
    ("lan_address", .str "10.0.0.1/24"), ("dhcp_pool", .str "pool"), ("dhcp_range", .str "10.0.0.10-10.0.0.99"),
    ("dhcp_server", .str "dhcp"), ("dhcp_network", .str "10.0.0.0/24")] ++ hotspot))])]

/-- A configuration file of which most required values are missing, beside the DNS
name of the hotspot. -/
def incomplete_file : Dict :=
  [("routeros", .dict [("config", .dict [("wan_interface", .str "ether1"), ("enable_hotspot", .bool true)])])]

/-- The missing values are noticed before anything is sent. -/
theorem sector_config_untouched_iff_incomplete :
    (∃ interruption, (routeros_apply_sector_config builtins (fun _ => none) incomplete_file .none).exec
        blank_router () = (.error interruption, ()) ∧ interruption.RuntimeError) ∧
      UntouchedWhenInvalid blank_router ()
        (routeros_apply_sector_config builtins (fun _ => none) incomplete_file .none) := by
  have hpass : LateChecksPass (fun _ => none) incomplete_file := by
    intro rcfg hrcfg hlan
    cases hrcfg
    exact absurd hlan.complete (by decide)
  refine ⟨⟨.failure (.runtime_error "Missing routeros.config required values"), rfl, trivial⟩, ?_⟩
  exact (sector_config_untouched_iff builtins (fun _ => none) incomplete_file .none blank_router ()
    fun _ _ => trivial).mpr (.inl hpass)

/-- A hotspot without a DNS name is noticed after the router has been changed. -/
theorem hotspot_without_dns_name_changes :
    ¬ UntouchedWhenInvalid blank_router ()
      (routeros_apply_sector_config builtins (fun _ => none) (sector_file [("enable_hotspot", .bool true)]) .none) := by
  intro h
  have hbridge := h (.failure (.runtime_error "hotspot_dns_name is required when enable_hotspot is true")) () rfl
    trivial ⟨"/interface/bridge/add", [("name", .str "br-lan")]⟩ (.tail _ (.tail _ (.tail _ (.head _))))
  exact absurd hbridge (by decide : ¬ "/print".toList <:+ "/interface/bridge/add".toList)

end getupnet.mikrotik_preloader.untyped

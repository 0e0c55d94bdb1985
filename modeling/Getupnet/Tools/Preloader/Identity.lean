import Getupnet.Interaction.Ends
import Getupnet.Python.Format
import Getupnet.Python.Ipaddress
import Getupnet.Tools.Preloader.Configuration

open interaction
open python.template
open python.ipaddress

namespace getupnet.mikrotik_preloader

/-- The name for the router at an address. -/
def identity_of (cfg : Config) (ip : String) : String :=
  cfg.naming.identity_format cfg.naming.identity_prefix cfg.sector_code ((split '.' ip).getLastD "")

/-- What `routeros_onboard` returns for an address that it onboards. -/
def onboarded_at (cfg : Config) (ip : String) : Onboarded := ⟨identity_of cfg ip, ip, cfg.routeros.api_port⟩

/-- The arguments of the format text. -/
def identity_kwargs (lead sector ip_last_octet : String) (name : String) : Option String :=
  [("prefix", lead), ("sector", sector), ("ip_last_octet", ip_last_octet)].lookup name

/-- The names are made from a format text. -/
def NamingConfig.Formats (self : NamingConfig) (template : String) : Prop :=
  ∀ lead sector ip_last_octet, format template (identity_kwargs lead sector ip_last_octet) =
    some (self.identity_format lead sector ip_last_octet)

/-- `list(scan_subnet_for_api(subnet, api_port))`, given which addresses answer at the
port; `none` for a subnet that is none. -/
def scan_subnet_for_api (answers : String → Bool) (subnet : String) : Option (List String) :=
  (ip_network subnet).map fun net => (net.hosts.map IPv4Address.str).filter answers

section

variable {cfg : Config} {environ : Environ} {ip template : String} {router after : Router}

theorem routeros_onboard_login_identity {perform : Router → Command → Except Exception Response × Router}
    {mgmt_pass : String} {user : String × String}
    (h : (routeros_onboard_login cfg environ ip mgmt_pass).exec perform router = (.ok (some user), after)) :
    user.1 = identity_of cfg ip := by
  obtain ⟨_, connected, -, h⟩ := Program.exists_exec_of_bind h
  obtain ⟨target, checked, -, h⟩ := Program.exists_exec_of_bind h
  cases target with
  | false => cases h
  | true =>
    obtain ⟨_, _, -, h⟩ := Program.exists_exec_of_bind h
    obtain ⟨_, _, -, h⟩ := Program.exists_exec_of_bind h
    obtain ⟨_, _, -, h⟩ := Program.exists_exec_of_bind h
    obtain ⟨_, _, -, h⟩ := Program.exists_exec_of_bind h
    cases h
    rfl

/-- Whatever a router answers, onboarding it returns its name and address, if anything. -/
theorem routeros_onboard_onboarded {perform : Router → Command → Except Exception Response × Router}
    {onboarded : Onboarded}
    (h : (routeros_onboard ip cfg environ).exec perform router = (.ok (some onboarded), after)) :
    onboarded = onboarded_at cfg ip := by
  rw [routeros_onboard_eq] at h
  obtain ⟨user, started, huser, h⟩ := Program.exists_exec_of_bind h
  cases user with
  | none => cases h
  | some user =>
    obtain ⟨_, _, -, h⟩ := Program.exists_exec_of_bind h
    cases h
    rw [routeros_onboard_user] at huser
    have hidentity : user.1 = identity_of cfg ip := by
      split at huser
      · obtain ⟨_, _, -, hlogin⟩ := Program.exists_exec_of_bind huser
        exact routeros_onboard_login_identity hlogin
      · exact routeros_onboard_login_identity huser
    rw [onboarded_at, ← hidentity]

/-- The part of an address after its last dot. -/
theorem last_octet_str (host : IPv4Address) :
    (split '.' host.str).getLastD "" = toString (host.value % 2 ^ 8) := by
  rw [split, splitOn_str]
  exact String.toList_inj.mp (String.toList_ofList.trans Nat.toList_repr.symm)

theorem toString_injective {first second : Nat} (h : toString first = toString second) : first = second := by
  have hdigits : first.repr.toList = second.repr.toList := congrArg String.toList h
  rw [Nat.toList_repr, Nat.toList_repr] at hdigits
  rw [← @Nat.ofDigitChars_ten_toDigits first, hdigits, Nat.ofDigitChars_ten_toDigits]

theorem identity_kwargs_agree (lead sector first second : String) (field : String)
    (h : field ≠ "ip_last_octet") :
    identity_kwargs lead sector first field = identity_kwargs lead sector second field := by
  simp [identity_kwargs, List.lookup_cons, beq_false_of_ne h]

/-- Names tell octets apart where the format text has the octet in it. -/
theorem identity_format_inj {parsed : List Piece} (hformats : cfg.naming.Formats template)
    (hparse : parse template = some parsed) (hmem : .field "ip_last_octet" ∈ parsed)
    {lead sector first second : String}
    (h : cfg.naming.identity_format lead sector first =
      cfg.naming.identity_format lead sector second) : first = second := by
  obtain ⟨found, hfound, text, htext, hfirst⟩ := format_eq_some.mp (hformats lead sector first)
  obtain ⟨other, hother, ending, hending, hsecond⟩ := format_eq_some.mp (hformats lead sector second)
  cases hparse.symm.trans hfound
  cases hparse.symm.trans hother
  have hsame : text = ending := String.ofList_injective (hfirst.trans (h.trans hsecond.symm))
  rw [← hsame] at hending
  exact fill_inj (identity_kwargs_agree lead sector first second) rfl rfl hmem htext hending

/-- Without the octet in it all names of a sector are the same. -/
theorem identity_format_const {parsed : List Piece} (hformats : cfg.naming.Formats template)
    (hparse : parse template = some parsed) (hmem : .field "ip_last_octet" ∉ parsed)
    (lead sector first second : String) :
    cfg.naming.identity_format lead sector first =
      cfg.naming.identity_format lead sector second := by
  have hfirst := hformats lead sector first
  have hsecond := hformats lead sector second
  rw [format, hparse] at hfirst hsecond
  have hfill := fill_congr (identity_kwargs_agree lead sector first second) hmem
  simp only [Option.bind_eq_bind, Option.bind_some, hfill] at hfirst hsecond
  exact Option.some.inj (hfirst.symm.trans hsecond)

theorem identity_of_str (cfg : Config) (host : IPv4Address) :
    identity_of cfg host.str =
      cfg.naming.identity_format cfg.naming.identity_prefix cfg.sector_code (toString (host.value % 2 ^ 8)) := by
  rw [identity_of, last_octet_str]

/-- The names of all usable addresses of a network differ exactly when their last octets
are part of the names and differ, or when there is only one. -/
theorem identities_nodup_iff {parsed : List Piece} (hformats : cfg.naming.Formats template)
    (hparse : parse template = some parsed) (net : IPv4Network) :
    ((net.hosts.map IPv4Address.str).map (identity_of cfg)).Nodup ↔
      net.prefixlen = 32 ∨ (24 ≤ net.prefixlen ∧ .field "ip_last_octet" ∈ parsed) := by
  rw [List.map_map, List.nodup_map_iff_inj_on net.hosts_nodup, ← net.last_octets_nodup_iff,
    List.nodup_map_iff_inj_on net.hosts_nodup]
  constructor
  · intro hinj
    by_cases hone : net.prefixlen = 32
    · exact .inl hone
    · obtain ⟨first, hfirst, second, hsecond, hne⟩ := net.exists_two_hosts hone
      refine .inr ⟨fun host hhost other hother heq => hinj host hhost other hother ?_, ?_⟩
      · rw [Function.comp_apply, Function.comp_apply, identity_of_str, identity_of_str, heq]
      · by_contra hmem
        refine hne (hinj first hfirst second hsecond ?_)
        rw [Function.comp_apply, Function.comp_apply, identity_of_str, identity_of_str]
        exact identity_format_const hformats hparse hmem _ _ _ _
  · rintro (hone | ⟨hoctets, hmem⟩) first hfirst second hsecond heq
    · rw [net.hosts_of_single hone, List.mem_singleton] at hfirst hsecond
      rw [hfirst, hsecond]
    · rw [Function.comp_apply, Function.comp_apply, identity_of_str, identity_of_str] at heq
      exact hoctets first hfirst second hsecond (toString_injective (identity_format_inj hformats hparse hmem heq))

/-- However many of the addresses of a subnet answer, no two routers that are onboarded
get the same name, if and only if the subnet has one address, or at most 256 and the
format text has the last octet in it. -/
theorem identities_distinct_iff {subnet : String} {net : IPv4Network} {parsed : List Piece}
    (hformats : cfg.naming.Formats template) (hparse : parse template = some parsed)
    (hsubnet : ip_network subnet = some net) :
    (∀ answers candidates, scan_subnet_for_api answers subnet = some candidates →
        (candidates.map (identity_of cfg)).Nodup) ↔
      net.prefixlen = 32 ∨ (24 ≤ net.prefixlen ∧ .field "ip_last_octet" ∈ parsed) := by
  rw [← identities_nodup_iff hformats hparse net]
  constructor
  · intro h
    refine h (fun _ => true) _ ?_
    rw [scan_subnet_for_api, hsubnet, Option.map_some, List.filter_true]
  · intro hnodup answers candidates hscan
    rw [scan_subnet_for_api, hsubnet] at hscan
    cases hscan
    exact hnodup.sublist (List.filter_sublist.map _)

end

/-- The format text of a profile, unless it has another one. -/
def default_template : String := "\x7bprefix\x7d\x7bsector\x7d-\x7bip_last_octet\x7d"

theorem default_template_parse :
    parse default_template = some [.field "prefix", .field "sector", .char '-', .field "ip_last_octet"] := by decide

theorem default_template_formats : ({} : Config).naming.Formats default_template := by
  intro lead sector ip_last_octet
  refine format_eq_some.mpr ⟨_, default_template_parse, _, rfl, ?_⟩
  apply String.toList_inj.mp
  simp

/-- With it the names differ in a network of 254 usable addresses, and not in one of 510. -/
theorem identities_distinct_iff_default :
    (∀ answers candidates, scan_subnet_for_api answers "192.168.88.1/24" = some candidates →
      (candidates.map (identity_of {})).Nodup) ∧
    ¬∀ answers candidates, scan_subnet_for_api answers "192.168.88.1/23" = some candidates →
      (candidates.map (identity_of {})).Nodup := by
  obtain ⟨small, hsmall, hlength⟩ : ∃ net, ip_network "192.168.88.1/24" = some net ∧ net.prefixlen = 24 :=
    ⟨_, rfl, rfl⟩
  obtain ⟨large, hlarge, hlonger⟩ : ∃ net, ip_network "192.168.88.1/23" = some net ∧ net.prefixlen = 23 :=
    ⟨_, rfl, rfl⟩
  rw [identities_distinct_iff default_template_formats default_template_parse hsmall,
    identities_distinct_iff default_template_formats default_template_parse hlarge]
  refine ⟨.inr ⟨by omega, by simp⟩, ?_⟩
  omega

end getupnet.mikrotik_preloader

import Getupnet.IspCore.Controllers.MacOnboarding
import Getupnet.Python.Urlencoded
import Getupnet.Tools.Preloader

open python
open getupnet.isp_core
open getupnet.isp_core.onboarding

namespace getupnet.mikrotik_preloader

/-- A lease that a DHCP server hands out or takes back. -/
structure LeaseEvent where
  mac : String
  ip : String
  bound : String

def lease_url (cfg : Config) : String :=
  text_or cfg.webhook.url (rstrip_slash cfg.odoo_url ++ "/isp/mac_onboarding")

def lease_token (cfg : Config) (environ : Environ) : String :=
  token_of environ cfg.webhook.token_env cfg.webhook.token_value

def lease_sector (cfg : Config) : String := text_or cfg.webhook.sector_code cfg.sector_code

def lease_script_start : String :=
  ":local mac $leaseActMAC; :local ip $leaseActIP; :local bound $leaseBound; /tool fetch url=\""

/-- The lease script around the texts before and after its variables. -/
def lease_script (before after : String) : String :=
  lease_script_start ++ before ++ "&mac=$mac&ip=$ip&bound=$bound&sector=" ++ after ++ "\" keep-result=no"

/-- A text that stands for itself between the quotes of a RouterOS script. -/
structure PlainText (text : String) : Prop where
  no_quote : '"' ∉ text.toList
  no_backslash : '\\' ∉ text.toList
  no_dollar : '$' ∉ text.toList

/-- The texts with the values of the variables between them. -/
def filled_in (before after : String) (event : LeaseEvent) : String :=
  before ++ "&mac=" ++ event.mac ++ "&ip=" ++ event.ip ++ "&bound=" ++ event.bound ++ "&sector=" ++ after

/-- What RouterOS makes of a quoted text: plain text stays, and a variable gives way to
its value. `fetched_url` is the URL that a script fetches on an event. -/
def FillsIn (fetched_url : String → LeaseEvent → Option String) : Prop :=
  ∀ before after event, PlainText before → PlainText after →
    fetched_url (lease_script before after) event = some (filled_in before after event)

/-- What the query string should say. -/
def lease_fields (cfg : Config) (environ : Environ) (event : LeaseEvent) : List (String × String) :=
  [("token", lease_token cfg environ), ("mac", event.mac), ("ip", event.ip), ("bound", event.bound),
    ("sector", lease_sector cfg)]

/-- The parameters of a request, by name. -/
def requestOf (params : List (String × String)) : Request where
  token := params.lookup "token"
  mac := params.lookup "mac"
  leaseActMAC := params.lookup "leaseActMAC"
  ip := params.lookup "ip"
  leaseActIP := params.lookup "leaseActIP"
  bound := params.lookup "bound"
  leaseBound := params.lookup "leaseBound"
  sector := params.lookup "sector"
  hostname := params.lookup "hostname"

/-- The request is not refused for its token. -/
def Authenticated (str : StrMethods) (params : Parameters) (kw : Request) : Prop :=
  ∀ response, kw.admitted str params = .error response → response.status ≠ 401 ∧ response.status ≠ 403

/-- A lease event arrives as it was sent: the query string decodes to its fields, and a
controller configured with the same token authenticates the request. -/
structure Arrives (cfg : Config) (environ : Environ) (event : LeaseEvent) (url : String) : Prop where
  decoded : ∀ field ∈ lease_fields cfg environ event,
    (parse_qsl (query_string url.toList)).lookup field.1 = some field.2
  authenticated : ∀ str params, params.mac_onboarding_token = some (lease_token cfg environ) →
    Authenticated str params (requestOf (parse_qsl (query_string url.toList)))

/-- The URL is that of an endpoint, and the texts of the configuration are plain. -/
structure PlainWebhook (cfg : Config) (environ : Environ) : Prop where
  url : PlainText (lease_url cfg)
  no_query : '?' ∉ (lease_url cfg).toList
  no_fragment : '#' ∉ (lease_url cfg).toList
  token : PlainText (lease_token cfg environ)
  sector : PlainText (lease_sector cfg)

section

variable {cfg : Config} {environ : Environ} {event : LeaseEvent} {script : String}

theorem build_lease_script_eq (h : build_lease_script cfg environ = .ok (some script)) :
    lease_token cfg environ ≠ "" ∧
      script = lease_script (lease_url cfg ++ "?token=" ++ lease_token cfg environ) (lease_sector cfg) := by
  rw [build_lease_script] at h
  split at h
  · cases h
  · dsimp only at h
    split at h
    · cases h
    · rename_i htoken
      refine ⟨fun hempty => htoken ?_, ?_⟩
      · rw [lease_token] at hempty
        rw [hempty]
        rfl
      · rw [← Option.some.inj (Except.ok.inj h)]
        simp only [lease_script, lease_script_start, lease_url, lease_token, lease_sector, String.append_assoc]
        rfl

theorem PlainText.append {first second : String} (hfirst : PlainText first) (hsecond : PlainText second) :
    PlainText (first ++ second) := by
  constructor
  · simp [hfirst.no_quote, hsecond.no_quote]
  · simp [hfirst.no_backslash, hsecond.no_backslash]
  · simp [hfirst.no_dollar, hsecond.no_dollar]

theorem query_string_eq {url query : List Char} (hquery : '?' ∉ url) (hfragment : '#' ∉ url) :
    query_string (url ++ '?' :: query) = withoutFragment query := by
  have hbefore : ∀ char ∈ url, decide (char ≠ '?') = true := by
    intro char hchar
    refine decide_eq_true fun heq => hquery ?_
    rw [← heq]
    exact hchar
  have hstart : withoutFragment ('?' :: query) = '?' :: withoutFragment query := rfl
  rw [query_string, withoutFragment_append hfragment, hstart, List.dropWhile_append_of_pos hbefore]
  rfl

theorem lease_fields_plain : ∀ field ∈ lease_fields cfg environ event, PlainName field.1 := by
  have hplain : ∀ name ∈ ["token", "mac", "ip", "bound", "sector"], PlainName name := by
    intro name hname
    simp only [List.mem_cons, List.not_mem_nil, or_false] at hname
    obtain rfl | rfl | rfl | rfl | rfl := hname <;>
      exact ⟨by decide, by decide, ⟨by decide, by decide, by decide, by decide⟩⟩
  intro field hfield
  exact hplain field.1 (List.mem_map_of_mem hfield)

/-- A request with the configured token is authenticated. -/
theorem authenticated_of_token {str : StrMethods} {params : Parameters} {fields : List (String × String)}
    {token : String} (hconfigured : params.mac_onboarding_token = some token) (hne : token ≠ "")
    (hlookup : fields.lookup "token" = some token) : Authenticated str params (requestOf fields) := by
  intro response h
  have htruthy : truthy (some token) = true := by simpa [truthy] using hne
  have htoken : (requestOf fields).token = some token := hlookup
  rw [Request.admitted, hconfigured, htruthy, if_neg Bool.noConfusion, htoken, orElse, htruthy, if_pos rfl,
    if_neg (not_not.mpr rfl)] at h
  split at h
  · split at h
    · cases h
      decide
    · cases h
  · cases h
    decide

/-- The URL with the values filled in decodes to them exactly when they are transparent. -/
theorem lease_fields_decoded_iff (hquery : '?' ∉ (lease_url cfg).toList)
    (hfragment : '#' ∉ (lease_url cfg).toList) :
    (∀ field ∈ lease_fields cfg environ event, (parse_qsl (query_string
        (filled_in (lease_url cfg ++ "?token=" ++ lease_token cfg environ) (lease_sector cfg) event).toList)).lookup
          field.1 = some field.2) ↔ ∀ field ∈ lease_fields cfg environ event, Transparent field.2.toList := by
  have hnames : ((lease_fields cfg environ event).map Prod.fst).Nodup := by
    change ["token", "mac", "ip", "bound", "sector"].Nodup
    decide
  have hurl : (filled_in (lease_url cfg ++ "?token=" ++ lease_token cfg environ) (lease_sector cfg) event).toList =
      (lease_url cfg).toList ++ '?' :: joinFields (lease_fields cfg environ event) := by
    simp [filled_in, lease_fields, joinFields, String.toList_append]
  rw [hurl, query_string_eq hquery hfragment]
  exact joinFields_decoded_iff lease_fields_plain hnames

end

/-- For every configured token, sector code and lease event, the event arrives as it was
sent exactly when its values are transparent. The script puts them into the query as they
are, and the controller decodes them as a form. -/
theorem lease_event_arrives_iff (fetched_url : String → LeaseEvent → Option String) (hfills : FillsIn fetched_url)
    (cfg : Config) (environ : Environ) (script : String)
    (hscript : build_lease_script cfg environ = .ok (some script))
    (hplain : PlainWebhook cfg environ) (event : LeaseEvent) :
    (∃ url, fetched_url script event = some url ∧ Arrives cfg environ event url) ↔
      ∀ field ∈ lease_fields cfg environ event, Transparent field.2.toList := by
  obtain ⟨htoken, rfl⟩ := build_lease_script_eq hscript
  have hbefore := (hplain.url.append (by constructor <;> decide : PlainText "?token=")).append hplain.token
  rw [hfills _ _ event hbefore hplain.sector]
  have hdecoded := @lease_fields_decoded_iff cfg environ event hplain.no_query hplain.no_fragment
  constructor
  · rintro ⟨url, hurl, harrives⟩
    obtain rfl := Option.some.inj hurl
    exact hdecoded.mp harrives.decoded
  · intro htransparent
    refine ⟨_, rfl, hdecoded.mpr htransparent, fun str params hconfigured => ?_⟩
    have hlookup := hdecoded.mpr htransparent ("token", lease_token cfg environ) List.mem_cons_self
    exact authenticated_of_token hconfigured htoken hlookup

/-- The variables of a lease script, filled in. -/
def fillIn (event : LeaseEvent) : List Char → List Char
  | '$' :: 'm' :: 'a' :: 'c' :: rest => event.mac.toList ++ fillIn event rest
  | '$' :: 'i' :: 'p' :: rest => event.ip.toList ++ fillIn event rest
  | '$' :: 'b' :: 'o' :: 'u' :: 'n' :: 'd' :: rest => event.bound.toList ++ fillIn event rest
  | char :: rest => char :: fillIn event rest
  | [] => []

/-- The URL of a lease script on plain texts. -/
def plain_fetched_url (script : String) (event : LeaseEvent) : Option String :=
  let quoted := script.toList.drop lease_script_start.toList.length
  some (String.ofList (fillIn event (quoted.take (quoted.length - "\" keep-result=no".toList.length))))

theorem fillIn_append {text : List Char} (h : '$' ∉ text) (event : LeaseEvent) (rest : List Char) :
    fillIn event (text ++ rest) = text ++ fillIn event rest := by
  induction text with
  | nil => rfl
  | cons char text ih =>
    obtain ⟨hchar, htext⟩ := List.ne_and_not_mem_of_not_mem_cons h
    rw [List.cons_append, fillIn, ih htext, List.cons_append]
    all_goals exact fun _ h => absurd h.symm hchar

theorem plain_fetched_url_fillsIn : FillsIn plain_fetched_url := by
  intro before after event hbefore hafter
  have hscript : (lease_script before after).toList = lease_script_start.toList ++
      ((before.toList ++ "&mac=$mac&ip=$ip&bound=$bound&sector=".toList ++ after.toList) ++
        "\" keep-result=no".toList) := by
    simp only [lease_script, String.toList_append, List.append_assoc]
  have hvariables : fillIn event ("&mac=$mac&ip=$ip&bound=$bound&sector=".toList ++ after.toList) =
      "&mac=".toList ++ (event.mac.toList ++ ("&ip=".toList ++ (event.ip.toList ++ ("&bound=".toList ++
        (event.bound.toList ++ ("&sector=".toList ++ fillIn event after.toList)))))) := rfl
  have hafter_self : fillIn event after.toList = after.toList := by
    have happend := fillIn_append hafter.no_dollar event []
    rwa [List.append_nil, fillIn, List.append_nil] at happend
  rw [plain_fetched_url, hscript, List.drop_left, List.length_append, Nat.add_sub_cancel, List.take_left, List.append_assoc, fillIn_append hbefore.no_dollar,
    hvariables, hafter_self]
  simp only [filled_in, String.ofList_append, String.ofList_toList, String.append_assoc]

/-- A configuration with a given token. -/
def webhook_with (token : String) : Config where
  sector_code := "SEC-001"
  webhook := { enabled := true, token_value := token, url := "http://odoo:8069/isp/mac_onboarding" }

def boundLease : LeaseEvent := ⟨"02:00:00:00:00:01", "10.0.0.10", "1"⟩

theorem webhook_with_plain {token : String} (h : PlainText token) :
    PlainWebhook (webhook_with token) fun _ => none := by
  have hurl : lease_url (webhook_with token) = "http://odoo:8069/isp/mac_onboarding" := rfl
  have hsector : lease_sector (webhook_with token) = "SEC-001" := rfl
  constructor
  · rw [hurl]
    constructor <;> decide
  · rw [hurl]
    decide
  · rw [hurl]
    decide
  · exact h
  · rw [hsector]
    constructor <;> decide

/-- The script of a configuration with a given token. -/
def webhook_script (token : String) : String :=
  lease_script ("http://odoo:8069/isp/mac_onboarding" ++ "?token=" ++ token) "SEC-001"

theorem build_webhook_script {token : String} (h : token ≠ "") :
    build_lease_script (webhook_with token) (fun _ => none) = .ok (some (webhook_script token)) := by
  have htoken : token_of (fun _ => none) "" token = token := rfl
  have hempty : token.isEmpty = false := by simpa using h
  have hbuilt : ∃ script, build_lease_script (webhook_with token) (fun _ => none) = .ok (some script) := by
    simp [build_lease_script, webhook_with, htoken, hempty]
  obtain ⟨script, hscript⟩ := hbuilt
  rw [hscript, (build_lease_script_eq hscript).2]
  rfl

theorem lease_event_arrives_iff_secret :
    (∃ url, plain_fetched_url (webhook_script "secret") boundLease = some url ∧
        Arrives (webhook_with "secret") (fun _ => none) boundLease url) ↔
      ∀ field ∈ lease_fields (webhook_with "secret") (fun _ => none) boundLease, Transparent field.2.toList :=
  lease_event_arrives_iff plain_fetched_url plain_fetched_url_fillsIn (webhook_with "secret") (fun _ => none)
    (webhook_script "secret") (build_webhook_script (by decide)) (webhook_with_plain (by constructor <;> decide)) boundLease

/-- A token with a plus arrives with a blank, and the router is refused. -/
theorem plus_in_token_refused :
    build_lease_script (webhook_with "Zm9v+w") (fun _ => none) = .ok (some (webhook_script "Zm9v+w")) ∧
      ¬ ∃ url, plain_fetched_url (webhook_script "Zm9v+w") boundLease = some url ∧
        Arrives (webhook_with "Zm9v+w") (fun _ => none) boundLease url := by
  refine ⟨build_webhook_script (by decide), fun ⟨url, hurl, harrives⟩ => ?_⟩
  have hplain := @webhook_with_plain "Zm9v+w" (by constructor <;> decide)
  have hbefore := (hplain.url.append (by constructor <;> decide : PlainText "?token=")).append hplain.token
  have hfilled := plain_fetched_url_fillsIn _ _ boundLease hbefore hplain.sector
  obtain rfl := Option.some.inj (hfilled.symm.trans hurl)
  have hall := (lease_fields_decoded_iff hplain.no_query hplain.no_fragment).mp harrives.decoded
  exact (hall ("token", "Zm9v+w") List.mem_cons_self).no_plus (by decide)

end getupnet.mikrotik_preloader

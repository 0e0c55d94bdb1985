import Getupnet.Python.Updates
import Getupnet.Tools.Preloader
import Getupnet.Tools.Preloader.Merge

open python relational

namespace getupnet.mikrotik_preloader.untyped

/-- What `main` catches: an error of the language, a `RuntimeError`, and what a library
raises, by its text. -/
inductive Failure where
  | raised (exception : Raised)
  | runtime_error (message : String)
  | other (text : String)

def raises {α : Type} : Except Raised α → Except Failure α
  | .ok value => .ok value
  | .error exception => .error (.raised exception)

theorem raises_eq_ok_iff {α : Type} {result : Except Raised α} {value : α} :
    raises result = .ok value ↔ result = .ok value := by
  cases result <;> simp [raises]

/-- What a call brings back: a dictionary has each of its keys once. -/
abbrev Payload : Type := {value : Value // value.UniqueKeys}

/-- The two endpoints of the Odoo server. An exception stands for its text. -/
structure Odoo where
  authenticate : (url db user : Value) → (password : String) → Except String Value
  execute_kw : (url db uid : Value) → (password model method : String) → List Value → Except String Payload

/-- `os.environ.get(name, default)` -/
def environ_get (environ : Environ) (name default : Value) : Except Failure Value :=
  match name with
  | .str name => .ok ((environ name).elim default .str)
  | _ => .error (.raised .type_error)

def get_env_or_fail (environ : Environ) (name : Value) : Except Failure String := do
  if !name.truthy then
    throw (.runtime_error "Missing required env var name")
  match name with
  | .str name =>
    match environ name with
    | some value => if value.isEmpty then throw (.runtime_error ("Missing required env var: " ++ name)) else return value
    | none => throw (.runtime_error ("Missing required env var: " ++ name))
  | _ => throw (.raised .type_error)

def odoo_fetch_preconfig (odoo : Odoo) (environ : Environ) (cfg : Dict) : Except Failure Payload := do
  let odoo_cfg := (cfg.lookup "odoo").getD (.dict [])
  let fetch_preconfig ← raises (odoo_cfg.get "fetch_preconfig" .none)
  if !fetch_preconfig.truthy then
    return ⟨.none, trivial⟩
  let odoo_url ← raises (odoo_cfg.item "url")
  let db ← raises (odoo_cfg.item "db")
  let user ← raises (odoo_cfg.item "user")
  let pass_env ← raises (odoo_cfg.item "pass_env")
  let pwd ← get_env_or_fail environ pass_env
  let sector_code := (cfg.lookup "sector_code").getD .none
  match odoo.authenticate odoo_url db user pwd with
  | .error text => throw (.other text)
  | .ok uid =>
    if !uid.truthy then
      throw (.runtime_error "Odoo authentication failed.")
    match odoo.execute_kw odoo_url db uid pwd "isp.mikrotik.preconfig" "get_preconfig_for_sector" [sector_code] with
    | .error exc => throw (.runtime_error ("Failed to fetch preconfig from Odoo: " ++ exc))
    | .ok preconfig => return preconfig

/-- `cfg[key] = value` -/
def assign (key : String) (value : Value) : Method Dict Raised Unit := modify (Dict.set key value)

/-- `cfg.setdefault(key, {})`, and then `_merge_dict(cfg[key], src)`. -/
def merge_section (key : String) (src : Value) : Method Dict Raised Unit := do
  let cfg ← get
  let node := (cfg.lookup key).getD (.dict [])
  set (Dict.set key node cfg)
  let entries ← Method.ofExcept src.itemsOrEmpty
  let merged := merge_dict entries node
  set (Dict.set key merged.2 cfg)
  Method.ofExcept merged.1

/-- `cfg[key][item] = value` -/
def assign_item (key item : String) (value : Value) : Method Dict Raised Unit := do
  match (← get).lookup key with
  | some (.dict fields) => modify (Dict.set key (.dict (Dict.set item value fields)))
  | some _ => throw .type_error
  | none => throw (.key_error key)

/-- The section of the router, whose `config` is taken over as it is. -/
def merge_routeros (routeros : Value) : Method Dict Raised Unit := do
  merge_section "routeros" routeros
  match routeros with
  | .dict entries =>
    match entries.lookup "config" with
    | some config => assign_item "routeros" "config" config
    | none => pure ()
  | _ => pure ()

def merge_preconfig (preconfig : Value) : Method Dict Raised Unit := do
  if preconfig.truthy then
    let mgmt_subnet ← Method.ofExcept (preconfig.get "mgmt_subnet" .none)
    Method.when mgmt_subnet.truthy (assign "mgmt_subnet" mgmt_subnet)
    let target_mac ← Method.ofExcept (preconfig.get "target_mac" .none)
    Method.when (!target_mac.isNone) (assign "target_mac" target_mac)
    let bootstrap ← Method.ofExcept (preconfig.get "bootstrap" .none)
    Method.when (!bootstrap.isNone) (merge_section "bootstrap" bootstrap)
    let routeros ← Method.ofExcept (preconfig.get "routeros" .none)
    let routeros := routeros.orElse (.dict [])
    Method.when routeros.truthy (merge_routeros routeros)
    let call_home ← Method.ofExcept (preconfig.get "call_home" .none)
    Method.when (!call_home.isNone) (merge_section "call_home" call_home)
    let webhook ← Method.ofExcept (preconfig.get "webhook" .none)
    Method.when (!webhook.isNone) (merge_section "webhook" webhook)
    let naming ← Method.ofExcept (preconfig.get "naming" .none)
    Method.when (!naming.isNone) (merge_section "naming" naming)

/-- `cfg["routeros"]["api_port"]` -/
def api_port_of (cfg : Dict) : Except Raised Value := do
  let routeros ← (Value.dict cfg).item "routeros"
  routeros.item "api_port"

/-- `list(value)`, where the value is a list, a text or a dictionary. -/
def list_of : Value → Except Raised (List Value)
  | .list items => .ok items
  | .str text => .ok (text.toList.map fun char => .str (String.ofList [char]))
  | .dict entries => .ok (entries.map fun entry => .str entry.1)
  | _ => .error .type_error

/-- The password of the first connection. -/
def boot_pass_of (environ : Environ) (bootstrap_cfg : Value) : Except Failure Value := do
  let boot_pass ← raises (bootstrap_cfg.get "pass" .none)
  let boot_pass := boot_pass.orElse (.str "")
  let pass_env ← raises (bootstrap_cfg.get "pass_env" .none)
  if !boot_pass.truthy && pass_env.truthy then environ_get environ pass_env boot_pass else return boot_pass

def mgmt_pass_of (environ : Environ) (routeros : Value) : Except Failure Value := do
  let mgmt_pass ← raises (routeros.get "mgmt_pass_value" .none)
  if mgmt_pass.truthy then
    return mgmt_pass
  else
    let mgmt_pass_env ← raises (routeros.get "mgmt_pass_env" .none)
    return .str (← get_env_or_fail environ mgmt_pass_env)

def allowed_ips_of (environ : Environ) (routeros : Value) : Except Failure (List Value) := do
  let allowed_mgmt_ips ← raises (routeros.get "allowed_mgmt_ips" (.list []))
  let allowed_ips ← raises (list_of allowed_mgmt_ips)
  let allowed_env ← raises (routeros.get "allowed_mgmt_ips_env" .none)
  if allowed_env.truthy then
    match ← environ_get environ allowed_env (.str "") with
    | .str extra_raw =>
      return allowed_ips ++ (((split ',' extra_raw).map strip).filter fun ip => !ip.isEmpty).map .str
    | _ => return allowed_ips
  else
    return allowed_ips

/-- What `routeros_onboard` has read when it connects to the router: the arguments of
`connect` and the values for the steps after it. -/
structure Connection where
  host : String
  username : Value
  password : Value
  port : Value
  mgmt_user : Value
  mgmt_pass : Value
  allowed_ips : List Value

/-- `routeros_onboard`, up to its connection to the router. -/
def routeros_onboard_connect (environ : Environ) (ip : String) (cfg : Dict) : Except Failure Connection := do
  let api_port ← raises (api_port_of cfg)
  let bootstrap_cfg := (cfg.lookup "bootstrap").getD (.dict [])
  let boot_user ← raises (bootstrap_cfg.get "user" .none)
  let boot_pass ← boot_pass_of environ bootstrap_cfg
  let routeros ← raises ((Value.dict cfg).item "routeros")
  let mgmt_user ← raises (routeros.item "mgmt_user")
  let mgmt_pass ← mgmt_pass_of environ routeros
  let allowed_ips ← allowed_ips_of environ routeros
  return ⟨ip, boot_user.orElse (.str "admin"), boot_pass, api_port, mgmt_user, mgmt_pass, allowed_ips⟩

/-- What `main` does once the configuration is there: it scans a subnet for a port, and
onboards what answers. -/
inductive Event where
  | scan (subnet port : Value)
  | onboard (ip : String) (cfg : Dict)

/-- The addresses of a subnet that answer at a port. A subnet that is none raises. -/
abbrev Scan : Type := (subnet port : Value) → Except Failure (List String)

/-- The body of the `try` statement of `main`. -/
def fetch_and_merge (odoo : Odoo) (environ : Environ) : Method Dict Failure Unit := do
  let cfg ← get
  let preconfig ← Method.ofExcept (odoo_fetch_preconfig odoo environ cfg)
  if preconfig.1.truthy then
    let merged := (merge_preconfig preconfig.1).exec cfg
    set merged.2
    Method.ofExcept (raises merged.1)

/-- The rest of `main`, which ends at the first of these that raises. What an onboarding
raises is caught. -/
def scan_and_onboard (scan_subnet_for_api : Scan) (cfg : Dict) (api_port : Value) : List Event :=
  match (Value.dict cfg).item "mgmt_subnet" with
  | .error _ => []
  | .ok mgmt_subnet =>
    .scan mgmt_subnet api_port ::
      match scan_subnet_for_api mgmt_subnet api_port with
      | .error _ => []
      | .ok candidates =>
        match ((cfg.lookup "odoo").getD (.dict [])).get "register_device" (.bool true) with
        | .error _ => []
        | .ok _ => candidates.map fun ip => .onboard ip cfg

/-- What `main` does with a configuration file. -/
def main (odoo : Odoo) (environ : Environ) (scan_subnet_for_api : Scan) : Value → List Event
  | .dict cfg =>
    match api_port_of cfg with
    | .error _ => []
    | .ok api_port => scan_and_onboard scan_subnet_for_api ((fetch_and_merge odoo environ).exec cfg).2 api_port
  | _ => []

end getupnet.mikrotik_preloader.untyped

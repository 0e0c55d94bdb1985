import Getupnet.Interaction.Program
import Getupnet.Relational.Listing

open interaction relational

namespace getupnet.mikrotik_preloader

/-- The fields of a router entry, by name. -/
abbrev Fields : Type := String → Option String

/-- The words of a command, as the fields they set. -/
def Fields.of (words : List (String × String)) : Fields := fun name => words.lookup name

/-- A field unmentioned by the words stays as it is. -/
def Fields.overwrite (words : List (String × String)) (fields : Fields) : Fields :=
  fun name => (words.lookup name).or (fields name)

def Fields.is (name value : String) (fields : Fields) : Bool := fields name == some value

/-- The menus with entries. -/
inductive Path where
  | user | user_group | service
  | interface | interface_ethernet | interface_list | interface_list_member
  | bridge | bridge_port
  | address | pool | dhcp_server | dhcp_network | dhcp_client
  | filter | nat
  | hotspot_profile | hotspot | walled_garden
  | script | scheduler
  deriving DecidableEq

/-- The menus with one set of values. -/
inductive Menu where
  | identity | discovery_settings | mac_server | mac_winbox | dns
  deriving DecidableEq

/-- A router as the tables its menus show. -/
@[ext]
structure Router where
  tables : Path → Listing Fields
  settings : Menu → Fields

/-- A router with no entries at all. -/
def Router.blank : Router := ⟨fun _ => .empty, fun _ _ => none⟩

/-- A change of one table. -/
def Router.alter (path : Path) (change : Listing Fields → Listing Fields) (self : Router) : Router :=
  { self with tables := fun other => if other = path then change (self.tables path) else self.tables other }

/-- New values for one menu. -/
def Router.assign (menu : Menu) (words : List (String × String)) (self : Router) : Router :=
  { self with settings := fun other =>
      if other = menu then Fields.overwrite words (self.settings menu) else self.settings other }

@[simp] theorem Router.alter_tables_self (path : Path) (change : Listing Fields → Listing Fields) (self : Router) :
    (self.alter path change).tables path = change (self.tables path) := if_pos rfl

theorem Router.alter_tables_of_ne {path other : Path} (h : other ≠ path)
    (change : Listing Fields → Listing Fields) (self : Router) :
    (self.alter path change).tables other = self.tables other := if_neg h

@[simp] theorem Router.alter_settings (path : Path) (change : Listing Fields → Listing Fields) (self : Router) :
    (self.alter path change).settings = self.settings := rfl

@[simp] theorem Router.assign_tables (menu : Menu) (words : List (String × String)) (self : Router) :
    (self.assign menu words).tables = self.tables := rfl

@[simp] theorem Router.assign_settings_self (menu : Menu) (words : List (String × String)) (self : Router) :
    (self.assign menu words).settings menu = Fields.overwrite words (self.settings menu) := if_pos rfl

theorem Router.assign_settings_of_ne {menu other : Menu} (h : other ≠ menu) (words : List (String × String))
    (self : Router) : (self.assign menu words).settings other = self.settings other := if_neg h

/-- A change of a table has nothing to do where it leaves the table as it is. -/
theorem Router.alter_eq_self_iff (path : Path) (change : Listing Fields → Listing Fields) (self : Router) :
    self.alter path change = self ↔ change (self.tables path) = self.tables path := by
  constructor
  · intro h
    rw [← self.alter_tables_self path change, h]
  · intro h
    apply Router.ext
    · funext other
      by_cases hsame : other = path
      · rw [hsame, Router.alter_tables_self, h]
      · exact Router.alter_tables_of_ne hsame change self
    · rfl

theorem Router.assign_eq_self_iff (menu : Menu) (words : List (String × String)) (self : Router) :
    self.assign menu words = self ↔ Fields.overwrite words (self.settings menu) = self.settings menu := by
  constructor
  · intro h
    rw [← self.assign_settings_self menu words, h]
  · intro h
    apply Router.ext
    · rfl
    · funext other
      by_cases hsame : other = menu
      · rw [hsame, Router.assign_settings_self, h]
      · exact Router.assign_settings_of_ne hsame words self

/-- How a command names the entry it is about. -/
inductive Numbers where
  | id (value : Nat)
  | name (value : String)

/-- The commands the preloader sends. `move` has destination `0`. -/
inductive Command where
  | connect (username password : String)
  | print (path : Path)
  | print_where (path : Path) (field value : String)
  | add (path : Path) (words : List (String × String))
  | set (path : Path) (numbers : Numbers) (words : List (String × String))
  | move (path : Path) (numbers : Nat)
  | assign (menu : Menu) (words : List (String × String))
  | run (name : String)

/-- The causes of a `LibRouterosError`. -/
inductive Fault where
  | unknown_parameter | no_such_item | already_exists | connection_lost

inductive Exception where
  | librouteros (fault : Fault)
  | runtime (message : String)

/-- The entries a command returns, with their `.id`. -/
abbrev Response : Type := List (Nat × Fields)

abbrev Session (α : Type) : Type := Program Command Response Exception α

/-- An entry is added last. A new bridge is also an interface of that name. -/
def Router.add (path : Path) (words : List (String × String)) (self : Router) : Router :=
  if path = .bridge then
    (self.alter .bridge (fun table => table.add (Fields.of words))).alter .interface
      (fun table => table.add (Fields.of [("name", (words.lookup "name").getD "")]))
  else
    self.alter path (fun table => table.add (Fields.of words))

/-- The identifier that a command's `numbers` stands for. -/
def Router.resolve (path : Path) (self : Router) : Numbers → Option Nat
  | .id value => if (self.tables path).entries.any (fun entry => entry.1 == value) then some value else none
  | .name value => ((self.tables path).first (Fields.is "name" value)).map Prod.fst

/-- What a router does with a command. User names are unique. -/
def perform (router : Router) : Command → Except Exception Response × Router
  | .connect _ _ => (.ok [], router)
  | .print path => (.ok (router.tables path).entries, router)
  | .print_where path field value =>
    (.ok ((router.tables path).entries.filter (fun entry => Fields.is field value entry.2)), router)
  | .add path words =>
    if path = .user ∧ (router.tables .user).has (Fields.is "name" ((words.lookup "name").getD "")) = true then
      (.error (.librouteros .already_exists), router)
    else
      (.ok [], router.add path words)
  | .set path numbers words =>
    match router.resolve path numbers with
    | some id => (.ok [], router.alter path (fun table => table.set id (Fields.overwrite words)))
    | none => (.error (.librouteros .no_such_item), router)
  | .move path numbers => (.ok [], router.alter path (fun table => table.move_to_front numbers))
  | .assign menu words => (.ok [], router.assign menu words)
  | .run name =>
    if (router.tables .script).has (Fields.is "name" name) then (.ok [], router)
    else (.error (.librouteros .no_such_item), router)

/-- The router behind a connection that may be lost. -/
def mikrotik : Device Command Response Exception Router where
  perform := perform
  lost := .librouteros .connection_lost

@[simp] theorem Fields.of_nil (name : String) : Fields.of [] name = none := rfl

@[simp] theorem Fields.of_cons (key value : String) (words : List (String × String)) (name : String) :
    Fields.of ((key, value) :: words) name = if name = key then some value else Fields.of words name := by
  rw [Fields.of, List.lookup_cons]
  by_cases hname : name = key
  · rw [hname, beq_self_eq_true, if_pos rfl]
  · rw [if_neg hname, beq_eq_false_iff_ne.mpr hname]
    rfl

theorem Fields.overwrite_overwrite (words : List (String × String)) (fields : Fields) :
    Fields.overwrite words (Fields.overwrite words fields) = Fields.overwrite words fields := by
  funext name
  simp only [Fields.overwrite]
  cases words.lookup name <;> rfl

/-- Words set over an entry made of them change nothing. -/
theorem Fields.overwrite_of {words : List (String × String)} {field : String} (h : words.lookup field = none)
    (value : String) : Fields.overwrite words (Fields.of ((field, value) :: words)) =
      Fields.of ((field, value) :: words) := by
  funext name
  rw [Fields.overwrite, Fields.of_cons]
  split
  · rename_i hname
    rw [hname, h]
    rfl
  · rw [Fields.of]
    cases words.lookup name <;> rfl

/-- Words about other fields do not change whether an entry is found by one. -/
theorem Fields.is_overwrite {name : String} {words : List (String × String)} (h : words.lookup name = none)
    (value : String) (fields : Fields) :
    Fields.is name value (Fields.overwrite words fields) = Fields.is name value fields := by
  rw [Fields.is, Fields.overwrite, h]
  rfl

/-- Words about different fields may be set in any order. -/
theorem Fields.overwrite_comm {first second : List (String × String)}
    (h : ∀ name, first.lookup name = none ∨ second.lookup name = none) (fields : Fields) :
    Fields.overwrite first (Fields.overwrite second fields) =
      Fields.overwrite second (Fields.overwrite first fields) := by
  funext name
  simp only [Fields.overwrite]
  cases h name with
  | inl hnone => rw [hnone]; rfl
  | inr hnone => rw [hnone]; rfl

end getupnet.mikrotik_preloader

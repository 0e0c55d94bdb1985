import Getupnet.Interaction.Trace
import Getupnet.Tools.Preloader.Configuration

open interaction relational

namespace getupnet.mikrotik_preloader

/-- The menus that tell which interface carries an address, and which is in a bridge. -/
def Path.lan : Path → Bool
  | .interface | .bridge | .bridge_port | .address => true
  | _ => false

/-- Commands that change none of these menus. -/
def Command.Elsewhere : Command → Prop
  | .add path _ => path.lan = false
  | .set path _ _ => path.lan = false
  | .move path _ => path.lan = false
  | _ => True

/-- Commands that change these menus only as the sector configuration does: it adds its
bridge and its address. -/
def Command.OfSector (rcfg : SectorConfig) : Command → Prop
  | .add .bridge words => words = [("name", rcfg.lan_bridge)]
  | .add .address words => words = [("address", rcfg.lan_address), ("interface", rcfg.lan_bridge)]
  | command => command.Elsewhere

/-- The sector configuration adds ports to its bridge as well. -/
def Command.OfLan (rcfg : SectorConfig) (command : Command) : Prop :=
  command.OfSector rcfg ∨ ∃ words, command = .add .bridge_port words

/-- A command elsewhere leaves the menus of the LAN as they are. -/
theorem Command.Elsewhere.perform_tables {command : Command} (h : command.Elsewhere) (router : Router)
    {path : Path} (hpath : path.lan = true) : (perform router command).2.tables path = router.tables path := by
  have hne : ∀ other : Path, other.lan = false → path ≠ other := by
    rintro other hother rfl
    exact absurd (hpath.symm.trans hother) (by decide)
  cases command with
  | add other words =>
    rw [perform]
    split
    · rfl
    · rw [Router.add]
      split
      · rename_i hbridge
        rw [Command.Elsewhere, hbridge] at h
        cases h
      · exact Router.alter_tables_of_ne (hne other h) (fun table => table.add (Fields.of words)) router
  | set other numbers words =>
    rw [perform]
    cases router.resolve other numbers with
    | none => rfl
    | some id =>
      exact Router.alter_tables_of_ne (hne other h) (fun table => table.set id (Fields.overwrite words)) router
  | move other numbers =>
    exact Router.alter_tables_of_ne (hne other h) (fun table => table.move_to_front numbers) router
  | run name =>
    rw [perform]
    split <;> rfl
  | connect | print | print_where | assign => rfl

/-- What a run with this sector configuration may have changed in the menus of the LAN. -/
structure Router.Grows (rcfg : SectorConfig) (before after : Router) : Prop where
  interface : (before.tables .interface).Extends (fun fields => fields = Fields.of [("name", rcfg.lan_bridge)])
    (after.tables .interface)
  address : (before.tables .address).Extends
    (fun fields => fields = Fields.of [("address", rcfg.lan_address), ("interface", rcfg.lan_bridge)])
    (after.tables .address)
  bridge_port : (before.tables .bridge_port).Extends (fun _ => True) (after.tables .bridge_port)

section

variable {rcfg : SectorConfig} {before after router : Router}

theorem Router.Grows.refl (rcfg : SectorConfig) (router : Router) : Router.Grows rcfg router router :=
  ⟨.refl _, .refl _, .refl _⟩

/-- The menus of the LAN are all that counts. -/
theorem Router.Grows.congr (h : Router.Grows rcfg before router)
    (htables : ∀ path : Path, path.lan = true → after.tables path = router.tables path) :
    Router.Grows rcfg before after := by
  constructor
  · rw [htables .interface rfl]
    exact h.interface
  · rw [htables .address rfl]
    exact h.address
  · rw [htables .bridge_port rfl]
    exact h.bridge_port

theorem perform_add {path : Path} (hpath : path ≠ .user) (words : List (String × String)) (router : Router) :
    perform router (.add path words) = (.ok [], router.add path words) := by
  rw [perform, if_neg fun h => hpath h.1]

/-- What one command of the sector configuration does to the menus of the LAN. -/
theorem Router.Grows.perform {command : Command} (h : Router.Grows rcfg before router)
    (hcommand : command.OfLan rcfg) :
    Router.Grows rcfg before (mikrotik_preloader.perform router command).2 := by
  obtain hsector | ⟨words, rfl⟩ := hcommand
  swap
  · rw [perform_add (by decide), Router.add, if_neg (by decide)]
    refine ⟨h.interface, h.address, ?_⟩
    rw [Router.alter_tables_self]
    exact h.bridge_port.add trivial
  unfold Command.OfSector at hsector
  split at hsector
  · -- the bridge is an interface as well
    rw [perform_add (by decide), Router.add, if_pos rfl, hsector]
    refine ⟨?_, h.address, h.bridge_port⟩
    rw [Router.alter_tables_self, Router.alter_tables_of_ne (by decide)]
    exact h.interface.add rfl
  · rw [perform_add (by decide), Router.add, if_neg (by decide), hsector]
    refine ⟨h.interface, ?_, h.bridge_port⟩
    rw [Router.alter_tables_self]
    exact h.address.add rfl
  · exact h.congr fun path hpath => hsector.perform_tables router hpath

end

section

variable {accepts : Command → Prop} {path : Path} {field value interface : String} {words : List (String × String)}

theorem api_exec_only {command : Command} (h : accepts command) : (api_exec command).Only accepts :=
  Program.Only.command h

theorem routeros_find_only (hwhere : accepts (.print_where path field value)) (hprint : accepts (.print path)) :
    (routeros_find path field value).Only accepts := by
  refine (api_exec_only hwhere).attempt fun exception => ?_
  cases exception with
  | runtime => trivial
  | librouteros fault =>
    cases fault with
    | unknown_parameter => exact (api_exec_only hprint).bind fun _ => trivial
    | no_such_item | already_exists | connection_lost => trivial

theorem routeros_ensure_only (hwhere : accepts (.print_where path field value)) (hprint : accepts (.print path))
    (hadd : accepts (.add path words)) : (routeros_ensure path field value words).Only accepts := by
  refine (routeros_find_only hwhere hprint).bind fun existing => ?_
  split
  · exact (api_exec_only hadd).bind fun _ => trivial
  · trivial

end

section

variable {path : Path} {field value name interface : String} {words : List (String × String)}

end

section

variable {cfg : Config} {rcfg : SectorConfig}

end

end getupnet.mikrotik_preloader

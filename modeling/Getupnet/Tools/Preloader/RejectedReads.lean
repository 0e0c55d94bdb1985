import Getupnet.Tools.Preloader.LanTables

open interaction relational

namespace getupnet.mikrotik_preloader

/-- Commands that only read what a menu shows. -/
def Command.reads : Command → Bool
  | .print _ => true
  | .print_where _ _ _ => true
  | _ => false

/-- A router, after so many commands, that may reject the read that comes next. -/
def rejecting (rejected : Nat → Command → Option Fault) (state : Router × Nat) (command : Command) :
    Except Exception Response × (Router × Nat) :=
  match command.reads, rejected state.2 command with
  | true, some fault => (.error (.librouteros fault), (state.1, state.2 + 1))
  | _, _ => ((perform state.1 command).1, ((perform state.1 command).2, state.2 + 1))

section

variable {rejected : Nat → Command → Option Fault} {state after : Router × Nat} {before : Router}
  {rcfg : SectorConfig}

variable {ip : String} {cfg : Config} {environ : Environ}

end

section

variable {rejected : Nat → Command → Option Fault} {path : Path} {field value : String}
  {words : List (String × String)}

end

end getupnet.mikrotik_preloader

import Mathlib.Data.List.Basic

namespace getupnet.isp_core

/-- A user as the record rules see it: the sectors of the user, and whether the
user is in none of the groups that the rules are for, as the superuser is. -/
structure ResUsers where
  isp_sector_ids : List Nat
  unrestricted : Bool := false
  deriving DecidableEq

def ResUsers.superuser : ResUsers where
  isp_sector_ids := []
  unrestricted := true

/-- The domain `("sector_id", "in", user.isp_sector_ids.ids)`, which no unset
sector satisfies. -/
def ResUsers.sees (self : ResUsers) (sector_id : Option Nat) : Bool :=
  self.unrestricted || sector_id.any fun sector => decide (sector ∈ self.isp_sector_ids)

@[simp] theorem ResUsers.superuser_sees (sector_id : Option Nat) : ResUsers.superuser.sees sector_id = true := rfl

end getupnet.isp_core

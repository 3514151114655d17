import ShowUp.Shared.Runs

/-!
# The last write to a cell

Every input of a run writes to a cell or leaves it as it is. At the end the cell
holds what the last input to write has put there.
-/

namespace ShowUp.LastWrite

set_option autoImplicit false

open Runs

universe u v
variable {β : Type u} {ι : Type v} (effect : ι → Option β)

/-- The cell after one more input. -/
def write (held : β) (i : ι) : β := (effect i).getD held

variable {effect}

theorem write_of_none {i : ι} (h : effect i = none) (held : β) : write effect held i = held := by
  rw [write, h, Option.getD_none]

end ShowUp.LastWrite

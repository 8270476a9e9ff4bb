import PatchTriage.Telemetry.Log

/-!
# Log contexts

Fields that hold for every record written inside a block. Blocks nest; inside, the fields of all
open blocks are merged.
-/

namespace PatchTriage.Log

/-- The contexts in force, innermost first; each is the merge of the fields of all blocks that
were open when it was entered. -/
abbrev Contexts := List Fields

namespace Contexts

/-- The context in force. -/
def current (c : Contexts) : Fields := c.head?.getD []

/-- Enters a block: its fields are merged into the context, the inner values winning. -/
def enter (c : Contexts) (fields : Fields) : Contexts := Table.putAll c.current fields :: c

/-- Leaves the innermost block. -/
def leave (c : Contexts) : Contexts := c.tail

end Contexts

/-- A log entry with the context in force when it was written. -/
structure Entry where
  record : Record
  context : Fields

end PatchTriage.Log

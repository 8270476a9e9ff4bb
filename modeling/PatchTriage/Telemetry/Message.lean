import PatchTriage.Telemetry.Log
import PatchTriage.Template.Fill

/-!
# Messages with arguments

A message may be a template, filled from arguments: in their order, or by the names in an object
if that is the only argument and is not empty. Without arguments the message stands as it is.
-/

namespace PatchTriage.Log

/-- What the arguments of a message are: a single object stands for its fields. -/
def argumentsValue : List Json → Template.Value
  | [.object (e :: fields)] => .json (.object (e :: fields))
  | args => .several args

/-- What a message is filled from. -/
def argumentsSupply (args : List Json) : Template.Supply :=
  match args with
  | [.object (e :: fields)] =>
    .byName (argumentsValue args) fun name => (Table.get? (e :: fields) name).map .json
  | args => .inOrder (args.map .json)

/-- A template with its arguments put in. -/
def Draft.filled (d : Draft) : Except Template.Misfit String :=
  if d.args.isEmpty then .ok d.template else Template.fill d.template (argumentsSupply d.args)

end PatchTriage.Log

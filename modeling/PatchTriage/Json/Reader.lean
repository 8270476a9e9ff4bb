import PatchTriage.Json.Token

/-!
# Reading JSON

The second pass over a JSON text: a fold over its tokens that keeps a stack of the containers that
are open and closes each into its parent. A name that occurs twice in an object keeps its first
place and its last value.
-/

namespace PatchTriage.Json

/-- A container that is open: the items so far, newest first, or the fields so far and the name
whose value is due. -/
inductive Frame where
  | items (done : List Json)
  | fields (done : Fields) (name : String)

/-- What the second pass waits for, with the containers that are open around it, innermost first. -/
inductive Reading where
  | value (outer : List Frame)
  | firstItem (outer : List Frame)
  | firstName (outer : List Frame)
  | name (done : Fields) (outer : List Frame)
  | colon (done : Fields) (name : String) (outer : List Frame)
  | next (frame : Frame) (last : Json) (outer : List Frame)
  | complete (v : Json)
  | failed

/-- Puts a finished value into the innermost open container. -/
def finish (v : Json) : List Frame → Reading
  | [] => .complete v
  | frame :: outer => .next frame v outer

/-- Starts a value at its first token. -/
def beginValue (outer : List Frame) : Token → Reading
  | .value v => finish v outer
  | .leftBracket => .firstItem outer
  | .leftBrace => .firstName outer
  | _ => .failed

/-- One step of the second pass. -/
def readStep : Reading → Token → Reading
  | .value outer, t => beginValue outer t
  | .firstItem outer, .rightBracket => finish (array []) outer
  | .firstItem outer, t => beginValue (.items [] :: outer) t
  | .firstName outer, .rightBrace => finish (object []) outer
  | .firstName outer, .value (text name) => .colon [] name outer
  | .name done outer, .value (text name) => .colon done name outer
  | .colon done name outer, .colon => .value (.fields done name :: outer)
  | .next (.items done) v outer, .comma => .value (.items (v :: done) :: outer)
  | .next (.items done) v outer, .rightBracket => finish (array (v :: done).reverse) outer
  | .next (.fields done name) v outer, .comma => .name (Table.put done name v) outer
  | .next (.fields done name) v outer, .rightBrace => finish (object (Table.put done name v)) outer
  | _, _ => .failed

/-- The value of a text, if the text is one JSON value. -/
def read? (l : List Char) : Option Json := do
  match (← tokens? l).foldl readStep (.value []) with
  | .complete v => some v
  | _ => none

end PatchTriage.Json

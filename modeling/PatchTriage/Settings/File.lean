import PatchTriage.Table
import PatchTriage.Text.Blank
import PatchTriage.Text.Lines
import PatchTriage.Text.Utf8

/-!
# Files of settings

A file of settings is a list of entries `NAME=VALUE`, each on a line of its own, perhaps behind the
word `export`. A value stands between quotes, where it may run over several lines and has escapes,
or it runs to a comment or to the end of the line. A name without an equals sign has no value. A
line that is no entry is skipped from where it stops being one.

In a value, a name in braces behind a dollar sign stands for the value of an earlier entry or else
of the environment. Of several entries under one name the last counts.
-/

namespace PatchTriage.SettingsFile

/-- An entry: a name and its value, if it has one. -/
abbrev Entry := String × Option String

/-- A part that was read and what follows it, or where the reading stopped. -/
abbrev Reading (α : Type) := Except (List Char) (α × List Char)

/-- Whether `c` is a blank inside a line. -/
def isLineBlank (c : Char) : Bool := c != '\n' && Text.isBlank c

/-- Drops the word `export` in front of an entry. -/
def dropExport (line : List Char) : List Char :=
  match Text.after? line "export" with
  | some (c :: rest) => if isLineBlank c then rest.dropWhile isLineBlank else line
  | _ => line

/-! ### Names and values -/

/-- Whether a name without quotes may hold a character. -/
def isNameChar (c : Char) : Bool := c != '=' && c != '#' && !Text.isBlank c

/-- The name of an entry; there is none in front of a comment. -/
def name (l : List Char) : Reading (Option String) :=
  let named := fun (letters rest : List Char) =>
    if letters.isEmpty then .error l else .ok (some (String.ofList letters), rest)
  match l with
  | '#' :: _ => .ok (none, l)
  | '\'' :: rest =>
    match rest.dropWhile (· != '\'') with
    | _ :: after => named (rest.takeWhile (· != '\'')) after
    | [] => .error l
  | l => named (l.takeWhile isNameChar) (l.dropWhile isNameChar)

/-- Splits a text at the quote that closes it: the first one without a backslash before it, or else
the last one. -/
def closing? (mark : Char) : List Char → Option (List Char × List Char)
  | [] => none
  | '\\' :: c :: rest =>
    if c = mark then
      match closing? mark rest with
      | some (l, after) => some ('\\' :: c :: l, after)
      | none => some (['\\'], rest)
    else (closing? mark (c :: rest)).map fun (l, after) => ('\\' :: l, after)
  | c :: rest =>
    if c = mark then some ([], rest)
    else (closing? mark rest).map fun (l, after) => (c :: l, after)

/-- The character that a letter behind a backslash stands for between single quotes. -/
def singleEscape? (c : Char) : Option Char := if c = '\\' ∨ c = '\'' then some c else none

/-- The character that a letter behind a backslash stands for between double quotes. -/
def doubleEscape? (c : Char) : Option Char :=
  match c with
  | '\\' | '\'' | '"' => some c
  | 'a' => some '\x07'
  | 'b' => some '\x08'
  | 'f' => some '\x0c'
  | 'n' => some '\n'
  | 'r' => some '\r'
  | 't' => some '\t'
  | 'v' => some '\x0b'
  | _ => none

/-- Replaces escapes; a backslash in front of any other character stands for itself. -/
def unescaped (escape? : Char → Option Char) : List Char → List Char
  | '\\' :: c :: rest =>
    match escape? c with
    | some d => d :: unescaped escape? rest
    | none => '\\' :: unescaped escape? (c :: rest)
  | c :: rest => c :: unescaped escape? rest
  | [] => []

/-- Drops a comment: a number sign behind a blank, and what follows it. -/
def dropComment : List Char → List Char
  | [] => []
  | c :: rest => if isLineBlank c && rest.head? == some '#' then [] else c :: dropComment rest

/-- The value behind an equals sign. -/
def value (l : List Char) : Reading String :=
  let start := l.dropWhile isLineBlank
  let quoted := fun (mark : Char) (escape? : Char → Option Char) (inner : List Char) =>
    match closing? mark inner with
    | some (text, rest) => .ok (String.ofList (unescaped escape? text), rest)
    | none => .error start
  match start with
  | '\'' :: inner => quoted '\'' singleEscape? inner
  | '"' :: inner => quoted '"' doubleEscape? inner
  | _ =>
    let line := l.takeWhile (· != '\n')
    .ok (String.ofList (Text.trim (dropComment line)), l.dropWhile (· != '\n'))

/-! ### Entries -/

/-- What follows the line that ends here, perhaps with a comment. -/
def lineEnd (l : List Char) : Reading Unit :=
  let l := l.dropWhile isLineBlank
  match if l.head? == some '#' then l.dropWhile (· != '\n') else l with
  | [] => .ok ((), [])
  | '\n' :: rest => .ok ((), rest)
  | l => .error l

/-- An entry, if there is one and not only a comment. -/
def entry (l : List Char) : Except (List Char) (Option Entry × List Char) := do
  let (found, l) ← name (dropExport l)
  let l := l.dropWhile isLineBlank
  let (given, l) ←
    match l with
    | '=' :: l => (value l).map fun (v, l) => (some v, l)
    | l => .ok (none, l)
  let (_, l) ← lineEnd l
  return (found.map fun n => (n, given), l)

/-- The entries of a text in their order. -/
def readFrom (l : List Char) : List Entry :=
  match l.dropWhile Text.isBlank with
  | [] => []
  | start =>
    let (found, rest) :=
      match entry start with
      | .ok read => read
      | .error stop => (none, (stop.dropWhile (· != '\n')).drop 1)
    found.toList ++ if rest.length < l.length then readFrom rest else []
termination_by l.length

/-- The entries of a file; a mark of the byte order in front of them is no part of it. -/
def read (content : String) : List Entry :=
  match Text.uniformFeeds content.toList with
  | '\ufeff' :: l => readFrom l
  | l => readFrom l

/-! ### Values of other names -/

/-- A piece of a value. -/
inductive Piece where
  | char (c : Char)
  /-- The value of a name, and what stands for it if nothing has the name. -/
  | valueOf (name : String) (default : String)

/-- A name in braces, perhaps with a default, and what follows it. -/
def reference? (l : List Char) : Option (Piece × List Char) := do
  let l ← Text.after? l "$\x7b"
  let isEnd := fun c => c == '}' || c == ':'
  let name := String.ofList (l.takeWhile fun c => !isEnd c)
  match l.dropWhile fun c => !isEnd c with
  | '}' :: rest => some (.valueOf name "", rest)
  | ':' :: '-' :: rest =>
    match rest.dropWhile (· != '}') with
    | _ :: after => some (.valueOf name (String.ofList (rest.takeWhile (· != '}'))), after)
    | [] => none
  | _ => none

/-- The pieces of a value. -/
def pieces : List Char → List Piece
  | [] => []
  | c :: l =>
    match reference? (c :: l) with
    | some (p, rest) => p :: if rest.length < (c :: l).length then pieces rest else []
    | none => .char c :: pieces l
termination_by l => l.length
decreasing_by
  · assumption
  · exact Nat.lt_succ_self _

/-- The names that the values in a file refer to. -/
def references (content : String) : List String :=
  (read content).flatMap fun e =>
    (pieces (e.2.getD "").toList).filterMap fun
      | .valueOf name _ => some name
      | .char _ => none

/-- The text of a piece where names have these values; a name without a value is empty. -/
def Piece.text (known : Table String (Option String)) : Piece → List Char
  | char c => [c]
  | valueOf name default =>
    match Table.get? known name with
    | some v => (v.getD "").toList
    | none => default.toList

/-- The entries of a file in an environment. -/
def entries (environment : Table String String) (content : String) : Table String String :=
  let outer : Table String (Option String) := environment.map fun e => (e.1, some e.2)
  let inner : Table String (Option String) := (read content).foldl (fun earlier e =>
    let known := Table.putAll outer earlier
    let full := e.2.map fun v => String.ofList ((pieces v.toList).flatMap (Piece.text known))
    Table.put earlier e.1 full) []
  inner.filterMap fun e => e.2.map fun v => (e.1, v)

end PatchTriage.SettingsFile

import PatchTriage.Path
import PatchTriage.Text.Case
import PatchTriage.Text.Search

/-!
# Languages

The extension of a file name gives its language, in letters of either case. A path that speaks of
tests anywhere is a test path; a source path is one of a programming language that is no test
path.
-/

namespace PatchTriage

/-- The languages that are told apart. -/
inductive Language where
  | javascript
  | typescript
  | python
  | java
  | kotlin
  | go
  | json
  | yaml
  | toml
  | unknown
deriving DecidableEq, Repr

namespace Language

/-- The name of a language. -/
def name : Language → String
  | javascript => "javascript"
  | typescript => "typescript"
  | python => "python"
  | java => "java"
  | kotlin => "kotlin"
  | go => "go"
  | json => "json"
  | yaml => "yaml"
  | toml => "toml"
  | unknown => "unknown"

/-- The extensions of each language. -/
def extensions : Language → List String
  | javascript => ["js", "jsx", "mjs", "cjs"]
  | typescript => ["ts", "tsx"]
  | python => ["py"]
  | java => ["java"]
  | kotlin => ["kt", "kts"]
  | go => ["go"]
  | json => ["json"]
  | yaml => ["yml", "yaml"]
  | toml => ["toml"]
  | unknown => []

/-- The languages that have an extension. -/
def known : List Language := [javascript, typescript, python, java, kotlin, go, json, yaml, toml]

/-- The language of an extension in small letters. -/
def ofExtension (extension : String) : Language :=
  (known.find? fun language => language.extensions.contains extension).getD unknown

/-- The language of a file name; one without a dot has no extension. -/
def ofName (name : List Char) : Language :=
  if name.contains '.' then ofExtension (String.ofList (Text.lower (Path.afterLastDot name)))
  else unknown

/-- The language of the file at a path. -/
def ofPath (path : String) : Language := ofName (Path.name path.toList)

/-- Whether programs are written in the language. -/
def isProgramming : Language → Bool
  | javascript | typescript | python | java | kotlin | go => true
  | json | yaml | toml | unknown => false

end Language

/-- The words that mark a path of tests. -/
def testMarkers : List String := ["test", "spec", "__tests__"]

/-- Whether a path speaks of tests. -/
def isTestPath (path : String) : Bool := Text.anyOccurs testMarkers (Text.lower path.toList)

/-- Whether a path names source code that is no test. -/
def isSourcePath (path : String) : Bool := (Language.ofPath path).isProgramming && !isTestPath path

end PatchTriage

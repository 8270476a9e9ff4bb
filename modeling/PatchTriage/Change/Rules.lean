import PatchTriage.Change.Basic
import PatchTriage.Pattern.Basic

/-!
# Rules of classification

Categories of change with the patterns that speak for them, idioms that decide when no pattern
does, and the confidences that go with each kind of evidence.
-/

namespace PatchTriage

/-- A change type and the patterns that speak for it. -/
structure Category where
  changeType : ChangeType
  patterns : List Pattern

/-- Two words with anything between them on a line. -/
def Pattern.pairAnyCase (first second : String) : Pattern :=
  textAnyCase first ++ anything ++ textAnyCase second

/-- The standard categories; of two with equal scores the earlier one wins. -/
def standardCategories : List Category :=
  [{ changeType := .bugFix
     patterns :=
      [.textAnyCase "fix", .textAnyCase "bug", .textAnyCase "error", .pairAnyCase "handle" "null",
        .textAnyCase "boundary", .pairAnyCase "edge" "case", .textAnyCase "defensive",
        .textAnyCase "validate"] },
    { changeType := .feature
      patterns :=
        ["add", "new", "implement", "create", "feature", "support", "introduce"].map
          Pattern.textAnyCase },
    { changeType := .refactor
      patterns :=
        ["refactor", "rename", "restructure", "cleanup", "improve", "optimize", "performance"].map
          Pattern.textAnyCase },
    { changeType := .documentation
      patterns :=
        ["doc", "comment", "readme", "documentation", "typo"].map Pattern.textAnyCase },
    { changeType := .test
      patterns :=
        ["test", "spec", "assert", "jest", "mocha", "chai"].map Pattern.textAnyCase }]

/-- Texts that suggest a check of an input or a null. -/
def standardValidationIdioms : List String :=
  ["||", "validate", "check", "is None", "is not None"]

/-- Texts that suggest a new declaration. -/
def standardDeclarationIdioms : List String :=
  ["function ", "const ", "let ", "var ", "def ", "class "]

/-- The rules of a classifier. -/
structure ClassifierRules where
  /-- The categories in their order of precedence. -/
  categories : List Category := standardCategories
  validationIdioms : List String := standardValidationIdioms
  declarationIdioms : List String := standardDeclarationIdioms
  /-- The most that patterns alone can give. -/
  maxPatternConfidence : Binary64 := 0.9
  /-- What an idiom gives. -/
  fallbackConfidence : Binary64 := 0.4
  /-- What a change without any evidence gets. -/
  otherConfidence : Binary64 := 0.3
  /-- Whether languages with rules of their own apply them. -/
  languageStrategies : Bool := true
  /-- What the rules of a language add. -/
  languageBoost : Binary64 := 0.2
  /-- The most that they can raise a confidence to. -/
  languageCap : Binary64 := 0.95

end PatchTriage

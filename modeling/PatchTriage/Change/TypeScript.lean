import PatchTriage.Change.Rules
import PatchTriage.Language

/-!
# TypeScript

Signals of TypeScript code in the changed lines. They raise the confidence of a classification,
and a type that is given up turns a change that nothing else explains into a security fix.
-/

namespace PatchTriage

namespace ClassifierRules

/-- A confidence raised by the rules of a language. -/
def boosted (r : ClassifierRules) (confidence : Binary64) : Binary64 :=
  Binary64.min (confidence + r.languageBoost) r.languageCap

end ClassifierRules

namespace TypeScript

open Pattern

/-- One or more blanks. -/
def blanks : Pattern := plus blank

/-- Blanks, if there are any. -/
def gap : Pattern := star blank

/-- A run of word characters. -/
def name : Pattern := plus word

/-- One character as it stands. -/
def sign (c : Char) : Pattern := one (.exactly c)

/-- The declaration of an interface. -/
def interfacePattern : Pattern := wordBoundary ++ text "interface" ++ blanks ++ name

/-- The declaration of a type. -/
def aliasPattern : Pattern := wordBoundary ++ text "type" ++ blanks ++ name ++ gap ++ sign '='

/-- A type argument. -/
def genericPattern : Pattern := sign '<' ++ name ++ sign '>'

/-- A choice between two types. -/
def unionPattern : Pattern :=
  sign ':' ++ gap ++ name ++ opt (text "[]") ++ gap ++ sign '|' ++ gap ++ name

/-- A chain over values that may be absent. -/
def chainingPattern : Pattern := alt (text "?.") (text "??")

/-- The properties of a component. -/
def propsPattern : Pattern :=
  alt (text "React.FC<") (text "interface" ++ blanks ++ name ++ text "Props")

/-- A type that is given up. -/
def unsafeAnyPattern : Pattern :=
  alt (wordBoundary ++ text "as" ++ blanks ++ text "any" ++ wordBoundary)
    (alt (text "<any>") (sign ':' ++ gap ++ text "any" ++ wordBoundary))

/-- The signals by name. -/
def signals : Table String Pattern :=
  [("interfaces", interfacePattern), ("type_aliases", aliasPattern), ("generics", genericPattern),
    ("union_types", unionPattern), ("optional_chaining", chainingPattern),
    ("react_props", propsPattern), ("unsafe_any", unsafeAnyPattern)]

/-- Refines a classification by the rules for TypeScript. -/
def refine (r : ClassifierRules) (g : Classification) : Classification :=
  let tagged := { g with language := some Language.typescript.name }
  if g.changeType.isTerminal then tagged
  else
    let content := g.details.content.toList
    { tagged with
      changeType :=
        if g.changeType = .other ∧ unsafeAnyPattern.occursIn content then .securityFix
        else g.changeType
      confidence := r.boosted g.confidence
      signals := signals.map fun e => (e.1, .bool (e.2.occursIn content)) }

end TypeScript

end PatchTriage

import PatchTriage.Change.TypeScript

/-!
# Go

Rules for Go code in the changed lines, each with a change type and a confidence of its own. The
first rule that applies is weighed against the classification: where both agree the confidence is
raised, otherwise the more confident one wins, and a tie keeps the classification.
-/

namespace PatchTriage.Go

open Pattern
open TypeScript (blanks gap name sign)

/-- A rule for Go code. -/
structure Rule where
  name : String
  pattern : Pattern
  changeType : ChangeType
  confidence : Binary64
  /-- A further pattern that has to occur. -/
  required : Option Pattern := none

/-- The start of a call of a function in a goroutine. -/
def goroutinePattern : Pattern :=
  wordBoundary ++ text "go" ++ blanks ++ name ++ star (sign '.' ++ name) ++ gap ++ sign '('

/-- The declaration of a type by a keyword that opens a block. -/
def typePattern (keyword : String) : Pattern :=
  wordBoundary ++ text "type" ++ blanks ++ name ++ blanks ++ text keyword ++ gap ++ sign '\x7b'

/-- A function that answers requests. -/
def handlerPattern : Pattern :=
  text "func" ++ blanks ++ name ++ gap ++ sign '(' ++ name ++ blanks ++
    text "http.ResponseWriter," ++ gap ++ name ++ blanks ++ text "*http.Request)"

/-- A function with a receiver. -/
def methodPattern : Pattern :=
  text "func" ++ blanks ++ sign '(' ++ name ++ blanks ++ opt (sign '*') ++ name ++ sign ')' ++
    blanks ++ name ++ gap ++ sign '('

/-- A plain request. -/
def requestPattern : Pattern :=
  text "http." ++ alt (text "Get") (text "Post") ++ sign '('

/-- The rules in their order of precedence. -/
def rules : List Rule :=
  [{ name := "goroutines", pattern := goroutinePattern
     changeType := .performance, confidence := 0.7 },
    { name := "interfaces", pattern := typePattern "interface"
      changeType := .feature, confidence := 0.8 },
    { name := "http_handlers", pattern := handlerPattern
      changeType := .feature, confidence := 0.8 },
    { name := "methods", pattern := methodPattern
      changeType := .feature, confidence := 0.7 },
    { name := "structs", pattern := typePattern "struct"
      changeType := .feature, confidence := 0.7 },
    { name := "tls_upgrade", pattern := requestPattern
      changeType := .securityFix, confidence := 0.9
      required := some (alt (textAnyCase "https") (textAnyCase "tls")) },
    { name := "buffer_pooling", pattern := alt (text "sync.Pool") (text "bytes.NewBuffer(")
      changeType := .performance, confidence := 0.8 },
    { name := "context_usage", pattern := text "context.Context"
      changeType := .feature, confidence := 0.6 }]

/-- Whether a rule applies to a text. -/
def Rule.applies (rule : Rule) (content : List Char) : Bool :=
  rule.pattern.occursIn content && rule.required.all fun p => p.occursIn content

/-- The first rule that applies to a text. -/
def firstRule? (content : List Char) : Option Rule := rules.find? fun rule => rule.applies content

/-- Weighs a rule against a classification. -/
def weigh (r : ClassifierRules) (g : Classification) (rule : Rule) : Classification :=
  if rule.changeType = g.changeType then
    { g with confidence := r.boosted (Binary64.max g.confidence rule.confidence) }
  else if g.confidence < rule.confidence then
    { g with changeType := rule.changeType, confidence := rule.confidence }
  else g

/-- Refines a classification by the rules for Go, with the rule that decided. -/
def refine (r : ClassifierRules) (g : Classification) : Classification × Option Rule :=
  let tagged := { g with language := some Language.go.name }
  if g.changeType.isTerminal then (tagged, none)
  else
    let content := g.details.content.toList
    let tagged :=
      { tagged with signals := rules.map fun rule => (rule.name, .bool (rule.applies content)) }
    match firstRule? content with
    | some rule => (weigh r tagged rule, some rule)
    | none => (tagged, none)

end PatchTriage.Go

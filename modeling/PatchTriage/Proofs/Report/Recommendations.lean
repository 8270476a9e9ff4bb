import PatchTriage.Proofs.Table.Ranking
import PatchTriage.Report.Recommendation

/-!
# Recommendations by rule

When a rule asks for a recommendation, and for which one, is told apart from how the list of them is
made (`Recommendation.Asked`). The list is then known by three facts: it has what is asked for and
nothing else, each once, and it goes by urgency and within one urgency by the rules
(`Recommendation.all_asked`). For this every recommendation is read together with its rule: the list
of such pairs is strictly ordered, and the messages tell the rules apart.

A recommendation for a change type lists the paths of the files of that type. That a path is listed
does not say that no other file has it: a patch can change one path twice
(`Recommendation.all_repeated_path`).
-/

namespace PatchTriage

namespace Recommendation

/-- What a recommendation goes by: the files of a type, the risk, the number of files, or the paths
of the files. -/
inductive Rule where
  | type (type : ChangeType)
  | risk
  | count
  | paths
deriving DecidableEq, Repr

/-- The rules in their order. -/
def Rule.inOrder : List Rule := typesInOrder.map .type ++ [.risk, .count, .paths]

/-- The place of a rule in the order of the rules. -/
def Rule.place (rule : Rule) : Nat := Rule.inOrder.idxOf rule

variable {limit : Int} {files : List ClassifiedFile} {risk : Option RiskAssessment}
  {rule rule' : Rule} {type : ChangeType} {r r' : Recommendation} {p : Priority}

/-- Whether a rule asks for a recommendation on classified files with a risk. -/
inductive Asked (limit : Int) (files : List ClassifiedFile) (risk : Option RiskAssessment) :
    Rule → Recommendation → Prop
  /-- Some file is of the type. -/
  | type {type : ChangeType} {r : Recommendation} (htype : type ∈ typesInOrder)
      (hfile : ∃ f ∈ files, f.changeType = type)
      (h : forType type ((files.filter fun f => f.changeType = type).map (·.path)) = some r) :
      Asked limit files risk (.type type) r
  | highRisk {a : RiskAssessment} (h : risk = some a) (hlevel : a.level = .high) :
      Asked limit files risk .risk
        { kind := .warning, priority := .high, concern := .risk
          message := s!"High risk score ({a.score.percentText}). Requires thorough review." }
  | mediumRisk {a : RiskAssessment} (h : risk = some a) (hlevel : a.level = .medium) :
      Asked limit files risk .risk
        { kind := .info, priority := .medium, concern := .risk
          message := s!"Medium risk score ({a.score.percentText}). Standard review recommended." }
  | count (h : limit < files.length) :
      Asked limit files risk .count
        { kind := .info, priority := .low, concern := .process
          message := s!"Large diff detected (>{limit} files). Consider breaking into smaller PRs." }
  /-- Some path names source code, and none speaks of tests. -/
  | paths (hsource : ∃ f ∈ files, isSourcePath f.path)
      (htest : ∀ f ∈ files, ¬ isTestPath f.path) :
      Asked limit files risk .paths
        { kind := .review, priority := .medium, concern := .testing
          message := "Source code changed without test changes. Consider adding tests."
          files := (files.map (·.path)).filter isSourcePath }

/-- Whether one of two recommendations with their rules is more urgent, or as urgent and of an
earlier rule. -/
def Before (a b : Rule × Recommendation) : Prop :=
  a.2.priority.rank < b.2.priority.rank ∨
    a.2.priority = b.2.priority ∧ a.1.place < b.1.place

/-! ## One rule -/

/-- The recommendation that a rule asks for. -/
def ofRule (limit : Int) (files : List ClassifiedFile) (risk : Option RiskAssessment) :
    Rule → Option Recommendation
  | .type type => ofType files type
  | .risk => risk.bind ofRisk
  | .count => ofCount limit files.length
  | .paths => ofPaths (files.map (·.path))

/-- A recommendation for a type lists the files it is made for. -/
theorem files_of_forType {paths : List String} (h : forType type paths = some r) :
    r.files = paths := by
  cases type <;> cases h <;> rfl

/-- Just the types of the rules have a recommendation. -/
theorem mem_typesInOrder_of_forType {paths : List String} (h : forType type paths = some r) :
    type ∈ typesInOrder := by
  cases type <;> first | decide | cases h

/-- Each type of the rules has a recommendation, whatever the paths are. -/
theorem exists_forType (h : type ∈ typesInOrder) (paths : List String) :
    ∃ r, forType type paths = some r := by
  cases type <;> first | exact ⟨_, rfl⟩ | exact absurd h (by decide)

/-- The paths of the files of a type, in the order of the files. -/
def pathsOf (files : List ClassifiedFile) (type : ChangeType) : List String :=
  (files.filter fun f => f.changeType = type).map (·.path)

/-- There are paths for a type just if some file is of the type. -/
theorem pathsOf_ne_nil_iff : pathsOf files type ≠ [] ↔ ∃ f ∈ files, f.changeType = type := by
  simp [pathsOf]

/-- A path is listed for a type just if it is the path of a file of the type. -/
theorem mem_pathsOf_iff {path : String} :
    path ∈ pathsOf files type ↔ ∃ f ∈ files, f.changeType = type ∧ f.path = path := by
  simp [pathsOf, and_assoc]

/-- **Grouping finds the paths of the files of each type**, in the order of the files. -/
theorem get?_pathsByType (files : List ClassifiedFile) (type : ChangeType) :
    Table.get? (pathsByType files) type =
      if pathsOf files type = [] then none else some (pathsOf files type) := by
  have hunder : Table.valuesUnder (files.map fun f => (f.changeType, f.path)) type =
      pathsOf files type := by
    rw [Table.valuesUnder, List.filter_map, List.map_map]
    rfl
  rw [pathsByType, Table.get?_gather, hunder, Table.foldl_listed]

/-- A change type asks for a recommendation on the paths of its files, if there are any. -/
theorem ofType_eq_some_iff :
    ofType files type = some r ↔ Asked limit files risk (.type type) r := by
  rw [ofType, get?_pathsByType]
  constructor
  · intro h
    split at h
    · cases h
    · next hne =>
      exact .type (mem_typesInOrder_of_forType h) (pathsOf_ne_nil_iff.1 hne) h
  · rintro (⟨-, hfile, h⟩)
    rw [if_neg (pathsOf_ne_nil_iff.2 hfile)]
    exact h

/-- The risk asks for a recommendation just if it is high or medium. -/
theorem ofRisk_eq_some_iff : risk.bind ofRisk = some r ↔ Asked limit files risk .risk r := by
  constructor
  · intro h
    obtain ⟨a, ha, h⟩ := Option.bind_eq_some_iff.1 h
    rw [ofRisk] at h
    cases hlevel : a.level with
    | low => simp [hlevel] at h
    | medium =>
      rw [hlevel] at h
      obtain rfl := Option.some.inj h
      exact .mediumRisk ha hlevel
    | high =>
      rw [hlevel] at h
      obtain rfl := Option.some.inj h
      exact .highRisk ha hlevel
  · rintro (_ | ⟨ha, hlevel⟩ | ⟨ha, hlevel⟩) <;> rw [ha, Option.bind_some, ofRisk, hlevel]

/-- The number of files asks for one just if it is above the limit. -/
theorem ofCount_eq_some_iff :
    ofCount limit files.length = some r ↔ Asked limit files risk .count r := by
  rw [ofCount]
  constructor
  · intro h
    obtain ⟨hlimit, hr⟩ := Option.ite_none_right_eq_some.1 h
    obtain rfl := Option.some.inj hr
    exact .count hlimit
  · rintro (_ | _ | _ | hlimit)
    rw [if_pos hlimit]

/-- A recommendation for the paths is made just if one of them names source code and none of them
speaks of tests. -/
theorem ofPaths_eq (paths : List String) :
    ofPaths paths =
      if (∃ path ∈ paths, isSourcePath path) ∧ ∀ path ∈ paths, ¬ isTestPath path then some
        { kind := .review, priority := .medium, concern := .testing
          message := "Source code changed without test changes. Consider adding tests."
          files := paths.filter isSourcePath }
      else none := by
  rw [ofPaths]
  cases hsource : paths.filter isSourcePath with
  | nil =>
    have hnone : ¬ ∃ path ∈ paths, isSourcePath path := by
      simpa using List.filter_eq_nil_iff.1 hsource
    rw [if_neg fun h => hnone h.1]
  | cons path rest =>
    have hsome : ∃ path ∈ paths, isSourcePath path :=
      ⟨path, List.mem_filter.1 (hsource ▸ List.mem_cons_self)⟩
    by_cases htest : ∀ path ∈ paths, ¬ isTestPath path
    · rw [if_pos ⟨hsome, htest⟩]
      exact if_neg (mt List.any_eq_true.1 (by simpa using htest))
    · rw [if_neg fun h => htest h.2]
      exact if_pos (List.any_eq_true.2 (by simpa using htest))

/-- The paths of the files ask for one just if there is source code and no test. -/
theorem ofPaths_eq_some_iff :
    ofPaths (files.map (·.path)) = some r ↔ Asked limit files risk .paths r := by
  rw [ofPaths_eq]
  constructor
  · intro h
    obtain ⟨⟨hsource, htest⟩, hr⟩ := Option.ite_none_right_eq_some.1 h
    obtain rfl := Option.some.inj hr
    exact .paths (by simpa using hsource) (by simpa using htest)
  · rintro (_ | _ | _ | _ | ⟨hsource, htest⟩)
    rw [if_pos ⟨by simpa using hsource, by simpa using htest⟩]

/-- **A rule makes the recommendation that it asks for**, and none if it asks for none. -/
theorem ofRule_eq_some_iff : ofRule limit files risk rule = some r ↔
    Asked limit files risk rule r := by
  cases rule with
  | type => exact ofType_eq_some_iff
  | risk => exact ofRisk_eq_some_iff
  | count => exact ofCount_eq_some_iff
  | paths => exact ofPaths_eq_some_iff

/-- A rule that asks for something is one of those in order. -/
theorem Asked.mem_inOrder (h : Asked limit files risk rule r) : rule ∈ Rule.inOrder := by
  cases h with
  | type htype => exact List.mem_append_left _ (List.mem_map_of_mem htype)
  | highRisk | mediumRisk | count | paths => decide

/-! ## What the messages tell -/

/-- The first two characters of the messages of a rule. The risk has two messages. -/
def Rule.leads : Rule → List (List Char)
  | .type .bugFix => [['B', 'u']]
  | .type .securityFix => [['S', 'e']]
  | .type .feature => [['N', 'e']]
  | .type .refactor => [['C', 'o']]
  | .type .performance => [['P', 'e']]
  | .type _ => []
  | .risk => [['H', 'i'], ['M', 'e']]
  | .count => [['L', 'a']]
  | .paths => [['S', 'o']]

/-- The message of a recommendation begins as its rule says. -/
theorem Asked.lead (h : Asked limit files risk rule r) : r.message.toList.take 2 ∈ rule.leads := by
  have happend : ∀ {first rest : String}, 2 ≤ first.toList.length →
      (first ++ rest).toList.take 2 = first.toList.take 2 := by
    intro first rest hlength
    rw [String.toList_append, List.take_append_of_le_length hlength]
  cases h with
  | @type type _ _ _ h => cases type <;> cases h <;> dsimp only <;> decide
  | highRisk | mediumRisk | count =>
    dsimp only
    rw [String.append_assoc, happend (by decide)]
    decide
  | paths =>
    dsimp only
    decide

/-- **A recommendation tells the rule it goes by.** -/
theorem Asked.rule_eq (h : Asked limit files risk rule r) (h' : Asked limit files risk rule' r) :
    rule = rule' := by
  have hleads : ∀ rule ∈ Rule.inOrder, ∀ rule' ∈ Rule.inOrder, ∀ lead ∈ rule.leads,
      lead ∈ rule'.leads → rule = rule' := by decide
  exact hleads rule h.mem_inOrder rule' h'.mem_inOrder _ h.lead h'.lead

/-! ## The order -/

/-- The recommendations with their rules, in the order of the rules. -/
def ruled (limit : Int) (files : List ClassifiedFile) (risk : Option RiskAssessment) :
    List (Rule × Recommendation) :=
  Rule.inOrder.filterMap fun rule => (ofRule limit files risk rule).map (rule, ·)

/-- The rules in their order make just the recommendations that are asked for. -/
theorem mem_ruled_iff :
    (rule, r) ∈ ruled limit files risk ↔ Asked limit files risk rule r := by
  rw [ruled, List.mem_filterMap, ← ofRule_eq_some_iff]
  constructor
  · rintro ⟨_, -, h⟩
    obtain ⟨_, hr, h⟩ := Option.map_eq_some_iff.1 h
    cases h
    exact hr
  · intro h
    exact ⟨rule, (ofRule_eq_some_iff.1 h).mem_inOrder, by rw [h, Option.map_some]⟩

/-- Without the rules these are the recommendations in the order of the rules. -/
theorem map_ruled : (ruled limit files risk).map (·.2) = byRule limit files risk := by
  have hsecond : ∀ rule, ((ofRule limit files risk rule).map (rule, ·)).map (·.2) =
      ofRule limit files risk rule := by
    intro rule
    rw [Option.map_map]
    exact Option.map_id'
  rw [ruled, List.map_filterMap, byRule]
  simp only [hsecond, Rule.inOrder, List.filterMap_append, List.filterMap_map]
  simp only [List.filterMap_eq_flatMap_toList, List.flatMap_cons, List.flatMap_nil,
    List.append_assoc, List.append_nil]
  rfl

/-- The rules stand in their order, each at most once. -/
theorem pairwise_ruled : (ruled limit files risk).Pairwise fun a b => a.1.place < b.1.place := by
  have horder : Rule.inOrder.Pairwise fun rule rule' => rule.place < rule'.place := by decide
  refine horder.filterMap _ fun rule rule' hplace a ha b hb => ?_
  obtain ⟨_, -, rfl⟩ := Option.map_eq_some_iff.1 ha
  obtain ⟨_, -, rfl⟩ := Option.map_eq_some_iff.1 hb
  exact hplace

/-- What is sorted by priority stands priority by priority. -/
theorem flatMap_filter_of_sorted {l : List Recommendation}
    (h : l.Pairwise fun r r' => r.priority.rank ≤ r'.priority.rank) :
    [Priority.high, .medium, .low].flatMap (fun p => l.filter fun r => r.priority == p) = l := by
  induction l with
  | nil => rfl
  | cons r l ih =>
    obtain ⟨hr, hl⟩ := List.pairwise_cons.1 h
    have hnone {p : Priority} (hp : p.rank < r.priority.rank) :
        l.filter (fun r => r.priority == p) = [] := by
      refine List.filter_eq_nil_iff.2 fun r' hr' heq => ?_
      have hle := hr r' hr'
      rw [eq_of_beq heq] at hle
      exact Nat.not_lt_of_le hle hp
    have hrest := ih hl
    cases hp : r.priority with
    | high => simpa [hp] using hrest
    | medium =>
      have hhigh := hnone (p := .high) (by rw [hp]; decide)
      simpa [hp, hhigh] using hrest
    | low =>
      have hhigh := hnone (p := .high) (by rw [hp]; decide)
      have hmedium := hnone (p := .medium) (by rw [hp]; decide)
      simpa [hp, hhigh, hmedium] using hrest

/-- **To sort by priority is to list each priority in turn**, in the order of the list. -/
theorem byPriority_eq (l : List Recommendation) : byPriority l =
    [Priority.high, .medium, .low].flatMap fun p => l.filter fun r => r.priority == p := by
  have htrans : ∀ a b c : Recommendation, decide (a.priority.rank ≤ b.priority.rank) = true →
      decide (b.priority.rank ≤ c.priority.rank) = true →
        decide (a.priority.rank ≤ c.priority.rank) = true := by
    simp only [decide_eq_true_eq]
    omega
  have htotal : ∀ a b : Recommendation, (decide (a.priority.rank ≤ b.priority.rank) ||
      decide (b.priority.rank ≤ a.priority.rank)) = true := by
    simp only [Bool.or_eq_true, decide_eq_true_eq]
    omega
  have hsorted : (byPriority l).Pairwise fun r r' => r.priority.rank ≤ r'.priority.rank :=
    (List.pairwise_mergeSort htrans htotal l).imp of_decide_eq_true
  have hstable (p : Priority) : (byPriority l).filter (fun r => r.priority == p) =
      l.filter fun r => r.priority == p := by
    refine filter_mergeSort htrans htotal fun a b ha hb => ?_
    rw [eq_of_beq ha, eq_of_beq hb]
    exact decide_eq_true (Nat.le_refl _)
  rw [← flatMap_filter_of_sorted hsorted]
  exact List.flatMap_congr fun p _ => hstable p

/-- Recommendations with their rules, ordered by priority. -/
def ruledByPriority (l : List (Rule × Recommendation)) : List (Rule × Recommendation) :=
  [.high, .medium, .low].flatMap fun p => l.filter fun a => a.2.priority == p

/-- Ordering by priority neither adds nor leaves out anything. -/
theorem mem_ruledByPriority_iff {l : List (Rule × Recommendation)} {a : Rule × Recommendation} :
    a ∈ ruledByPriority l ↔ a ∈ l := by
  rw [ruledByPriority, List.mem_flatMap]
  constructor
  · rintro ⟨_, -, h⟩
    exact (List.mem_filter.1 h).1
  · intro h
    have hpriority : a.2.priority ∈ [Priority.high, .medium, .low] := by
      cases a.2.priority <;> decide
    exact ⟨a.2.priority, hpriority, List.mem_filter.2 ⟨h, beq_self_eq_true _⟩⟩

/-- Recommendations are ordered by priority with their rules as without them. -/
theorem map_ruledByPriority (l : List (Rule × Recommendation)) :
    (ruledByPriority l).map (·.2) = byPriority (l.map (·.2)) := by
  rw [byPriority_eq, ruledByPriority, List.map_flatMap]
  refine List.flatMap_congr fun p _ => ?_
  rw [List.filter_map]
  rfl

/-- Ordering by priority what is in the order of the rules keeps that order within a priority. -/
theorem pairwise_ruledByPriority {l : List (Rule × Recommendation)}
    (h : l.Pairwise fun a b => a.1.place < b.1.place) : (ruledByPriority l).Pairwise Before := by
  have hpriority : ∀ {p : Priority} {a : Rule × Recommendation},
      a ∈ (l.filter fun a => a.2.priority == p) → a.2.priority = p :=
    fun ha => eq_of_beq (List.mem_filter.1 ha).2
  have hranks : [Priority.high, .medium, .low].Pairwise fun p p' => p.rank < p'.rank := by decide
  refine List.pairwise_flatMap.2 ⟨fun p _ => ?_, hranks.imp fun hrank a ha b hb => .inl ?_⟩
  · refine (h.filter _).imp_of_mem fun ha hb hplace => .inr ⟨?_, hplace⟩
    rw [hpriority ha, hpriority hb]
  · rwa [hpriority ha, hpriority hb]

/-! ## The whole list -/

/-- Whether recommendations with their rules are just those asked for, each once and in order. -/
structure Complete (limit : Int) (files : List ClassifiedFile) (risk : Option RiskAssessment)
    (l : List (Rule × Recommendation)) : Prop where
  before : l.Pairwise Before
  mem_iff : ∀ rule r, (rule, r) ∈ l ↔ Asked limit files risk rule r
  rules_nodup : (l.map (·.1)).Nodup
  nodup : (l.map (·.2)).Nodup
  type_iff : ∀ type ∈ typesInOrder,
    Rule.type type ∈ l.map (·.1) ↔ ∃ f ∈ files, f.changeType = type
  files_eq : ∀ type r, (.type type, r) ∈ l →
    r.files = (files.filter fun f => f.changeType = type).map (·.path)
  /-- A path that only files of other types have is not listed. -/
  of_type : ∀ type r, (.type type, r) ∈ l →
    ∀ path ∈ r.files, ∃ f ∈ files, f.changeType = type ∧ f.path = path

/-- **The ordered recommendations are complete.** No rule asks for two of them, so no rule stands
before itself, and all differ. -/
theorem complete_ruled :
    Complete limit files risk (ruledByPriority (ruled limit files risk)) := by
  have hmem : ∀ rule r, (rule, r) ∈ ruledByPriority (ruled limit files risk) ↔
      Asked limit files risk rule r := fun rule r => mem_ruledByPriority_iff.trans mem_ruled_iff
  have hbefore : (ruledByPriority (ruled limit files risk)).Pairwise Before :=
    pairwise_ruledByPriority pairwise_ruled
  have hrule : ∀ {a b : Rule × Recommendation}, a ∈ ruledByPriority (ruled limit files risk) →
      b ∈ ruledByPriority (ruled limit files risk) → Before a b → a.1 ≠ b.1 := by
    rintro ⟨rule, r⟩ ⟨_, r'⟩ ha hb hab rfl
    have hr : some r = some r' :=
      (ofRule_eq_some_iff.2 ((hmem _ _).1 ha)).symm.trans (ofRule_eq_some_iff.2 ((hmem _ _).1 hb))
    obtain rfl := Option.some.inj hr
    rcases hab with hab | ⟨-, hab⟩ <;> exact Nat.lt_irrefl _ hab
  refine ⟨hbefore, hmem, ?_, ?_, fun type htype => ?_, fun type r h => ?_, fun type r h => ?_⟩
  · exact List.pairwise_map.2 (hbefore.imp_of_mem hrule)
  · refine List.pairwise_map.2 (hbefore.imp_of_mem fun {a b} ha hb hab heq => ?_)
    exact hrule ha hb hab (((hmem _ _).1 ha).rule_eq (heq ▸ (hmem _ _).1 hb))
  · have hasks : Rule.type type ∈ (ruledByPriority (ruled limit files risk)).map (·.1) ↔
        ∃ r, Asked limit files risk (.type type) r := by
      simp [hmem]
    rw [hasks]
    constructor
    · rintro ⟨r, ⟨-, hfile, -⟩⟩
      exact hfile
    · intro hfile
      obtain ⟨r, hr⟩ := exists_forType htype
        ((files.filter fun f => f.changeType = type).map (·.path))
      exact ⟨r, .type htype hfile hr⟩
  · obtain ⟨-, -, hr⟩ := (hmem _ _).1 h
    exact files_of_forType hr
  · obtain ⟨-, -, hr⟩ := (hmem _ _).1 h
    intro path hpath
    rw [files_of_forType hr] at hpath
    exact mem_pathsOf_iff.1 hpath

/-- All recommendations are the ordered ones without their rules. -/
theorem all_eq : all limit files risk = (ruledByPriority (ruled limit files risk)).map (·.2) := by
  rw [map_ruledByPriority, map_ruled, all]

/-- **The recommendations are just those that the rules ask for, each once, ordered by priority and
within a priority by the rules.** -/
theorem all_complete (limit : Int) (files : List ClassifiedFile) (risk : Option RiskAssessment) :
    ∃ l, all limit files risk = l.map (·.2) ∧ Complete limit files risk l :=
  ⟨ruledByPriority (ruled limit files risk), all_eq, complete_ruled⟩

/-- A fix and a new feature in one path. -/
def repeatedPath : List ClassifiedFile :=
  [.bugFix, .feature].map fun changeType =>
    { file := { oldPath := "a.py", newPath := "a.py" }
      classification := { changeType, confidence := 0.5 } }

/-- The recommendation for a fix lists a path that a new feature has as well. -/
theorem all_repeated_path :
    (∃ r ∈ all 5 repeatedPath none, Asked 5 repeatedPath none (.type .bugFix) r ∧
      r.files = ["a.py"]) ∧
    ∃ f ∈ repeatedPath, f.changeType ≠ .bugFix ∧ f.path = "a.py" := by
  have hpaths : (repeatedPath.filter fun f => f.changeType = .bugFix).map (·.path) = ["a.py"] := by
    decide
  have hfix : ∃ f ∈ repeatedPath, f.changeType = .bugFix := ⟨_, List.mem_cons_self, rfl⟩
  obtain ⟨r, hr⟩ : ∃ r, forType .bugFix ["a.py"] = some r := exists_forType (by decide) _
  have hasked : Asked 5 repeatedPath none (.type .bugFix) r :=
    .type (by decide) hfix (by rw [hpaths, hr])
  refine ⟨⟨r, ?_, hasked, files_of_forType hr⟩, ?_⟩
  · rw [all_eq]
    exact List.mem_map_of_mem ((complete_ruled.mem_iff _ _).2 hasked)
  · exact ⟨_, List.mem_cons_of_mem _ List.mem_cons_self, by decide, by decide⟩

end Recommendation

end PatchTriage

import PatchTriage.CommandLine.Request

/-!
# Arguments that make a request

A request is written as arguments, its options by their long names and what it is about behind the
mark that ends them (`Request.arguments`). Read back, they make that request (`read_arguments`), so
every choice of options can be made. A file is meant by its path, but for a dash, which stands for
the standard input.
-/

namespace PatchTriage.CommandLine

/-! ## Writing a request -/

/-- The argument that names a source. -/
def Source.argument : Source → String
  | standardInput => "-"
  | file path => path

/-- The options of a request. -/
def Request.options (r : Request) : List Given :=
  ⟨.format, r.format.name⟩ ::
    ((r.level.map fun level => ⟨.logLevel, level.name⟩).toList ++
      if r.showMetrics then [⟨.showMetrics, ""⟩] else [])

/-- The arguments that give an option, by its long name. -/
def Given.arguments (g : Given) : List String :=
  if g.flag.takesValue then [g.flag.longName, g.value] else [g.flag.longName]

/-- Arguments that make a request. -/
def Request.arguments (r : Request) : List String :=
  Command.commandName :: (r.options.flatMap Given.arguments ++ "--" :: r.source.argument :: r.extra)

/-! ## Reading it back -/

/-- The long name of a flag is read as a flag without a value. -/
theorem Word.of_longName (flag : Flag) : Word.of flag.longName = .long flag.longName none := by
  cases flag <;> rfl

/-- A flag is found by its long name. -/
theorem Flag.ofLongName?_longName (flag : Flag) : ofLongName? flag.longName = some flag := by
  cases flag <;> rfl

/-- The arguments that give an option are read as that option, without a value where it takes
none. -/
theorem readArguments_arguments (g : Given) (rest : List String) :
    readArguments (g.arguments ++ rest) =
      (readArguments rest).map
        (·.consOption g.flag (if g.flag.takesValue then g.value else "")) := by
  obtain ⟨flag, value⟩ := g
  cases htakes : flag.takesValue with
  | true =>
    simp only [Given.arguments, htakes, if_true, List.cons_append, List.nil_append, readArguments,
      Word.of_longName, Flag.ofLongName?_longName]
  | false =>
    simp only [Given.arguments, htakes, Bool.false_eq_true, if_false, List.cons_append,
      List.nil_append, readArguments, Word.of_longName, Flag.ofLongName?_longName]

/-- Options that are given one after the other are read in their order. -/
theorem readArguments_flatMap {options : List Given}
    (h : ∀ g ∈ options, g.flag.takesValue = false → g.value = "") (positional : List String) :
    readArguments (options.flatMap Given.arguments ++ "--" :: positional) =
      .ok { options, positional } := by
  induction options with
  | nil => rfl
  | cons g options ih =>
    have hvalue : (if g.flag.takesValue then g.value else "") = g.value := by
      cases htakes : g.flag.takesValue with
      | true => rfl
      | false => exact (h g List.mem_cons_self htakes).symm
    rw [List.flatMap_cons, List.append_assoc, readArguments_arguments, hvalue,
      ih fun g hg => h g (List.mem_cons_of_mem _ hg)]
    rfl

/-- An option of a request that takes no value has none. -/
theorem Request.value_of_mem_options {r : Request} {g : Given} (h : g ∈ r.options)
    (htakes : g.flag.takesValue = false) : g.value = "" := by
  rcases List.mem_cons.1 h with rfl | h
  · cases htakes
  rcases List.mem_append.1 h with hlevel | hmetrics
  · obtain ⟨level, -, rfl⟩ := Option.map_eq_some_iff.1 (Option.mem_toList.1 hlevel)
    cases htakes
  · split at hmetrics
    · rw [List.mem_singleton.1 hmetrics]
    · cases hmetrics

/-- The options of a request make it, with the standard input for its source. -/
theorem Request.foldlM_options (r : Request) :
    (lastOfEach r.options).foldlM withOption {} =
      .ok { format := r.format, level := r.level, showMetrics := r.showMetrics } := by
  obtain ⟨source, format, level, showMetrics, extra⟩ := r
  cases format <;> cases showMetrics <;> cases level with
  | none => rfl
  | some level => cases level <;> rfl

/-- A source is told by its argument, unless it is a file that is named by a dash. -/
theorem Source.ofArgument_argument {s : Source} (h : s ≠ .file "-") :
    ofArgument s.argument = s := by
  cases s with
  | standardInput => rfl
  | file path =>
    have hpath : path ≠ "-" := fun heq => h (congrArg file heq)
    exact if_neg hpath

/-- Help is no option of a request. -/
theorem Request.not_any_help (r : Request) : (r.options.any fun g => g.flag = .help) = false := by
  obtain ⟨source, format, level, showMetrics, extra⟩ := r
  cases level <;> cases showMetrics <;> rfl

/-- **A request is read from its arguments.** -/
theorem Request.read_arguments {r : Request} (h : r.source ≠ .file "-") :
    Command.read r.arguments = .ok (.analyze r) := by
  have hfront : Command.front r.arguments = .ok { rest := r.arguments } := rfl
  have hargs :
      readArguments (r.options.flatMap Given.arguments ++ "--" :: r.source.argument :: r.extra) =
        .ok { options := r.options, positional := r.source.argument :: r.extra } :=
    readArguments_flatMap (fun g hg => value_of_mem_options hg) _
  have hmade : Request.ofArguments
      { options := r.options, positional := r.source.argument :: r.extra } = .ok r := by
    rw [Request.ofArguments, foldlM_options]
    exact congrArg (fun source => Except.ok { r with source }) (Source.ofArgument_argument h)
  have hcommand : Command.read r.arguments =
      readArguments (r.options.flatMap Given.arguments ++ "--" :: r.source.argument :: r.extra) >>=
        Command.ofArguments := by
    rw [Command.read, hfront]
    rfl
  rw [hcommand, hargs]
  change Command.ofArguments _ = _
  rw [Command.ofArguments, not_any_help, if_neg Bool.false_ne_true, hmade]
  rfl

end PatchTriage.CommandLine

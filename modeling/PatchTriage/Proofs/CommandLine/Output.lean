import PatchTriage.CommandLine.Run
import PatchTriage.Proofs.Analysis.Observation
import PatchTriage.Proofs.CommandLine.Arguments
import PatchTriage.Proofs.Text.Utf8

/-!
# What the program writes

The program writes the report of a run on the text that it reads (`run_analyze`), whatever log lines
and metrics are asked for (`run_observed`). A text is read with uniform line ends, so its report is
that of the text itself if this holds no carriage return. Where carriage returns stand before line
feeds, the digest is that of the uniform text and all else is the same; but one that stands alone
ends a line for the program and none for the parser (`run_analyze_lone_return`).
-/

namespace PatchTriage

/-- A text is parsed by its lines. -/
theorem Patch.parse_congr {t u : String} (h : Text.lines t.toList = Text.lines u.toList) :
    parse t = parse u := by
  rw [parse, parse, h]

/-- What comes of two texts that are not too large and have the same lines is the same. -/
theorem Analysis.outcome_congr {s : Settings} {t u : String} (ht : t.utf8ByteSize ≤ s.maxDiffBytes)
    (hu : u.utf8ByteSize ≤ s.maxDiffBytes) (h : Text.lines t.toList = Text.lines u.toList) :
    (run s (.standard s) t).value.outcome = (run s (.standard s) u).value.outcome := by
  rw [outcome_run, outcome_run, find_of_not_large rfl (Int.not_lt.2 ht),
    find_of_not_large rfl (Int.not_lt.2 hu), Patch.parse_congr h]

namespace CommandLine

/-- The report of the library on a text, under the settings around the program. -/
def Surroundings.report (around : Surroundings) (text : String) : Report :=
  (Analysis.run around.settings (.standard around.settings) text).value

/-! ## From the report to the output -/

/-- The options of a request bear on how a run is observed, and on nothing else. -/
theorem Request.sameAnalysis_settings (r : Request) (s : Settings) :
    (r.settings s).SameAnalysis s where
  maxDiffBytes := rfl
  languageStrategies := rfl
  highThreshold := rfl
  mediumThreshold := rfl
  largeDiffFiles := rfl

/-- Whether an output is a report in some form, and tells of its success. -/
structure Output.Presents (o : Output) (f : ReportFormat) (report : Report) : Prop where
  stdout : o.stdout = f.text report ++ "\n"
  exitCode : o.exitCode = if report.succeeded then 0 else 1

/-- A request is answered with the report of the library. -/
theorem Request.presents_answer (r : Request) (around : Surroundings) (text : String) :
    (r.answer around.settings around.clock around.room text).Presents r.format
      (around.report text) := by
  have hsame := r.sameAnalysis_settings around.settings
  have hreport : (Analysis.run (r.settings around.settings)
      (.standard (r.settings around.settings)) text).value = around.report text := by
    rw [Analysis.standard_eq_of_sameAnalysis hsame]
    exact Analysis.run_eq_of_sameAnalysis hsame rfl _ _
  rw [← hreport]
  exact ⟨rfl, rfl⟩

section
variable {around : Surroundings} {args : List String} {r : Request}

/-- A request for the analysis of a source that can be read is answered. -/
theorem run_of_read {bytes : List UInt8} (hread : Command.read args = .ok (.analyze r))
    (hextra : r.extra = []) (hbytes : around.bytes r.source = .ok bytes) :
    run around args =
      r.answer around.settings around.clock around.room (Text.ofBytes bytes) := by
  rw [run, hread]
  dsimp only
  rw [hbytes, hextra]

/-- **The program and the library agree** on every text without carriage returns, whatever the
options are, and every choice of options can be made. On any text the program presents the report on
the text with uniform line ends. Where carriage returns stand before line feeds and the text is not
too large, this is the report of the library in all but the digest. -/
theorem run_analyze {text : String} (hread : Command.read args = .ok (.analyze r))
    (hextra : r.extra = []) (hbytes : around.bytes r.source = .ok text.toUTF8.data.toList) :
    ('\r' ∉ text.toList → (run around args).Presents r.format (around.report text)) ∧
      (run around args).Presents r.format (around.report (Text.asRead text)) ∧
      (Text.asRead text = text ↔ '\r' ∉ text.toList) ∧
      (Text.ReturnsBeforeFeeds text.toList → text.utf8ByteSize ≤ around.settings.maxDiffBytes →
        (around.report (Text.asRead text)).outcome = (around.report text).outcome) ∧
      ∀ r : Request, r.source ≠ .file "-" → Command.read r.arguments = .ok (.analyze r) := by
  have hpresents : (run around args).Presents r.format (around.report (Text.asRead text)) := by
    rw [run_of_read hread hextra hbytes, Text.ofBytes_toUTF8]
    exact r.presents_answer around (Text.asRead text)
  refine ⟨fun hnone => ?_, hpresents, Text.asRead_eq_iff, fun hreturns hsize => ?_,
    fun r => Request.read_arguments⟩
  · rwa [Text.asRead_eq_iff.2 hnone] at hpresents
  · have hsize' : (Text.asRead text).utf8ByteSize ≤ around.settings.maxDiffBytes :=
      Int.le_trans (Int.ofNat_le.2 (Text.utf8ByteSize_asRead_le text)) hsize
    exact Analysis.outcome_congr hsize' hsize (Text.lines_asRead hreturns)

end

/-- Surroundings in which a text is the standard input. -/
def Surroundings.giving (text : String) : Surroundings where
  settings := {}
  clock := { time := "", elapsed := "0.0" }
  input := text.toUTF8.data.toList
  bytesAt _ := .error .notFound

/-- A text without carriage returns is presented as it is, and one with a carriage return before a
line feed as if it had none. -/
theorem run_analyze_return_feed :
    let plain := "diff --git a/x b/x\n"
    let text := "diff --git a/x b/x\r\n"
    let around := Surroundings.giving text
    let r : Request := { source := .file "x.diff", format := .markdown, showMetrics := true }
    (run (.giving plain) ["analyze"]).Presents .json ((Surroundings.giving plain).report plain) ∧
      (run around ["analyze"]).Presents .json (around.report (Text.asRead text)) ∧
      (around.report (Text.asRead text)).outcome = (around.report text).outcome ∧
      Command.read r.arguments = .ok (.analyze r) := by
  obtain ⟨hplain, -⟩ := @run_analyze (.giving "diff --git a/x b/x\n") ["analyze"] {}
    "diff --git a/x b/x\n" rfl rfl rfl
  obtain ⟨-, hpresents, -, hsame, hreads⟩ := @run_analyze (.giving "diff --git a/x b/x\r\n")
    ["analyze"] {} "diff --git a/x b/x\r\n" rfl rfl rfl
  exact ⟨hplain (by decide +kernel), hpresents, hsame (by decide +kernel) (by decide +kernel),
    hreads _ (by decide)⟩

/-- A carriage return that stands alone ends a line for the program, which finds two added lines
where the library finds one. -/
theorem run_analyze_lone_return :
    let text := "diff --git a/x b/x\n@@ -0,0 +1 @@\n+a\r+b\n"
    let around := Surroundings.giving text
    let r : Request := { format := .markdown, level := some .critical }
    Command.read ["analyze", "--format", "markdown", "--log-level", "CRITICAL"] =
        .ok (.analyze r) ∧
      around.bytes r.source = .ok text.toUTF8.data.toList ∧
      (run around ["analyze", "--format", "markdown", "--log-level", "CRITICAL"]).stdout ≠
        r.format.text (around.report text) ++ "\n" :=
  ⟨rfl, rfl, by decide +kernel⟩

/-! ## What is observed -/

/-- **Observing a run does not change it.** Under settings that ask for the same analysis, and
whatever is put in the place of the reader and the classifier, two reports differ at most in the
degraded files, which are listed where faults are kept and nowhere else. Neither the level of log
lines nor the metrics bear on the standard output and the exit code of the program. -/
theorem run_observed {s s' : Settings} (h : s.SameAnalysis s') (inject : Pipeline → Pipeline)
    (text : String) :
    (∃ fields above below degraded,
      (Analysis.run s (inject (.standard s)) text).value.Shows fields above below
          (if s.errorTracking then degraded else []) ∧
        (Analysis.run s' (inject (.standard s')) text).value.Shows fields above below
          (if s'.errorTracking then degraded else [])) ∧
      (s.errorTracking = s'.errorTracking →
        (Analysis.run s (inject (.standard s)) text).value =
          (Analysis.run s' (inject (.standard s')) text).value) ∧
      ∀ (around : Surroundings) (args args' : List String) (r : Request) (level : Option Level)
        (showMetrics : Bool),
        Command.read args = .ok (.analyze r) →
        Command.read args' = .ok (.analyze { r with level, showMetrics }) →
        (run around args).stdout = (run around args').stdout ∧
          (run around args).exitCode = (run around args').exitCode := by
  rw [Analysis.standard_eq_of_sameAnalysis h]
  refine ⟨?_, fun hkept => Analysis.run_eq_of_sameAnalysis h hkept _ text, ?_⟩
  · have hall : Settings.SameAnalysis { s with errorTracking := true }
        { s' with errorTracking := true } :=
      ⟨h.maxDiffBytes, h.languageStrategies, h.highThreshold, h.mediumThreshold, h.largeDiffFiles⟩
    rw [Analysis.run_eq_keeping s, Analysis.run_eq_keeping s',
      Analysis.run_eq_of_sameAnalysis hall rfl]
    exact ⟨_, _, _, _, Report.shows_keeping _ _, Report.shows_keeping _ _⟩
  · intro around args args' r level showMetrics hread hread'
    rw [run, run, hread, hread']
    dsimp only
    cases around.bytes r.source with
    | error e => exact ⟨rfl, rfl⟩
    | ok bytes =>
      cases hextra : r.extra with
      | cons argument arguments => exact ⟨rfl, rfl⟩
      | nil =>
        have hpresents := r.presents_answer around (Text.ofBytes bytes)
        have hpresents' :=
          Request.presents_answer { r with level, showMetrics } around (Text.ofBytes bytes)
        exact ⟨hpresents.stdout.trans hpresents'.stdout.symm,
          hpresents.exitCode.trans hpresents'.exitCode.symm⟩

/-- One file cannot be classified, which is told where faults are kept. -/
theorem run_observed_fault :
    let inject (p : Pipeline) : Pipeline := p.withFaults none fun path =>
      if path = "x" then some { label := "ValueError", message := "no" } else none
    let report (s : Settings) : Report :=
      (Analysis.run s (inject (.standard s)) "diff --git a/x b/x\n").value
    let verbose : Settings := { logLevel := .debug }
    let quiet : Settings := { logLevel := .critical, metrics := false, errorTracking := false }
    let deployed : Settings := { environment := "production", logFormat := .json }
    (report verbose).degraded.length = 1 ∧
      (∃ fields above below degraded, (report verbose).Shows fields above below degraded ∧
        (report quiet).Shows fields above below []) ∧
      report verbose = report deployed ∧
      (run (.giving "") ["analyze"]).stdout =
        (run (.giving "") ["analyze", "--log-level", "debug", "--show-metrics"]).stdout := by
  intro inject report verbose quiet deployed
  have hquiet : verbose.SameAnalysis quiet := ⟨rfl, rfl, rfl, rfl, rfl⟩
  have hdeployed : verbose.SameAnalysis deployed := ⟨rfl, rfl, rfl, rfl, rfl⟩
  obtain ⟨hshows, -, -⟩ := run_observed hquiet inject "diff --git a/x b/x\n"
  obtain ⟨-, hsame, hcommand⟩ := run_observed hdeployed inject "diff --git a/x b/x\n"
  obtain ⟨hstdout, -⟩ := hcommand (.giving "") ["analyze"]
    ["analyze", "--log-level", "debug", "--show-metrics"] {} (some .debug) true rfl rfl
  exact ⟨by decide +kernel, hshows, hsame rfl, hstdout⟩

end CommandLine

end PatchTriage

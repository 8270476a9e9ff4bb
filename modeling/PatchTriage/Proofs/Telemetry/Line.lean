import PatchTriage.Proofs.Json.RoundTrip
import PatchTriage.Proofs.Json.Written
import PatchTriage.Proofs.Table.Ranking
import PatchTriage.Telemetry.Line

/-!
# Log lines and what they show

There is a line for a record just if the object that shows it fits (`Record.writable_iff`), and
there is one if all that may be shown fits (`Record.Fits`); an integer that is too long leaves none
(`jsonLineAt_unwritten`). The line is printable ASCII, so that nothing in the record can end it, and
it is read back as one object (`Record.jsonLineAt_shows`). In that object a name may be claimed by
the fields of the record, by the context, by the failure, by the place the record was written at and
by the record itself: `Record.get?_toJson` says who wins a name, and `Record.ShownAs` spells it out.
-/

namespace PatchTriage.Log

/-- The names that a line may have of itself. -/
def standingNames : List String :=
  ["timestamp", "level", "logger", "message", "context", "exception", "source"]

/-- What the object on a line shows of a record: each of its own fields, unless it is private or
named as an attribute of every record, and beside them what the line has of itself, unless a field
bears the name. Where a grave record was written gives way to no field. -/
structure Record.ShownAs (clock : Clock) (grade : Grade) (context : Fields) (r : Record)
    (o : Fields) : Prop where
  /-- No name stands twice. -/
  nodup : (Table.keys o).Nodup
  field : ∀ e ∈ r.fields, e.1 ∉ reservedNames → isPrivate e.1 = false →
    ¬(e.1 = "source" ∧ (Level.error.number : Int) ≤ grade.number) → Table.get? o e.1 = some e.2
  context : "context" ∉ Table.keys r.fields →
    ∀ v, Table.get? o "context" = some v ↔ context ≠ [] ∧ v = .object context
  exception : "exception" ∉ Table.keys r.fields →
    ∀ v, Table.get? o "exception" = some v ↔ ∃ f, r.failure = some (.fault f) ∧
      v = .object [("type", .text f.label), ("message", .text f.message),
        ("traceback", .text f.traceLine)]
  source : "source" ∉ Table.keys r.fields ∨ (Level.error.number : Int) ≤ grade.number →
    ∀ v, Table.get? o "source" = some v ↔
      (Level.error.number : Int) ≤ grade.number ∧ v = r.origin.toJson
  time : "timestamp" ∉ Table.keys r.fields → Table.get? o "timestamp" = some (.text clock.time)
  level : "level" ∉ Table.keys r.fields → Table.get? o "level" = some (.text grade.name)
  logger : "logger" ∉ Table.keys r.fields → Table.get? o "logger" = some (.text r.logger)
  /-- The name of the message is that of an attribute, so that no field takes it. -/
  message : Table.get? o "message" = some (.text r.message)
  /-- No other name is shown. -/
  names : ∀ name ∈ Table.keys o, name ∈ standingNames ∨
    name ∈ Table.keys r.fields ∧ name ∉ reservedNames ∧ isPrivate name = false

variable {clock : Clock} {grade : Grade} {context : Fields} {r : Record}

/-! ## Who wins a name -/

/-- The fields that lines show, name by name. -/
theorem get?_shownFields (r : Record) (name : String) : Table.get? r.shownFields name =
    if name ∉ reservedNames ∧ isPrivate name = false then Table.get? r.fields name else none := by
  have hkeep : (!reservedNames.contains name && !isPrivate name) = true ↔
      name ∉ reservedNames ∧ isPrivate name = false := by simp
  rw [Record.shownFields,
    Table.get?_filter_keys fun name => !reservedNames.contains name && !isPrivate name]
  exact if_congr hkeep rfl rfl

/-- A name that no field bears is shown for none. -/
theorem get?_shownFields_of_not_mem {name : String} (h : name ∉ Table.keys r.fields) :
    Table.get? r.shownFields name = none := by
  rw [get?_shownFields, Table.get?_eq_none_iff.2 h, ite_self]

/-- No field is shown twice. -/
theorem nodup_keys_shownFields (h : (Table.keys r.fields).Nodup) :
    (Table.keys r.shownFields).Nodup :=
  h.sublist (List.filter_sublist.map _)

/-- The names that a line has of itself, one by one. -/
theorem keys_standing_sublist :
    (Table.keys (r.standing clock grade context)).Sublist standingNames := by
  rw [Record.standing]
  generalize r.failure.bind Failure.toJson? = failure
  cases failure <;> split <;> exact List.isSublist_iff_sublist.1 rfl

/-- A level is grave from that of errors up. -/
theorem isGrave_iff : grade.isGrave = true ↔ (Level.error.number : Int) ≤ grade.number :=
  decide_eq_true_iff

/-- **Who wins a name**: where a grave record was written, then a field of its own that is shown,
then the line itself. -/
theorem Record.get?_toJson (h : (Table.keys r.fields).Nodup) (name : String) :
    Table.get? (r.toJson clock grade context) name =
      if grade.isGrave ∧ name = "source" then some r.origin.toJson
      else (Table.get? r.shownFields name).or
        (Table.get? (r.standing clock grade context) name) := by
  have hall : Table.get? (Table.putAll (r.standing clock grade context) r.shownFields) name =
      (Table.get? r.shownFields name).or (Table.get? (r.standing clock grade context) name) := by
    rw [Table.get?_putAll, Table.putAll_of_nodup (nodup_keys_shownFields h)]
  rw [Record.toJson]
  split
  · next hgrave =>
    by_cases hname : name = "source"
    · simp [hname, hgrave]
    · simp [hname, Ne.symm hname, hall]
  · next hgrave => simp [hgrave, hall]

/-- A name that is shown for no field is left to the line itself, unless it is that of the
source. -/
theorem Record.get?_toJson_of_free (h : (Table.keys r.fields).Nodup) {name : String}
    (hname : Table.get? r.shownFields name = none) (hsource : name ≠ "source") :
    Table.get? (r.toJson clock grade context) name =
      Table.get? (r.standing clock grade context) name := by
  rw [r.get?_toJson h, if_neg fun hboth => hsource hboth.2, hname, Option.none_or]

/-- What the line has of itself under the names that it may lack. -/
theorem get?_standing :
    Table.get? (r.standing clock grade context) "context" =
        (if context.isEmpty then none else some (.object context)) ∧
      Table.get? (r.standing clock grade context) "exception" =
        r.failure.bind Failure.toJson? ∧
      Table.get? (r.standing clock grade context) "source" = none := by
  rw [Record.standing]
  generalize r.failure.bind Failure.toJson? = failure
  cases failure <;> split <;> exact ⟨rfl, rfl, rfl⟩

/-- The object on a line has no name twice. -/
theorem nodup_keys_toJson : (Table.keys (r.toJson clock grade context)).Nodup := by
  have hstanding : (Table.keys (r.standing clock grade context)).Nodup :=
    keys_standing_sublist.nodup (by decide)
  have hall := Table.nodup_keys_putAll hstanding r.shownFields
  rw [Record.toJson]
  split
  · exact Table.nodup_keys_put hall _ _
  · exact hall

/-- **The object on a line shows the record.** -/
theorem Record.shownAs_toJson (h : (Table.keys r.fields).Nodup) :
    r.ShownAs clock grade context (r.toJson clock grade context) where
  nodup := nodup_keys_toJson
  field := by
    intro e he hreserved hprivate hsource
    rw [r.get?_toJson h, if_neg fun hboth => hsource ⟨hboth.2, isGrave_iff.1 hboth.1⟩,
      get?_shownFields, if_pos ⟨hreserved, hprivate⟩, Table.get?_of_mem h he, Option.some_or]
  context := by
    intro hname v
    rw [r.get?_toJson_of_free h (get?_shownFields_of_not_mem hname) (by decide),
      get?_standing.1]
    cases context with
    | nil => exact ⟨nofun, fun hv => absurd rfl hv.1⟩
    | cons e context =>
      exact ⟨fun hv => ⟨List.cons_ne_nil e context, (Option.some.inj hv).symm⟩,
        fun hv => congrArg some hv.2.symm⟩
  exception := by
    intro hname v
    rw [r.get?_toJson_of_free h (get?_shownFields_of_not_mem hname) (by decide),
      get?_standing.2.1]
    rcases r.failure with _ | ⟨f⟩ | _
    · exact ⟨nofun, fun ⟨f, hf, _⟩ => nomatch hf⟩
    · refine ⟨fun hv => ⟨f, rfl, (Option.some.inj hv).symm⟩, fun ⟨f', hf', hv⟩ => ?_⟩
      cases hf'
      exact congrArg some hv.symm
    · exact ⟨nofun, fun ⟨f, hf, _⟩ => nomatch hf⟩
  source := by
    intro hname v
    rw [r.get?_toJson h]
    by_cases hgrave : grade.isGrave = true
    · rw [if_pos ⟨hgrave, rfl⟩]
      exact ⟨fun hv => ⟨isGrave_iff.1 hgrave, (Option.some.inj hv).symm⟩,
        fun hv => congrArg some hv.2.symm⟩
    · have hname := hname.resolve_right fun hle => hgrave (isGrave_iff.2 hle)
      rw [if_neg fun hboth => hgrave hboth.1, get?_shownFields_of_not_mem hname, Option.none_or,
        get?_standing.2.2]
      exact ⟨nofun, fun hv => absurd (isGrave_iff.2 hv.1) hgrave⟩
  time hname := r.get?_toJson_of_free h (get?_shownFields_of_not_mem hname) (by decide)
  level hname := r.get?_toJson_of_free h (get?_shownFields_of_not_mem hname) (by decide)
  logger hname := r.get?_toJson_of_free h (get?_shownFields_of_not_mem hname) (by decide)
  message := by
    have hreserved : "message" ∈ reservedNames := by decide
    refine r.get?_toJson_of_free h ?_ (by decide)
    rw [get?_shownFields, if_neg fun hboth => hboth.1 hreserved]
  names := by
    intro name hname
    have hfound : Table.get? (r.toJson clock grade context) name ≠ none :=
      fun hnone => Table.get?_eq_none_iff.1 hnone hname
    refine or_iff_not_imp_left.2 fun hstanding => ?_
    have hsource : name ≠ "source" := fun heq => hstanding (heq ▸ by decide)
    have hline : name ∉ Table.keys (r.standing clock grade context) :=
      fun hmem => hstanding (keys_standing_sublist.subset hmem)
    rw [r.get?_toJson h, if_neg fun hboth => hsource hboth.2, Table.get?_eq_none_iff.2 hline,
      Option.or_none, get?_shownFields] at hfound
    split at hfound
    · next hshown =>
      exact ⟨not_not.1 fun hnone => hfound (Table.get?_eq_none_iff.2 hnone), hshown⟩
    · exact absurd rfl hfound

/-! ## The line -/

/-- What shows a failure is a proper value. -/
theorem proper_failure {failure : Failure} {v : Json} (h : failure.toJson? = some v) :
    v.Proper := by
  cases failure with
  | fault f =>
    obtain rfl := Option.some.inj h
    have hnames : ["type", "message", "traceback"].Nodup := by decide
    refine .object hnames ?_
    exact List.forall_mem_cons.2 ⟨.text _, List.forall_mem_cons.2 ⟨.text _,
      List.forall_mem_singleton.2 (.text _)⟩⟩
  | absent => cases h

/-- What shows where a record was written is a proper value. -/
theorem proper_origin (o : Origin) : o.toJson.Proper := by
  have hnames : ["file", "line", "function"].Nodup := by decide
  refine .object hnames ?_
  refine List.forall_mem_cons.2 ⟨.text _, List.forall_mem_cons.2 ⟨.int _,
    List.forall_mem_singleton.2 ?_⟩⟩
  rcases o.function with _ | function
  · exact .null
  · exact .text function

/-- What holds of texts, of the context, of what shows a failure and where the record was written,
and of the fields, holds of all that the object on a line shows. -/
theorem Record.forall_mem_toJson {P : Json → Prop} (htext : ∀ s, P (.text s))
    (hcontext : P (.object context))
    (hfailure : ∀ {failure : Failure} {v}, failure.toJson? = some v → P v)
    (horigin : P r.origin.toJson) (hfields : ∀ e ∈ r.fields, P e.2) :
    ∀ e ∈ r.toJson clock grade context, P e.2 := by
  have hstanding : ∀ e ∈ r.standing clock grade context, P e.2 := by
    refine List.forall_mem_append.2 ⟨List.forall_mem_append.2 ⟨?_, ?_⟩, List.forall_mem_map.2 ?_⟩
    · exact List.forall_mem_cons.2 ⟨htext _, List.forall_mem_cons.2 ⟨htext _,
        List.forall_mem_cons.2 ⟨htext _, List.forall_mem_singleton.2 (htext _)⟩⟩⟩
    · split
      · exact List.forall_mem_nil _
      · exact List.forall_mem_singleton.2 hcontext
    · intro v hv
      obtain ⟨failure, -, hshown⟩ := Option.bind_eq_some_iff.1 (Option.mem_toList.1 hv)
      exact hfailure hshown
  have hall : ∀ e ∈ Table.putAll (r.standing clock grade context) r.shownFields, P e.2 :=
    Table.forall_mem_putAll hstanding fun e he => hfields e (List.mem_of_mem_filter he)
  rw [Record.toJson]
  split
  · exact Table.forall_mem_put hall "source" horigin
  · exact hall

/-- An object with proper values is written for a record with proper fields. -/
theorem Record.proper_toJson (hcontext : (Json.object context).Proper)
    (hfields : (Json.object r.fields).Proper) :
    (Json.object (r.toJson clock grade context)).Proper := by
  cases hfields with
  | object hnames hvalues =>
  exact .object nodup_keys_toJson
    (Record.forall_mem_toJson .text hcontext proper_failure (proper_origin r.origin) hvalues)

/-- Whether all that a line may show of a record fits: the context, the fields of the record, and
the number of the line where it was written. -/
structure Record.Fits (room : Nat) (context : Fields) (r : Record) : Prop where
  /-- The context stands inside the object on the line. -/
  context : (Json.object context).Fits (room - 1)
  fields : (Json.object r.fields).Fits room
  line : Json.HasNumeral r.origin.line

/-- There is a line just if the object on it fits, and then it is that object. -/
theorem Record.jsonLineAt_eq_ok_iff {room : Nat} {line : String} :
    r.jsonLineAt clock room grade context = .ok line ↔
      (Json.object (r.toJson clock grade context)).Fits room ∧
        line.toList = (Json.object (r.toJson clock grade context)).compact := by
  rw [jsonLineAt]
  cases hwritten : (Json.object (r.toJson clock grade context)).written room with
  | error e =>
    refine iff_of_false nofun fun hfits => ?_
    rw [hfits.1.written_eq] at hwritten
    cases hwritten
  | ok l =>
    obtain ⟨hfits, rfl⟩ := Json.written_eq_ok_iff.1 hwritten
    constructor
    · intro h
      obtain rfl := Except.ok.inj h
      exact ⟨hfits, String.toList_ofList⟩
    · rintro ⟨-, hline⟩
      exact congrArg Except.ok (hline ▸ String.ofList_toList)

/-- There is a line just if the object on it fits. -/
theorem Record.writable_iff {room : Nat} :
    (∃ line, r.jsonLineAt clock room grade context = .ok line) ↔
      (Json.object (r.toJson clock grade context)).Fits room := by
  constructor
  · rintro ⟨line, hline⟩
    exact (jsonLineAt_eq_ok_iff.1 hline).1
  · exact fun hfits => ⟨_, jsonLineAt_eq_ok_iff.2 ⟨hfits, String.toList_ofList⟩⟩

/-- What shows a failure fits into an object. -/
theorem fits_failure {room : Nat} {failure : Failure} {v : Json} (h : failure.toJson? = some v) :
    v.Fits (room + 1) := by
  cases failure with
  | fault f =>
    obtain rfl := Option.some.inj h
    exact .object (List.forall_mem_cons.2 ⟨.text _, List.forall_mem_cons.2 ⟨.text _,
      List.forall_mem_singleton.2 (.text _)⟩⟩)
  | absent => cases h

/-- Where a record was written fits into an object if the number of the line does. -/
theorem fits_origin {room : Nat} {o : Origin} (h : Json.HasNumeral o.line) :
    o.toJson.Fits (room + 1) := by
  refine .object (List.forall_mem_cons.2 ⟨.text _, List.forall_mem_cons.2 ⟨.int h,
    List.forall_mem_singleton.2 ?_⟩⟩)
  rcases o.function with _ | function
  · exact .null
  · exact .text function

/-- If all that may be shown of a record fits, the object that shows it does. -/
theorem Record.Fits.toJson {room : Nat} (h : r.Fits room context) :
    (Json.object (r.toJson clock grade context)).Fits room := by
  obtain ⟨hcontext, hfields, hline⟩ := h
  obtain ⟨room, rfl⟩ : ∃ n, room = n + 2 := by
    cases hroom : room - 1 with
    | zero =>
      rw [hroom] at hcontext
      cases hcontext
    | succ n => exact ⟨n, by omega⟩
  have hcontext : (Json.object context).Fits (room + 1) := hcontext
  cases hfields with
  | object hfields =>
  exact .object
    (Record.forall_mem_toJson .text hcontext fits_failure (fits_origin hline) hfields)

/-- **The line of a record is printable ASCII that is read back as one object**, and the object
shows the record: its message, its failure and its fields may hold any characters. There is a line
just if the object fits, and so wherever all that may be shown fits. -/
theorem Record.jsonLineAt_shows (clock : Clock) (room : Nat) (grade : Grade) (r : Record)
    {context : Fields} (hcontext : (Json.object context).Proper)
    (hfields : (Json.object r.fields).Proper) :
    (r.Fits room context → ∃ line, r.jsonLineAt clock room grade context = .ok line) ∧
      ((∃ line, r.jsonLineAt clock room grade context = .ok line) ↔
        (Json.object (r.toJson clock grade context)).Fits room) ∧
      ∀ line, r.jsonLineAt clock room grade context = .ok line →
        (∀ c ∈ line.toList, Json.isPrintableAscii c = true) ∧
          ∃ o, Json.read? line.toList = some (.object o) ∧ r.ShownAs clock grade context o := by
  refine ⟨fun hfits => writable_iff.2 hfits.toJson, writable_iff, fun line hline => ?_⟩
  have hproper : (Json.object (r.toJson clock grade context)).Proper :=
    r.proper_toJson hcontext hfields
  rw [(jsonLineAt_eq_ok_iff.1 hline).2]
  refine ⟨hproper.isPrintableAscii_compact, r.toJson clock grade context, hproper.read?_compact, ?_⟩
  cases hfields with
  | object hnames => exact r.shownAs_toJson hnames

/-- A failure whose texts break lines and quotes, with fields that claim names of the line. -/
def alarm : Record where
  level := .critical
  logger := "app.\"main\""
  message := "one\ntwo 🚨\x7f"
  fields := [("context", .text "its own"), ("source", .null), ("_hidden", .bool true),
    ("half", .real 0.5), ("tags", .array [.text "\t", .object [("é", .int (-12))]])]
  failure := some (.fault ⟨"ValueError", "back\\slash"⟩)
  origin := ⟨"app.py", 3, some "main"⟩

/-- Its line at a level of its own, inside a block with a context. -/
theorem jsonLineAt_shows_alarm :
    ∃ line o, alarm.jsonLineAt ⟨"<T>", "<N>"⟩ 900 ⟨"ALERT", 45⟩ [("run", .int 7)] = .ok line ∧
      '\n' ∉ line.toList ∧ Json.read? line.toList = some (.object o) ∧
      Table.get? o "message" = some (.text "one\ntwo 🚨\x7f") ∧
      Table.get? o "level" = some (.text "ALERT") ∧
      Table.get? o "context" = some (.text "its own") ∧
      Table.get? o "source" = some (Origin.toJson ⟨"app.py", 3, some "main"⟩) ∧
      "_hidden" ∉ Table.keys o := by
  have hcontext : (Json.object [("run", .int 7)]).Proper :=
    .object (by decide) (List.forall_mem_singleton.2 (.int 7))
  have hfields : (Json.object alarm.fields).Proper := by
    have hobject : (Json.object [("é", .int (-12))]).Proper :=
      .object (by decide) (List.forall_mem_singleton.2 (.int _))
    have hitems : (Json.array [.text "\t", .object [("é", .int (-12))]]).Proper :=
      .array (List.forall_mem_cons.2 ⟨.text _, List.forall_mem_singleton.2 hobject⟩)
    refine .object (by decide) (List.forall_mem_cons.2 ⟨.text _, List.forall_mem_cons.2 ⟨.null,
      List.forall_mem_cons.2 ⟨.bool _, List.forall_mem_cons.2 ⟨.real ?_,
        List.forall_mem_singleton.2 hitems⟩⟩⟩⟩)
    decide +kernel
  have hfits : alarm.Fits 900 [("run", .int 7)] := by
    have hobject : (Json.object [("é", .int (-12))]).Fits 898 :=
      .object (List.forall_mem_singleton.2 (.int (by decide)))
    have hitems : (Json.array [.text "\t", .object [("é", .int (-12))]]).Fits 899 :=
      .array (List.forall_mem_cons.2 ⟨.text _, List.forall_mem_singleton.2 hobject⟩)
    refine ⟨.object (List.forall_mem_singleton.2 (.int (by decide))), .object ?_, by decide⟩
    exact List.forall_mem_cons.2 ⟨.text _, List.forall_mem_cons.2 ⟨.null,
      List.forall_mem_cons.2 ⟨.bool _, List.forall_mem_cons.2 ⟨.real _,
        List.forall_mem_singleton.2 hitems⟩⟩⟩⟩
  obtain ⟨hexists, -, hshows⟩ :=
    Record.jsonLineAt_shows ⟨"<T>", "<N>"⟩ 900 ⟨"ALERT", 45⟩ alarm hcontext hfields
  obtain ⟨line, hline⟩ := hexists hfits
  obtain ⟨hascii, o, hread, hshown⟩ := hshows line hline
  refine ⟨line, o, hline, fun hfeed => ?_, hread, hshown.message, hshown.level (by decide),
    ?_, ?_, ?_⟩
  · cases hascii '\n' hfeed
  · exact hshown.field ("context", .text "its own") List.mem_cons_self (by decide) (by decide)
      (by decide)
  · exact (hshown.source (.inr (by decide)) _).2 ⟨by decide, rfl⟩
  · intro hmem
    rcases hshown.names "_hidden" hmem with hstanding | ⟨-, -, hprivate⟩
    · exact absurd hstanding (by decide)
    · cases hprivate

/-- A plain record with a value of its own. -/
def remark (v : Json) : Record where
  level := .info
  logger := "app"
  message := "hello"
  fields := [("n", v)]

/-- There is no line for it if the value cannot be written inside of an object. -/
theorem jsonLineAt_remark {room : Nat} {v : Json} {e : Json.WriteError}
    (h : v.written room = .error e) :
    (remark v).jsonLineAt ⟨"<T>", "<N>"⟩ (room + 1) ⟨"INFO", 20⟩ [] = .error e := by
  have hn : (!reservedNames.contains "n" && !isPrivate "n") = true := by decide
  have hshown : (remark v).shownFields = [("n", v)] := List.filter_cons_of_pos hn
  have hfields : (remark v).toJson ⟨"<T>", "<N>"⟩ ⟨"INFO", 20⟩ [] =
      [("timestamp", .text "<T>"), ("level", .text "INFO"), ("logger", .text "app"),
        ("message", .text "hello"), ("n", v)] := by
    rw [Record.toJson, hshown]
    rfl
  rw [Record.jsonLineAt, hfields, Json.written]
  simp only [Json.writtenFields, h]
  rfl

/-- A plain record that asks for a failure where there is none. -/
def unfailed : Record := { remark .null with failure := some .absent }

/-- **Not every record has a line that shows it**: an integer of 4301 digits leaves it without one,
and so do lists in each other for which there is no room. A record that asks for a failure where
there is none has a line, and the line shows no failure. -/
theorem jsonLineAt_unwritten :
    (remark (.int (10 ^ 4300 : Nat))).jsonLineAt ⟨"<T>", "<N>"⟩ 900 ⟨"INFO", 20⟩ [] =
        .error .numeral ∧
      (remark (Json.nested 900)).jsonLineAt ⟨"<T>", "<N>"⟩ 900 ⟨"INFO", 20⟩ [] = .error .depth ∧
      ∃ line o, unfailed.jsonLineAt ⟨"<T>", "<N>"⟩ 900 ⟨"INFO", 20⟩ [] = .ok line ∧
        Json.read? line.toList = some (.object o) ∧ Table.get? o "exception" = none := by
  refine ⟨jsonLineAt_remark ?_, jsonLineAt_remark (Json.written_nested (by decide)), ?_⟩
  · rw [Json.written, if_neg (Json.not_hasNumeral_tenPow (by decide))]
  · have hproper : (Json.object (unfailed.toJson ⟨"<T>", "<N>"⟩ ⟨"INFO", 20⟩ [])).Proper :=
      unfailed.proper_toJson (.object .nil (List.forall_mem_nil _))
        (.object (by decide) (List.forall_mem_singleton.2 .null))
    have hfits : unfailed.Fits 900 [] :=
      ⟨.object (List.forall_mem_nil _), .object (List.forall_mem_singleton.2 .null), by decide⟩
    obtain ⟨line, hline⟩ := Record.writable_iff.2 hfits.toJson
    refine ⟨line, unfailed.toJson ⟨"<T>", "<N>"⟩ ⟨"INFO", 20⟩ [], hline, ?_, ?_⟩
    · rw [(Record.jsonLineAt_eq_ok_iff.1 hline).2]
      exact hproper.read?_compact
    · refine Option.eq_none_iff_forall_ne_some.2 fun v hv => ?_
      have hshown : unfailed.ShownAs ⟨"<T>", "<N>"⟩ ⟨"INFO", 20⟩ []
          (unfailed.toJson ⟨"<T>", "<N>"⟩ ⟨"INFO", 20⟩ []) := unfailed.shownAs_toJson (by decide)
      obtain ⟨f, hf, -⟩ := (hshown.exception (by decide) v).1 hv
      cases hf

end PatchTriage.Log

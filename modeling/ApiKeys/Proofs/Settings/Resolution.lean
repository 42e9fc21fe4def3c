import ApiKeys.Proofs.Settings.Assignments
import ApiKeys.Proofs.Settings.Values

/-!
# Where settings come from

Of the sources that name a setting the first decides on its value: the arguments of the call, the
environment, the settings file, the default (`Given.Takes`). Nothing else that the sources hold has
an influence, unless the value is a line of the file that refers to it (`Given.AgreeOn`).
-/

namespace ApiKeys.Settings

/-- The arguments that tell the loader what it is to read and how settings are looked up there. -/
def lookupArguments : List Text :=
  ["__pydantic_self__", "_build_sources", "_env_nested_max_split", "_env_prefix",
    "_env_prefix_target", "_env_file", "_env_file_encoding", "_env_file_depth", "_secrets_dir",
    "_case_sensitive", "_env_ignore_empty", "_env_parse_none_str", "_cli_parse_args"]

/-- The name of the variable of a setting, in the form in which names are compared. -/
def Name.variableName (n : Name) : Text := Text.lower (("AUTHKEYS_" : Text) ++ n.text)

/-- What settings are given by. -/
structure Given where
  arguments : Settings.Arguments
  environment : Environment
  /-- The text of the settings file, if there is one. -/
  file : Option String

namespace Given

/-- The sources, with the file as octets. -/
def sources (g : Given) : Sources :=
  ⟨g.arguments, g.environment, g.file.map fun s => s.toUTF8.data.toList⟩

/-- The lines of the file. -/
def lines (g : Given) : List DotEnv.Binding :=
  (g.file.map fun s : String => DotEnv.lines (s : Text)).getD []

/-- No argument says how settings are looked up, and names of the file differ in more than case. -/
structure Ordinary (g : Given) : Prop where
  arguments : ∀ m ∈ g.arguments, m.1 ∉ lookupArguments
  lines : DotEnv.Apart g.lines

/-! ## The sources of one setting -/

/-- The first argument that names a setting gives this value. -/
def Argument (g : Given) (n : Name) (v : Value) : Prop :=
  ∃ before name after, g.arguments = before ++ (name, v) :: after ∧
    Text.lower name = (n.text : Text) ∧ ∀ m ∈ before, Text.lower m.1 ≠ (n.text : Text)

/-- The last variable that names a setting has this text. -/
def Variable (g : Given) (n : Name) (t : Text) : Prop :=
  ∃ before, Environment.LastNamed n.variableName g.environment before t

/-- The last line of the file that names a setting has this text, once its references have been
replaced by what the lines before it say. -/
def Line (g : Given) (n : Name) (t : Text) : Prop :=
  ∃ before v, Environment.LastNamed n.variableName g.lines before (some v) ∧
    t = DotEnv.expand (DotEnv.meaning g.environment (DotEnv.bound g.environment before)) v

/-- No argument names the setting. -/
def Unargued (g : Given) (n : Name) : Prop := ∀ v, ¬ g.Argument n v

/-- Neither an argument nor a variable names the setting. -/
def Unset (g : Given) (n : Name) : Prop := g.Unargued n ∧ ∀ t, ¬ g.Variable n t

/-- No source names the setting, or only a last line without a value. -/
def Unnamed (g : Given) (n : Name) : Prop := g.Unset n ∧ ∀ t, ¬ g.Line n t

/-- The value that a setting takes is that of the first source that names it. -/
inductive Takes (g : Given) (n : Name) : Value → Prop
  | ofArgument {v : Value} : g.Argument n v → g.Takes n v
  | ofVariable {t : Text} : g.Unargued n → g.Variable n t → g.Takes n (.text t)
  | ofLine {t : Text} : g.Unset n → g.Line n t → g.Takes n (.text t)
  | ofDefault : g.Unnamed n → g.Takes n n.default

/-- Two say the same of a setting where they name it first. What they say of it elsewhere is left
open, as is what they say of other names, unless the line that decides refers to them. -/
inductive AgreeOn (g g' : Given) (n : Name) : Prop
  | onArgument {v : Value} : g.Argument n v → g'.Argument n v → AgreeOn g g' n
  | onVariable {t : Text} : g.Unargued n → g'.Unargued n → g.Variable n t → g'.Variable n t →
      AgreeOn g g' n
  | onLine {before before' : List DotEnv.Binding} {v : Text} : g.Unset n → g'.Unset n →
      Environment.LastNamed n.variableName g.lines before (some v) →
      Environment.LastNamed n.variableName g'.lines before' (some v) →
      (∀ r, DotEnv.Refers v r →
        DotEnv.meaning g.environment (DotEnv.bound g.environment before) r =
          DotEnv.meaning g'.environment (DotEnv.bound g'.environment before') r) →
      AgreeOn g g' n
  | onDefault : g.Unnamed n → g'.Unnamed n → AgreeOn g g' n

variable {g g' : Given} {n : Name} {v : Value} {t : Text}

theorem line_of_assignments {s : String} {ls before : List (Text × Text)} (hfile : g.file = some s)
    (hs : (s : Text) = DotEnv.assignments ls) (hplain : ∀ l ∈ ls, DotEnv.Plain l.1 l.2)
    (hlast : Environment.LastNamed n.variableName ls before t) (ht : ∀ r, ¬ DotEnv.Refers t r) :
    g.Line n t := by
  refine ⟨before.map fun l => (l.1, some l.2), t, ?_, (DotEnv.expand_eq_self _ ht).symm⟩
  rw [lines, hfile, Option.map_some, Option.getD_some, hs, DotEnv.lines_assignments hplain]
  exact hlast.map some

theorem AgreeOn.takes (h : g.AgreeOn g' n) : ∃ v, g.Takes n v ∧ g'.Takes n v := by
  cases h with
  | onArgument hv hv' => exact ⟨_, .ofArgument hv, .ofArgument hv'⟩
  | onVariable ha ha' ht ht' => exact ⟨_, .ofVariable ha ht, .ofVariable ha' ht'⟩
  | onLine hu hu' hv hv' hmeaning =>
    refine ⟨_, .ofLine hu ⟨_, _, hv, rfl⟩, .ofLine hu' ⟨_, _, hv', ?_⟩⟩
    exact DotEnv.expand_congr hmeaning
  | onDefault hu hu' => exact ⟨_, .ofDefault hu, .ofDefault hu'⟩

/-! ## Looking up -/

/-- How settings are looked up unless arguments say otherwise. -/
def search : Search := ⟨Search.defaultStem, .text Search.defaultStem, false, false, none⟩

/-- What is known of the sources where no argument says how settings are looked up. -/
def known (g : Given) : Known := ⟨[], DotEnv.bound g.environment g.lines, search⟩

/-- The text of the environment for a setting. -/
def variableText? (g : Given) (n : Name) : Option Text :=
  search.find? (search.key n) (g.environment.map fun (name, t) => (name, some t))

/-- The text of the file for a setting. -/
def lineText? (g : Given) (n : Name) : Option Text := search.find? (search.key n) g.known.bound

theorem argument?_eq_some_iff : argument? g.arguments n = some v ↔ g.Argument n v := by
  rw [argument?, Option.map_eq_some_iff]
  constructor
  · rintro ⟨⟨name, v⟩, hfind, rfl⟩
    obtain ⟨hname, before, after, heq, hbefore⟩ := List.find?_eq_some_iff_append.1 hfind
    refine ⟨before, name, after, heq, of_decide_eq_true hname, fun m hm => ?_⟩
    simpa using hbefore m hm
  · rintro ⟨before, name, after, heq, hname, hbefore⟩
    refine ⟨(name, v), List.find?_eq_some_iff_append.2
      ⟨decide_eq_true hname, before, after, heq, fun m hm => ?_⟩, rfl⟩
    simpa using hbefore m hm

theorem find?_search (entries : List (Text × Option Text)) :
    search.find? (search.key n) entries =
      ((entries.reverse.find? fun e => Text.lower e.1 = n.variableName).map (·.2)).join :=
  rfl

theorem variableText?_eq_some_iff : g.variableText? n = some t ↔ g.Variable n t := by
  rw [variableText?, find?_search, ← List.map_reverse, List.find?_map, Option.map_map,
    Option.join_eq_some_iff, Variable, ← Environment.find?_reverse_eq_some_iff,
    Option.map_eq_some_iff, Option.map_eq_some_iff]
  simp

theorem lineText?_eq_some_iff (hg : g.Ordinary) : g.lineText? n = some t ↔ g.Line n t := by
  rw [lineText?, find?_search]
  exact DotEnv.find?_bound_eq_some_iff hg.lines

theorem unargued_iff : g.Unargued n ↔ argument? g.arguments n = none := by
  simp only [Unargued, ← argument?_eq_some_iff, Option.eq_none_iff_forall_ne_some, ne_eq]

theorem unset_iff : g.Unset n ↔ argument? g.arguments n = none ∧ g.variableText? n = none := by
  simp only [Unset, unargued_iff, ← variableText?_eq_some_iff, Option.eq_none_iff_forall_ne_some,
    ne_eq]

theorem unnamed_iff (hg : g.Ordinary) : g.Unnamed n ↔
    (argument? g.arguments n = none ∧ g.variableText? n = none) ∧ g.lineText? n = none := by
  simp only [Unnamed, unset_iff, ← lineText?_eq_some_iff hg, Option.eq_none_iff_forall_ne_some,
    ne_eq]

theorem fileValue?_search (bound : File.Bindings) :
    search.fileValue? n bound = (search.find? (search.key n) bound).map .text := by
  have hkey : search.folded Search.defaultStem ++ (n.text : Text) = search.key n := by
    cases n <;> decide
  have hextra : search.extra? n bound = none := if_pos (Or.inr hkey)
  rw [Search.fileValue?, hextra]
  rfl

theorem raw_known (g : Given) (n : Name) : g.sources.raw g.known n =
    ((argument? g.arguments n).or
      (((g.variableText? n).map .text).or ((g.lineText? n).map .text))).getD n.default := by
  rw [lineText?, ← fileValue?_search]
  rfl

/-- **The value that is read for a setting is the one that it takes.** -/
theorem takes_iff (hg : g.Ordinary) : g.Takes n v ↔ v = g.sources.raw g.known n := by
  rw [raw_known]
  constructor
  · intro h
    cases h with
    | ofArgument hv => simp [argument?_eq_some_iff.2 hv]
    | ofVariable hu ht => simp [unargued_iff.1 hu, variableText?_eq_some_iff.2 ht]
    | ofLine hu ht => simp [unset_iff.1 hu, (lineText?_eq_some_iff hg).2 ht]
    | ofDefault hu => simp [(unnamed_iff hg).1 hu]
  · rintro rfl
    cases harg : argument? g.arguments n with
    | some u => exact .ofArgument (argument?_eq_some_iff.1 harg)
    | none =>
      cases henv : g.variableText? n with
      | some t => exact .ofVariable (unargued_iff.2 harg) (variableText?_eq_some_iff.1 henv)
      | none =>
        cases hfile : g.lineText? n with
        | some t => exact .ofLine (unset_iff.2 ⟨harg, henv⟩) ((lineText?_eq_some_iff hg).1 hfile)
        | none => exact .ofDefault ((unnamed_iff hg).2 ⟨⟨harg, henv⟩, hfile⟩)

/-! ## Loading -/

theorem get?_lookupArgument (hg : g.Ordinary) (name : Text) (hname : name ∈ lookupArguments) :
    g.arguments.get? name = none := by
  rw [Arguments.get?, List.lookup_eq_none_iff]
  intro m hm
  rw [bne_iff_ne]
  rintro rfl
  exact hg.arguments m hm hname

theorem readText_utf8 (s : String) : File.readText .utf8 s.toUTF8.data.toList = .ok s := by
  have hdecode : Encoding.decode .utf8 s.toUTF8.data.toList = .ok s := by
    rw [Encoding.decode, Text.ofUtf8, Text.ofUtf8?_eq_some_iff.2 rfl]
    rfl
  rw [File.readText, hdecode]
  rfl

theorem bindings_sources (hg : g.Ordinary) :
    File.bindings g.arguments g.environment g.sources.file = .ok g.known.bound := by
  have hpath : Path.ofValue g.environment (.text ".env") = .ok ⟨false, [".env"]⟩ := rfl
  have hplace : Path.isFile ⟨false, [(".env" : Text)]⟩ = .ok true := if_neg (by decide)
  have hread : File.readPath g.arguments g.environment g.sources.file (.text ".env") =
      .ok g.known.bound := by
    rw [File.readPath, File.encodingOf, get?_lookupArgument hg _ (by decide +kernel),
      File.checkDepth, get?_lookupArgument hg _ (by decide +kernel), hpath]
    simp only [bind, Except.bind, hplace]
    cases hfile : g.file with
    | none =>
      rw [known, lines, sources, hfile]
      rfl
    | some s =>
      have hlines : g.lines = DotEnv.lines s := by rw [lines, hfile]; rfl
      have hsource : g.sources.file = some s.toUTF8.data.toList := by rw [sources, hfile]; rfl
      rw [known, hlines, hsource, ← DotEnv.parse_eq]
      simp only [readText_utf8]
      rfl
  rw [File.bindings, get?_lookupArgument hg _ (by decide +kernel)]
  simp only [Option.getD, File.listed, bind, Except.bind, List.mapM_cons, hread]
  cases hbound : g.known.bound <;> rfl

theorem known_sources (hg : g.Ordinary) : g.sources.known = .ok g.known := by
  have hnested := get?_lookupArgument hg "_env_nested_max_split" (by decide +kernel)
  have hprefix := get?_lookupArgument hg "_env_prefix" (by decide +kernel)
  have harguments : Search.checkArguments g.arguments = .ok () := by
    rw [Search.checkArguments, Search.stemArgument, hnested, hprefix]
    rfl
  have hwords : CommandLine.values g.arguments = .ok [] := by
    rw [CommandLine.values, get?_lookupArgument hg _ (by decide +kernel)]
    rfl
  have hsearch : Search.ofArguments g.arguments = .ok search := by
    rw [Search.ofArguments, Search.stemOf, Search.stemsVariables, Search.stemArgument, hprefix,
      Search.flagArgument, Search.flagArgument, Search.nullWordOf,
      get?_lookupArgument hg "_env_prefix_target" (by decide +kernel),
      get?_lookupArgument hg "_case_sensitive" (by decide +kernel),
      get?_lookupArgument hg "_env_ignore_empty" (by decide +kernel),
      get?_lookupArgument hg "_env_parse_none_str" (by decide +kernel)]
    rfl
  have hsecrets : File.checkSecrets g.arguments g.environment g.sources.file = .ok () := by
    rw [File.checkSecrets, get?_lookupArgument hg _ (by decide +kernel)]
    rfl
  have hbound := bindings_sources hg
  simp only [Sources.known]
  rw [show g.sources.arguments = g.arguments from rfl, harguments,
    show g.sources.environment = g.environment from rfl, hbound, hwords, hsearch,
    hsecrets]
  rfl

theorem load_sources (hg : g.Ordinary) :
    load g.sources = (reading (g.sources.raw g.known)).toExcept := by
  have hnames : Search.checkNames g.arguments = .ok () := by
    rw [Search.checkNames, get?_lookupArgument hg _ (by decide +kernel)]
    rfl
  have hbuild := get?_lookupArgument hg "_build_sources" (by decide +kernel)
  rw [load, show g.sources.arguments = g.arguments from rfl, hnames, hbuild,
    known_sources hg]
  rfl

/-! ## All settings -/

theorem load_eq_ok_iff (hg : g.Ordinary) (σ : Settings) :
    load g.sources = .ok σ ↔ ∀ n : Name, n.Reads σ (g.sources.raw g.known n) := by
  rw [load_sources hg, Reading.toExcept_eq_ok_iff, reading_eq_value_iff]

theorem exists_load (hg : g.Ordinary)
    (hgood : ∀ n : Name, n.issue? (g.sources.raw g.known n) = none) :
    ∃ σ, load g.sources = .ok σ ∧ ∀ n v, g.Takes n v → n.Reads σ v := by
  obtain ⟨σ, hσ⟩ := exists_reads_iff.2 fun n => Name.issue?_eq_none_iff.1 (hgood n)
  refine ⟨σ, (load_eq_ok_iff hg σ).2 hσ, fun n v hv => ?_⟩
  rw [(takes_iff hg).1 hv]
  exact hσ n

/-- What comes of the sources where the settings take these values. -/
structure Resolves (g : Given) (raw : Name → Value) : Prop where
  takes : ∀ n v, g.Takes n v ↔ v = raw n
  /-- In a file of assignments the last one that names a setting is its line, unless it has
  references. -/
  written : ∀ (n : Name) (s : String) (ls before : List (Text × Text)) (t : Text),
    g.file = some s → (s : Text) = DotEnv.assignments ls → (∀ l ∈ ls, DotEnv.Plain l.1 l.2) →
    Environment.LastNamed n.variableName ls before t → (∀ r, ¬ DotEnv.Refers t r) → g.Line n t
  /-- Each setting is what its value stands for. -/
  loads : ∀ σ, load g.sources = .ok σ ↔ ∀ n : Name, n.Reads σ (raw n)
  succeeds : (∃ σ, load g.sources = .ok σ) ↔ ∀ n : Name, n.Accepts (raw n)
  /-- Otherwise there is one issue for each setting whose value is bad, in the order of the
  settings. -/
  fails : (∃ n : Name, ¬ n.Accepts (raw n)) → load g.sources =
    .error (.malformed (Search.names.filterMap fun n => n.issue? (raw n)))
  issue : ∀ n : Name, (n.issue? (raw n) = none ↔ n.Accepts (raw n)) ∧
    ∀ i, n.issue? (raw n) = some i → i.place = [.member n.text]
  /-- In debugging mode the log level is the most detailed one, whatever else is said of it. -/
  debugging : ∀ σ, load g.sources = .ok σ → TruthValue (raw .debug) true →
    σ.effectiveLogLevel = "DEBUG"
  leveled : ∀ σ t, load g.sources = .ok σ → TruthValue (raw .debug) false →
    TextValue (raw .logLevel) t → σ.effectiveLogLevel = t.upper

/-- **The first source that names a setting decides on its value, and on nothing else.** All are
read if all these values are good, and otherwise each bad one is reported. What is said where no
setting takes its value has no influence. -/
theorem resolution (hg : g.Ordinary) : ∃ raw, g.Resolves raw ∧
    ∀ g' : Given, g'.Ordinary → (∀ n, g.AgreeOn g' n) → load g'.sources = load g.sources := by
  have hloads := load_eq_ok_iff hg
  refine ⟨g.sources.raw g.known, ⟨fun n v => takes_iff hg, ?_, hloads, ?_, ?_, ?_, ?_, ?_⟩, ?_⟩
  · exact fun n s ls before t hfile hs hplain hlast ht =>
      line_of_assignments hfile hs hplain hlast ht
  · simp only [hloads, exists_reads_iff]
  · intro hbad
    rw [load_sources hg, toExcept_reading_of_bad hbad]
  · exact fun n => ⟨Name.issue?_eq_none_iff, fun i => Name.place_issue?⟩
  · intro σ hσ hdebug
    have hσdebug : σ.debug = true := ((hloads σ).1 hσ .debug).unique hdebug
    rw [effectiveLogLevel, if_pos hσdebug]
  · intro σ t hσ hdebug hlevel
    have hσdebug : σ.debug = false := ((hloads σ).1 hσ .debug).unique hdebug
    have hσlevel : σ.logLevel = t := ((hloads σ).1 hσ .logLevel).unique hlevel
    rw [effectiveLogLevel, if_neg (by simp [hσdebug]), hσlevel]
  · intro g' hg' hagree
    have hraw : g'.sources.raw g'.known = g.sources.raw g.known := by
      funext n
      obtain ⟨v, hv, hv'⟩ := (hagree n).takes
      rw [← (takes_iff hg).1 hv, ← (takes_iff hg').1 hv']
    rw [load_sources hg, load_sources hg', hraw]

-- A bad value is reported where it decides, even if a good one stands behind it.
example : load (Given.mk [("debug", .text "maybe")]
    [("AUTHKEYS_DEBUG", "true"), ("AUTHKEYS_ENVIRONMENT", "moon")] none).sources =
      .error (.malformed [⟨.literalError, [.member "environment"]⟩,
        ⟨.boolParsing, [.member "debug"]⟩]) :=
  rfl

/-- What several sources say of some settings, in several spellings, beside names of no setting. -/
def layered : Given :=
  ⟨[("Debug", .text "YES"), ("surplus", .null)],
    [("HOME", "/root"), ("AUTHKEYS_DEBUG", "maybe"), ("AuthKeys_Environment", "production")],
    some ("AUTHKEYS_ENVIRONMENT=moon\nAUTHKEYS_LOG_LEVEL=info\n" ++
      "AUTHKEYS_LOG_LEVEL=$\x7bLEVEL:-warning\x7d\nSURPLUS=1\n")⟩

/-- What decides there, and nothing else. -/
def bare : Given :=
  ⟨[("Debug", .text "YES")], [("AuthKeys_Environment", "production")],
    some "AUTHKEYS_LOG_LEVEL=$\x7bLEVEL:-warning\x7d\n"⟩

theorem lines_layered : layered.lines =
    [(("AUTHKEYS_ENVIRONMENT" : Text), some ("moon" : Text)),
      (("AUTHKEYS_LOG_LEVEL" : Text), some ("info" : Text)),
      (("AUTHKEYS_LOG_LEVEL" : Text), some ("$\x7bLEVEL:-warning\x7d" : Text)),
      (("SURPLUS" : Text), some ("1" : Text))] := by
  decide +kernel

theorem lines_bare : bare.lines =
    [(("AUTHKEYS_LOG_LEVEL" : Text), some ("$\x7bLEVEL:-warning\x7d" : Text))] := by
  decide +kernel

theorem ordinary_layered : layered.Ordinary :=
  ⟨by decide, by rw [lines_layered]; decide⟩

theorem ordinary_bare : bare.Ordinary :=
  ⟨by decide, by rw [lines_bare]; decide⟩

theorem bound_layered : layered.known.bound =
    [(("AUTHKEYS_ENVIRONMENT" : Text), some ("moon" : Text)),
      (("AUTHKEYS_LOG_LEVEL" : Text), some ("warning" : Text)),
      (("SURPLUS" : Text), some ("1" : Text))] := by
  rw [known, lines_layered]
  decide +kernel

theorem bound_bare :
    bare.known.bound = [(("AUTHKEYS_LOG_LEVEL" : Text), some ("warning" : Text))] := by
  rw [known, lines_bare]
  decide +kernel

theorem lastNamed_layered : Environment.LastNamed (Name.variableName .logLevel) layered.lines
    [("AUTHKEYS_ENVIRONMENT", some ("moon" : Text)), ("AUTHKEYS_LOG_LEVEL", some ("info" : Text))]
    (some ("$\x7bLEVEL:-warning\x7d" : Text)) := by
  rw [lines_layered]
  exact ⟨"AUTHKEYS_LOG_LEVEL", [("SURPLUS", some ("1" : Text))], rfl, by decide, by decide⟩

theorem lastNamed_bare : Environment.LastNamed (Name.variableName .logLevel) bare.lines []
    (some ("$\x7bLEVEL:-warning\x7d" : Text)) := by
  rw [lines_bare]
  exact ⟨"AUTHKEYS_LOG_LEVEL", [], rfl, by decide, by decide⟩

theorem refers_level {r : Text × Text}
    (h : DotEnv.Refers ("$\x7bLEVEL:-warning\x7d" : Text) r) :
    r = (("LEVEL" : Text), ("warning" : Text)) := by
  cases h with
  | here hr => exact (congrArg Prod.fst (Option.some.inj hr)).symm
  | after hr hleft =>
    cases (Option.some.inj hr)
    cases hleft
  | skip hskip => exact nomatch hskip _ rfl

theorem agreeOn_bare (n : Name) : layered.AgreeOn bare n := by
  cases n with
  | environment =>
    exact .onVariable (t := "production") (unargued_iff.2 rfl) (unargued_iff.2 rfl)
      (variableText?_eq_some_iff.1 rfl) (variableText?_eq_some_iff.1 rfl)
  | debug =>
    exact .onArgument (v := .text "YES") (argument?_eq_some_iff.1 rfl)
      (argument?_eq_some_iff.1 rfl)
  | logLevel =>
    refine .onLine (unset_iff.2 ⟨rfl, rfl⟩) (unset_iff.2 ⟨rfl, rfl⟩) lastNamed_layered
      lastNamed_bare fun r hr => ?_
    rw [refers_level hr]
    decide +kernel
  | _ =>
    exact .onDefault ((unnamed_iff ordinary_layered).2
        ⟨⟨rfl, rfl⟩, by rw [lineText?, bound_layered]; decide⟩)
      ((unnamed_iff ordinary_bare).2 ⟨⟨rfl, rfl⟩, by rw [lineText?, bound_bare]; decide⟩)

/-- What is shadowed or unknown has no influence, and debugging mode comes from an argument. -/
theorem resolution_layered : load bare.sources = load layered.sources ∧
    ∃ σ, load layered.sources = .ok σ ∧ σ.environment = .production ∧ σ.logLevel = "warning" ∧
      σ.effectiveLogLevel = "DEBUG" := by
  obtain ⟨raw, h, hsame⟩ := resolution ordinary_layered
  have henvironment : raw .environment = .text "production" :=
    ((h.takes _ _).1 (.ofVariable (unargued_iff.2 rfl) (variableText?_eq_some_iff.1 rfl))).symm
  have hdebug : raw .debug = .text "YES" :=
    ((h.takes _ _).1 (.ofArgument (argument?_eq_some_iff.1 rfl))).symm
  have hlevel : raw .logLevel = .text "warning" :=
    ((h.takes _ _).1 (.ofLine (unset_iff.2 ⟨rfl, rfl⟩)
      ⟨_, _, lastNamed_layered, by decide +kernel⟩)).symm
  have hgood : ∀ n : Name, n.Accepts (raw n) := by
    intro n
    rw [← (h.takes n _).1 ((takes_iff ordinary_layered).2 rfl), ← Name.issue?_eq_none_iff,
      raw_known, lineText?, bound_layered]
    cases n <;> rfl
  obtain ⟨σ, hσ⟩ := h.succeeds.2 hgood
  have hreads := (h.loads σ).1 hσ
  refine ⟨hsame bare ordinary_bare agreeOn_bare, σ, hσ, ?_, ?_, h.debugging σ hσ ?_⟩
  · have henv := readDeployment_eq_ok_iff.2 (hreads .environment)
    rw [henvironment] at henv
    exact (Except.ok.inj henv).symm
  · have htext : TextValue (raw .logLevel) σ.logLevel := hreads .logLevel
    rw [hlevel] at htext
    exact htext.unique (.text _)
  · rw [hdebug]
    exact readBool_eq_ok_iff.1 rfl

/-- A file that refers to a variable which belongs to no setting. -/
def referring (env : Environment) : Given :=
  ⟨[], env, some "AUTHKEYS_LOG_LEVEL=$\x7bLEVEL\x7d\n"⟩

/-- A file that names a setting last without an equals sign. -/
def unbinding : Given := ⟨[], [], some "AUTHKEYS_DEBUG=true\nAUTHKEYS_DEBUG\n"⟩

/-- Arguments that move variables. -/
def moving : Given := ⟨[("_env_prefix", .text "X_")], [("AUTHKEYS_DEBUG", "true")], none⟩

/-- **Names of no setting may have an influence**, as references and as arguments of the loader, and
the last line that names a setting may leave it to its default. -/
theorem resolution_exceptions :
    (moving.Unargued .debug ∧ moving.Variable .debug "true" ∧
      ∃ σ, load moving.sources = .ok σ ∧ σ.debug = false) ∧
    (unbinding.lines =
        [(("AUTHKEYS_DEBUG" : Text), some ("true" : Text)), (("AUTHKEYS_DEBUG" : Text), none)] ∧
      ∃ σ, load unbinding.sources = .ok σ ∧ σ.debug = false) ∧
    ∃ σ τ, load (referring [("LEVEL", "warning")]).sources = .ok σ ∧
      load (referring []).sources = .ok τ ∧ σ.logLevel = "warning" ∧ τ.logLevel = [] := by
  have hunbinding : unbinding.Ordinary := ⟨by decide, by decide +kernel⟩
  have hnamed : (referring [("LEVEL", "warning")]).Ordinary := ⟨by decide, by decide +kernel⟩
  have hunnamed : (referring []).Ordinary := ⟨by decide, by decide +kernel⟩
  refine ⟨⟨unargued_iff.2 rfl, variableText?_eq_some_iff.1 rfl, _, rfl, rfl⟩,
    ⟨by decide +kernel, ?_⟩, ?_⟩
  · obtain ⟨σ, hσ, hreads⟩ := exists_load hunbinding fun n => by cases n <;> decide +kernel
    have hdebug : TruthValue (.bool false) σ.debug :=
      hreads .debug _ (.ofDefault ((unnamed_iff hunbinding).2 (by decide +kernel)))
    exact ⟨σ, hσ, hdebug.unique (.bool false)⟩
  · obtain ⟨σ, hσ, hreads⟩ := exists_load hnamed fun n => by cases n <;> decide +kernel
    obtain ⟨τ, hτ, hreads'⟩ := exists_load hunnamed fun n => by cases n <;> decide +kernel
    have hlevel : TextValue (.text "warning") σ.logLevel :=
      hreads .logLevel _ (.ofLine (unset_iff.2 ⟨rfl, rfl⟩)
        ((lineText?_eq_some_iff hnamed).1 (by decide +kernel)))
    have hempty : TextValue (.text []) τ.logLevel :=
      hreads' .logLevel _ (.ofLine (unset_iff.2 ⟨rfl, rfl⟩)
        ((lineText?_eq_some_iff hunnamed).1 (by decide +kernel)))
    exact ⟨σ, τ, hσ, hτ, hlevel.unique (.text _), hempty.unique (.text _)⟩

end Given

end ApiKeys.Settings

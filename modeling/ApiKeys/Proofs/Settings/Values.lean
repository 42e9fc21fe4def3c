import ApiKeys.Proofs.Reading
import ApiKeys.Proofs.Text.Utf8
import ApiKeys.Settings.Basic

/-!
# What settings are read from

`Name.Reads` says what each setting is when it is read from a value, without reading. All settings
are read when each of them is (`reading_eq_value_iff`), and otherwise each of those that are not has
one issue, in the order of the settings (`toExcept_reading_of_bad`).
-/

namespace ApiKeys.Settings

/-! ## Texts, truth values and kinds of deployment -/

/-- The texts that values stand for: their own, or the one that octets encode. -/
inductive TextValue : Value → Text → Prop
  | text (t : Text) : TextValue (.text t) t
  | octets (s : String) : TextValue (.bytes s.toUTF8.data.toList) s

/-- The words for a truth value. -/
def wordsFor : Bool → List String
  | true => ["1", "on", "t", "true", "y", "yes"]
  | false => ["0", "off", "f", "false", "n", "no"]

/-- The truth values that values stand for. Words may be in any case. -/
inductive TruthValue : Value → Bool → Prop
  | bool (b : Bool) : TruthValue (.bool b) b
  | zero : TruthValue (.int 0) false
  | one : TruthValue (.int 1) true
  | floatZero (negative : Bool) (exponent : Int) :
      TruthValue (.float (.finite negative 0 exponent)) false
  | floatOne : TruthValue (.float (.finite false 1 0)) true
  | word {b : Bool} {cs : List Char} {w : String} : w ∈ wordsFor b →
      cs.map Char.toLower = w.toList → TruthValue (.text (Text.ofChars cs)) b
  | octets {b : Bool} {s : String} : TruthValue (.text s) b →
      TruthValue (.bytes s.toUTF8.data.toList) b

variable {v : Value} {b : Bool} {t : Text}

theorem asText_eq_ok_iff : v.asText = .ok t ↔ TextValue v t := by
  constructor
  · intro h
    cases v with
    | text u =>
      rw [← Except.ok.inj h]
      exact .text u
    | bytes octets =>
      simp only [Value.asText] at h
      split at h
      · next u hu =>
        rw [← Except.ok.inj h]
        obtain ⟨s, hs, rfl⟩ := Option.map_eq_some_iff.1 hu
        rw [Text.ofUtf8?_eq_some_iff.1 hu]
        exact .octets s
      · cases h
    | _ => cases h
  · intro h
    cases h with
    | text => rfl
    | octets s => rw [Value.asText, Text.ofUtf8?_eq_some_iff.2 rfl]

theorem TextValue.unique {u : Text} (ht : TextValue v t) (hu : TextValue v u) : t = u :=
  Except.ok.inj ((asText_eq_ok_iff.2 ht).symm.trans (asText_eq_ok_iff.2 hu))

theorem isWord_ofChars (words : List String) (cs : List Char) :
    isWord words (Text.ofChars cs) = true ↔ ∃ w ∈ words, cs.map Char.toLower = w.toList := by
  simp only [isWord, List.any_eq_true, decide_eq_true_eq]
  refine exists_congr fun w => and_congr_right fun _ => ?_
  have hlower : Text.ofChars (cs.map Char.toLower) = cs.map (CodePoint.char ∘ Char.toLower) :=
    List.map_map
  rw [Text.ofChars, List.map_map]
  constructor
  · intro h
    exact (Text.ofChars_injective (h.trans hlower.symm)).symm
  · intro h
    exact (congrArg Text.ofChars h.symm).trans hlower

theorem words_disjoint : ∀ w ∈ wordsFor true, ∀ w' ∈ wordsFor false, w ≠ w' := by
  decide

theorem readWord_eq_ok_iff : readWord t = .ok b ↔
    ∃ cs, t = Text.ofChars cs ∧ ∃ w ∈ wordsFor b, cs.map Char.toLower = w.toList := by
  cases hcs : t.chars? with
  | none =>
    refine iff_of_false (by simp [readWord, hcs]) ?_
    rintro ⟨cs, rfl, -⟩
    rw [Text.chars?_ofChars] at hcs
    cases hcs
  | some cs =>
    obtain rfl := Text.chars?_eq_some_iff.1 hcs
    have hyes := isWord_ofChars (wordsFor true) cs
    have hno := isWord_ofChars (wordsFor false) cs
    have hdisjoint : ¬ (isWord (wordsFor true) (Text.ofChars cs) = true ∧
        isWord (wordsFor false) (Text.ofChars cs) = true) := by
      rw [hyes, hno]
      rintro ⟨⟨w, hw, h⟩, w', hw', h'⟩
      exact words_disjoint w hw w' hw' (String.toList_inj.1 (h.symm.trans h'))
    have hread : readWord (Text.ofChars cs) =
        if isWord (wordsFor true) (Text.ofChars cs) then .ok true
        else if isWord (wordsFor false) (Text.ofChars cs) then .ok false
        else .error .boolParsing := by
      rw [readWord, hcs]
      rfl
    rw [hread]
    constructor
    · intro h
      refine ⟨cs, rfl, ?_⟩
      split_ifs at h with h₁ h₂
      · rw [← Except.ok.inj h]
        exact hyes.1 h₁
      · rw [← Except.ok.inj h]
        exact hno.1 h₂
    · rintro ⟨ds, heq, hw⟩
      obtain rfl := Text.ofChars_injective heq
      cases b with
      | true => rw [if_pos (hyes.2 hw)]
      | false => rw [if_neg fun h => hdisjoint ⟨h, hno.2 hw⟩, if_pos (hno.2 hw)]

theorem readBool_eq_ok_iff : readBool v = .ok b ↔ TruthValue v b := by
  constructor
  · intro h
    cases v with
    | bool c =>
      rw [← Except.ok.inj h]
      exact .bool c
    | int i =>
      rw [readBool] at h
      split_ifs at h with hzero hone
      · rw [hzero, ← Except.ok.inj h]
        exact .zero
      · rw [hone, ← Except.ok.inj h]
        exact .one
    | float x =>
      cases x with
      | finite negative digits exponent =>
        cases digits with
        | zero =>
          rw [← Except.ok.inj h]
          exact .floatZero negative exponent
        | succ n =>
          simp only [readBool] at h
          split_ifs at h with hwide hone
          obtain ⟨rfl, hn, rfl⟩ := hone
          rw [hn, ← Except.ok.inj h]
          exact .floatOne
      | _ => cases h
    | text t =>
      obtain ⟨cs, rfl, w, hw, heq⟩ := readWord_eq_ok_iff.1 h
      exact .word hw heq
    | bytes octets =>
      simp only [readBool] at h
      split at h
      · next u hu =>
        obtain ⟨s, hs, rfl⟩ := Option.map_eq_some_iff.1 hu
        obtain ⟨cs, hs, w, hw, heq⟩ := readWord_eq_ok_iff.1 h
        rw [Text.ofUtf8?_eq_some_iff.1 hu]
        exact .octets (hs ▸ .word hw heq)
      · cases h
    | _ => cases h
  · intro h
    induction h with
    | bool | zero | one | floatZero | floatOne => rfl
    | word hw heq => exact readWord_eq_ok_iff.2 ⟨_, rfl, _, hw, heq⟩
    | octets _ ih =>
      rw [readBool, Text.ofUtf8?_eq_some_iff.2 rfl]
      exact ih

theorem TruthValue.unique {c : Bool} (hb : TruthValue v b) (hc : TruthValue v c) : b = c :=
  Except.ok.inj ((readBool_eq_ok_iff.2 hb).symm.trans (readBool_eq_ok_iff.2 hc))

theorem readDeployment_eq_ok_iff {d : Deployment} :
    readDeployment v = .ok d ↔ v = .text d.name := by
  constructor
  · intro h
    cases v with
    | text t =>
      simp only [readDeployment] at h
      split_ifs at h
      split at h
      · next d' hd =>
        rw [Deployment.ofText?] at hd
        have hname := List.find?_some hd
        rw [← Except.ok.inj h, of_decide_eq_true hname]
      · cases h
    | _ => cases h
  · rintro rfl
    cases d <;> rfl

/-! ## One setting -/

/-- A setting of some settings is what a value stands for. -/
def Name.Reads (σ : Settings) : Name → Value → Prop
  | environment, v => v = .text σ.environment.name
  | debug, v => TruthValue v σ.debug
  | logLevel, v => TextValue v σ.logLevel
  | seedDefaultKeys, v => TruthValue v σ.seedDefaultKeys
  | defaultAdminDescription, v => TextValue v σ.defaultAdminDescription
  | defaultSearchDescription, v => TextValue v σ.defaultSearchDescription

/-- A value is good for a setting. -/
def Name.Accepts (n : Name) (v : Value) : Prop := ∃ σ, n.Reads σ v

/-- The error of a result. -/
def fault? {α : Type} : Except Issue.Kind α → Option Issue.Kind
  | .ok _ => none
  | .error kind => some kind

/-- What is wrong with a value for a setting. -/
def Name.complaint? : Name → Value → Option Issue.Kind
  | environment, v => fault? (readDeployment v)
  | debug, v | seedDefaultKeys, v => fault? (readBool v)
  | logLevel, v | defaultAdminDescription, v | defaultSearchDescription, v => fault? v.asText

/-- What is reported about a value for a setting. -/
def Name.issue? (n : Name) (v : Value) : Option Issue :=
  (n.complaint? v).map fun kind => ⟨kind, [.member n.text]⟩

theorem fault?_eq_none_iff {α : Type} {r : Except Issue.Kind α} :
    fault? r = none ↔ ∃ a, r = .ok a := by
  cases r <;> simp [fault?]

theorem exists_field {α : Type} {P : α → Prop} {get : Settings → α} (put : α → Settings)
    (hput : ∀ a, get (put a) = a) : (∃ a, P a) ↔ ∃ σ, P (get σ) :=
  (Function.RightInverse.surjective hput).exists

theorem Name.issue?_eq_none_iff {n : Name} : n.issue? v = none ↔ n.Accepts v := by
  rw [issue?, Option.map_eq_none_iff]
  cases n with
  | environment =>
    simp only [complaint?, fault?_eq_none_iff, readDeployment_eq_ok_iff]
    exact exists_field (fun d => ⟨d, false, [], false, [], []⟩) fun _ => rfl
  | debug =>
    simp only [complaint?, fault?_eq_none_iff, readBool_eq_ok_iff]
    exact exists_field (fun b => ⟨.testing, b, [], false, [], []⟩) fun _ => rfl
  | logLevel =>
    simp only [complaint?, fault?_eq_none_iff, asText_eq_ok_iff]
    exact exists_field (fun t => ⟨.testing, false, t, false, [], []⟩) fun _ => rfl
  | seedDefaultKeys =>
    simp only [complaint?, fault?_eq_none_iff, readBool_eq_ok_iff]
    exact exists_field (fun b => ⟨.testing, false, [], b, [], []⟩) fun _ => rfl
  | defaultAdminDescription =>
    simp only [complaint?, fault?_eq_none_iff, asText_eq_ok_iff]
    exact exists_field (fun t => ⟨.testing, false, [], false, t, []⟩) fun _ => rfl
  | defaultSearchDescription =>
    simp only [complaint?, fault?_eq_none_iff, asText_eq_ok_iff]
    exact exists_field (fun t => ⟨.testing, false, [], false, [], t⟩) fun _ => rfl

theorem Name.accepts_default (n : Name) : n.Accepts n.default :=
  issue?_eq_none_iff.1 (by cases n <;> rfl)

theorem Name.place_issue? {n : Name} {i : Issue} (h : n.issue? v = some i) :
    i.place = [.member n.text] := by
  obtain ⟨kind, -, rfl⟩ := Option.map_eq_some_iff.1 h
  rfl

/-! ## All settings -/

variable {α : Type} {raw : Name → Value} {n : Name} {read : Value → Except Issue.Kind α}

theorem readSetting_eq_value_iff {a : α} :
    readSetting raw n read = .value a ↔ read (raw n) = .ok a := by
  rw [readSetting]
  cases read (raw n) <;> simp [Reading.issue]

theorem settled_readSetting (raw : Name → Value) (n : Name) (read : Value → Except Issue.Kind α) :
    (readSetting raw n read).Settled := by
  rw [readSetting]
  cases read (raw n) with
  | ok a => trivial
  | error kind => exact Reading.settled_issue kind _

theorem faults_readSetting : (readSetting raw n read).faults =
    ((fault? (read (raw n))).map fun kind => ⟨kind, [.member n.text]⟩).toList := by
  rw [readSetting]
  cases read (raw n) <;> rfl

/-- **Settings are read when each of them is read from its own value.** -/
theorem reading_eq_value_iff {σ : Settings} :
    reading raw = .value σ ↔ ∀ n : Name, n.Reads σ (raw n) := by
  constructor
  · intro h
    obtain ⟨_, search, h₅, hsearch, rfl⟩ := Reading.combine_eq_value_iff.1 h
    obtain ⟨_, admin, h₄, hadmin, rfl⟩ := Reading.combine_eq_value_iff.1 h₅
    obtain ⟨_, seed, h₃, hseed, rfl⟩ := Reading.combine_eq_value_iff.1 h₄
    obtain ⟨_, level, h₂, hlevel, rfl⟩ := Reading.combine_eq_value_iff.1 h₃
    obtain ⟨_, debug, h₁, hdebug, rfl⟩ := Reading.combine_eq_value_iff.1 h₂
    obtain ⟨deployment, hdeployment, rfl⟩ := Reading.map_eq_value_iff.1 h₁
    rw [readSetting_eq_value_iff] at hsearch hadmin hseed hlevel hdebug hdeployment
    intro n
    cases n with
    | environment => exact readDeployment_eq_ok_iff.1 hdeployment
    | debug => exact readBool_eq_ok_iff.1 hdebug
    | logLevel => exact asText_eq_ok_iff.1 hlevel
    | seedDefaultKeys => exact readBool_eq_ok_iff.1 hseed
    | defaultAdminDescription => exact asText_eq_ok_iff.1 hadmin
    | defaultSearchDescription => exact asText_eq_ok_iff.1 hsearch
  · intro h
    have hdeployment := readDeployment_eq_ok_iff.2 (h .environment)
    have hdebug := readBool_eq_ok_iff.2 (h .debug)
    have hlevel := asText_eq_ok_iff.2 (h .logLevel)
    have hseed := readBool_eq_ok_iff.2 (h .seedDefaultKeys)
    have hadmin := asText_eq_ok_iff.2 (h .defaultAdminDescription)
    have hsearch := asText_eq_ok_iff.2 (h .defaultSearchDescription)
    rw [← readSetting_eq_value_iff] at hdeployment hdebug hlevel hseed hadmin hsearch
    rw [reading, hdeployment, hdebug, hlevel, hseed, hadmin, hsearch]
    rfl

theorem exists_reads_iff :
    (∃ σ, ∀ n : Name, n.Reads σ (raw n)) ↔ ∀ n : Name, n.Accepts (raw n) := by
  constructor
  · rintro ⟨σ, hσ⟩ n
    exact ⟨σ, hσ n⟩
  · intro h
    choose σ hσ using h
    refine ⟨⟨(σ .environment).environment, (σ .debug).debug, (σ .logLevel).logLevel,
      (σ .seedDefaultKeys).seedDefaultKeys,
      (σ .defaultAdminDescription).defaultAdminDescription,
      (σ .defaultSearchDescription).defaultSearchDescription⟩, fun n => ?_⟩
    have hn := hσ n
    cases n <;> exact hn

/-- **Each setting has at most one issue**, and they are listed in the order of the settings. -/
theorem faults_reading (raw : Name → Value) : (reading raw).Settled ∧
    (reading raw).faults = Search.names.filterMap fun n => n.issue? (raw n) := by
  have h₁ := ((Reading.settled_map (f := Settings.mk)).2
    (settled_readSetting raw .environment readDeployment)).combine
    (settled_readSetting raw .debug readBool)
  have h₂ := h₁.1.combine (settled_readSetting raw .logLevel Value.asText)
  have h₃ := h₂.1.combine (settled_readSetting raw .seedDefaultKeys readBool)
  have h₄ := h₃.1.combine (settled_readSetting raw .defaultAdminDescription Value.asText)
  have h₅ := h₄.1.combine (settled_readSetting raw .defaultSearchDescription Value.asText)
  refine ⟨h₅.1, ?_⟩
  rw [reading, h₅.2, h₄.2, h₃.2, h₂.2, h₁.2]
  simp [Search.names, faults_readSetting, List.filterMap_eq_flatMap_toList, Name.issue?,
    Name.complaint?]

theorem toExcept_reading_of_bad (h : ∃ n : Name, ¬ n.Accepts (raw n)) :
    (reading raw).toExcept =
      .error (.malformed (Search.names.filterMap fun n => n.issue? (raw n))) := by
  obtain ⟨hsettled, hfaults⟩ := faults_reading raw
  have hjudged := hsettled.judged
  rw [Judged, hfaults, if_neg] at hjudged
  · exact hjudged
  · obtain ⟨n, hn⟩ := h
    rw [← Name.issue?_eq_none_iff] at hn
    obtain ⟨i, hi⟩ := Option.ne_none_iff_exists'.1 hn
    refine List.ne_nil_of_mem (List.mem_filterMap.2 ⟨n, ?_, hi⟩)
    cases n <;> decide

end ApiKeys.Settings

import ApiKeys.Logging
import ApiKeys.Proofs.Settings.Cache

/-!
# Logging configured over and over

Logging may be configured any number of times, for values that stand for a level and for others, and
in between the host may change its variables and its settings. Only the first call to have a value
reaches the root logger: it gives it its one handler, and its level if the value stands for one. The
library's logger has the level of the last call whose value stands for one. `Configured` says this
of the values that were asked for; a call keeps it (`Configured.concat`), and so does a run
(`configured_run`). A call for the level of the settings, where these cannot be loaded, has no value
and leaves everything as it is.
-/

namespace ApiKeys

/-! ## Values that stand for levels -/

/-- The levels that values stand for: numbers, truth values and the names of levels. -/
inductive Level.Stands : Value → Level → Prop
  | number (i : Int) : Stands (.int i) (.number i)
  | truth (b : Bool) : Stands (.bool b) (.truth b)
  | name {word : String} {i : Int} : (word, i) ∈ names → Stands (.text word) (.number i)

/-- The value stands for a level. -/
def Level.Valid (v : Value) : Prop := ∃ level, Stands v level

theorem Level.ofName?_eq_some_iff {t : Text} {level : Level} :
    ofName? t = some level ↔
      ∃ (word : String) (i : Int), (word, i) ∈ names ∧ t = (word : Text) ∧ level = .number i := by
  constructor
  · intro h
    obtain ⟨⟨word, i⟩, hfind, rfl⟩ := Option.map_eq_some_iff.1 h
    have hword := List.find?_some hfind
    exact ⟨word, i, List.mem_of_find?_eq_some hfind, (of_decide_eq_true hword).symm, rfl⟩
  · rintro ⟨word, i, hmem, rfl, rfl⟩
    have hall : ∀ entry ∈ names, ofName? (entry.1 : Text) = some (.number entry.2) := by decide
    exact hall (word, i) hmem

theorem Level.ofValue_eq_ok_iff {room : Room} {v : Value} {level : Level} :
    ofValue room v = .ok level ↔ Stands v level := by
  constructor
  · intro h
    cases v with
    | int i =>
      rw [← Except.ok.inj h]
      exact .number i
    | bool b =>
      rw [← Except.ok.inj h]
      exact .truth b
    | text t =>
      rw [ofValue] at h
      split at h
      · next l hl =>
        rw [← Except.ok.inj h]
        obtain ⟨word, i, hmem, rfl, rfl⟩ := ofName?_eq_some_iff.1 hl
        exact .name hmem
      · cases h
    | _ => cases h
  · intro h
    cases h with
    | number i => rfl
    | truth b => rfl
    | name hmem => rw [ofValue, ofName?_eq_some_iff.2 ⟨_, _, hmem, rfl, rfl⟩]

theorem Level.not_valid_iff {v : Value} (room : Room) :
    ¬ Valid v ↔ ∃ f, ofValue room v = .error f := by
  cases h : ofValue room v with
  | ok level => simpa using ⟨level, ofValue_eq_ok_iff.1 h⟩
  | error f =>
    refine iff_of_true ?_ ⟨f, rfl⟩
    rintro ⟨level, hl⟩
    rw [ofValue_eq_ok_iff.2 hl] at h
    cases h

/-! ## One call -/

namespace Logging

variable {l : Logging} {room : Room} {h : Host} {v w : Value} {level : Level} {f : Failure}

theorem handlers_configure (l : Logging) (room : Room) (v : Value) :
    (l.configure room v).2.handlers = if l.handlers = [] then [lineFormat] else l.handlers := by
  cases hv : Level.ofValue room v <;> by_cases hl : l.handlers = [] <;>
    simp [configure, configureRoot, hv, hl]

theorem root_configure_of_ne (hl : l.handlers ≠ []) : (l.configure room v).2.root = l.root := by
  cases hv : Level.ofValue room v <;> simp [configure, configureRoot, hv, hl]

theorem root_configure_of_stands (hl : l.handlers = []) (hv : Level.Stands v level) :
    (l.configure room v).2.root = level := by
  simp [configure, configureRoot, Level.ofValue_eq_ok_iff.2 hv, hl]

theorem root_configure_of_not_valid (hv : ¬ Level.Valid v) :
    (l.configure room v).2.root = l.root := by
  obtain ⟨f, hf⟩ := (Level.not_valid_iff room).1 hv
  by_cases hl : l.handlers = [] <;> simp [configure, configureRoot, hf, hl]

theorem package_configure_of_stands (hv : Level.Stands v level) :
    (l.configure room v).2.package = level := by
  simp [configure, Level.ofValue_eq_ok_iff.2 hv]

theorem package_configure_of_not_valid (hv : ¬ Level.Valid v) :
    (l.configure room v).2.package = l.package := by
  obtain ⟨f, hf⟩ := (Level.not_valid_iff room).1 hv
  by_cases hl : l.handlers = [] <;> simp [configure, configureRoot, hf, hl]

theorem configure_eq_error_iff : (∃ f, (l.configure room v).1 = .error f) ↔ ¬ Level.Valid v := by
  rw [Level.not_valid_iff room]
  cases hv : Level.ofValue room v <;> simp [configure, hv]

/-- The value that a call takes its level from: null asks for the level of the settings, and for
nothing where these cannot be loaded. -/
def asked (h : Host) : Value → Option Value
  | .null => h.settings.1.toOption.map fun loaded => .text loaded.1.effectiveLogLevel
  | v => some v

theorem asked_of_ne (hv : v ≠ .null) : asked h v = some v := by
  cases v with
  | null => exact absurd rfl hv
  | _ => rfl

theorem configureIn_of_ne (hv : v ≠ .null) :
    l.configureIn room h v = ((l.configure room v).1, (l.configure room v).2, h) := by
  cases v with
  | null => exact absurd rfl hv
  | _ => rfl

theorem refuses_iff_settings : h.Refuses ↔ ∃ f, h.settings.1 = .error f := by
  show (∃ f, h.settings.1.map some = .error f) ↔ _
  cases h.settings.1 <;> simp [Except.map]

theorem asked_eq_none_iff : asked h v = none ↔ v = .null ∧ h.Refuses := by
  by_cases hv : v = .null
  · rw [hv, asked, Option.map_eq_none_iff, refuses_iff_settings]
    cases h.settings.1 <;> simp [Except.toOption]
  · simp [asked_of_ne hv, hv]

theorem configureIn_of_refuses (room : Room) (hr : h.Refuses) :
    ∃ f, l.configureIn room h .null = (.error f, l, h) := by
  obtain ⟨f, hf⟩ := refuses_iff_settings.1 hr
  have hkept : h.settings.2 = h := hr.after
  have heq : h.settings = (.error f, h) := Prod.ext hf hkept
  exact ⟨f, by simp only [configureIn, heq]⟩

theorem configureIn_of_asked (room : Room) (hw : asked h v = some w) :
    ∃ h', l.configureIn room h v = ((l.configure room w).1, (l.configure room w).2, h') := by
  by_cases hv : v = .null
  · subst hv
    obtain ⟨loaded, hloaded, rfl⟩ := Option.map_eq_some_iff.1 hw
    rcases hs : h.settings with ⟨_ | ⟨settings, n⟩, h'⟩
    · rw [hs] at hloaded
      cases hloaded
    · rw [hs] at hloaded
      rw [← Option.some.inj hloaded]
      exact ⟨h', by simp only [configureIn, hs]⟩
  · rw [asked_of_ne hv] at hw
    rw [← Option.some.inj hw]
    exact ⟨h, configureIn_of_ne hv⟩

/-! ## What the values that were asked for leave behind -/

/-- Logging after calls for the levels of some values, starting with nothing configured. -/
structure Configured (vs : List Value) (l : Logging) : Prop where
  handlers : l.handlers = if vs = [] then [] else [lineFormat]
  root : ∀ v rest level, vs = v :: rest → Level.Stands v level → l.root = level
  root_kept : (∀ v rest, vs = v :: rest → ¬ Level.Valid v) → l.root = .number 30
  package : ∀ before v after level, vs = before ++ v :: after → Level.Stands v level →
    (∀ w ∈ after, ¬ Level.Valid w) → l.package = level
  package_kept : (∀ v ∈ vs, ¬ Level.Valid v) → l.package = .number 0

theorem configured_initial : Configured [] initial where
  handlers := rfl
  root _ _ _ heq := nomatch heq
  root_kept _ := rfl
  package _ _ _ _ heq := absurd heq (by simp)
  package_kept _ := rfl

namespace Configured

variable {vs : List Value}

theorem handlers_ne (hl : Configured vs l) (hvs : vs ≠ []) : l.handlers ≠ [] := by
  rw [hl.handlers, if_neg hvs]
  simp

/-- **A call for one more value.** The root logger is set up by the first value only, the library's
by the last one that stands for a level. -/
theorem concat (hl : Configured vs l) (room : Room) (w : Value) :
    Configured (vs ++ [w]) (l.configure room w).2 where
  handlers := by
    rw [handlers_configure, hl.handlers, if_neg (by simp : vs ++ [w] ≠ [])]
    by_cases hvs : vs = [] <;> simp [hvs]
  root v rest level heq hv := by
    cases vs with
    | nil =>
      obtain ⟨rfl, -⟩ := List.cons.inj heq
      exact root_configure_of_stands hl.handlers hv
    | cons u us =>
      obtain ⟨rfl, -⟩ := List.cons.inj heq
      rw [root_configure_of_ne (hl.handlers_ne (by simp))]
      exact hl.root u us level rfl hv
  root_kept hnone := by
    cases vs with
    | nil =>
      rw [root_configure_of_not_valid (hnone w [] rfl)]
      exact hl.root_kept fun _ _ heq => nomatch heq
    | cons u us =>
      rw [root_configure_of_ne (hl.handlers_ne (by simp))]
      refine hl.root_kept fun v rest heq => ?_
      rw [← (List.cons.inj heq).1]
      exact hnone u (us ++ [w]) rfl
  package before v after level heq hv hafter := by
    rcases List.eq_nil_or_concat after with rfl | ⟨after, u, rfl⟩
    · obtain ⟨-, hw⟩ := List.append_inj' heq rfl
      rw [List.singleton_inj.1 hw]
      exact package_configure_of_stands hv
    · rw [List.concat_eq_append] at heq hafter
      rw [← List.cons_append, ← List.append_assoc] at heq
      obtain ⟨hvs, hw⟩ := List.append_inj' heq rfl
      rw [List.singleton_inj.1 hw, package_configure_of_not_valid (hafter u (by simp))]
      exact hl.package before v after level hvs hv fun w hw => hafter w (by simp [hw])
  package_kept hnone := by
    rw [package_configure_of_not_valid (hnone w (by simp))]
    exact hl.package_kept fun v hv => hnone v (by simp [hv])

end Configured

end Logging

/-! ## Runs -/

/-- Logging, and the host that it is configured for. -/
structure Logged where
  logging : Logging
  host : Host

/-- What may be done to logging and its host. -/
inductive Logged.Act where
  | configure (room : Room) (v : Value)
  | host (a : Host.Act)

namespace Logged

open Logging

variable {s : Logged} {room : Room} {v : Value} {as : List Act}

/-- A host for which nothing is configured. -/
def start (h : Host) : Logged := ⟨.initial, h⟩

/-- What one act leaves behind. -/
def step (s : Logged) : Act → Logged
  | .configure room v =>
    ⟨(s.logging.configureIn room s.host v).2.1, (s.logging.configureIn room s.host v).2.2⟩
  | .host a => { s with host := (s.host.step a).2 }

/-- What some acts leave behind, one after the other. -/
def run (s : Logged) (as : List Act) : Logged := as.foldl step s

/-- The value that an act takes a level from. -/
def asks (s : Logged) : Act → Option Value
  | .configure _ v => asked s.host v
  | .host _ => none

/-- The values that some acts take levels from, one after the other. -/
def asksFor (s : Logged) : List Act → List Value
  | [] => []
  | a :: as => (s.asks a).toList ++ (s.step a).asksFor as

theorem run_concat (s : Logged) (as : List Act) (a : Act) :
    s.run (as ++ [a]) = (s.run as).step a := by
  rw [run, List.foldl_concat, run]

theorem asksFor_concat (s : Logged) (as : List Act) (a : Act) :
    s.asksFor (as ++ [a]) = s.asksFor as ++ ((s.run as).asks a).toList := by
  induction as generalizing s with
  | nil => simp [asksFor, run]
  | cons b as ih =>
    rw [List.cons_append, asksFor, ih, asksFor, List.append_assoc]
    rfl

/-- A call fails: its settings cannot be loaded, or its value stands for no level. -/
def Fails (s : Logged) (room : Room) (v : Value) : Prop :=
  ∃ f, (s.logging.configureIn room s.host v).1 = .error f

theorem fails_iff : s.Fails room v ↔ (v = .null ∧ s.host.Refuses) ∨
    ∃ w, asked s.host v = some w ∧ ¬ Level.Valid w := by
  rw [Fails]
  cases hw : asked s.host v with
  | none =>
    obtain ⟨rfl, hr⟩ := asked_eq_none_iff.1 hw
    obtain ⟨f, hf⟩ := configureIn_of_refuses (l := s.logging) room hr
    simp [hf, hr]
  | some w =>
    obtain ⟨h', heq⟩ := configureIn_of_asked (l := s.logging) room hw
    have hload : ¬ (v = .null ∧ s.host.Refuses) := by
      rw [← asked_eq_none_iff, hw]
      simp
    simp only [heq, configure_eq_error_iff, hload, false_or, Option.some.injEq, exists_eq_left']

theorem step_of_refuses (hr : s.host.Refuses) : s.step (.configure room .null) = s := by
  obtain ⟨f, hf⟩ := configureIn_of_refuses (l := s.logging) room hr
  rw [step, hf]

theorem configured_step {vs : List Value} (hs : Configured vs s.logging) (a : Act) :
    Configured (vs ++ (s.asks a).toList) (s.step a).logging := by
  cases a with
  | host a => simpa [asks, step] using hs
  | configure room v =>
    rw [asks]
    cases hw : asked s.host v with
    | none =>
      obtain ⟨rfl, hr⟩ := asked_eq_none_iff.1 hw
      simpa [step_of_refuses hr] using hs
    | some w =>
      obtain ⟨h', heq⟩ := configureIn_of_asked (l := s.logging) room hw
      rw [step, heq]
      exact hs.concat room w

/-- **What a run leaves behind depends on the values that it asked for only.** -/
theorem configured_run (h : Host) (as : List Act) :
    Configured ((start h).asksFor as) ((start h).run as).logging := by
  induction as using List.reverseRecOn with
  | nil => exact configured_initial
  | append_singleton as a ih =>
    rw [asksFor_concat, run_concat]
    exact configured_step ih a

/-- **Logging configured over and over**, while the host does what it likes. The root logger has one
handler as soon as there was a value to ask for; its level is that of the first value if this stands
for one, and else it stays what it was at the start. The library's logger has the level of the last
value that stands for one. A call fails if and only if it asks for the level of settings that cannot
be loaded, which leaves everything as it is, or its value stands for no level. -/
theorem logging_over_time (h : Host) (as : List Act) :
    Configured ((start h).asksFor as) ((start h).run as).logging ∧
    ∀ room v, (((start h).run as).Fails room v ↔ (v = .null ∧ ((start h).run as).host.Refuses) ∨
        ∃ w, asked ((start h).run as).host v = some w ∧ ¬ Level.Valid w) ∧
      (v = .null → ((start h).run as).host.Refuses →
        ((start h).run as).step (.configure room v) = (start h).run as) :=
  ⟨configured_run h as, fun _ _ => ⟨fails_iff, fun hv hr => hv ▸ step_of_refuses hr⟩⟩

/-- Settings that cannot be loaded, then a name that is no level's, then one that is, then the level
of the settings, which are good by then, and at last what is no level at all. -/
theorem logging_over_time_mixed :
    let debug (value : String) : Act := .host (.set (.text "AUTHKEYS_DEBUG") (.text value))
    let room : Room := ⟨990, 993⟩
    let call (v : Value) : Act := .configure room v
    let h := Host.start [("AUTHKEYS_DEBUG", "maybe")]
    let as := [call .null, call (.text "verbose"), call (.text "DEBUG"), debug "off", call .null,
      call (.float .nan)]
    (start h).run [call .null] = start h ∧
      (start h).asksFor as = [.text "verbose", .text "DEBUG", .text "INFO", .float .nan] ∧
      ((start h).run as).logging.handlers = [lineFormat] ∧
      ((start h).run as).logging.root = .number 30 ∧
      ((start h).run as).logging.package = .number 20 ∧
      ((start h).run as).Fails room (.bytes []) ∧ ¬ ((start h).run as).Fails room .null := by
  intro debug room call h as
  have hrefuses : h.Refuses := by
    rw [refuses_iff_settings]
    cases hs : h.settings.1 with
    | error f => exact ⟨f, rfl⟩
    | ok loaded =>
      have hnone : h.settings.1.toOption.isNone = true := by decide +kernel
      rw [hs] at hnone
      cases hnone
  have hasks : (start h).asksFor as =
      [.text "verbose", .text "DEBUG", .text "INFO", .float .nan] := by rfl
  have hasked : asked ((start h).run as).host .null = some (.text "INFO") := by rfl
  have hinvalid : ¬ Level.Valid (.text "verbose") := (Level.not_valid_iff room).2 ⟨_, rfl⟩
  have hnan : ¬ Level.Valid (.float .nan) := (Level.not_valid_iff room).2 ⟨_, rfl⟩
  have hinfo : Level.Stands (.text "INFO") (.number 20) := .name (by decide)
  obtain ⟨hend, hcalls⟩ := logging_over_time h as
  rw [hasks] at hend
  refine ⟨((logging_over_time h []).2 room .null).2 rfl hrefuses, hasks, hend.handlers,
    hend.root_kept fun v rest heq => (List.cons.inj heq).1 ▸ hinvalid,
    hend.package [.text "verbose", .text "DEBUG"] _ [.float .nan] _ rfl hinfo fun w hw =>
      List.mem_singleton.1 hw ▸ hnan,
    (hcalls _ _).1.2 (.inr ⟨_, rfl, (Level.not_valid_iff room).2 ⟨_, rfl⟩⟩), fun hfails => ?_⟩
  rcases (hcalls _ _).1.1 hfails with hload | ⟨w, hw, hv⟩
  · rw [asked_eq_none_iff.2 hload] at hasked
    cases hasked
  · rw [hasked] at hw
    exact hv ⟨_, Option.some.inj hw ▸ hinfo⟩

end Logged

end ApiKeys

import ApiKeys.Proofs.Expiration.Language
import ApiKeys.Proofs.Key.Fields
import ApiKeys.Proofs.Text.Utf8
import ApiKeys.Request.Field
import Mathlib.Data.List.Forall2

/-!
# How a request is judged

`Field.Takes` says what a field makes of a value, and `Field.Fault` what is wrong with a field of a
request, both without reading. Reading a value gives what the field takes (`Field.read_eq_ok_iff`)
or refuses it as it was given (`Field.read_eq_error_iff`), and the fields of a request are judged
one after the other, up to the first with a fault (`Field.readAll_eq_error_iff`).
-/

namespace ApiKeys

/-- A value spells an action: with its wire name, as a text or in octets. -/
inductive Action.SpelledBy (a : Action) : Value → Prop
  | text : a.SpelledBy (.text a.wireName)
  | octets : a.SpelledBy (.bytes a.wireName.toUTF8.data.toList)

namespace Field

/-- What a value of a field assigns at the reference time `now`. -/
inductive Takes (now : Instant) : Field → Value → Assignment → Prop
  | noDescription : Takes now .description .null (.description none)
  | description (t : Text) : Takes now .description (.text t) (.description (some t))
  | actions {v : Value} {items : List Value} {as : List Action} : v = .list items ∨ v = .tuple items →
      List.Forall₂ Action.SpelledBy as items → Takes now .actions v (.actions as)
  | indexes {v : Value} {is : List Text} :
      v = .list (is.map .text) ∨ v = .tuple (is.map .text) → Takes now .indexes v (.indexes is)
  | never : Takes now .expiresAt .null (.expiresAt none)
  | expiresAt {t : Text} {e : Instant} :
      (∀ room, checkExpiration room (.text t) now = .ok (some e)) →
      Takes now .expiresAt (.text t) (.expiresAt (some e))

/-- A value of a field shows a time of a clock that has no date in UTC. -/
def LeavesCalendar (f : Field) (v : Value) : Prop :=
  f = .expiresAt ∧ ∃ s c o, v = .text (Text.ofChars s) ∧ ExpirationText s c o ∧
    o.natAbs < 24 * 60 ∧ ¬ (⟨c.toMicros - o * 60 * 1000000⟩ : Instant).Representable

/-! ## One value -/

theorem eachOf?_eq_some_iff {α : Type} {item? : Value → Option α} {vs : List Value} {as : List α} :
    eachOf? item? vs = some as ↔ List.Forall₂ (fun a v => item? v = some a) as vs := by
  induction vs generalizing as with
  | nil => simp [eachOf?, eq_comm]
  | cons v vs ih =>
    rw [eachOf?, List.forall₂_cons_right_iff]
    constructor
    · intro h
      split at h
      · next a as' ha has =>
        obtain rfl := Option.some.inj h
        exact ⟨a, as', ha, ih.1 has, rfl⟩
      · cases h
    · rintro ⟨a, as', ha, has, rfl⟩
      rw [ha, ih.2 has]

theorem descriptionOf?_eq_some_iff {v : Value} {d : Option Text} :
    descriptionOf? v = some d ↔ v = .null ∧ d = none ∨ ∃ t, v = .text t ∧ d = some t := by
  cases v <;> simp [descriptionOf?, eq_comm]

theorem indexOf?_eq_some_iff {v : Value} {t : Text} : indexOf? v = some t ↔ v = .text t := by
  cases v <;> simp [indexOf?]

theorem items?_eq_some_iff {v : Value} {items : List Value} :
    v.items? = some items ↔ v = .list items ∨ v = .tuple items := by
  cases v <;> simp [Value.items?]

theorem actionOf?_eq_some_iff {v : Value} {a : Action} :
    actionOf? v = some a ↔ a.SpelledBy v := by
  constructor
  · intro h
    cases v with
    | text t =>
      obtain rfl := Action.ofText?_eq_some_iff.1 h
      exact .text
    | bytes octets =>
      obtain ⟨t, ht, ha⟩ := Option.bind_eq_some_iff.1 h
      obtain rfl := Action.ofText?_eq_some_iff.1 ha
      obtain rfl := Text.ofUtf8?_eq_some_iff.1 ht
      exact .octets
    | _ => cases h
  · intro h
    cases h with
    | text => exact Action.ofText?_eq_some_iff.2 rfl
    | octets =>
      rw [actionOf?, Text.ofUtf8?_eq_some_iff.2 rfl, Option.bind_some]
      exact Action.ofText?_eq_some_iff.2 rfl

theorem actionsOf?_eq_some_iff {v : Value} {as : List Action} :
    actionsOf? v = some as ↔
      ∃ items, (v = .list items ∨ v = .tuple items) ∧ List.Forall₂ Action.SpelledBy as items := by
  simp only [actionsOf?, Option.bind_eq_some_iff, items?_eq_some_iff, eachOf?_eq_some_iff,
    actionOf?_eq_some_iff]

theorem indexesOf?_eq_some_iff {v : Value} {is : List Text} :
    indexesOf? v = some is ↔ v = .list (is.map .text) ∨ v = .tuple (is.map .text) := by
  have hitems : ∀ vs : List Value,
      List.Forall₂ (fun t v => v = Value.text t) is vs ↔ vs = is.map .text := by
    intro vs
    constructor
    · intro h
      induction h with
      | nil => rfl
      | cons hv _ ih => rw [hv, ih, List.map_cons]
    · rintro rfl
      exact List.forall₂_map_right_iff.2 (List.forall₂_same.2 fun _ _ => rfl)
  simp only [indexesOf?, Option.bind_eq_some_iff, items?_eq_some_iff, eachOf?_eq_some_iff,
    indexOf?_eq_some_iff, hitems]
  constructor
  · rintro ⟨items, h, rfl⟩
    exact h
  · intro h
    exact ⟨_, h, rfl⟩

theorem accept_eq_ok_iff {room : Room} {f : Field} {raw : Value} {r : Option Assignment}
    {a : Assignment} :
    accept room f raw r = .ok a ↔ r = some a := by
  cases r <;> simp [accept]

theorem accept_eq_error_iff {room : Room} {f : Field} {raw : Value} {r : Option Assignment}
    {e : Failure} :
    accept room f raw r = .error e ↔ r = none ∧ e = f.refusal room raw := by
  cases r <;> simp [accept, eq_comm]

/-- **Reading a value gives what the field takes.** -/
theorem read_eq_ok_iff {room : Room} {now : Instant} {f : Field} {raw : Value} {a : Assignment} :
    read room now f raw = .ok a ↔ Takes now f raw a := by
  constructor
  · intro h
    cases f with
    | description =>
      obtain ⟨d, hd, rfl⟩ := Option.map_eq_some_iff.1 (accept_eq_ok_iff.1 h)
      rcases descriptionOf?_eq_some_iff.1 hd with ⟨rfl, rfl⟩ | ⟨t, rfl, rfl⟩
      · exact .noDescription
      · exact .description t
    | actions =>
      obtain ⟨as, has, rfl⟩ := Option.map_eq_some_iff.1 (accept_eq_ok_iff.1 h)
      obtain ⟨items, hv, hitems⟩ := actionsOf?_eq_some_iff.1 has
      exact .actions hv hitems
    | indexes =>
      obtain ⟨is, his, rfl⟩ := Option.map_eq_some_iff.1 (accept_eq_ok_iff.1 h)
      exact .indexes (indexesOf?_eq_some_iff.1 his)
    | expiresAt =>
      rw [read] at h
      cases hc : checkExpiration room raw now with
      | error f => simp [hc, Except.map] at h
      | ok e =>
        obtain rfl : .expiresAt e = a := by simpa [hc, Except.map] using h
        cases e with
        | none =>
          obtain rfl := checkExpiration_eq_none_iff.1 hc
          exact .never
        | some e =>
          obtain ⟨t, rfl, -⟩ := checkExpiration_eq_some_iff.1 hc
          exact .expiresAt fun _ => checkExpiration_eq_some_iff.2 (checkExpiration_eq_some_iff.1 hc)
  · intro h
    cases h with
    | noDescription => rfl
    | description t => rfl
    | actions hv hitems =>
      rw [read, actionsOf?_eq_some_iff.2 ⟨_, hv, hitems⟩]
      rfl
    | indexes hv =>
      rw [read, indexesOf?_eq_some_iff.2 hv]
      rfl
    | never => rfl
    | expiresAt hc =>
      rw [read, hc]
      rfl

theorem leavesCalendar_iff {v : Value} :
    LeavesCalendar .expiresAt v ↔
      ∃ t, v = .text t ∧ expirationInstant? t = .error .dateOutOfRange := by
  simp only [LeavesCalendar, expirationInstant?_eq_error_iff, true_and]
  constructor
  · rintro ⟨s, c, o, rfl, h⟩
    exact ⟨_, rfl, s, c, o, rfl, h⟩
  · rintro ⟨t, rfl, s, c, o, rfl, h⟩
    exact ⟨s, c, o, rfl, h⟩

theorem read_eq_error {room : Room} {now : Instant} {f : Field} {raw : Value} {e : Failure}
    (h : read room now f raw = .error e) :
    ¬ f.LeavesCalendar raw ∧ e = f.refusal room raw ∨
      f.LeavesCalendar raw ∧ e = .dateOutOfRange := by
  by_cases hf : f = .expiresAt
  · subst hf
    rw [read] at h
    cases hc : checkExpiration room raw now with
    | ok e => simp [hc, Except.map] at h
    | error g =>
      obtain rfl : g = e := by simpa [hc, Except.map] using h
      rcases checkExpiration_eq_error hc with ⟨t, rfl, ht⟩ | ⟨hnone, rfl⟩
      · obtain rfl := (expirationInstant?_eq_error_iff.1 ht).1
        exact .inr ⟨leavesCalendar_iff.2 ⟨t, rfl, ht⟩, rfl⟩
      · refine .inl ⟨fun hleaves => ?_, rfl⟩
        obtain ⟨t, rfl, ht⟩ := leavesCalendar_iff.1 hleaves
        exact hnone t rfl _ ht
  · have haccept : ∃ r, read room now f raw = accept room f raw r := by
      cases f with
      | expiresAt => exact absurd rfl hf
      | _ => exact ⟨_, rfl⟩
    obtain ⟨r, hr⟩ := haccept
    rw [hr] at h
    exact .inl ⟨fun hleaves => hf hleaves.1, (accept_eq_error_iff.1 h).2⟩

theorem Takes.field? {now : Instant} {f : Field} {raw : Value} {a : Assignment}
    (h : Takes now f raw a) : a.field? = some f := by
  cases h <;> rfl

theorem Takes.unique {now : Instant} {f : Field} {raw : Value} {a b : Assignment}
    (ha : Takes now f raw a) (hb : Takes now f raw b) : a = b :=
  have hread : read ⟨0, 0⟩ now f raw = .ok a := read_eq_ok_iff.2 ha
  Except.ok.inj (hread.symm.trans (read_eq_ok_iff.2 hb))

theorem not_takes_of_leavesCalendar {now : Instant} {f : Field} {raw : Value}
    (h : f.LeavesCalendar raw) (a : Assignment) : ¬ Takes now f raw a := by
  intro htakes
  obtain rfl := h.1
  obtain ⟨t, rfl, ht⟩ := leavesCalendar_iff.1 h
  cases htakes with
  | expiresAt hc =>
    obtain ⟨_, htext, he, -⟩ := checkExpiration_eq_some_iff.1 (hc ⟨0, 0⟩)
    cases htext
    rw [ht] at he
    cases he

/-- **What a field does not take is refused as it was given**, unless it shows a time without a date
in UTC. -/
theorem read_eq_error_iff {room : Room} {now : Instant} {f : Field} {raw : Value} {e : Failure} :
    read room now f raw = .error e ↔
      (∀ a, ¬ Takes now f raw a) ∧ ¬ f.LeavesCalendar raw ∧ e = f.refusal room raw ∨
        f.LeavesCalendar raw ∧ e = .dateOutOfRange := by
  cases hread : read room now f raw with
  | ok a =>
    have htakes := read_eq_ok_iff.1 hread
    simp only [reduceCtorEq, false_iff]
    rintro (⟨hnot, -⟩ | ⟨hleaves, -⟩)
    · exact hnot a htakes
    · exact not_takes_of_leavesCalendar hleaves a htakes
  | error e' =>
    have hnot : ∀ a, ¬ Takes now f raw a := by
      intro a ha
      rw [read_eq_ok_iff.2 ha] at hread
      cases hread
    rcases read_eq_error hread with ⟨hstays, rfl⟩ | ⟨hleaves, rfl⟩
    · simp [hnot, hstays, eq_comm]
    · simp [hleaves, eq_comm]

theorem refusal_cases (room : Room) (f : Field) (v : Value) :
    (∃ t, v.display room = .ok t ∧
        f.refusal room v = .rejected (.invalid f v (Text.ofChars t))) ∨
      ∃ u, v.display room = .error u ∧ f.refusal room v = .unwritten u := by
  cases hv : v.display room with
  | ok t => exact .inl ⟨t, rfl, by rw [refusal, Rejection.refuse, hv]; rfl⟩
  | error u => exact .inr ⟨u, rfl, by rw [refusal, Rejection.refuse, hv]; rfl⟩

/-! ## A whole request -/

/-- What is wrong with a field of a request. -/
inductive Fault (room : Room) (now : Instant) (absence : Field → Absence) (ms : Members)
    (f : Field) : Failure → Prop
  | missing : ms.get? f.inputName = none → absence f = .refuse →
      Fault room now absence ms f (.rejected (.absent f))
  | invalid {raw : Value} : ms.get? f.inputName = some raw → (∀ a, ¬ Takes now f raw a) →
      ¬ f.LeavesCalendar raw → Fault room now absence ms f (f.refusal room raw)
  | leavesCalendar {raw : Value} : ms.get? f.inputName = some raw → f.LeavesCalendar raw →
      Fault room now absence ms f .dateOutOfRange

/-- The first fault of a request, in the order in which its fields are judged. -/
def FirstFault (room : Room) (now : Instant) (absence : Field → Absence) (ms : Members)
    (e : Failure) : Prop :=
  ∃ before f after, [.description, .actions, .indexes, .expiresAt] = before ++ f :: after ∧
    (∀ g ∈ before, ∀ e', ¬ Fault room now absence ms g e') ∧ Fault room now absence ms f e

/-- What a request makes of a field: an assignment, nothing, or a failure. -/
def judge (room : Room) (now : Instant) (absence : Field → Absence) (ms : Members) (f : Field) :
    Except Failure (Option Assignment) :=
  match valueFor absence ms f with
  | .error e => .error e
  | .ok none => .ok none
  | .ok (some raw) => (read room now f raw).map some

/-- The assignment that a request makes to a field, if it makes one. -/
def given (room : Room) (now : Instant) (absence : Field → Absence) (ms : Members) (f : Field) :
    Option Assignment :=
  (judge room now absence ms f).toOption.join

section

variable {room : Room} {now : Instant} {absence : Field → Absence} {ms : Members} {f : Field}

theorem valueFor_of_present {raw : Value} (h : ms.get? f.inputName = some raw) :
    valueFor absence ms f = .ok (some raw) := by
  rw [valueFor, h]

theorem valueFor_of_absent (h : ms.get? f.inputName = none) :
    valueFor absence ms f = match absence f with
      | .skip => .ok none
      | .null => .ok (some .null)
      | .refuse => .error (.rejected (.absent f)) := by
  rw [valueFor, h]
  cases absence f <;> rfl

theorem fault_of_present_iff {raw : Value} (h : ms.get? f.inputName = some raw) {e : Failure} :
    Fault room now absence ms f e ↔ read room now f raw = .error e := by
  rw [read_eq_error_iff]
  constructor
  · intro hfault
    cases hfault with
    | missing hnone => rw [h] at hnone; cases hnone
    | invalid hsome hnot hstays =>
      obtain rfl := Option.some.inj (h.symm.trans hsome)
      exact .inl ⟨hnot, hstays, rfl⟩
    | leavesCalendar hsome hleaves =>
      obtain rfl := Option.some.inj (h.symm.trans hsome)
      exact .inr ⟨hleaves, rfl⟩
  · rintro (⟨hnot, hstays, rfl⟩ | ⟨hleaves, rfl⟩)
    · exact .invalid h hnot hstays
    · exact .leavesCalendar h hleaves

theorem fault_of_absent_iff (h : ms.get? f.inputName = none) {e : Failure} :
    Fault room now absence ms f e ↔
      absence f = .refuse ∧ e = .rejected (.absent f) := by
  constructor
  · intro hfault
    cases hfault with
    | missing _ hrefuse => exact ⟨hrefuse, rfl⟩
    | invalid hsome => rw [h] at hsome; cases hsome
    | leavesCalendar hsome => rw [h] at hsome; cases hsome
  · rintro ⟨hrefuse, rfl⟩
    exact .missing h hrefuse

theorem judge_eq_error_iff (hnull : absence f = .null → ∃ a, Takes now f .null a) {e : Failure} :
    judge room now absence ms f = .error e ↔ Fault room now absence ms f e := by
  cases hget : ms.get? f.inputName with
  | none =>
    rw [fault_of_absent_iff hget, judge, valueFor_of_absent hget]
    cases habs : absence f with
    | skip => simp
    | null =>
      obtain ⟨a, ha⟩ := hnull habs
      simp [read_eq_ok_iff.2 ha, Except.map]
    | refuse => simp [eq_comm]
  | some raw =>
    rw [fault_of_present_iff hget, judge, valueFor_of_present hget]
    cases hread : read room now f raw <;> simp [hread, Except.map]

theorem readAll_cons (fs : List Field) :
    readAll room now absence ms (f :: fs) = match judge room now absence ms f with
      | .error e => .error e
      | .ok none => readAll room now absence ms fs
      | .ok (some a) => (readAll room now absence ms fs).map (a :: ·) := by
  rw [readAll, judge]
  cases valueFor absence ms f with
  | error e => rfl
  | ok r =>
    cases r with
    | none => rfl
    | some raw => cases hread : read room now f raw <;> simp [hread, Except.map]

theorem readAll_cons_eq_error_iff {fs : List Field} {e : Failure} :
    readAll room now absence ms (f :: fs) = .error e ↔
      judge room now absence ms f = .error e ∨
        (∀ e', judge room now absence ms f ≠ .error e') ∧
          readAll room now absence ms fs = .error e := by
  rw [readAll_cons]
  cases judge room now absence ms f with
  | error e' => simp
  | ok r =>
    cases r with
    | none => simp
    | some a => cases readAll room now absence ms fs <;> simp [Except.map]

theorem readAll_eq_error_iff_judge {fs : List Field} {e : Failure} :
    readAll room now absence ms fs = .error e ↔
      ∃ before f after, fs = before ++ f :: after ∧
        (∀ g ∈ before, ∀ e', judge room now absence ms g ≠ .error e') ∧
        judge room now absence ms f = .error e := by
  -- The failure is that of the first field, or this field joins those before the one that fails.
  induction fs with
  | nil => simp [readAll]
  | cons f fs ih =>
    rw [readAll_cons_eq_error_iff, ih]
    constructor
    · rintro (h | ⟨hf, before, g, after, rfl, hbefore, hg⟩)
      · exact ⟨[], f, fs, rfl, by simp, h⟩
      · exact ⟨f :: before, g, after, rfl, List.forall_mem_cons.2 ⟨hf, hbefore⟩, hg⟩
    · rintro ⟨before, g, after, heq, hbefore, hg⟩
      cases before with
      | nil =>
        obtain ⟨rfl, -⟩ := List.cons.inj heq
        exact .inl hg
      | cons b before =>
        obtain ⟨rfl, rfl⟩ := List.cons.inj heq
        obtain ⟨hf, hbefore⟩ := List.forall_mem_cons.1 hbefore
        exact .inr ⟨hf, before, g, after, rfl, hbefore, hg⟩

/-- **A request fails with its first fault**, in the order description, actions, indexes,
expiration, where an absent field counts as null only if it takes null. -/
theorem readAll_eq_error_iff (hnull : ∀ f, absence f = .null → ∃ a, Takes now f .null a)
    {e : Failure} :
    readAll room now absence ms Field.list = .error e ↔ FirstFault room now absence ms e := by
  rw [readAll_eq_error_iff_judge]
  simp only [FirstFault, ne_eq, judge_eq_error_iff (hnull _)]
  rfl

theorem readAll_eq_ok {fs : List Field} {as : List Assignment}
    (h : readAll room now absence ms fs = .ok as) :
    (∀ f ∈ fs, ∀ e, judge room now absence ms f ≠ .error e) ∧
      as = fs.filterMap (given room now absence ms) := by
  induction fs generalizing as with
  | nil =>
    obtain rfl := Except.ok.inj h
    exact ⟨by simp, rfl⟩
  | cons f fs ih =>
    rw [readAll_cons] at h
    cases hf : judge room now absence ms f with
    | error e => simp [hf] at h
    | ok r =>
      have hgiven : given room now absence ms f = r := by simp [given, hf, Except.toOption]
      rw [hf] at h
      cases r with
      | none =>
        obtain ⟨hok, rfl⟩ := ih h
        exact ⟨List.forall_mem_cons.2 ⟨by simp [hf], hok⟩, by rw [List.filterMap_cons_none hgiven]⟩
      | some a =>
        cases hrest : readAll room now absence ms fs with
        | error e => simp [hrest, Except.map] at h
        | ok as' =>
          obtain rfl : a :: as' = as := by simpa [hrest, Except.map] using h
          obtain ⟨hok, rfl⟩ := ih hrest
          exact ⟨List.forall_mem_cons.2 ⟨by simp [hf], hok⟩,
            by rw [List.filterMap_cons_some hgiven]⟩

theorem readAll_of_judge {fs : List Field}
    (h : ∀ f ∈ fs, ∀ e, judge room now absence ms f ≠ .error e) :
    ∃ as, readAll room now absence ms fs = .ok as := by
  induction fs with
  | nil => exact ⟨[], rfl⟩
  | cons f fs ih =>
    obtain ⟨hf, hfs⟩ := List.forall_mem_cons.1 h
    obtain ⟨as, has⟩ := ih hfs
    rw [readAll_cons]
    cases hj : judge room now absence ms f with
    | error e => exact absurd hj (hf e)
    | ok r =>
      rw [has]
      cases r with
      | none => exact ⟨as, rfl⟩
      | some a => exact ⟨a :: as, rfl⟩

end

theorem nodup_list : Field.list.Nodup := by decide

theorem mem_list (f : Field) : f ∈ Field.list := by
  cases f <;> decide

/-- **A request is accepted just when none of its fields has a fault.** -/
theorem exists_readAll_eq_ok_iff {room : Room} {now : Instant} {absence : Field → Absence}
    {ms : Members} (hnull : ∀ f, absence f = .null → ∃ a, Takes now f .null a) :
    (∃ as, readAll room now absence ms Field.list = .ok as) ↔
      ∀ f e, ¬ Fault room now absence ms f e := by
  constructor
  · rintro ⟨as, has⟩ f e hfault
    exact (readAll_eq_ok has).1 f (mem_list f) e ((judge_eq_error_iff (hnull f)).2 hfault)
  · intro h
    exact readAll_of_judge fun f _ e hj => h f e ((judge_eq_error_iff (hnull f)).1 hj)

/-! ## What a request without fault makes of a record -/

section

variable {room : Room} {now : Instant} {absence : Field → Absence} {ms : Members} {f : Field}
  {as : List Assignment}

theorem given_eq_some {a : Assignment} (h : given room now absence ms f = some a) :
    judge room now absence ms f = .ok (some a) := by
  unfold given at h
  cases hj : judge room now absence ms f with
  | error e => simp [hj, Except.toOption] at h
  | ok r =>
    obtain rfl : r = some a := by simpa [hj, Except.toOption] using h
    rfl

theorem field?_of_given {a : Assignment} (h : given room now absence ms f = some a) :
    a.field? = some f := by
  have hj := given_eq_some h
  rw [judge] at hj
  cases hv : valueFor absence ms f with
  | error e => simp [hv] at hj
  | ok r =>
    cases r with
    | none => simp [hv] at hj
    | some raw =>
      cases hread : read room now f raw with
      | error e => simp [hv, hread, Except.map] at hj
      | ok a' =>
        obtain rfl : a' = a := by simpa [hv, hread, Except.map] using hj
        exact (read_eq_ok_iff.1 hread).field?

theorem field?_ne_none_of_readAll (h : readAll room now absence ms Field.list = .ok as) :
    ∀ a ∈ as, a.field? ≠ none := by
  rw [(readAll_eq_ok h).2]
  intro a ha
  obtain ⟨f, -, hf⟩ := List.mem_filterMap.1 ha
  simp [field?_of_given hf]

/-- **What a request without fault makes of a field**: what the field takes for the value by which
it is judged, or, if it is passed over, what it was. -/
theorem held_of_readAll (h : readAll room now absence ms Field.list = .ok as) (k : Key)
    (f : Field) :
    (∃ raw, valueFor absence ms f = .ok (some raw) ∧ Takes now f raw ((k.assignAll as).held f)) ∨
      valueFor absence ms f = .ok none ∧ (k.assignAll as).held f = k.held f := by
  have hok := (readAll_eq_ok h).1 f (mem_list f)
  have hheld : (k.assignAll as).held f = (given room now absence ms f).getD (k.held f) := by
    rw [(readAll_eq_ok h).2]
    exact k.held_assignAll (fun _ _ => field?_of_given) nodup_list (mem_list f)
  cases hv : valueFor absence ms f with
  | error e => exact absurd (by rw [judge, hv]) (hok e)
  | ok r =>
    cases r with
    | none =>
      have hgiven : given room now absence ms f = none := by simp [given, judge, hv, Except.toOption]
      exact .inr ⟨rfl, by rw [hheld, hgiven, Option.getD_none]⟩
    | some raw =>
      cases hread : read room now f raw with
      | error e => exact absurd (by rw [judge, hv]; simp [hread, Except.map]) (hok e)
      | ok a =>
        have hgiven : given room now absence ms f = some a := by
          simp [given, judge, hv, hread, Except.map, Except.toOption]
        refine .inl ⟨raw, rfl, ?_⟩
        rw [hheld, hgiven, Option.getD_some]
        exact read_eq_ok_iff.1 hread

theorem takes_held_of_readAll (h : readAll room now absence ms Field.list = .ok as) {raw : Value}
    (hget : ms.get? f.inputName = some raw) (k : Key) :
    Takes now f raw ((k.assignAll as).held f) := by
  have hv : valueFor absence ms f = .ok (some raw) := valueFor_of_present hget
  rcases held_of_readAll h k f with ⟨raw', hv', htakes⟩ | ⟨hv', -⟩
  · rw [hv] at hv'
    obtain rfl := Option.some.inj (Except.ok.inj hv')
    exact htakes
  · rw [hv] at hv'
    cases hv'

theorem held_of_readAll_of_skip (h : readAll room now absence ms Field.list = .ok as)
    (hget : ms.get? f.inputName = none) (hskip : absence f = .skip) (k : Key) :
    (k.assignAll as).held f = k.held f := by
  have hv : valueFor absence ms f = .ok none := by rw [valueFor_of_absent hget, hskip]
  rcases held_of_readAll h k f with ⟨raw, hv', -⟩ | ⟨-, hheld⟩
  · rw [hv] at hv'
    cases hv'
  · exact hheld

end

end Field

end ApiKeys

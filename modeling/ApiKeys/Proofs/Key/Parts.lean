import ApiKeys.Proofs.Key.Members
import ApiKeys.Proofs.Reading

/-!
# The parts of stored data

A record is rebuilt from stored data part by part. Where no date falls out of the calendar, every
part gives a value or has issues of its own (`Reading.Settled`), and all issues are listed, in the
order of the parts (`Stored.faults_record`). What a part comes to depends on its own member alone:
the data may come in any order and hold other members (`Stored.record_congr`), and a part that is
found under its other name only has its issues reported under that name (`Stored.record_renamed`).
`Key.ofStored_part_by_part` puts this together.
-/

namespace ApiKeys

/-! ## The reading of a part -/

namespace Stored

variable {α : Type} {ms ms' : Members} {n m : WireName} {name : Text} {v : Value}
  {read : List Issue.Step → Value → Reading α}

/-- No timestamp of the data falls out of the calendar when it is taken to UTC. -/
def InCalendar (ms : Members) : Prop :=
  ∀ n name v z, n.IsTime → ms.part? n = some (name, v) → StoredTime.ofValue v = .ok z →
    z.instant.Representable

/-- The reading of one part of a record, whatever the part is. -/
def part (ms : Members) : WireName → Reading Unit
  | .description =>
    (optional ms .description fun place v => readingAt place v.asText).map fun _ => ()
  | .id => (required ms .id fun place v => readingAt place (idOf v)).map fun _ => ()
  | .actions => (required ms .actions (listOf actionOf)).map fun _ => ()
  | .indexes => (required ms .indexes (listOf Value.asText)).map fun _ => ()
  | .expiresAt => (optional ms .expiresAt StoredTime.reading).map fun _ => ()
  | .createdAt => (required ms .createdAt StoredTime.reading).map fun _ => ()
  | .updatedAt => (required ms .updatedAt StoredTime.reading).map fun _ => ()

/-- What is wrong with one part of the data. -/
def faults (ms : Members) (n : WireName) : List Issue := (part ms n).faults

theorem settled_readingAt (place : List Issue.Step) (r : Except Issue.Kind α) :
    (readingAt place r).Settled := by
  cases r with
  | ok a => trivial
  | error kind => exact Reading.settled_issue kind place

theorem settled_listOf (item : Value → Except Issue.Kind α) (place : List Issue.Step) (v : Value) :
    (listOf item place v).Settled := by
  unfold listOf
  split
  · exact Reading.settled_issue _ place
  · refine Reading.Settled.all fun r hr => ?_
    obtain ⟨_, -, rfl⟩ := List.mem_map.1 hr
    exact settled_readingAt _ _

theorem settled_time (place : List Issue.Step)
    (h : ∀ z, StoredTime.ofValue v = .ok z → z.instant.Representable) :
    (StoredTime.reading place v).Settled := by
  unfold StoredTime.reading
  split
  · exact Reading.settled_issue _ place
  · next z hz =>
    rw [Zoned.utc?, if_pos (h z hz)]
    trivial

theorem settled_required
    (h : ∀ name v, ms.part? n = some (name, v) → (read [.member name] v).Settled) :
    (required ms n read).Settled := by
  unfold required
  split
  · next name v hpart => exact h name v hpart
  · exact Reading.settled_issue _ _

theorem settled_optional
    (h : ∀ name v, ms.part? n = some (name, v) → (read [.member name] v).Settled) :
    (optional ms n read).Settled := by
  unfold optional
  split
  · trivial
  · trivial
  · next name v _ hpart => exact Reading.settled_map.2 (h name v hpart)

theorem settled_part (h : InCalendar ms) (n : WireName) : (part ms n).Settled := by
  have htime : ∀ {n}, WireName.IsTime n → ∀ name v, ms.part? n = some (name, v) →
      (StoredTime.reading [.member name] v).Settled :=
    fun hn name v hpart => settled_time _ fun z => h _ name v z hn hpart
  cases n with
  | description => exact Reading.settled_map.2 (settled_optional fun _ _ _ => settled_readingAt _ _)
  | id => exact Reading.settled_map.2 (settled_required fun _ _ _ => settled_readingAt _ _)
  | actions | indexes =>
    exact Reading.settled_map.2 (settled_required fun _ _ _ => settled_listOf _ _ _)
  | expiresAt => exact Reading.settled_map.2 (settled_optional (htime (.inl rfl)))
  | createdAt => exact Reading.settled_map.2 (settled_required (htime (.inr (.inl rfl))))
  | updatedAt => exact Reading.settled_map.2 (settled_required (htime (.inr (.inr rfl))))

/-- **The issues of stored data are those of its parts**, one part after the other. -/
theorem faults_record (h : ∀ n, (part ms n).Settled) :
    (record ms).Settled ∧ (record ms).faults = WireName.list.flatMap (faults ms) := by
  have hd := Reading.settled_map.1 (h .description)
  have hi := Reading.settled_map.1 (h .id)
  have ha := Reading.settled_map.1 (h .actions)
  have hx := Reading.settled_map.1 (h .indexes)
  have he := Reading.settled_map.1 (h .expiresAt)
  have hc := Reading.settled_map.1 (h .createdAt)
  have hu := Reading.settled_map.1 (h .updatedAt)
  have h₁ := ((Reading.settled_map (f := Key.mk)).2 hd).combine hi
  have h₂ := h₁.1.combine ha
  have h₃ := h₂.1.combine hx
  have h₄ := h₃.1.combine he
  have h₅ := h₄.1.combine hc
  have h₆ := h₅.1.combine hu
  refine ⟨h₆.1, ?_⟩
  rw [record, h₆.2, h₅.2, h₄.2, h₃.2, h₂.2, h₁.2]
  simp [WireName.list, faults, part]

/-! ### The same parts -/

theorem part_congr (h : ms.part? n = ms'.part? n) : part ms n = part ms' n := by
  cases n <;> simp only [part, required, optional, h]

/-- **Data with the same members for the parts describes the same record.** -/
theorem record_congr (h : ∀ n, ms.part? n = ms'.part? n) : record ms = record ms' := by
  simp only [record, required, optional, h]

theorem record_null (h : ms.AgreeBut n ms') (hn : n.IsOptional) (hms : ms.part? n = none)
    (hms' : ms'.part? n = some (name, .null)) : record ms = record ms' := by
  have hoptional : ∀ {α : Type} (read : List Issue.Step → Value → Reading α) m,
      optional ms m read = optional ms' m read := by
    intro α read m
    by_cases hm : m = n
    · subst hm
      rw [optional, optional, hms, hms']
    · exact optional_congr h hm
  have hrequired : ∀ {α : Type} (read : List Issue.Step → Value → Reading α) m, ¬ m.IsOptional →
      required ms m read = required ms' m read :=
    fun read m hm => required_congr h fun heq => hm (heq ▸ hn)
  rw [record, record, hoptional, hoptional, hrequired _ .id (by decide),
    hrequired _ .actions (by decide), hrequired _ .indexes (by decide),
    hrequired _ .createdAt (by decide), hrequired _ .updatedAt (by decide)]

theorem part_of_record {k : Key} (h : record ms = .value k) (n : WireName) :
    part ms n = .value () := by
  obtain ⟨hd, hi, ha, hx, he, hc, hu⟩ := record_eq_value_iff.1 h
  cases n with
  | description => rw [part, hd]; rfl
  | id => rw [part, hi]; rfl
  | actions => rw [part, ha]; rfl
  | indexes => rw [part, hx]; rfl
  | expiresAt => rw [part, he]; rfl
  | createdAt => rw [part, hc]; rfl
  | updatedAt => rw [part, hu]; rfl

theorem faults_record_only {base : Members} {k : Key} (hbase : record base = .value k)
    (hn : (part ms n).Settled) :
    (record (ms.only n base)).Settled ∧ (record (ms.only n base)).faults = faults ms n := by
  have hself : part (ms.only n base) n = part ms n := part_congr (ms.part?_only n base)
  have hother : ∀ m, m ≠ n → part (ms.only n base) m = .value () := fun m hm =>
    (part_congr (ms.agreeBut_only n base m hm)).trans (part_of_record hbase m)
  have hsettled : ∀ m, (part (ms.only n base) m).Settled := by
    intro m
    by_cases hm : m = n
    · rw [hm, hself]
      exact hn
    · rw [hother m hm]
      trivial
  obtain ⟨hrecord, hfaults⟩ := faults_record hsettled
  have hlist : ∀ m, faults (ms.only n base) m = if m = n then faults ms n else [] := by
    intro m
    by_cases hm : m = n
    · rw [if_pos hm, hm, faults, hself, faults]
    · rw [if_neg hm, faults, hother m hm]
      rfl
  refine ⟨hrecord, hfaults.trans ?_⟩
  simp only [WireName.list, List.flatMap_cons, List.flatMap_nil, hlist]
  cases n <;> simp

/-! ### The other name -/

/-- The issues of a reading lie at a place or below it. -/
def Below (place : List Issue.Step) (r : Reading α) : Prop := ∀ i ∈ r.faults, place <+: i.place

theorem below_issue (kind : Issue.Kind) (place : List Issue.Step) :
    Below place (Reading.issue kind place : Reading α) := by
  intro i hi
  rw [List.mem_singleton.1 hi]

theorem below_readingAt (place : List Issue.Step) (r : Except Issue.Kind α) :
    Below place (readingAt place r) := by
  cases r with
  | ok a => exact fun i hi => nomatch hi
  | error kind => exact below_issue kind place

theorem below_listOf (item : Value → Except Issue.Kind α) (place : List Issue.Step) (v : Value) :
    Below place (listOf item place v) := by
  unfold listOf
  split
  · exact below_issue _ place
  · intro i hi
    obtain ⟨r, hr, hi⟩ := Reading.mem_faults_all hi
    obtain ⟨⟨item', k⟩, -, rfl⟩ := List.mem_map.1 hr
    exact (List.prefix_append place [.index k]).trans (below_readingAt _ _ i hi)

theorem below_time (place : List Issue.Step) (v : Value) :
    Below place (StoredTime.reading place v) := by
  unfold StoredTime.reading
  split
  · exact below_issue _ place
  · split <;> exact fun i hi => nomatch hi

end Stored

/-- The issue as it is reported when its part is found under the name that it has in a record. -/
def Issue.renamed (n : WireName) (i : Issue) : Issue :=
  match i.place with
  | .member name :: rest =>
    if name = n.text then { i with place := .member n.recordName :: rest } else i
  | _ => i

namespace Stored

variable {α : Type} {ms ms' : Members} {n m : WireName} {name : Text} {v : Value} {i : Issue}
  {read : List Issue.Step → Value → Reading α}

theorem renamed_of_ne (hm : m ≠ n) (hname : m.Names name) (hi : [.member name] <+: i.place) :
    i.renamed n = i := by
  obtain ⟨rest, hrest⟩ := hi
  have hne : name ≠ n.text := fun heq => hm (hname.unique (heq ▸ n.names_text))
  rw [Issue.renamed, ← hrest]
  exact if_neg hne

theorem required_renamed_of_ne (h : ms.AgreeBut n ms') (hm : m ≠ n)
    (hread : ∀ place v, Below place (read place v)) :
    required ms' m read = (required ms m read).mapIssues (Issue.renamed n) := by
  rw [← required_congr h hm]
  refine (Reading.mapIssues_eq_self fun i hi => ?_).symm
  unfold required at hi
  split at hi
  · next name v hpart =>
    exact renamed_of_ne hm (Members.names_of_part? hpart) (hread _ v i hi)
  · exact renamed_of_ne hm m.names_text (below_issue _ _ i hi)

theorem optional_renamed_of_ne (h : ms.AgreeBut n ms') (hm : m ≠ n)
    (hread : ∀ place v, Below place (read place v)) :
    optional ms' m read = (optional ms m read).mapIssues (Issue.renamed n) := by
  rw [← optional_congr h hm]
  refine (Reading.mapIssues_eq_self fun i hi => ?_).symm
  unfold optional at hi
  split at hi
  · cases hi
  · cases hi
  · next name v _ hpart =>
    rw [Reading.faults_map] at hi
    exact renamed_of_ne hm (Members.names_of_part? hpart) (hread _ v i hi)

theorem time_renamed (n : WireName) (v : Value) : StoredTime.reading [.member n.recordName] v =
    (StoredTime.reading [.member n.text] v).mapIssues (Issue.renamed n) := by
  unfold StoredTime.reading
  split
  · simp [Reading.issue, Reading.mapIssues, Issue.renamed]
  · split <;> rfl

theorem record_renamed (hn : n.IsTime) (h : ms.AgreeBut n ms')
    (hms : ms.part? n = some ((n.text : Text), v))
    (hms' : ms'.part? n = some ((n.recordName : Text), v)) :
    record ms' = (record ms).mapIssues (Issue.renamed n) := by
  have hne : ∀ m : WireName, ¬ m.IsTime → m ≠ n := fun m hm heq => hm (heq ▸ hn)
  have hrequired : ∀ m, required ms' m StoredTime.reading =
      (required ms m StoredTime.reading).mapIssues (Issue.renamed n) := by
    intro m
    by_cases hm : m = n
    · subst hm
      rw [required, required, hms, hms']
      exact time_renamed m v
    · exact required_renamed_of_ne h hm below_time
  have hoptional : ∀ m, optional ms' m StoredTime.reading =
      (optional ms m StoredTime.reading).mapIssues (Issue.renamed n) := by
    intro m
    by_cases hm : m = n
    · subst hm
      rw [optional, optional, hms, hms']
      cases v with
      | null => rfl
      | _ => rw [Reading.mapIssues_map, ← time_renamed]
    · exact optional_renamed_of_ne h hm below_time
  rw [record, record,
    optional_renamed_of_ne h (hne .description (by decide)) fun _ _ => below_readingAt _ _,
    required_renamed_of_ne h (hne .id (by decide)) fun _ _ => below_readingAt _ _,
    required_renamed_of_ne h (hne .actions (by decide)) (below_listOf _),
    required_renamed_of_ne h (hne .indexes (by decide)) (below_listOf _),
    hoptional, hrequired, hrequired]
  simp only [Reading.mapIssues_combine, Reading.mapIssues_map]

end Stored

/-! ## Stored data part by part -/

namespace Stored

variable {ms : Members} {n : WireName} {k : Key}

theorem instant_of_required {t : Instant} (h : required ms n StoredTime.reading = .value t) :
    ∃ name v z, ms.part? n = some (name, v) ∧ StoredTime.ofValue v = .ok z ∧ z.utc? = some t := by
  unfold required at h
  split at h
  · next name v hpart =>
    obtain ⟨z, hv, hz⟩ := StoredTime.reading_eq_value_iff.1 h
    exact ⟨name, v, z, hpart, hv, hz⟩
  · cases h

theorem instant_of_optional {t : Instant}
    (h : optional ms n StoredTime.reading = .value (some t)) :
    ∃ name v z, ms.part? n = some (name, v) ∧ StoredTime.ofValue v = .ok z ∧ z.utc? = some t := by
  unfold optional at h
  split at h
  · cases h
  · cases h
  · next name v _ hpart =>
    obtain ⟨t', hread, ht⟩ := Reading.map_eq_value_iff.1 h
    obtain rfl := Option.some.inj ht
    obtain ⟨z, hv, hz⟩ := StoredTime.reading_eq_value_iff.1 hread
    exact ⟨name, v, z, hpart, hv, hz⟩

end Stored

/-- The timestamps of a record, each with its part. -/
def Key.Timestamp (k : Key) : WireName → Instant → Prop
  | .expiresAt, t => k.expiresAt = some t
  | .createdAt, t => k.createdAt = t
  | .updatedAt, t => k.updatedAt = t
  | _, _ => False

theorem Stored.instant_of_timestamp {ms : Members} {k : Key} (h : record ms = .value k)
    {n : WireName} {t : Instant} (ht : k.Timestamp n t) :
    ∃ name v z, ms.part? n = some (name, v) ∧ StoredTime.ofValue v = .ok z ∧ z.utc? = some t := by
  obtain ⟨-, -, -, -, hexpires, hcreated, hupdated⟩ := record_eq_value_iff.1 h
  cases n with
  | expiresAt =>
    rw [show k.expiresAt = some t from ht] at hexpires
    exact instant_of_optional hexpires
  | createdAt =>
    rw [show k.createdAt = t from ht] at hcreated
    exact instant_of_required hcreated
  | updatedAt =>
    rw [show k.updatedAt = t from ht] at hupdated
    exact instant_of_required hupdated
  | description | id | actions | indexes => exact ht.elim

/-- **Stored data is judged part by part.** Where no timestamp falls out of the calendar, data
describes a record if no part of it has an issue, and is otherwise refused with the issues of all
parts, in order; each part has the issues that it has alone, in data whose other parts are good.
Whatever the data is, nothing depends on the order of its members or on members that are no part; a
part that may be absent may as well be null; a timestamp under its other name is the same, apart
from where its issue lies, and is not looked at beside the first name. A record that is accepted has
a valid identifier, and its timestamps are in UTC. -/
theorem Key.ofStored_part_by_part (ms : Members) :
    (Stored.InCalendar ms →
      ((∃ k, ofStored (.object ms) = .ok k) ↔ ∀ n, Stored.faults ms n = []) ∧
        Judged (ofStored (.object ms)) (WireName.list.flatMap (Stored.faults ms)) ∧
        ∀ n base k, ofStored (.object base) = .ok k →
          Judged (ofStored (.object (ms.only n base))) (Stored.faults ms n)) ∧
    (∀ ms', ms.Perm ms' → (ms.map Prod.fst).Nodup →
      ofStored (.object ms') = ofStored (.object ms)) ∧
    (∀ name v ms', ms.Adds name v ms' →
      ((∀ n : WireName, ¬ n.Names name) → ofStored (.object ms') = ofStored (.object ms)) ∧
      ∀ n : WireName, n.Names name →
        (n.IsOptional → ms.part? n = none → v = .null →
          ofStored (.object ms') = ofStored (.object ms)) ∧
        (n.IsTime → name = n.recordName → ms.get? n.text ≠ none →
          ofStored (.object ms') = ofStored (.object ms))) ∧
    (∀ (n : WireName) v ms₁ ms₂, n.IsTime → ms.part? n = none → ms.Adds n.text v ms₁ →
      ms.Adds n.recordName v ms₂ → ofStored (.object ms₂) =
        (ofStored (.object ms₁)).mapError (Failure.mapIssues (Issue.renamed n))) ∧
    ∀ k, ofStored (.object ms) = .ok k → KeyId.Valid k.id ∧ ∀ n t, k.Timestamp n t →
      ∃ name v z, ms.part? n = some (name, v) ∧ StoredTime.ofValue v = .ok z ∧
        z.utc? = some t := by
  have hsame : ∀ {ms'}, Stored.record ms = Stored.record ms' →
      ofStored (.object ms') = ofStored (.object ms) := fun h => congrArg Reading.toExcept h.symm
  have hjudged : Stored.InCalendar ms →
      Judged (ofStored (.object ms)) (WireName.list.flatMap (Stored.faults ms)) := by
    intro hcal
    obtain ⟨hsettled, hfaults⟩ := Stored.faults_record (Stored.settled_part hcal)
    exact hfaults ▸ hsettled.judged
  refine ⟨fun hcal => ⟨?_, hjudged hcal, fun n base k hbase => ?_⟩, fun ms' hperm hnodup => ?_,
    fun name v ms' hadds => ⟨fun hname => ?_, fun n hname =>
      ⟨fun hn hms hv => ?_, fun hn hrecord hms => ?_⟩⟩, fun n v ms₁ ms₂ hn hms h₁ h₂ => ?_,
    fun k hk => ⟨(wellFormed_of_ofStored hk).id, fun n t ht => ?_⟩⟩
  · rw [(hjudged hcal).isOk_iff, List.flatMap_eq_nil_iff]
    exact ⟨fun h n => h n (WireName.mem_list n), fun h n _ => h n⟩
  · obtain ⟨_, hdata, hrecord⟩ := ofStored_eq_ok_iff.1 hbase
    cases hdata
    obtain ⟨hsettled, hfaults⟩ := Stored.faults_record_only hrecord (Stored.settled_part hcal n)
    exact hfaults ▸ hsettled.judged
  · exact hsame (Stored.record_congr fun n =>
      Members.part?_congr fun name _ => Members.get?_perm hperm hnodup name)
  · exact hsame (Stored.record_congr fun n => hadds.part?_of_not_names (hname n))
  · subst hv
    obtain ⟨t, rfl⟩ := hname.exists_text
    exact hsame (Stored.record_null (hadds.agreeBut hname) hn hms (hadds.part?_of_names hname hms))
  · subst hrecord
    refine hsame (Stored.record_congr fun m => ?_)
    by_cases hm : m = n
    · subst hm
      exact hadds.part?_of_recordName hn hms
    · exact hadds.agreeBut hname m hm
  · have hagree : ms₁.AgreeBut n ms₂ := fun m hm =>
      (h₁.agreeBut n.names_text m hm).symm.trans (h₂.agreeBut n.names_recordName m hm)
    have hrecord := Stored.record_renamed hn hagree (h₁.part?_of_names n.names_text hms)
      (h₂.part?_of_names n.names_recordName hms)
    show (Stored.record ms₂).toExcept = _
    rw [hrecord, Reading.toExcept_mapIssues]
    rfl
  · obtain ⟨_, hdata, hrecord⟩ := ofStored_eq_ok_iff.1 hk
    cases hdata
    exact Stored.instant_of_timestamp hrecord ht

/-- Data with an unknown member, a short identifier, an action that is none, no indexes and a time
of creation under its other name. -/
theorem Key.ofStored_part_by_part_faulty :
    let data : Members := [("note", .null), ("created_at", .text "soon"), ("id", .text "abc"),
      ("actions", .list [.text "search", .text "fly"]), ("updatedAt", .time ⟨0, 0⟩)]
    let good : Members := [("id", .text (List.replicate 64 (.char 'a'))), ("actions", .list []),
      ("indexes", .list [.text "*"]), ("createdAt", .text "2030-01-01"), ("updatedAt", .time ⟨0, 0⟩)]
    ofStored (.object data) = .error (.malformed [⟨.stringTooShort, [.member "id"]⟩,
        ⟨.enum, [.member "actions", .index 1]⟩, ⟨.missing, [.member "indexes"]⟩,
        ⟨.dateTimeFromDateParsing, [.member "created_at"]⟩]) ∧
      ofStored (.object (data.only .actions good)) =
        .error (.malformed [⟨.enum, [.member "actions", .index 1]⟩]) ∧
      ofStored (.object (data ++ ([("expires_at", .null)] : Members))) = ofStored (.object data) := by
  intro data good
  have hcal : Stored.InCalendar data := by
    intro n name v z hn hpart hz
    rcases hn with rfl | rfl | rfl
    · cases hpart
    · cases hpart
      cases hz
    · cases hpart
      cases hz
      decide
  have hgood : ∃ k, ofStored (.object good) = .ok k := by
    have hsome : (ofStored (.object good)).toOption.isSome = true := by decide +kernel
    cases hk : ofStored (.object good) with
    | error f =>
      rw [hk] at hsome
      cases hsome
    | ok k => exact ⟨k, rfl⟩
  obtain ⟨hjudged, -, hadds, -⟩ := ofStored_part_by_part data
  obtain ⟨-, hall, hpart⟩ := hjudged hcal
  obtain ⟨k, hk⟩ := hgood
  refine ⟨?_, ?_, ?_⟩
  · have hfaults : WireName.list.flatMap (Stored.faults data) =
        [⟨.stringTooShort, [.member "id"]⟩, ⟨.enum, [.member "actions", .index 1]⟩,
          ⟨.missing, [.member "indexes"]⟩,
          ⟨.dateTimeFromDateParsing, [.member "created_at"]⟩] := by
      decide +kernel
    rw [hfaults] at hall
    exact hall
  · have hfaults : Stored.faults data .actions = [⟨.enum, [.member "actions", .index 1]⟩] := by
      decide +kernel
    have hone := hpart .actions good k hk
    rw [hfaults] at hone
    exact hone
  · exact ((hadds "expires_at" .null _ ⟨data, [], (List.append_nil data).symm, rfl⟩).2 .expiresAt
      (.inr rfl)).1 (.inr rfl) (by decide +kernel) rfl

end ApiKeys

import ApiKeys.Key.Held
import ApiKeys.Proofs.Key.WellFormed

/-!
# Records on the wire and back

Every well-formed record has a wire shape, and reading the shape gives the record again
(`Key.WellFormed.ofStored_shape`). What is written of a time is one of the texts that are read as
times, and it shows the same time (`StoredTime.ofChars_rfc3339`); the other parts are read as they
are written.
-/

namespace ApiKeys

/-! ## Times -/

theorem Digits.millionths_fixed {n : Nat} (h : n < 10 ^ 6) : millionths (fixed 6 n) = n := by
  rw [millionths, List.take_left' (length_fixed 6 n), value_fixed_of_lt h]

theorem fractionText_spec {marks : List Char} (hmarks : '.' ∈ marks) {micro : Nat}
    (h : micro < 10 ^ 6) :
    ∃ ds, FractionText marks (fractionText micro) ds ∧ Digits.millionths ds = micro ∧
      ds.length = if micro = 0 then 0 else 6 := by
  by_cases hzero : micro = 0
  · subst hzero
    exact ⟨[], .empty, rfl, rfl⟩
  · have hlength := Digits.length_fixed 6 micro
    refine ⟨Digits.fixed 6 micro, ?_, Digits.millionths_fixed h, by rw [hlength, if_neg hzero]⟩
    rw [fractionText, if_neg hzero]
    refine .digits hmarks (fun hnil => ?_) (Digits.isDigit_fixed 6 micro)
    rw [hnil] at hlength
    cases hlength

namespace StoredTime

theorem optionalSecond?_append {second : Nat} {t ds rest : List Char} (hsecond : second < 100)
    (h : FractionText ['.', ','] t ds)
    (hmark : ∀ c, rest.head? = some c → c ∉ ['.', ','])
    (hdigit : ∀ c, rest.head? = some c → c.isDigit = false) :
    optionalSecond? (':' :: (Digits.fixed 2 second ++ (t ++ rest))) = some ((second, ds), rest) := by
  have htake : Digits.take? 2 (Digits.fixed 2 second ++ (t ++ rest)) = some (second, t ++ rest) :=
    Digits.take?_eq_some_iff_fixed.2 ⟨hsecond, rfl⟩
  have hfraction := Grammar.fraction?_append h hmark hdigit
  simp [optionalSecond?, Digits.mark?, htake, hfraction]

theorem spelling?_timeText {d : Date} {mark : Char} {hour minute second : Nat}
    {f ds rest : List Char} (hd : d.Fits) (hmark : mark ∈ ['T', 't', ' ', '_'])
    (hhour : hour < 100) (hminute : minute < 100) (hsecond : second < 100)
    (hf : FractionText ['.', ','] f ds) (hmarks : ∀ c, rest.head? = some c → c ∉ ['.', ','])
    (hdigit : ∀ c, rest.head? = some c → c.isDigit = false) :
    spelling? (d.text ++ mark :: (timeText hour minute second ++ (f ++ rest))) =
      (optionalOffset? rest).bind fun os =>
        if os.2 = [] then some ⟨d, hour, minute, second, ds, os.1⟩ else none := by
  have hdate : Grammar.date? (d.text ++ mark :: (timeText hour minute second ++ (f ++ rest))) =
      some (d, mark :: (timeText hour minute second ++ (f ++ rest))) :=
    Grammar.date?_eq_some_iff.2 ⟨hd, rfl⟩
  have htime : Grammar.hourMinute? (timeText hour minute second ++ (f ++ rest)) =
      some ((hour, minute), ':' :: (Digits.fixed 2 second ++ (f ++ rest))) :=
    Grammar.hourMinute?_eq_some_iff.2 ⟨hhour, hminute, by simp [timeText]⟩
  have hseconds := optionalSecond?_append hsecond hf hmarks hdigit
  simp only [spelling?, hdate, htime, hseconds, hmark, if_true, Option.bind_eq_bind,
    Option.bind_some]

theorem spelling?_text {c : Civil} (h : c.Valid) :
    ∃ p, spelling? (c.text ++ ['Z']) = some p ∧ p.face = c ∧ p.offset = 0 := by
  obtain ⟨hdate, hhour, hminute, hsecond, hmicro⟩ := h
  obtain ⟨ds, hfraction, hds, -⟩ := fractionText_spec (by simp : '.' ∈ ['.', ',']) hmicro
  have htext : c.text ++ ['Z'] = c.date.text ++ 'T' ::
      (timeText c.hour c.minute c.second ++ (fractionText c.micro ++ ['Z'])) := by
    simp [Civil.text, timeText, hourMinuteText]
  refine ⟨⟨c.date, c.hour, c.minute, c.second, ds, 0⟩, ?_, by rw [Spelling.face, hds], rfl⟩
  rw [htext, spelling?_timeText hdate.fits (by simp) (by omega) (by omega) (by omega) hfraction
    (by simp) (by simp)]
  rfl

theorem ofChars_rfc3339 {t : Instant} (h : t.Representable) :
    ofChars t.rfc3339 = .ok ⟨t.micros.toNat, 0⟩ := by
  have hlimit : t.micros.toNat < Civil.limit := by
    obtain ⟨hlow, hhigh⟩ := h
    omega
  have hvalid := Civil.valid_ofMicros.2 hlimit
  obtain ⟨p, hspelling, hface, hoffset⟩ := spelling?_text hvalid
  have hzoned : p.zoned? = some ⟨t.micros.toNat, 0⟩ := by
    rw [Spelling.zoned?_eq_some_iff, hface, hoffset, Civil.toMicros_ofMicros]
    exact ⟨hvalid, by decide, rfl⟩
  rw [ofChars, Instant.rfc3339, hspelling]
  dsimp only
  rw [hzoned]

theorem utc?_toNat {t : Instant} (h : t.Representable) :
    (⟨t.micros.toNat, 0⟩ : Zoned).utc? = some t := by
  refine Zoned.utc?_eq_some_iff.2 ⟨?_, h⟩
  have hlow := h.1
  cases t
  simp only [Zoned.instant, Instant.mk.injEq] at hlow ⊢
  omega

theorem ofValue_rfc3339 {t : Instant} (h : t.Representable) :
    ofValue (.text (Text.ofChars t.rfc3339)) = .ok ⟨t.micros.toNat, 0⟩ := by
  rw [ofValue, Text.chars?_ofChars]
  exact ofChars_rfc3339 h

-- For any value and time: with the written text in their places the kernel would compute it.
theorem reading_of_ofValue {v : Value} {z : Zoned} {t : Instant} (hv : ofValue v = .ok z)
    (hz : z.utc? = some t) (place : List Issue.Step) : reading place v = .value t := by
  simp only [reading, hv, hz]

theorem reading_rfc3339 {t : Instant} (h : t.Representable) (place : List Issue.Step) :
    reading place (.text (Text.ofChars t.rfc3339)) = .value t :=
  reading_of_ofValue (ofValue_rfc3339 h) (utc?_toNat h) place

end StoredTime

/-! ## Lists and identifiers -/

namespace Stored

variable {α : Type}

theorem listOf_map {item : Value → Except Issue.Kind α} {write : α → Value}
    (h : ∀ a, item (write a) = .ok a) (place : List Issue.Step) (as : List α) :
    listOf item place (.list (as.map write)) = .value as := by
  have hfrom : ∀ n, Reading.all (((as.map write).zipIdx n).map
      fun vi => readingAt (place ++ [.index vi.2]) (item vi.1)) = .value as := by
    induction as with
    | nil => exact fun _ => rfl
    | cons a as ih =>
      intro n
      rw [List.map_cons, List.zipIdx_cons, List.map_cons, Reading.all, ih]
      dsimp only
      rw [h]
      rfl
  exact hfrom 0

theorem actionOf_wireName (a : Action) : actionOf (.text a.wireName) = .ok a := by
  have ha : Action.ofText? a.wireName = some a := Action.ofText?_eq_some_iff.2 rfl
  simp only [actionOf, Value.asText, ha]

theorem idOf_text {id : Text} (h : KeyId.Valid id) : idOf (.text id) = .ok id :=
  checkId_eq_ok_iff.2 ⟨h, rfl⟩

theorem required_of_part? {ms : Members} {n : WireName} {name : Text} {v : Value} {a : α}
    {read : List Issue.Step → Value → Reading α} (hpart : ms.part? n = some (name, v))
    (hread : ∀ place, read place v = .value a) : required ms n read = .value a := by
  rw [required, hpart]
  exact hread _

end Stored

/-! ## The wire shape -/

theorem Instant.wire?_eq_some {t : Instant} (h : t.Representable) :
    t.wire? = some (.text (Text.ofChars t.rfc3339)) := by
  rw [Instant.wire?, Instant.rfc3339?, if_pos h, Option.map_some]

namespace Key

/-- What a part of a record whose instants have dates is on the wire. -/
def shapeOf (k : Key) : WireName → Value
  | .description => (k.description.map .text).getD .null
  | .id => .text k.id
  | .actions => .list (k.actions.map fun a => .text a.wireName)
  | .indexes => .list (k.indexes.map .text)
  | .expiresAt => (k.expiresAt.map fun e => .text (Text.ofChars e.rfc3339)).getD .null
  | .createdAt => .text (Text.ofChars k.createdAt.rfc3339)
  | .updatedAt => .text (Text.ofChars k.updatedAt.rfc3339)

/-- The wire shape of a record whose instants have dates. -/
def shape (k : Key) : Members :=
  (k.description.map fun d => WireName.description.is (.text d)).toList ++
    [WireName.id, .actions, .indexes, .expiresAt, .createdAt, .updatedAt].map fun n =>
      n.is (k.shapeOf n)

theorem names_shape (k : Key) : k.shape.map Prod.fst =
    (if k.description = none then [] else [("description" : Text)]) ++
      [("id" : Text), "actions", "indexes", "expiresAt", "createdAt", "updatedAt"] := by
  rw [shape]
  cases k.description <;> rfl

theorem WellFormed.wire? {k : Key} (h : k.WellFormed) : k.wire? = some k.shape := by
  have hexpires : k.expiresAtWire? =
      some ((k.expiresAt.map fun e => .text (Text.ofChars e.rfc3339)).getD .null) := by
    rw [expiresAtWire?]
    cases he : k.expiresAt with
    | none => rfl
    | some e => exact Instant.wire?_eq_some (h.expiresAt e he)
  simp only [Key.wire?, hexpires, Instant.wire?_eq_some h.createdAt,
    Instant.wire?_eq_some h.updatedAt]
  rfl

theorem WellFormed.held_wire {k : Key} (h : k.WellFormed) : (Held.ofKey k).wire = .ok k.shape := by
  rw [Held.wire_ofKey, h.wire?]
  rfl

theorem part?_shape (k : Key) {n : WireName} (h : n ≠ .description) :
    k.shape.part? n = some ((n.text : Text), k.shapeOf n) := by
  rw [shape]
  cases n with
  | description => exact absurd rfl h
  | _ => cases k.description <;> rfl

theorem part?_shape_description (k : Key) : k.shape.part? .description =
    k.description.map fun d => (("description" : Text), .text d) := by
  rw [shape]
  cases k.description <;> rfl

/-- **The wire shape of a well-formed record is read as the record.** -/
theorem WellFormed.ofStored_shape {k : Key} (h : k.WellFormed) :
    Key.ofStored (.object k.shape) = .ok k := by
  have hdescription : Stored.optional k.shape .description
      (fun place v => Stored.readingAt place v.asText) = .value k.description := by
    rw [Stored.optional, part?_shape_description]
    cases k.description <;> rfl
  have hid : Stored.required k.shape .id
      (fun place v => Stored.readingAt place (Stored.idOf v)) = .value k.id :=
    Stored.required_of_part? (k.part?_shape (by decide)) fun place =>
      Stored.readingAt_eq_value_iff.2 (Stored.idOf_text h.id)
  have hactions : Stored.required k.shape .actions (Stored.listOf Stored.actionOf) =
      .value k.actions :=
    Stored.required_of_part? (k.part?_shape (by decide)) fun place =>
      Stored.listOf_map Stored.actionOf_wireName place k.actions
  have hindexes : Stored.required k.shape .indexes (Stored.listOf Value.asText) =
      .value k.indexes :=
    Stored.required_of_part? (k.part?_shape (by decide)) fun place =>
      Stored.listOf_map (fun t => (rfl : Value.asText (.text t) = .ok t)) place k.indexes
  have hexpires : Stored.optional k.shape .expiresAt StoredTime.reading = .value k.expiresAt := by
    rw [Stored.optional, k.part?_shape (by decide), shapeOf]
    cases he : k.expiresAt with
    | none => rfl
    | some e =>
      exact Reading.map_eq_value_iff.2 ⟨e, StoredTime.reading_rfc3339 (h.expiresAt e he) _, rfl⟩
  have hcreated : Stored.required k.shape .createdAt StoredTime.reading = .value k.createdAt :=
    Stored.required_of_part? (k.part?_shape (by decide))
      (StoredTime.reading_rfc3339 h.createdAt)
  have hupdated : Stored.required k.shape .updatedAt StoredTime.reading = .value k.updatedAt :=
    Stored.required_of_part? (k.part?_shape (by decide))
      (StoredTime.reading_rfc3339 h.updatedAt)
  rw [Key.ofStored, Stored.reading, Stored.record, hdescription, hid, hactions, hindexes, hexpires,
    hcreated, hupdated]
  rfl

/-! ## Records that the library gives -/

/-- A record that was built, changed at readings of UTC clocks, or restored from stored data. -/
inductive Obtained : Key → Prop
  | created {body : Value} {s : Supplies} {k : Key} : (create body s).1 = .ok k → Obtained k
  | default {settings : Settings} {which : DefaultKey} {s : Supplies} {k : Key} :
      (createDefault settings which s).1 = .ok k → Obtained k
  | updated {k : Key} {room : Room} {body : Value} {clock : Clock} {now : Zoned}
      {as : List Assignment} : Obtained k → clock.Utc →
      (changes room body clock).1 = .ok (now, as) → Obtained (k.change now as)
  | restored {data : Value} {k : Key} : ofStored data = .ok k → Obtained k

theorem Obtained.wellFormed {k : Key} (h : k.Obtained) : k.WellFormed := by
  induction h with
  | created hk => exact wellFormed_of_create hk
  | default hk => exact wellFormed_of_createDefault hk
  | updated _ hclock hchanges ih =>
    obtain ⟨ms, -, hread, hall⟩ := changes_eq_ok hchanges
    exact ih.change (hclock.read hread) hall
  | restored hk => exact wellFormed_of_ofStored hk

/-- **A record that the library gives survives the wire.** It has a wire shape, which is read as the
same record, and whatever is read from the shape has that shape again. The members come in one
order, without the description exactly when there is none. -/
theorem Obtained.round_trip {k : Key} (h : k.Obtained) :
    ∃ ms, (Held.ofKey k).wire = .ok ms ∧ ofStored (.object ms) = .ok k ∧
      (∀ k', ofStored (.object ms) = .ok k' → (Held.ofKey k').wire = .ok ms) ∧
      ms.map Prod.fst = (if k.description = none then [] else [("description" : Text)]) ++
        [("id" : Text), "actions", "indexes", "expiresAt", "createdAt", "updatedAt"] := by
  have hwire := h.wellFormed.held_wire
  have hstored := h.wellFormed.ofStored_shape
  refine ⟨k.shape, hwire, hstored, fun k' hk' => ?_, k.names_shape⟩
  obtain rfl := Except.ok.inj (hstored.symm.trans hk')
  exact hwire

/-- A record restored from other names, numbers and containers than its wire shape has. -/
theorem Obtained.round_trip_restored :
    let data : Value := .object [("id", .text (List.replicate 64 (.char 'a'))),
      ("actions", .set [.text "search"]), ("indexes", .tuple [.bytes [42], .text "*"]),
      ("created_at", .int 0), ("updatedAt", .text "1970-01-01 02:00:00.5+02:00")]
    ∃ k ms, ofStored data = .ok k ∧ (Held.ofKey k).wire = .ok ms ∧ ofStored (.object ms) = .ok k := by
  intro data
  have hsome : (ofStored data).toOption.isSome = true := by decide +kernel
  cases hk : ofStored data with
  | error f =>
    rw [hk] at hsome
    cases hsome
  | ok k =>
    obtain ⟨ms, hwire, hstored, -⟩ := Obtained.round_trip (.restored hk)
    exact ⟨k, ms, rfl, hwire, hstored⟩

end Key

end ApiKeys

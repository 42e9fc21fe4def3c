import ApiKeys.Proofs.Expiration.Language
import ApiKeys.Proofs.Text.Order

/-!
# Expirations in the order of their texts

A text of the first format holds its numbers from the largest unit to the smallest, each in so many
digits. So of two texts with one offset the one that comes first names an instant that does not come
later (`expiration_mono`): the fronts are compared by date, time of day and fraction
(`OffsetForm.cases_of_le`), the numbers of dates are in the order of the calendar, and a second 60
stays in its minute (`Spelling.inMinute`).
-/

namespace ApiKeys

/-! ## The order of the parts -/

theorem Date.text_append_le_iff {d d' : Date} (h : d.Fits) (h' : d'.Fits) (x y : List Char) :
    d.text ++ x ≤ d'.text ++ y ↔ d.Before d' ∨ d = d' ∧ x ≤ y := by
  obtain ⟨year, month, day⟩ := d
  obtain ⟨year', month', day'⟩ := d'
  obtain ⟨hy, hm, hd⟩ := h
  obtain ⟨hy', hm', hd'⟩ := h'
  simp only [text, List.append_assoc, List.cons_append]
  rw [Digits.fixed_append_le_iff hy hy', cons_le_cons_same_iff, Digits.fixed_append_le_iff hm hm',
    cons_le_cons_same_iff, Digits.fixed_append_le_iff hd hd', Before, Date.mk.injEq]
  tauto

theorem timeText_append_le_iff {hour minute second hour' minute' second' : Nat}
    (h : hour < 100 ∧ minute < 100 ∧ second < 100)
    (h' : hour' < 100 ∧ minute' < 100 ∧ second' < 100) (x y : List Char) :
    timeText hour minute second ++ x ≤ timeText hour' minute' second' ++ y ↔
      hour < hour' ∨ hour = hour' ∧ (minute < minute' ∨ minute = minute' ∧
        (second < second' ∨ second = second' ∧ x ≤ y)) := by
  obtain ⟨hh, hm, hs⟩ := h
  obtain ⟨hh', hm', hs'⟩ := h'
  simp only [timeText, hourMinuteText, List.append_assoc, List.cons_append]
  rw [Digits.fixed_append_le_iff hh hh', cons_le_cons_same_iff, Digits.fixed_append_le_iff hm hm',
    cons_le_cons_same_iff, Digits.fixed_append_le_iff hs hs']

theorem FractionText.millionths_le {f f' ds ds' : List Char} (h : FractionText ['.'] f ds)
    (h' : FractionText ['.'] f' ds') (hle : f ≤ f') :
    Digits.millionths ds ≤ Digits.millionths ds' := by
  refine Digits.millionths_mono h.isDigit h'.isDigit ?_
  cases h with
  | empty => exact nil_le _
  | digits hmark _ _ =>
    obtain rfl := List.mem_singleton.1 hmark
    cases h' with
    | empty => exact absurd hle (not_cons_le_nil _ _)
    | digits hmark' _ _ =>
      obtain rfl := List.mem_singleton.1 hmark'
      exact (cons_le_cons_same_iff '.' _ _).1 hle

/-! ## The minute and what is in it -/

namespace Spelling

/-- The minutes before the one that the numbers name, counted from the start of year 1. -/
def minutes (p : Spelling) : Nat := (p.date.dayNumber * 24 + p.hour) * 60 + p.minute

/-- How far into the minute the numbers are, in microseconds; with second 60 as far as a clock goes.
-/
def inMinute (p : Spelling) : Nat :=
  if p.second = 60 then 59999999 else p.second * 1000000 + Digits.millionths p.fraction

theorem toMicros_foldLeapSecond {p : Spelling} (h : p.foldLeapSecond.face.Valid) :
    p.foldLeapSecond.face.toMicros = p.minutes * 60000000 + p.inMinute ∧ p.inMinute < 60000000 ∧
      p.date.Valid ∧ p.hour < 24 ∧ p.minute < 60 ∧ p.second ≤ 60 := by
  by_cases hleap : p.minute = 59 ∧ p.second = 60
  · rw [face_foldLeapSecond hleap] at h ⊢
    obtain ⟨hd, hh, -⟩ := h
    rw [inMinute, if_pos hleap.2, Civil.toMicros, minutes, hleap.1, hleap.2]
    dsimp only at hd hh ⊢
    exact ⟨by omega, by omega, hd, hh, by omega, Nat.le_refl 60⟩
  · rw [foldLeapSecond_of_not hleap] at h ⊢
    obtain ⟨hd, hh, hm, hs, hu⟩ := h
    simp only [face] at hd hh hm hs hu
    rw [inMinute, if_neg hs.ne, Civil.toMicros, minutes, face]
    exact ⟨by dsimp only; omega, by omega, hd, hh, hm, hs.le⟩

/-- The numbers at the start of their minute. -/
def startOfMinute (p : Spelling) : Spelling := { p with second := 0, fraction := [] }

theorem face_startOfMinute {p : Spelling} (h : p.foldLeapSecond.face.Valid) :
    p.startOfMinute.foldLeapSecond.face.Valid ∧
      p.startOfMinute.foldLeapSecond.face.toMicros = p.minutes * 60000000 := by
  obtain ⟨-, -, hd, hh, hm, -⟩ := toMicros_foldLeapSecond h
  have hfold : p.startOfMinute.foldLeapSecond = p.startOfMinute :=
    foldLeapSecond_of_not fun hleap => absurd hleap.2 (Nat.zero_ne_add_one 59)
  have hvalid : p.startOfMinute.face.Valid :=
    ⟨hd, hh, hm, (by decide : 0 < 60), (by decide : Digits.millionths [] < 1000000)⟩
  rw [hfold]
  refine ⟨hvalid, ?_⟩
  have hfirst : Digits.millionths [] = 0 := by decide
  rw [Civil.toMicros, face, startOfMinute, minutes, hfirst]
  dsimp only
  omega

end Spelling

/-! ## Texts with an offset -/

/-- A text of the first format, in two parts: with the mark `T` and all that comes before the
offset, and the offset. -/
structure OffsetForm (l z : List Char) (p : Spelling) : Prop where
  date : p.date.Fits
  time : p.hour < 100 ∧ p.minute < 100 ∧ p.second < 100
  offset : OffsetText z p.offset
  text : ∃ f, FractionText ['.'] f p.fraction ∧
    l = p.date.text ++ 'T' :: (timeText p.hour p.minute p.second ++ f)

theorem expirationInstant?_ofChars_iff {s : List Char} {e : Instant} :
    expirationInstant? (Text.ofChars s) = .ok (some e) ↔
      ∃ w, readExpiration? ExpirationFormat.list s = some w ∧ w.utc? = some e := by
  rw [expirationInstant?, Text.chars?_ofChars, Option.bind_some]
  cases readExpiration? ExpirationFormat.list s with
  | none => simp
  | some w => cases hw : w.utc? <;> simp [hw]

namespace OffsetForm

variable {l l' z : List Char} {p p' : Spelling} {e : Instant}

theorem spelling? (h : OffsetForm l z p) : ExpirationFormat.rfc3339.spelling? (l ++ z) = some p := by
  obtain ⟨f, hf, rfl⟩ := h.text
  exact ExpirationFormat.dateTimeOffset?_eq_some_iff.2
    ⟨'T', f, z, .inl rfl, h.date, h.time, hf, h.offset, by simp⟩

theorem expirationInstant?_iff (h : OffsetForm l z p) :
    expirationInstant? (Text.ofChars (l ++ z)) = .ok (some e) ↔
      p.foldLeapSecond.face.Valid ∧ p.offset.natAbs < 24 * 60 ∧
        e.micros = p.foldLeapSecond.face.toMicros - p.offset * 60 * 1000000 ∧
        e.Representable := by
  have hread : readExpiration? ExpirationFormat.list (l ++ z) = p.foldLeapSecond.zoned? :=
    ExpirationFormat.readExpiration?_of_spelling? ExpirationFormat.rfc3339.mem_list h.spelling?
  rw [expirationInstant?_ofChars_iff, hread]
  constructor
  · rintro ⟨w, hw, hutc⟩
    obtain ⟨hface, hoffset, rfl⟩ := Spelling.zoned?_eq_some_iff.1 hw
    obtain ⟨rfl, hrep⟩ := Zoned.utc?_eq_some_iff.1 hutc
    rw [Spelling.offset_foldLeapSecond] at hoffset hrep ⊢
    exact ⟨hface, hoffset, rfl, hrep⟩
  · rintro ⟨hface, hoffset, hmicros, hrep⟩
    refine ⟨_, Spelling.zoned?_eq_some_iff.2 ⟨hface, ?_, rfl⟩, Zoned.utc?_eq_some_iff.2 ⟨?_, hrep⟩⟩
    · rwa [Spelling.offset_foldLeapSecond]
    · rw [Zoned.instant_face, Spelling.offset_foldLeapSecond, ← hmicros]

theorem offset_eq (h : OffsetForm l z p) (h' : OffsetForm l' z p') : p.offset = p'.offset := by
  have hread : ∀ {o : Int}, OffsetText z o → Grammar.requiredOffset? z = some (o, []) :=
    fun ho => Grammar.requiredOffset?_eq_some_iff.2 ⟨z, ho, (List.append_nil z).symm⟩
  have hsame := (hread h.offset).symm.trans (hread h'.offset)
  exact (Prod.mk.inj (Option.some.inj hsame)).1

theorem startOfMinute (h : OffsetForm l z p) :
    OffsetForm (p.date.text ++ 'T' :: timeText p.hour p.minute 0) z p.startOfMinute where
  date := h.date
  time := ⟨h.time.1, h.time.2.1, (by decide : 0 < 100)⟩
  offset := h.offset
  text := ⟨[], .empty, by rw [List.append_nil]; rfl⟩

theorem exists_start (h : OffsetForm l z p)
    (he : expirationInstant? (Text.ofChars (l ++ z)) = .ok (some e)) :
    ∃ start, expirationInstant? (Text.ofChars
        (p.date.text ++ 'T' :: timeText p.hour p.minute 0 ++ z)) = .ok (some start) ∧
      e.micros = start.micros + p.inMinute ∧ p.inMinute < 60000000 := by
  obtain ⟨hface, hoffset, hmicros, hlow, hhigh⟩ := h.expirationInstant?_iff.1 he
  obtain ⟨hsplit, hin, -⟩ := Spelling.toMicros_foldLeapSecond hface
  obtain ⟨hstart, hminutes⟩ := Spelling.face_startOfMinute hface
  refine ⟨⟨p.minutes * 60000000 - p.offset * 60 * 1000000⟩,
    h.startOfMinute.expirationInstant?_iff.2 ⟨hstart, hoffset, ?_, ?_, ?_⟩, ?_, hin⟩
  · rw [hminutes]
    push_cast
    rfl
  · -- the offset is in whole minutes, so no start of a minute lies just before year 1
    dsimp only
    omega
  · dsimp only
    omega
  · dsimp only
    omega

theorem cases_of_le (h : OffsetForm l z p) (h' : OffsetForm l' z p') (hle : l ≤ l') :
    p.date.Before p'.date ∨ p.date = p'.date ∧ (p.hour < p'.hour ∨ p.hour = p'.hour ∧
      (p.minute < p'.minute ∨ p.minute = p'.minute ∧ (p.second < p'.second ∨
        p.second = p'.second ∧ Digits.millionths p.fraction ≤ Digits.millionths p'.fraction))) := by
  obtain ⟨f, hf, rfl⟩ := h.text
  obtain ⟨f', hf', rfl⟩ := h'.text
  rw [Date.text_append_le_iff h.date h'.date, cons_le_cons_same_iff,
    timeText_append_le_iff h.time h'.time] at hle
  have hfraction := hf.millionths_le hf'
  tauto

theorem minutes_le (h : OffsetForm l z p) (h' : OffsetForm l' z p')
    (hface : p.foldLeapSecond.face.Valid) (hface' : p'.foldLeapSecond.face.Valid) (hle : l ≤ l') :
    p.minutes < p'.minutes ∨ p.minutes = p'.minutes ∧ p.inMinute ≤ p'.inMinute := by
  obtain ⟨-, -, hdate, hhour, hminute, -⟩ := Spelling.toMicros_foldLeapSecond hface
  obtain ⟨-, hbound, -, -, -, hsecond⟩ := Spelling.toMicros_foldLeapSecond hface'
  rw [Spelling.minutes, Spelling.minutes]
  rcases h.cases_of_le h' hle with hbefore | ⟨hsame, hhours | ⟨hsame', hminutes | ⟨hsame'', hin⟩⟩⟩
  · have hday := Date.dayNumber_lt_dayNumber (Date.valid_iff_proper.1 hdate).1 hbefore
    omega
  · rw [hsame]
    omega
  · rw [hsame, hsame']
    omega
  · refine .inr ⟨by rw [hsame, hsame', hsame''], ?_⟩
    rw [Spelling.inMinute] at hbound ⊢
    rw [Spelling.inMinute]
    obtain ⟨f, hf, -⟩ := h.text
    have hsmall := Digits.millionths_lt hf.isDigit
    split_ifs <;> omega

end OffsetForm

/-- **Expirations are in the order of their texts.** Of two texts of the first format with `T`
before the time of day and with the same offset, the one whose rest comes first character by
character names an instant that does not come later, however long the fractions are and whether or
not the second is 60. A second 60 names an instant of its minute: it comes no earlier than any other
value with that minute, and earlier than the minute after it starts. -/
theorem expiration_mono {l l' z : List Char} {p p' : Spelling} {e e' : Instant}
    (h : OffsetForm l z p) (h' : OffsetForm l' z p')
    (he : expirationInstant? (Text.ofChars (l ++ z)) = .ok (some e))
    (he' : expirationInstant? (Text.ofChars (l' ++ z)) = .ok (some e')) :
    (l ≤ l' → e ≤ e') ∧
      (p'.second = 60 →
        (p.date = p'.date → p.hour = p'.hour → p.minute = p'.minute → e ≤ e') ∧
        ∃ start, expirationInstant? (Text.ofChars
            (p'.date.text ++ 'T' :: timeText p'.hour p'.minute 0 ++ z)) = .ok (some start) ∧
          start ≤ e' ∧ e'.micros < start.micros + 60 * 1000000) := by
  obtain ⟨hface, -, hmicros, -⟩ := h.expirationInstant?_iff.1 he
  obtain ⟨hface', hoffset', hmicros', hrep'⟩ := h'.expirationInstant?_iff.1 he'
  have hshift := h.offset_eq h'
  obtain ⟨hsplit, hin, -⟩ := Spelling.toMicros_foldLeapSecond hface
  obtain ⟨hsplit', hin', -⟩ := Spelling.toMicros_foldLeapSecond hface'
  refine ⟨fun hle => ?_, fun hleap => ⟨fun hdate hhour hminute => ?_, ?_⟩⟩
  · have hminutes := h.minutes_le h' hface hface' hle
    show e.micros ≤ e'.micros
    omega
  · have hminutes : p.minutes = p'.minutes := by
      rw [Spelling.minutes, Spelling.minutes, hdate, hhour, hminute]
    have hlast : p'.inMinute = 59999999 := if_pos hleap
    show e.micros ≤ e'.micros
    omega
  · obtain ⟨start, hstart, hfar, hwithin⟩ := h'.exists_start he'
    refine ⟨start, hstart, ?_, by omega⟩
    show start.micros ≤ e'.micros
    omega

/-- A fraction of seven digits, and a second 60 with a shorter one, in the last minute of a year on
a clock ahead of UTC. -/
theorem expiration_mono_leap :
    let l := "2039-12-31T23:59:07.1234567".toList
    let l' := "2039-12-31T23:59:60.5".toList
    let z := '+' :: hourMinuteText 0 30
    let e : Instant := ⟨Civil.toMicros ⟨⟨2039, 12, 31⟩, 23, 29, 7, 123456⟩⟩
    let e' : Instant := ⟨Civil.toMicros ⟨⟨2039, 12, 31⟩, 23, 29, 59, 999999⟩⟩
    expirationInstant? (Text.ofChars (l ++ z)) = .ok (some e) ∧
      expirationInstant? (Text.ofChars (l' ++ z)) = .ok (some e') ∧ l ≤ l' ∧ e ≤ e' ∧
      ∃ start : Instant, start ≤ e' ∧ e'.micros < start.micros + 60 * 1000000 := by
  intro l l' z e e'
  have hz : OffsetText z 30 := .ahead (by decide : 0 < 100) (by decide : 30 < 100)
  have hd : (⟨2039, 12, 31⟩ : Date).Fits := Date.Valid.fits (by decide)
  have h : OffsetForm l z ⟨⟨2039, 12, 31⟩, 23, 59, 7, "1234567".toList, 30⟩ :=
    ⟨hd, by decide, hz, ".1234567".toList,
      .digits (by decide) (by decide) (List.all_eq_true.1 (by decide)), by decide +kernel⟩
  have h' : OffsetForm l' z ⟨⟨2039, 12, 31⟩, 23, 59, 60, "5".toList, 30⟩ :=
    ⟨hd, by decide, hz, ".5".toList,
      .digits (by decide) (by decide) (List.all_eq_true.1 (by decide)), by decide +kernel⟩
  have he : expirationInstant? (Text.ofChars (l ++ z)) = .ok (some e) :=
    h.expirationInstant?_iff.2 (by decide)
  have he' : expirationInstant? (Text.ofChars (l' ++ z)) = .ok (some e') :=
    h'.expirationInstant?_iff.2 (by decide)
  obtain ⟨hmono, hleap⟩ := expiration_mono h h' he he'
  obtain ⟨-, start, -, hstart, hnext⟩ := hleap rfl
  have hle : l ≤ l' := by decide
  exact ⟨he, he', hle, hmono hle, start, hstart, hnext⟩

end ApiKeys

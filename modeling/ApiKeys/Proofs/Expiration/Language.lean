import ApiKeys.Expiration.Check
import ApiKeys.Proofs.Time.Calendar
import ApiKeys.Proofs.Time.Grammar

/-!
# The language of expirations

`ExpirationText` says which texts name a time at which a key expires, and which time, without
reading anything: a text is put together from numerals, marks, a fraction and an offset. What the
four readers of `ExpirationFormat.spelling?` accept is described form by form, the forms exclude
each other (`eq_of_spelling?`), and so trying them one after the other is the same as asking for one
of them (`readExpiration?_of_spelling?`). The main statement is `checkExpiration_text`.
-/

namespace ApiKeys

/-- A text of one of the four forms of an expiration, with the clock face that it shows and the
minutes by which that clock is ahead of UTC. In a text with an offset a second 60 may follow minute
59, and shows the last microsecond of that minute whatever its fraction. -/
inductive ExpirationText : List Char → Civil → Int → Prop
  | offset {c : Civil} {mark : Char} {f ds z : List Char} {o : Int} : c.Valid →
      mark = 'T' ∨ mark = 't' → FractionText ['.'] f ds → c.micro = Digits.millionths ds →
      OffsetText z o →
      ExpirationText (c.date.text ++ mark :: (timeText c.hour c.minute c.second ++ (f ++ z))) c o
  | leapSecond {d : Date} {hour : Nat} {mark : Char} {f ds z : List Char} {o : Int} : d.Valid →
      hour < 24 → mark = 'T' ∨ mark = 't' → FractionText ['.'] f ds → OffsetText z o →
      ExpirationText (d.text ++ mark :: (timeText hour 59 60 ++ (f ++ z)))
        ⟨d, hour, 59, 59, 999999⟩ o
  | joined {c : Civil} : c.Valid → c.micro = 0 →
      ExpirationText (c.date.text ++ 'T' :: timeText c.hour c.minute c.second) c 0
  | spaced {c : Civil} : c.Valid → c.micro = 0 →
      ExpirationText (c.date.text ++ ' ' :: timeText c.hour c.minute c.second) c 0
  | day {d : Date} : d.Valid → ExpirationText d.text ⟨d, 0, 0, 0, 0⟩ 0

/-! ## Numbers that make sense fit their digits -/

theorem Date.Valid.fits {d : Date} (h : d.Valid) : d.Fits := by
  obtain ⟨-, hy, -, hm, -, hd⟩ := h
  have := Date.getD_monthLengths_le d.year (d.month - 1)
  exact ⟨by omega, by omega, by omega⟩

namespace Spelling

/-- The clock face that the numbers show. -/
def face (p : Spelling) : Civil :=
  ⟨p.date, p.hour, p.minute, p.second, Digits.millionths p.fraction⟩

theorem zoned?_eq_some_iff {p : Spelling} {z : Zoned} :
    p.zoned? = some z ↔
      p.face.Valid ∧ p.offset.natAbs < 24 * 60 ∧ z = ⟨p.face.toMicros, p.offset * 60⟩ := by
  show (if p.face.Valid ∧ p.offset.natAbs < 24 * 60 then some _ else none) = some z ↔ _
  rw [Option.ite_none_right_eq_some, and_assoc, Option.some.injEq, eq_comm (b := z)]
  rfl

@[simp] theorem offset_foldLeapSecond (p : Spelling) : p.foldLeapSecond.offset = p.offset := by
  unfold foldLeapSecond
  split <;> rfl

theorem face_foldLeapSecond {p : Spelling} (h : p.minute = 59 ∧ p.second = 60) :
    p.foldLeapSecond.face = ⟨p.date, p.hour, 59, 59, 999999⟩ := by
  have hnines : Digits.millionths (List.replicate 6 '9') = 999999 := by decide
  rw [foldLeapSecond, if_pos h, face, hnines, h.1]

theorem foldLeapSecond_of_not {p : Spelling} (h : ¬ (p.minute = 59 ∧ p.second = 60)) :
    p.foldLeapSecond = p := if_neg h

end Spelling

namespace ExpirationFormat

open Grammar

/-! ## What each reader accepts -/

theorem dateTimeOffset?_eq_some_iff {p : Spelling} {s : List Char} :
    dateTimeOffset? s = some p ↔
      ∃ mark f z, (mark = 'T' ∨ mark = 't') ∧ p.date.Fits ∧
        (p.hour < 100 ∧ p.minute < 100 ∧ p.second < 100) ∧ FractionText ['.'] f p.fraction ∧
        OffsetText z p.offset ∧
        s = p.date.text ++ mark :: (timeText p.hour p.minute p.second ++ (f ++ z)) := by
  obtain ⟨d, hour, minute, second, fraction, offset⟩ := p
  simp only [dateTimeOffset?, Option.bind_eq_bind, Option.bind_eq_some_iff, Prod.exists,
    Option.or_eq_some_iff, date?_eq_some_iff, Digits.mark?_eq_some_iff, timeOfDay?_eq_some_iff,
    Option.ite_none_right_eq_some, Option.some.injEq, Spelling.mk.injEq]
  constructor
  · rintro ⟨_, _, ⟨hd, rfl⟩, _, hmark, _, _, _, _, ⟨ht, rfl⟩, _, _, hf, _, _, ho, rfl,
      rfl, rfl, rfl, rfl, rfl, rfl⟩
    obtain ⟨f, hft, rfl⟩ := fraction?_eq_some hf
    obtain ⟨z, hz, rfl⟩ := requiredOffset?_eq_some_iff.1 ho
    rcases hmark with rfl | ⟨-, rfl⟩
    · exact ⟨'T', f, z, .inl rfl, hd, ht, hft, hz, by simp⟩
    · exact ⟨'t', f, z, .inr rfl, hd, ht, hft, hz, by simp⟩
  · rintro ⟨mark, f, z, hmark, hd, ht, hf, hz, rfl⟩
    refine ⟨d, _, ⟨hd, rfl⟩, _, ?_, hour, minute, second, _, ⟨ht, rfl⟩, fraction, z,
      fraction?_append hf (fun c hc => (hz.head hc).1) (fun c hc => (hz.head hc).2), offset, [],
      requiredOffset?_eq_some_iff.2 ⟨z, hz, by simp⟩, rfl, rfl, rfl, rfl, rfl, rfl, rfl⟩
    rcases hmark with rfl | rfl
    · exact .inl rfl
    · exact .inr ⟨rfl, rfl⟩

theorem faceWith?_eq_some_iff {mark : Char} {p : Spelling} {s : List Char} :
    faceWith? mark s = some p ↔
      p.date.Fits ∧ (p.hour < 100 ∧ p.minute < 100 ∧ p.second < 100) ∧ p.fraction = [] ∧
        p.offset = 0 ∧ s = p.date.text ++ mark :: timeText p.hour p.minute p.second := by
  obtain ⟨d, hour, minute, second, fraction, offset⟩ := p
  simp only [faceWith?, Option.bind_eq_bind, Option.bind_eq_some_iff, Prod.exists,
    date?_eq_some_iff, Digits.mark?_eq_some_iff, timeOfDay?_eq_some_iff,
    Option.ite_none_right_eq_some, Option.some.injEq, Spelling.mk.injEq]
  constructor
  · rintro ⟨_, _, ⟨hd, rfl⟩, _, rfl, _, _, _, _, ⟨ht, rfl⟩, rfl, rfl, rfl, rfl, rfl, rfl, rfl⟩
    exact ⟨hd, ht, rfl, rfl, by simp⟩
  · rintro ⟨hd, ht, rfl, rfl, rfl⟩
    exact ⟨d, _, ⟨hd, rfl⟩, _, rfl, hour, minute, second, [], ⟨ht, by simp⟩, rfl, rfl, rfl, rfl, rfl,
      rfl, rfl⟩

theorem dateOnly?_eq_some_iff {p : Spelling} {s : List Char} :
    dateOnly? s = some p ↔ ∃ d : Date, d.Fits ∧ p = ⟨d, 0, 0, 0, [], 0⟩ ∧ s = d.text := by
  simp only [dateOnly?, Option.bind_eq_bind, Option.bind_eq_some_iff, Prod.exists,
    date?_eq_some_iff, Option.ite_none_right_eq_some, Option.some.injEq]
  constructor
  · rintro ⟨d, _, ⟨hd, rfl⟩, rfl, rfl⟩
    exact ⟨d, hd, rfl, by simp⟩
  · rintro ⟨d, hd, rfl, rfl⟩
    exact ⟨d, [], ⟨hd, by simp⟩, rfl, rfl⟩

/-! ## The forms exclude each other

A date is shorter than a date with a time of day, and that is shorter than one with an offset; the
two of one length differ in the mark after the date. -/

/-- The only format that a text can be in. -/
def ofShape (s : List Char) : ExpirationFormat :=
  if s.length = 10 then date
  else if 20 ≤ s.length then rfc3339
  else if s[10]? = some 'T' then dateTimeT
  else dateTimeSpace

theorem eq_ofShape {f : ExpirationFormat} {p : Spelling} {s : List Char}
    (h : f.spelling? s = some p) : f = ofShape s := by
  have hd := Date.length_text p.date
  have ht := length_timeText p.hour p.minute p.second
  have hmark : ∀ (mark : Char) (t : List Char), (p.date.text ++ mark :: t)[10]? = some mark := by
    intro mark t
    rw [List.getElem?_append_right (by omega), hd]
    rfl
  cases f with
  | rfc3339 =>
    obtain ⟨mark, f, z, -, -, -, -, hz, rfl⟩ := dateTimeOffset?_eq_some_iff.1 h
    have := hz.length_pos
    rw [ofShape, if_neg, if_pos] <;> simp only [List.length_append, List.length_cons] <;> omega
  | dateTimeT =>
    obtain ⟨-, -, -, -, rfl⟩ := faceWith?_eq_some_iff.1 h
    rw [ofShape, if_neg, if_neg, if_pos (hmark _ _)] <;>
      simp only [List.length_append, List.length_cons] <;> omega
  | dateTimeSpace =>
    obtain ⟨-, -, -, -, rfl⟩ := faceWith?_eq_some_iff.1 h
    rw [ofShape, if_neg, if_neg, if_neg (by rw [hmark]; decide)] <;>
      simp only [List.length_append, List.length_cons] <;> omega
  | date =>
    obtain ⟨d, -, -, rfl⟩ := dateOnly?_eq_some_iff.1 h
    rw [ofShape, if_pos d.length_text]

theorem eq_of_spelling? {f g : ExpirationFormat} {p q : Spelling} {s : List Char}
    (hf : f.spelling? s = some p) (hg : g.spelling? s = some q) : f = g :=
  (eq_ofShape hf).trans (eq_ofShape hg).symm

theorem zoned?_of_spelling? {f : ExpirationFormat} {p : Spelling} {s : List Char}
    (h : f.spelling? s = some p) (g : ExpirationFormat) :
    g.zoned? s = if g = f then f.meaning? p else none := by
  rw [zoned?]
  split
  · next hg => rw [hg, h, Option.bind_some]
  · next hg =>
    cases hq : g.spelling? s with
    | none => rfl
    | some q => exact absurd (eq_of_spelling? hq h) hg

theorem readExpiration?_of_spelling? {formats : List ExpirationFormat} {f : ExpirationFormat}
    {p : Spelling} {s : List Char} (hmem : f ∈ formats) (h : f.spelling? s = some p) :
    readExpiration? formats s = f.meaning? p := by
  induction formats with
  | nil => simp at hmem
  | cons g formats ih =>
    rw [readExpiration?, List.findSome?_cons, zoned?_of_spelling? h]
    split
    · next z hz =>
      rw [← hz, if_pos]
      by_contra hg
      simp [hg] at hz
    · next hz =>
      rcases List.mem_cons.1 hmem with rfl | hmem
      · -- the text means nothing in its own format, and the others do not know its form
        rw [if_pos rfl] at hz
        rw [hz, List.findSome?_eq_none_iff]
        intro g' _
        rw [zoned?_of_spelling? h, hz, ite_self]
      · exact ih hmem

theorem readExpiration?_eq_some {formats : List ExpirationFormat} {s : List Char} {z : Zoned}
    (h : readExpiration? formats s = some z) :
    ∃ f ∈ formats, ∃ p, f.spelling? s = some p ∧ f.meaning? p = some z := by
  obtain ⟨f, hf, hz⟩ := List.exists_of_findSome?_eq_some h
  obtain ⟨p, hp, hz⟩ := Option.bind_eq_some_iff.1 hz
  exact ⟨f, hf, p, hp, hz⟩

theorem mem_list (f : ExpirationFormat) : f ∈ list := by
  cases f <;> decide

/-! ## What the forms mean -/

theorem expirationText_of_meaning? {f : ExpirationFormat} {p : Spelling} {s : List Char} {z : Zoned}
    (h : f.spelling? s = some p) (hz : f.meaning? p = some z) :
    ∃ c o, ExpirationText s c o ∧ o.natAbs < 24 * 60 ∧ z = ⟨c.toMicros, o * 60⟩ := by
  cases f with
  | rfc3339 =>
    obtain ⟨mark, f, t, hmark, -, -, hf, ht, rfl⟩ := dateTimeOffset?_eq_some_iff.1 h
    obtain ⟨hv, ho, hz⟩ := Spelling.zoned?_eq_some_iff.1 hz
    rw [Spelling.offset_foldLeapSecond] at ho hz
    refine ⟨p.foldLeapSecond.face, p.offset, ?_, ho, hz⟩
    by_cases hleap : p.minute = 59 ∧ p.second = 60
    · rw [Spelling.face_foldLeapSecond hleap] at hv ⊢
      rw [hleap.1, hleap.2]
      exact .leapSecond hv.1 hv.2.1 hmark hf ht
    · rw [Spelling.foldLeapSecond_of_not hleap] at hv ⊢
      have htext := ExpirationText.offset hv hmark hf rfl ht
      exact htext
  | dateTimeT =>
    obtain ⟨-, -, hfraction, hoffset, rfl⟩ := faceWith?_eq_some_iff.1 h
    obtain ⟨hv, ho, hz⟩ := Spelling.zoned?_eq_some_iff.1 hz
    rw [hoffset] at ho hz
    have hmicro : p.face.micro = 0 := by
      rw [Spelling.face, hfraction]
      rfl
    have htext := ExpirationText.joined hv hmicro
    exact ⟨p.face, 0, htext, ho, hz⟩
  | dateTimeSpace =>
    obtain ⟨-, -, hfraction, hoffset, rfl⟩ := faceWith?_eq_some_iff.1 h
    obtain ⟨hv, ho, hz⟩ := Spelling.zoned?_eq_some_iff.1 hz
    rw [hoffset] at ho hz
    have hmicro : p.face.micro = 0 := by
      rw [Spelling.face, hfraction]
      rfl
    have htext := ExpirationText.spaced hv hmicro
    exact ⟨p.face, 0, htext, ho, hz⟩
  | date =>
    obtain ⟨d, -, rfl, rfl⟩ := dateOnly?_eq_some_iff.1 h
    obtain ⟨hv, ho, hz⟩ := Spelling.zoned?_eq_some_iff.1 hz
    exact ⟨Spelling.face ⟨d, 0, 0, 0, [], 0⟩, 0, .day hv.1, ho, hz⟩

theorem meaning?_of_expirationText {s : List Char} {c : Civil} {o : Int}
    (h : ExpirationText s c o) (ho : o.natAbs < 24 * 60) :
    ∃ (f : ExpirationFormat) (p : Spelling), f.spelling? s = some p ∧
      f.meaning? p = some ⟨c.toMicros, o * 60⟩ := by
  have hfits : c.Valid → c.date.Fits ∧ (c.hour < 100 ∧ c.minute < 100 ∧ c.second < 100) := by
    rintro ⟨hd, hh, hm, hs, -⟩
    exact ⟨hd.fits, by omega, by omega, by omega⟩
  cases h with
  | offset hc hmark hf hmicro hz =>
    obtain ⟨hd, ht⟩ := hfits hc
    refine ⟨.rfc3339, ⟨c.date, c.hour, c.minute, c.second, _, o⟩, dateTimeOffset?_eq_some_iff.2
      ⟨_, _, _, hmark, hd, ht, hf, hz, rfl⟩, ?_⟩
    have hleap : ¬ (c.minute = 59 ∧ c.second = 60) := by
      have := hc.2.2.2.1
      omega
    rw [meaning?, Spelling.foldLeapSecond_of_not hleap, Spelling.zoned?_eq_some_iff, Spelling.face,
      ← hmicro]
    exact ⟨hc, ho, rfl⟩
  | @leapSecond d hour _ _ _ _ _ hd hh hmark hf hz =>
    refine ⟨.rfc3339, ⟨d, hour, 59, 60, _, o⟩, dateTimeOffset?_eq_some_iff.2
      ⟨_, _, _, hmark, hd.fits, ⟨Nat.lt_trans hh (by decide), (by decide : 59 < 100),
        (by decide : 60 < 100)⟩, hf, hz, rfl⟩, ?_⟩
    rw [meaning?, Spelling.zoned?_eq_some_iff, Spelling.face_foldLeapSecond ⟨rfl, rfl⟩,
      Spelling.offset_foldLeapSecond]
    exact ⟨⟨hd, hh, (by decide : 59 < 60), (by decide : 59 < 60), (by decide : 999999 < 1000000)⟩,
      ho, rfl⟩
  | joined hc hmicro =>
    obtain ⟨hd, ht⟩ := hfits hc
    refine ⟨.dateTimeT, ⟨c.date, c.hour, c.minute, c.second, [], 0⟩, faceWith?_eq_some_iff.2
      ⟨hd, ht, rfl, rfl, rfl⟩, Spelling.zoned?_eq_some_iff.2 ?_⟩
    rw [Spelling.face, show Digits.millionths [] = c.micro from hmicro.symm]
    exact ⟨hc, ho, rfl⟩
  | spaced hc hmicro =>
    obtain ⟨hd, ht⟩ := hfits hc
    refine ⟨.dateTimeSpace, ⟨c.date, c.hour, c.minute, c.second, [], 0⟩, faceWith?_eq_some_iff.2
      ⟨hd, ht, rfl, rfl, rfl⟩, Spelling.zoned?_eq_some_iff.2 ?_⟩
    rw [Spelling.face, show Digits.millionths [] = c.micro from hmicro.symm]
    exact ⟨hc, ho, rfl⟩
  | @day d hd =>
    refine ⟨.date, ⟨d, 0, 0, 0, [], 0⟩, dateOnly?_eq_some_iff.2 ⟨d, hd.fits, rfl, rfl⟩,
      Spelling.zoned?_eq_some_iff.2 ?_⟩
    exact ⟨⟨hd, (by decide : 0 < 24), (by decide : 0 < 60), (by decide : 0 < 60),
      (by decide : 0 < 1000000)⟩, ho, rfl⟩

end ExpirationFormat

/-- **Reading accepts exactly the expirations**, and gives the time that they show. -/
theorem readExpiration?_eq_some_iff {s : List Char} {z : Zoned} :
    readExpiration? ExpirationFormat.list s = some z ↔
      ∃ c o, ExpirationText s c o ∧ o.natAbs < 24 * 60 ∧ z = ⟨c.toMicros, o * 60⟩ := by
  constructor
  · intro h
    obtain ⟨f, -, p, hp, hz⟩ := ExpirationFormat.readExpiration?_eq_some h
    exact ExpirationFormat.expirationText_of_meaning? hp hz
  · rintro ⟨c, o, h, ho, rfl⟩
    obtain ⟨f, p, hp, hz⟩ := ExpirationFormat.meaning?_of_expirationText h ho
    rw [ExpirationFormat.readExpiration?_of_spelling? f.mem_list hp, hz]

theorem Zoned.instant_face (c : Civil) (o : Int) :
    (⟨c.toMicros, o * 60⟩ : Zoned).instant = ⟨c.toMicros - o * 60 * 1000000⟩ := rfl

theorem Zoned.utc?_eq_some_iff {z : Zoned} {e : Instant} :
    z.utc? = some e ↔ e = z.instant ∧ e.Representable := by
  rw [utc?, Option.ite_none_right_eq_some, Option.some.injEq, and_comm, eq_comm]
  constructor
  · rintro ⟨rfl, h⟩
    exact ⟨rfl, h⟩
  · rintro ⟨rfl, h⟩
    exact ⟨rfl, h⟩

theorem expirationInstant?_eq_some_iff {t : Text} {e : Instant} :
    expirationInstant? t = .ok (some e) ↔
      ∃ s c o, t = Text.ofChars s ∧ ExpirationText s c o ∧ o.natAbs < 24 * 60 ∧
        e.micros = c.toMicros - o * 60 * 1000000 ∧ e.Representable := by
  constructor
  · intro h
    unfold expirationInstant? at h
    split at h
    · simp at h
    · next z hz =>
      split at h
      · simp at h
      · next e' he =>
        obtain rfl : e' = e := by simpa using h
        obtain ⟨s, hs, hz⟩ := Option.bind_eq_some_iff.1 hz
        obtain ⟨c, o, htext, ho, rfl⟩ := readExpiration?_eq_some_iff.1 hz
        obtain ⟨he, hrep⟩ := Zoned.utc?_eq_some_iff.1 he
        exact ⟨s, c, o, Text.chars?_eq_some_iff.1 hs, htext, ho, congrArg Instant.micros he, hrep⟩
  · rintro ⟨s, c, o, rfl, htext, ho, he, hrep⟩
    have hread := readExpiration?_eq_some_iff.2 ⟨c, o, htext, ho, rfl⟩
    have hutc : (⟨c.toMicros, o * 60⟩ : Zoned).utc? = some e :=
      Zoned.utc?_eq_some_iff.2 ⟨by rw [Zoned.instant_face, ← he], hrep⟩
    rw [expirationInstant?, Text.chars?_ofChars, Option.bind_some, hread]
    dsimp only
    rw [hutc]

theorem expirationInstant?_eq_error_iff {t : Text} {f : Failure} :
    expirationInstant? t = .error f ↔
      f = .dateOutOfRange ∧ ∃ s c o, t = Text.ofChars s ∧ ExpirationText s c o ∧
        o.natAbs < 24 * 60 ∧ ¬ (⟨c.toMicros - o * 60 * 1000000⟩ : Instant).Representable := by
  constructor
  · intro h
    unfold expirationInstant? at h
    split at h
    · cases h
    · next z hz =>
      split at h
      · next hutc =>
        obtain ⟨s, hs, hz⟩ := Option.bind_eq_some_iff.1 hz
        obtain ⟨c, o, htext, ho, rfl⟩ := readExpiration?_eq_some_iff.1 hz
        have hf : .dateOutOfRange = f := by simpa using h
        refine ⟨hf.symm, s, c, o, Text.chars?_eq_some_iff.1 hs, htext, ho, fun hrep => ?_⟩
        have hsome := Zoned.utc?_eq_some_iff.2 ⟨(Zoned.instant_face c o).symm, hrep⟩
        rw [hsome] at hutc
        cases hutc
      · cases h
  · rintro ⟨rfl, s, c, o, rfl, htext, ho, hrep⟩
    have hread := readExpiration?_eq_some_iff.2 ⟨c, o, htext, ho, rfl⟩
    have hutc : (⟨c.toMicros, o * 60⟩ : Zoned).utc? = none := by
      rw [Zoned.utc?, Zoned.instant_face, if_neg hrep]
    rw [expirationInstant?, Text.chars?_ofChars, Option.bind_some, hread]
    dsimp only
    rw [hutc]

theorem checkExpiration_eq_none_iff {room : Room} {v : Value} {now : Instant} :
    checkExpiration room v now = .ok none ↔ v = .null := by
  constructor
  · intro h
    cases v with
    | null => rfl
    | text t =>
      simp only [checkExpiration] at h
      split at h
      · cases h
      · cases h
      · split at h <;> cases h
    | _ => cases h
  · rintro rfl
    rfl

theorem checkExpiration_eq_some_iff {room : Room} {v : Value} {now e : Instant} :
    checkExpiration room v now = .ok (some e) ↔
      ∃ t, v = .text t ∧ expirationInstant? t = .ok (some e) ∧ now < e := by
  constructor
  · intro h
    cases v with
    | text t =>
      simp only [checkExpiration] at h
      split at h
      · cases h
      · cases h
      · next e' he =>
        split at h
        · next hnow =>
          obtain rfl : e' = e := by simpa using h
          exact ⟨t, rfl, he, hnow⟩
        · cases h
    | _ => cases h
  · rintro ⟨t, rfl, he, hnow⟩
    simp only [checkExpiration, he, if_pos hnow]

theorem checkExpiration_eq_error {room : Room} {v : Value} {now : Instant} {f : Failure}
    (h : checkExpiration room v now = .error f) :
    (∃ t, v = .text t ∧ expirationInstant? t = .error f) ∨
      (∀ t, v = .text t → ∀ g, expirationInstant? t ≠ .error g) ∧
        f = Field.expiresAt.refusal room v := by
  cases v with
  | null => cases h
  | text t =>
    simp only [checkExpiration] at h
    split at h
    · next g hg =>
      obtain rfl : g = f := by simpa using h
      exact .inl ⟨t, rfl, hg⟩
    · next hnone =>
      refine .inr ⟨fun t' ht' g hg => ?_, by simpa [eq_comm] using h⟩
      cases ht'
      rw [hnone] at hg
      cases hg
    · next e he =>
      split at h
      · cases h
      · refine .inr ⟨fun t' ht' g hg => ?_, by simpa [eq_comm] using h⟩
        cases ht'
        rw [he] at hg
        cases hg
  | _ =>
    have hf := Except.error.inj h
    exact .inr ⟨fun _ ht => (nomatch ht), hf.symm⟩

theorem ExpirationText.valid {s : List Char} {c : Civil} {o : Int} (h : ExpirationText s c o) :
    c.Valid := by
  cases h with
  | offset hc => exact hc
  | leapSecond hd hh =>
    exact ⟨hd, hh, (by decide : 59 < 60), (by decide : 59 < 60), (by decide : 999999 < 1000000)⟩
  | joined hc => exact hc
  | spaced hc => exact hc
  | day hd =>
    exact ⟨hd, (by decide : 0 < 24), (by decide : 0 < 60), (by decide : 0 < 60),
      (by decide : 0 < 1000000)⟩

/-- **A text stands for an expiration exactly when it is one of the four forms and shows a time of
the calendar after the reference time.** The instant is the one at which a clock so many minutes
ahead of UTC shows that face, the days up to its date counted one by one. No text stands for a key
that never expires. -/
theorem checkExpiration_text (room : Room) (t : Text) (now : Instant) :
    checkExpiration room (.text t) now ≠ .ok none ∧
      ∀ e, checkExpiration room (.text t) now = .ok (some e) ↔
        ∃ s c o days, t = Text.ofChars s ∧ ExpirationText s c o ∧ o.natAbs < 24 * 60 ∧
          Date.next^[days] Date.first = c.date ∧
          e.micros = ((((days * 24 + c.hour) * 60 + c.minute) * 60 + c.second) * 1000000 + c.micro)
            - o * 60 * 1000000 ∧
          e.Representable ∧ now < e := by
  refine ⟨fun h => ?_, fun e => ?_⟩
  · cases checkExpiration_eq_none_iff.1 h
  · rw [checkExpiration_eq_some_iff]
    constructor
    · rintro ⟨_, ht, he, hnow⟩
      cases ht
      obtain ⟨s, c, o, ht, htext, ho, he, hrep⟩ := expirationInstant?_eq_some_iff.1 he
      refine ⟨s, c, o, c.date.dayNumber, ht, htext, ho,
        (Date.iterate_next_eq_iff htext.valid.1).2 rfl, ?_, hrep, hnow⟩
      rw [he, Civil.toMicros]
      push_cast
      ring
    · rintro ⟨s, c, o, days, ht, htext, ho, hdays, he, hrep, hnow⟩
      obtain rfl := (Date.iterate_next_eq_iff htext.valid.1).1 hdays
      refine ⟨t, rfl, expirationInstant?_eq_some_iff.2 ⟨s, c, o, ht, htext, ho, ?_, hrep⟩, hnow⟩
      rw [he, Civil.toMicros]
      push_cast
      ring

end ApiKeys

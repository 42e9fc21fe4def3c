import ApiKeys.Proofs.Key.RoundTrip

/-!
# Written times as expirations

A time is written in UTC, whatever clock showed it, and in one way only: a text with a date, a time
of day and the suffix `Z`, which has a fraction, of six digits, just when it needs one
(`Instant.rfc3339_eq`). That is a text of the first format of an expiration and names the instant
that was written (`expirationInstant?_rfc3339`), so different instants have different texts
(`Zoned.canonical_text`).
-/

namespace ApiKeys

theorem Instant.lt_iff_not_le {a b : Instant} : a < b ↔ ¬ b ≤ a :=
  (not_le (a := b.micros) (b := a.micros)).symm

theorem Instant.rfc3339_eq {t : Instant} (h : t.Representable) :
    ∃ (c : Civil) (f ds : List Char), c.Valid ∧ (c.toMicros : Int) = t.micros ∧
      FractionText ['.'] f ds ∧ c.micro = Digits.millionths ds ∧
      ds.length = (if c.micro = 0 then 0 else 6) ∧
      t.rfc3339 = c.date.text ++ 'T' :: (timeText c.hour c.minute c.second ++ (f ++ ['Z'])) := by
  obtain ⟨hlow, hhigh⟩ := h
  have hvalid : (Civil.ofMicros t.micros.toNat).Valid := Civil.valid_ofMicros.2 (by omega)
  have hmicros : ((Civil.ofMicros t.micros.toNat).toMicros : Int) = t.micros := by
    rw [Civil.toMicros_ofMicros]
    omega
  rw [Instant.rfc3339]
  generalize Civil.ofMicros t.micros.toNat = c at hvalid hmicros
  obtain ⟨ds, hfraction, hds, hlength⟩ :=
    fractionText_spec (List.mem_singleton_self '.') hvalid.2.2.2.2
  refine ⟨c, fractionText c.micro, ds, hvalid, hmicros, hfraction, hds.symm, hlength, ?_⟩
  simp [Civil.text, timeText, hourMinuteText]

theorem expirationInstant?_rfc3339 {t : Instant} (h : t.Representable) :
    expirationInstant? (Text.ofChars t.rfc3339) = .ok (some t) := by
  obtain ⟨c, f, ds, hvalid, hmicros, hfraction, hds, -, htext⟩ := Instant.rfc3339_eq h
  have hwritten : ExpirationText t.rfc3339 c 0 := by
    rw [htext]
    exact .offset hvalid (.inl rfl) hfraction hds .utc
  refine expirationInstant?_eq_some_iff.2 ⟨_, c, 0, rfl, hwritten, by decide, ?_, h⟩
  omega

theorem checkExpiration_rfc3339 {t : Instant} (h : t.Representable) (room : Room) (now : Instant) :
    checkExpiration room (.text (Text.ofChars t.rfc3339)) now =
      if now < t then .ok (some t)
      else .error (.rejected (.ofText .expiresAt (Text.ofChars t.rfc3339))) := by
  rw [checkExpiration, expirationInstant?_rfc3339 h, Field.refusal_text]

theorem Instant.rfc3339_inj {t u : Instant} (ht : t.Representable) (hu : u.Representable) :
    t.rfc3339 = u.rfc3339 ↔ t = u := by
  constructor
  · intro heq
    have hread := expirationInstant?_rfc3339 ht
    rw [heq, expirationInstant?_rfc3339 hu] at hread
    exact (Option.some.inj (Except.ok.inj hread)).symm
  · rintro rfl
    rfl

/-- **A time is written in one way.** Two times that have dates in UTC, shown by whatever clocks,
have one text just when they are the same instant. The text is of the first format of an expiration,
with the suffix `Z`; its fraction has six digits if the instant is between two seconds, and there is
none otherwise. It is read as an expiration at that instant until the instant comes, and refused
from then on. -/
theorem Zoned.canonical_text {a b : Zoned} (ha : a.instant.Representable)
    (hb : b.instant.Representable) :
    (a.instant.rfc3339? = b.instant.rfc3339? ↔ a.instant = b.instant) ∧
      ∃ (c : Civil) (f ds text : List Char), a.instant.rfc3339? = some text ∧
        text = c.date.text ++ 'T' :: (timeText c.hour c.minute c.second ++ (f ++ ['Z'])) ∧
        c.Valid ∧ FractionText ['.'] f ds ∧ c.micro = Digits.millionths ds ∧
        (c.toMicros : Int) = a.instant.micros ∧
        ds.length = (if a.instant.micros % 1000000 = 0 then 0 else 6) ∧
        ∀ room now, checkExpiration room (.text (Text.ofChars text)) now =
          if now < a.instant then .ok (some a.instant)
          else .error (.rejected (.ofText .expiresAt (Text.ofChars text))) := by
  have hwritten : ∀ {t : Instant}, t.Representable → t.rfc3339? = some t.rfc3339 := fun h => if_pos h
  refine ⟨?_, ?_⟩
  · rw [hwritten ha, hwritten hb, Option.some.injEq, Instant.rfc3339_inj ha hb]
  · obtain ⟨c, f, ds, hvalid, hmicros, hfraction, hds, hlength, htext⟩ := Instant.rfc3339_eq ha
    have hmicro : c.micro = 0 ↔ a.instant.micros % 1000000 = 0 := by
      have hsmall : c.micro < 1000000 := hvalid.2.2.2.2
      rw [Civil.toMicros] at hmicros
      omega
    simp only [hmicro] at hlength
    exact ⟨c, f, ds, _, hwritten ha, htext, hvalid, hfraction, hds, hmicros, hlength,
      checkExpiration_rfc3339 ha⟩

/-- A quarter of a second past half an hour, shown by clocks in different years. -/
theorem Zoned.canonical_text_offsets :
    let a : Zoned := ⟨Civil.toMicros ⟨⟨2040, 1, 1⟩, 0, 30, 0, 250000⟩, 7200⟩
    let b : Zoned := ⟨Civil.toMicros ⟨⟨2039, 12, 31⟩, 17, 30, 0, 250000⟩, -18000⟩
    let text := "2039-12-31T22:30:00.250000Z".toList
    a.instant.rfc3339? = some text ∧ b.instant.rfc3339? = some text ∧
      ∀ room now, checkExpiration room (.text (Text.ofChars text)) now =
        if now < a.instant then .ok (some a.instant)
        else .error (.rejected (.ofText .expiresAt (Text.ofChars text))) := by
  intro a b text
  have ha : a.instant.Representable := by decide
  have hb : b.instant.Representable := by decide
  have htext : a.instant.rfc3339? = some text := by decide +kernel
  obtain ⟨hsame, c, f, ds, text', htext', -, -, -, -, -, -, hcheck⟩ := Zoned.canonical_text ha hb
  obtain rfl : text = text' := Option.some.inj (htext.symm.trans htext')
  exact ⟨htext, (hsame.2 (by decide)).symm.trans htext, hcheck⟩

end ApiKeys

import ApiKeys.Proofs.Expiration.Language
import ApiKeys.Proofs.Key.RoundTrip

/-!
# Expirations as stored timestamps

A text that says when a key expires is read by two grammars: a request may give it in one of four
forms, and stored data may hold it among the times of its records, which have a grammar of their
own. Where both accept a text they agree on the instant (`Key.expiration_agrees`). Stored data takes
every text that a request may give but two kinds: a text that shows second 60, and one whose offset
has 60 minutes or more, which requests count on into the hours.
-/

namespace ApiKeys

/-- The texts of the offsets whose minutes make an hour or more. -/
def WideOffset (z : List Char) : Prop :=
  ∃ sign hours minutes, (sign = '+' ∨ sign = '-') ∧ hours < 100 ∧ 60 ≤ minutes ∧ minutes < 100 ∧
    z = sign :: hourMinuteText hours minutes

namespace Text

/-- The seconds of a text that starts with a date and a time of day are 60. -/
def ShowsLeapSecond (t : Text) : Prop := (t.drop 17).take 2 = ("60" : Text)

instance (t : Text) : Decidable t.ShowsLeapSecond :=
  inferInstanceAs (Decidable ((t.drop 17).take 2 = ("60" : Text)))

/-- A text ends with an offset whose minutes make an hour or more. -/
def ShowsWideOffset (t : Text) : Prop := ∃ z, WideOffset z ∧ ofChars z <:+ t

end Text

/-- The members hold the same parts, except for the given one. -/
def Members.AgreeBut (n : WireName) (ms ms' : Members) : Prop :=
  ∀ m, m ≠ n → ms.part? m = ms'.part? m

/-! ## What a text shows -/

theorem showsLeapSecond_timeText (d : Date) (mark : Char) (hour minute : Nat) {second : Nat}
    (hsecond : second < 100) (rest : List Char) :
    (Text.ofChars (d.text ++ mark :: (timeText hour minute second ++ rest))).ShowsLeapSecond ↔
      second = 60 := by
  have hsplit : d.text ++ mark :: (timeText hour minute second ++ rest) =
      (d.text ++ mark :: (hourMinuteText hour minute ++ [':'])) ++
        (Digits.fixed 2 second ++ rest) := by simp [timeText]
  have hfront : (d.text ++ mark :: (hourMinuteText hour minute ++ [':'])).length = 17 := by
    simp [Date.length_text, length_hourMinuteText]
  have hsixty : ("60" : Text) = Text.ofChars (Digits.fixed 2 60) := rfl
  rw [Text.ShowsLeapSecond, hsplit, Text.ofChars, ← List.map_drop, ← List.map_take,
    List.drop_left' hfront, List.take_left' (Digits.length_fixed 2 second), hsixty]
  constructor
  · intro h
    exact (Digits.fixed_inj hsecond (by decide)).1 (Text.ofChars_injective h)
  · rintro rfl
    rfl

theorem not_showsLeapSecond_date (d : Date) : ¬ (Text.ofChars d.text).ShowsLeapSecond := by
  have hnil : (Text.ofChars d.text).drop 17 = [] :=
    List.drop_eq_nil_of_le (by simp [Text.ofChars, Date.length_text])
  rw [Text.ShowsLeapSecond, hnil]
  decide

theorem wideOffset_iff {sign : Char} {hours minutes : Nat} (hsign : sign = '+' ∨ sign = '-')
    (hhours : hours < 100) (hminutes : minutes < 100) :
    WideOffset (sign :: hourMinuteText hours minutes) ↔ 60 ≤ minutes := by
  constructor
  · rintro ⟨sign', hours', minutes', -, hhours', hge, hminutes', heq⟩
    obtain ⟨-, hrest⟩ := List.cons.inj heq
    obtain ⟨-, rfl⟩ := hourMinuteText_inj hhours hminutes hhours' hminutes' hrest
    exact hge
  · exact fun hge => ⟨sign, hours, minutes, hsign, hhours, hge, hminutes, rfl⟩

theorem eq_of_suffix {z front w : List Char} (hz : z <:+ front ++ w) (hlength : z.length = w.length) :
    z = w :=
  (List.suffix_of_suffix_length_le hz (List.suffix_append front w) hlength.le).eq_of_length hlength

namespace WideOffset

variable {z w front : List Char} {o : Int}

theorem length_eq (h : WideOffset z) : z.length = 6 := by
  obtain ⟨sign, hours, minutes, -, -, -, -, rfl⟩ := h
  simp [length_hourMinuteText]

theorem isDigit_of_suffix {c : Char} (h : WideOffset z) (hc : [c] <:+ z) : c.isDigit = true := by
  obtain ⟨sign, hours, minutes, -, -, -, -, rfl⟩ := h
  have hsplit : sign :: hourMinuteText hours minutes =
      (sign :: Digits.fixed 2 hours ++ [':']) ++ Digits.fixed 2 minutes := by simp [hourMinuteText]
  rw [hsplit] at hc
  have hmem := List.suffix_of_suffix_length_le hc (List.suffix_append _ _)
    (by simp [Digits.length_fixed])
  exact Digits.isDigit_fixed 2 minutes c (hmem.subset (List.mem_singleton_self c))

theorem suffix_iff (h : WideOffset z) (hw : OffsetText w o) : z <:+ front ++ w ↔ z = w := by
  constructor
  · intro hz
    have hlast : ∀ c, w = [c] → c.isDigit = true := by
      rintro c rfl
      exact h.isDigit_of_suffix (List.suffix_of_suffix_length_le (List.suffix_append _ _) hz
        (by simp [h.length_eq]))
    cases hw with
    | utc => exact absurd (hlast 'Z' rfl) (by decide)
    | utcSmall => exact absurd (hlast 'z' rfl) (by decide)
    | ahead | behind => exact eq_of_suffix hz (by rw [h.length_eq]; simp [length_hourMinuteText])
  · rintro rfl
    exact List.suffix_append _ _

end WideOffset

theorem showsWideOffset_iff {s : List Char} :
    (Text.ofChars s).ShowsWideOffset ↔ ∃ z, WideOffset z ∧ z <:+ s := by
  constructor
  · rintro ⟨z, hz, hsuffix⟩
    obtain ⟨z', hz', heq⟩ := List.suffix_map_iff.1 hsuffix
    obtain rfl := Text.ofChars_injective heq
    exact ⟨z, hz, hz'⟩
  · rintro ⟨z, hz, hsuffix⟩
    exact ⟨z, hz, hsuffix.map _⟩

theorem showsWideOffset_offsetText {front w : List Char} {o : Int} (hw : OffsetText w o) :
    (Text.ofChars (front ++ w)).ShowsWideOffset ↔ WideOffset w := by
  rw [showsWideOffset_iff]
  constructor
  · rintro ⟨z, hz, hsuffix⟩
    exact (hz.suffix_iff hw).1 hsuffix ▸ hz
  · exact fun hwide => ⟨w, hwide, List.suffix_append _ _⟩

theorem not_showsWideOffset_time (d : Date) (mark : Char) (hour minute second : Nat) :
    ¬ (Text.ofChars (d.text ++ mark :: timeText hour minute second)).ShowsWideOffset := by
  rw [showsWideOffset_iff]
  rintro ⟨z, hz, hsuffix⟩
  have hsplit : d.text ++ mark :: timeText hour minute second =
      (d.text ++ mark :: Digits.fixed 2 hour) ++
        (':' :: (Digits.fixed 2 minute ++ ':' :: Digits.fixed 2 second)) := by
    simp [timeText, hourMinuteText]
  rw [hsplit] at hsuffix
  have heq := eq_of_suffix hsuffix (by rw [hz.length_eq]; simp [Digits.length_fixed])
  obtain ⟨sign, hours, minutes, hsign, -, -, -, rfl⟩ := hz
  obtain rfl := (List.cons.inj heq).1
  exact absurd hsign (by decide)

theorem not_showsWideOffset_date (d : Date) : ¬ (Text.ofChars d.text).ShowsWideOffset := by
  rw [showsWideOffset_iff]
  rintro ⟨z, hz, hsuffix⟩
  have hsplit : d.text = Digits.fixed 4 d.year ++
      ('-' :: (Digits.fixed 2 d.month ++ '-' :: Digits.fixed 2 d.day)) := rfl
  rw [hsplit] at hsuffix
  have heq := eq_of_suffix hsuffix (by rw [hz.length_eq]; simp [Digits.length_fixed])
  obtain ⟨sign, hours, minutes, -, -, -, -, rfl⟩ := hz
  obtain ⟨-, hrest⟩ := List.cons.inj heq
  obtain ⟨-, hmark⟩ := List.append_inj hrest (by rw [Digits.length_fixed, Digits.length_fixed])
  exact absurd (List.cons.inj hmark).1 (by decide)

/-! ## What is read -/

namespace StoredTime

theorem optionalOffset?_hourMinuteText {c : Char} {sign : Int} {hours minutes : Nat}
    (hc : ¬ (c = 'Z' ∨ c = 'z')) (hsign : offsetSign? c = some sign) (hhours : hours < 100)
    (hminutes : minutes < 100) : optionalOffset? (c :: hourMinuteText hours minutes) =
      if minutes < 60 then some (sign * (60 * hours + minutes), []) else none := by
  have hh : Digits.take? 2 (hourMinuteText hours minutes) =
      some (hours, ':' :: Digits.fixed 2 minutes) :=
    Digits.take?_eq_some_iff_fixed.2 ⟨hhours, rfl⟩
  have hm : Digits.take? 2 (Digits.fixed 2 minutes) = some (minutes, []) :=
    Digits.take?_eq_some_iff_fixed.2 ⟨hminutes, (List.append_nil _).symm⟩
  simp [optionalOffset?, hc, hsign, hh, Digits.mark?, hm]

theorem optionalOffset?_eq_some_iff {w rest : List Char} {o o' : Int} (hw : OffsetText w o) :
    optionalOffset? w = some (o', rest) ↔ ¬ WideOffset w ∧ o' = o ∧ rest = [] := by
  have hshort : ∀ c : Char, ¬ WideOffset [c] := fun c hc => by simpa using hc.length_eq
  cases hw with
  | utc => simp [optionalOffset?, hshort, eq_comm]
  | utcSmall => simp [optionalOffset?, hshort, eq_comm]
  | ahead hh hm =>
    rw [optionalOffset?_hourMinuteText (by decide) (rfl : offsetSign? '+' = some 1) hh hm,
      wideOffset_iff (.inl rfl) hh hm, not_le, Option.ite_none_right_eq_some]
    simp [eq_comm]
  | behind hh hm =>
    rw [optionalOffset?_hourMinuteText (by decide) (rfl : offsetSign? '-' = some (-1)) hh hm,
      wideOffset_iff (.inr rfl) hh hm, not_le, Option.ite_none_right_eq_some]
    simp [eq_comm]

theorem numeralSign_append {ds : List Char} (hds : ∀ c ∈ ds, c.isDigit = true) (hne : ds ≠ [])
    (rest : List Char) : numeralSign (ds ++ rest) = (false, ds ++ rest) := by
  cases ds with
  | nil => exact absurd rfl hne
  | cons c ds =>
    have hc := hds c List.mem_cons_self
    rw [List.cons_append]
    unfold numeralSign
    split
    · next heq => exact absurd hc (by rw [(List.cons.inj heq).1]; decide)
    · next heq => exact absurd hc (by rw [(List.cons.inj heq).1]; decide)
    · rfl

theorem numeral?_date_append (d : Date) (rest : List Char) : numeral? (d.text ++ rest) = none := by
  have htext : d.text ++ rest = Digits.fixed 4 d.year ++
      '-' :: (Digits.fixed 2 d.month ++ '-' :: (Digits.fixed 2 d.day ++ rest)) := by
    simp [Date.text]
  have hyear := Digits.isDigit_fixed 4 d.year
  have hne : Digits.fixed 4 d.year ≠ [] := fun h => by
    simpa [h] using Digits.length_fixed 4 d.year
  rw [numeral?, htext, numeralSign_append hyear hne]
  dsimp only
  rw [Digits.run_append hyear (by simp)]
  rfl

theorem ofChars_date_append_iff {d : Date} {rest : List Char} {z : Zoned} :
    ofChars (d.text ++ rest) = .ok z ↔
      ∃ p, spelling? (d.text ++ rest) = some p ∧ p.zoned? = some z := by
  rw [ofChars, numeral?_date_append]
  cases spelling? (d.text ++ rest) with
  | none => simp
  | some p => cases hp : p.zoned? <;> simp [hp]

theorem spelling?_offsetText {d : Date} {mark : Char} {hour minute second : Nat} {o : Int}
    {f ds w : List Char} (hd : d.Fits) (hmark : mark = 'T' ∨ mark = 't') (hhour : hour < 100)
    (hminute : minute < 100) (hsecond : second < 100) (hf : FractionText ['.'] f ds)
    (hw : OffsetText w o) {p : Spelling} :
    spelling? (d.text ++ mark :: (timeText hour minute second ++ (f ++ w))) = some p ↔
      ¬ WideOffset w ∧ p = ⟨d, hour, minute, second, ds, o⟩ := by
  have hmark' : mark ∈ ['T', 't', ' ', '_'] := by rcases hmark with rfl | rfl <;> decide
  have hf' : FractionText ['.', ','] f ds := by
    cases hf with
    | empty => exact .empty
    | digits hm hne hds => exact .digits (List.mem_append_left [','] hm) hne hds
  have hmarks : ∀ c, w.head? = some c → c ∉ ['.', ','] := by
    intro c hc
    cases hw <;> simp only [List.head?_cons, Option.some.injEq] at hc <;> subst hc <;> decide
  rw [spelling?_timeText hd hmark' hhour hminute hsecond hf' hmarks fun c hc => (hw.head hc).2,
    Option.bind_eq_some_iff]
  constructor
  · rintro ⟨⟨o', rest⟩, hread, hp⟩
    obtain ⟨hwide, rfl, rfl⟩ := (optionalOffset?_eq_some_iff hw).1 hread
    exact ⟨hwide, by simpa [eq_comm] using hp⟩
  · rintro ⟨hwide, rfl⟩
    exact ⟨(o, []), (optionalOffset?_eq_some_iff hw).2 ⟨hwide, rfl, rfl⟩, rfl⟩

theorem spelling?_faceText {d : Date} {mark : Char} {hour minute second : Nat} (hd : d.Fits)
    (hmark : mark ∈ ['T', 't', ' ', '_']) (hhour : hour < 100) (hminute : minute < 100)
    (hsecond : second < 100) :
    spelling? (d.text ++ mark :: timeText hour minute second) =
      some ⟨d, hour, minute, second, [], 0⟩ := by
  have h : spelling? (d.text ++ mark :: (timeText hour minute second ++ ([] ++ []))) = _ :=
    spelling?_timeText hd hmark hhour hminute hsecond .empty (fun c hc => nomatch hc)
      (fun c hc => nomatch hc)
  simpa [optionalOffset?] using h

theorem spelling?_dateText {d : Date} (hd : d.Fits) :
    spelling? d.text = some ⟨d, 0, 0, 0, [], 0⟩ := by
  have hdate : Grammar.date? d.text = some (d, []) :=
    Grammar.date?_eq_some_iff.2 ⟨hd, (List.append_nil _).symm⟩
  simp [spelling?, hdate]

theorem zoned?_of_face {p : Spelling} {c : Civil} {o : Int} (hc : c.Valid) (ho : o.natAbs < 24 * 60)
    (hface : p.face = c) (hoffset : p.offset = o) : p.zoned? = some ⟨c.toMicros, o * 60⟩ := by
  subst hface hoffset
  exact Spelling.zoned?_eq_some_iff.2 ⟨hc, ho, rfl⟩

theorem ofChars_offsetText_iff {d : Date} {mark : Char} {hour minute second : Nat} {o : Int}
    {f ds w : List Char} (hd : d.Valid) (hmark : mark = 'T' ∨ mark = 't') (hhour : hour < 24)
    (hminute : minute < 60) (hsecond : second ≤ 60) (hf : FractionText ['.'] f ds)
    (hw : OffsetText w o) (ho : o.natAbs < 24 * 60) {z : Zoned} :
    ofChars (d.text ++ mark :: (timeText hour minute second ++ (f ++ w))) = .ok z ↔
      second ≠ 60 ∧ ¬ WideOffset w ∧
        z = ⟨Civil.toMicros ⟨d, hour, minute, second, Digits.millionths ds⟩, o * 60⟩ := by
  rw [ofChars_date_append_iff]
  constructor
  · rintro ⟨p, hp, hz⟩
    obtain ⟨hwide, rfl⟩ := (spelling?_offsetText hd.fits hmark (by omega) (by omega) (by omega) hf
      hw).1 hp
    obtain ⟨hface, -, rfl⟩ := Spelling.zoned?_eq_some_iff.1 hz
    have hclock : second < 60 := hface.2.2.2.1
    exact ⟨by omega, hwide, rfl⟩
  · rintro ⟨hclock, hwide, rfl⟩
    have hface : (⟨d, hour, minute, second, Digits.millionths ds⟩ : Civil).Valid :=
      ⟨hd, hhour, hminute, show second < 60 by omega, Digits.millionths_lt hf.isDigit⟩
    exact ⟨_, (spelling?_offsetText hd.fits hmark (by omega) (by omega) (by omega) hf hw).2
      ⟨hwide, rfl⟩, zoned?_of_face hface ho rfl rfl⟩

theorem ofChars_faceText_iff {c : Civil} {mark : Char} (hc : c.Valid) (hmicro : c.micro = 0)
    (hmark : mark ∈ ['T', 't', ' ', '_']) {z : Zoned} :
    ofChars (c.date.text ++ mark :: timeText c.hour c.minute c.second) = .ok z ↔
      z = ⟨c.toMicros, 0⟩ := by
  have hface : (⟨c.date, c.hour, c.minute, c.second, [], 0⟩ : Spelling).face = c := by
    cases c
    cases hmicro
    rfl
  have hzoned := zoned?_of_face hc (by decide : (0 : Int).natAbs < 24 * 60) hface rfl
  obtain ⟨hd, hh, hm, hs, -⟩ := hc
  rw [ofChars_date_append_iff, spelling?_faceText hd.fits hmark (by omega) (by omega) (by omega)]
  simp [hzoned, eq_comm]

/-- **What a request may give as an expiration is read as the same time**, unless it shows second 60
or a wide offset: then it is not read at all. -/
theorem ofChars_expirationText_iff {s : List Char} {c : Civil} {o : Int} (h : ExpirationText s c o)
    (ho : o.natAbs < 24 * 60) {z : Zoned} :
    ofChars s = .ok z ↔ ¬ (Text.ofChars s).ShowsLeapSecond ∧ ¬ (Text.ofChars s).ShowsWideOffset ∧
      z = ⟨c.toMicros, o * 60⟩ := by
  cases h with
  | @offset c mark f ds w o hc hmark hf hmicro hw =>
    obtain ⟨hd, hh, hm, hs, -⟩ := hc
    have hfront : c.date.text ++ mark :: (timeText c.hour c.minute c.second ++ (f ++ w)) =
        (c.date.text ++ mark :: (timeText c.hour c.minute c.second ++ f)) ++ w := by simp
    rw [ofChars_offsetText_iff hd hmark hh hm (by omega) hf hw ho,
      showsLeapSecond_timeText c.date mark _ _ (by omega), hfront, showsWideOffset_offsetText hw, ← hmicro]
  | @leapSecond d hour mark f ds w o hd hh hmark hf hw =>
    rw [ofChars_offsetText_iff hd hmark hh (by decide) (by decide) hf hw ho,
      showsLeapSecond_timeText d mark _ _ (by decide)]
    simp
  | @joined c hc hmicro | @spaced c hc hmicro =>
    have hleap (mark : Char) := showsLeapSecond_timeText c.date mark c.hour c.minute
      (show c.second < 100 from Nat.lt_trans hc.2.2.2.1 (by decide)) []
    have hsecond : c.second ≠ 60 := hc.2.2.2.1.ne
    simp only [List.append_nil] at hleap
    rw [ofChars_faceText_iff hc hmicro (by decide), hleap]
    simp [hsecond, not_showsWideOffset_time]
  | @day d hd =>
    have hface : (⟨d, 0, 0, 0, 0⟩ : Civil).Valid :=
      ⟨hd, (by decide : 0 < 24), (by decide : 0 < 60), (by decide : 0 < 60),
        (by decide : 0 < 1000000)⟩
    have hread : ofChars (d.text ++ []) = .ok z ↔ _ := ofChars_date_append_iff
    rw [List.append_nil, spelling?_dateText hd.fits] at hread
    rw [hread]
    have hzoned := zoned?_of_face (p := ⟨d, 0, 0, 0, [], 0⟩) hface ho rfl rfl
    simp [not_showsLeapSecond_date, not_showsWideOffset_date, hzoned, eq_comm]

theorem reading_eq_value_iff {place : List Issue.Step} {v : Value} {t : Instant} :
    reading place v = .value t ↔ ∃ z, ofValue v = .ok z ∧ z.utc? = some t := by
  constructor
  · intro h
    unfold reading at h
    split at h
    · cases h
    · next z hz =>
      split at h
      · next hutc => exact ⟨z, hz, hutc.trans (congrArg some (Reading.value.inj h))⟩
      · cases h
  · rintro ⟨z, hv, hz⟩
    exact reading_of_ofValue hv hz place

theorem reading_expiration_iff {t : Text} {e e' : Instant} (h : expirationInstant? t = .ok (some e))
    {place : List Issue.Step} :
    reading place (.text t) = .value e' ↔ ¬ t.ShowsLeapSecond ∧ ¬ t.ShowsWideOffset ∧ e' = e := by
  obtain ⟨s, c, o, rfl, htext, ho, he, hrep⟩ := expirationInstant?_eq_some_iff.1 h
  have hinstant : (⟨c.toMicros, o * 60⟩ : Zoned).instant = e := by
    rw [Zoned.instant_face, ← he]
  have hvalue : ofValue (.text (Text.ofChars s)) = ofChars s := by
    rw [ofValue, Text.chars?_ofChars]
  simp only [reading_eq_value_iff, hvalue, ofChars_expirationText_iff htext ho]
  constructor
  · rintro ⟨_, ⟨hleap, hwide, rfl⟩, hutc⟩
    exact ⟨hleap, hwide, (Zoned.utc?_eq_some_iff.1 hutc).1.trans hinstant⟩
  · rintro ⟨hleap, hwide, rfl⟩
    exact ⟨_, ⟨hleap, hwide, rfl⟩, Zoned.utc?_eq_some_iff.2 ⟨hinstant.symm, hrep⟩⟩

end StoredTime

/-! ## Records -/

namespace Stored

variable {α : Type} {ms ms' : Members} {n m : WireName} {read : List Issue.Step → Value → Reading α}

theorem required_congr (h : ms.AgreeBut n ms') (hm : m ≠ n) :
    required ms m read = required ms' m read := by
  rw [required, required, h m hm]

theorem optional_congr (h : ms.AgreeBut n ms') (hm : m ≠ n) :
    optional ms m read = optional ms' m read := by
  rw [optional, optional, h m hm]

theorem optional_text {name t : Text} (h : ms.part? n = some (name, .text t)) :
    optional ms n read = (read [.member name] (.text t)).map some := by
  rw [optional, h]

theorem record_expiresAt {k : Key} {e : Option Instant} (h : ms.AgreeBut .expiresAt ms')
    (hk : record ms' = .value k) (he : optional ms .expiresAt StoredTime.reading = .value e) :
    record ms = .value { k with expiresAt := e } := by
  obtain ⟨hdescription, hid, hactions, hindexes, -, hcreated, hupdated⟩ := record_eq_value_iff.1 hk
  rw [← optional_congr h (by decide)] at hdescription
  rw [← required_congr h (by decide)] at hid hactions hindexes hcreated hupdated
  exact record_eq_value_iff.2 ⟨hdescription, hid, hactions, hindexes, he, hcreated, hupdated⟩

end Stored

/-- **Requests and stored data agree on when a key expires.** Let a text be an expiration that a
request may give at some time. A record that is restored from data with this text expires at the
same instant, and then the text neither shows second 60 nor ends with a wide offset. Conversely, if
it does neither and the other parts of the data describe a record, the data describes that record
with this instant as its expiration. -/
theorem Key.expiration_agrees {room : Room} {t name : Text} {now e : Instant} {ms : Members}
    (h : checkExpiration room (.text t) now = .ok (some e))
    (hms : ms.part? .expiresAt = some (name, .text t)) :
    (∀ k, ofStored (.object ms) = .ok k →
        k.expiresAt = some e ∧ ¬ t.ShowsLeapSecond ∧ ¬ t.ShowsWideOffset) ∧
      ∀ ms' k, ms.AgreeBut .expiresAt ms' → ofStored (.object ms') = .ok k →
        ¬ t.ShowsLeapSecond → ¬ t.ShowsWideOffset →
          ofStored (.object ms) = .ok { k with expiresAt := some e } := by
  obtain ⟨_, ht, he, -⟩ := checkExpiration_eq_some_iff.1 h
  cases ht
  have hread : Stored.optional ms .expiresAt StoredTime.reading = _ := Stored.optional_text hms
  refine ⟨fun k hk => ?_, fun ms' k hagree hk hleap hwide => ?_⟩
  · obtain ⟨_, hdata, hrecord⟩ := ofStored_eq_ok_iff.1 hk
    cases hdata
    obtain ⟨-, -, -, -, hexpires, -⟩ := Stored.record_eq_value_iff.1 hrecord
    rw [hread] at hexpires
    obtain ⟨e', he', hk'⟩ := Reading.map_eq_value_iff.1 hexpires
    obtain ⟨hleap, hwide, rfl⟩ := (StoredTime.reading_expiration_iff he).1 he'
    exact ⟨hk'.symm, hleap, hwide⟩
  · obtain ⟨_, hdata, hrecord⟩ := ofStored_eq_ok_iff.1 hk
    cases hdata
    refine ofStored_eq_ok_iff.2 ⟨ms, rfl, Stored.record_expiresAt hagree hrecord ?_⟩
    rw [hread]
    exact Reading.map_eq_value_iff.2
      ⟨e, (StoredTime.reading_expiration_iff he).2 ⟨hleap, hwide, rfl⟩, rfl⟩

/-- An offset that carries the expiration into the next year, after a fraction of seven digits. -/
theorem Key.expiration_agrees_next_year :
    let text : Text := "2039-12-31t23:30:00.1234567-01:15"
    let e : Instant := ⟨Civil.toMicros ⟨⟨2040, 1, 1⟩, 0, 45, 0, 123456⟩⟩
    let data (v : Value) : Members := [("id", .text (List.replicate 64 (.char 'a'))),
      ("actions", .list [.text "search"]), ("indexes", .list [.text "*"]), ("expiresAt", v),
      ("createdAt", .text "2030-01-01"), ("updatedAt", .int 1893456000)]
    (checkExpiration ⟨0, 0⟩ (.text text) ⟨0⟩).toOption = some (some e) ∧
      ∃ k, ofStored (.object (data .null)) = .ok k ∧
        ofStored (.object (data (.text text))) = .ok { k with expiresAt := some e } := by
  intro text e data
  have hoption : (checkExpiration ⟨0, 0⟩ (.text text) ⟨0⟩).toOption = some (some e) := by decide +kernel
  have hsome : (ofStored (.object (data .null))).toOption.isSome = true := by decide +kernel
  have hcheck : checkExpiration ⟨0, 0⟩ (.text text) ⟨0⟩ = .ok (some e) := by
    cases h : checkExpiration ⟨0, 0⟩ (.text text) ⟨0⟩ with
    | error f =>
      rw [h] at hoption
      cases hoption
    | ok e' =>
      rw [h] at hoption
      exact congrArg Except.ok (Option.some.inj hoption)
  have hwide : ¬ text.ShowsWideOffset := by
    have hoffset : text = Text.ofChars ("2039-12-31t23:30:00.1234567".toList ++
        '-' :: hourMinuteText 1 15) := by decide
    rw [hoffset, showsWideOffset_offsetText (.behind (by decide) (by decide)),
      wideOffset_iff (.inr rfl) (by decide) (by decide)]
    decide
  refine ⟨hoption, ?_⟩
  cases hk : ofStored (.object (data .null)) with
  | error f =>
    rw [hk] at hsome
    cases hsome
  | ok k =>
    have hagree : (data (.text text)).AgreeBut .expiresAt (data .null) := by
      intro m hm
      cases m with
      | expiresAt => exact absurd rfl hm
      | _ => rfl
    exact ⟨k, rfl, (Key.expiration_agrees hcheck rfl).2 _ k hagree hk (by decide) hwide⟩

end ApiKeys

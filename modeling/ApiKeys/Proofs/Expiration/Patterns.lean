import ApiKeys.Proofs.Expiration.Language
import Mathlib.Computability.RegularExpressions

/-!
# Patterns of expirations

Each format of an expiration has a pattern, here a regular expression. A text has the shape of a
format exactly when it matches the pattern as a whole (`mem_pattern_iff`), and the patterns have no
text in common. So a text that names no time in the format whose pattern it matches names none at
all, and the order in which the formats are tried makes no difference (`formats_unambiguous`).
-/

namespace ApiKeys

open RegularExpression

/-! ## The patterns -/

namespace Pattern

/-- The decimal digits. -/
def digits : List Char := ['0', '1', '2', '3', '4', '5', '6', '7', '8', '9']

/-- A decimal digit. -/
def digit : RegularExpression Char := (digits.map char).sum

/-- `YYYY-MM-DD` -/
def date : RegularExpression Char :=
  digit ^ 4 * (char '-' * (digit ^ 2 * (char '-' * digit ^ 2)))

/-- `HH:MM` -/
def hourMinute : RegularExpression Char := digit ^ 2 * (char ':' * digit ^ 2)

/-- `HH:MM:SS` -/
def time : RegularExpression Char := hourMinute * (char ':' * digit ^ 2)

/-- Nothing, or a point and at least one digit. -/
def fraction : RegularExpression Char := 1 + char '.' * (digit * digit.star)

/-- `Z` in either case, or `±HH:MM`. -/
def offset : RegularExpression Char :=
  char 'Z' + char 'z' + (char '+' + char '-') * hourMinute

end Pattern

/-- The pattern of a format. -/
def ExpirationFormat.pattern : ExpirationFormat → RegularExpression Char
  | rfc3339 =>
    Pattern.date * ((char 'T' + char 't') * (Pattern.time * (Pattern.fraction * Pattern.offset)))
  | dateTimeT => Pattern.date * (char 'T' * Pattern.time)
  | dateTimeSpace => Pattern.date * (char ' ' * Pattern.time)
  | date => Pattern.date

/-- A text matches the pattern of a format as a whole. -/
def ExpirationFormat.Matches (f : ExpirationFormat) (t : Text) : Prop :=
  t ∈ (f.pattern.map CodePoint.char).matches'

/-! ## What the patterns match -/

namespace Pattern

variable {s : List Char} {c : Char} {n : Nat}

theorem mem_mul {P Q : RegularExpression Char} :
    s ∈ (P * Q).matches' ↔ ∃ a ∈ P.matches', ∃ b ∈ Q.matches', s = a ++ b := by
  simp only [matches'_mul, Language.mem_mul, eq_comm (a := s)]

theorem mem_add {P Q : RegularExpression Char} :
    s ∈ (P + Q).matches' ↔ s ∈ P.matches' ∨ s ∈ Q.matches' :=
  Iff.rfl

theorem mem_char : s ∈ (char c).matches' ↔ s = [c] := Iff.rfl

theorem mem_sum_char (cs : List Char) :
    s ∈ (cs.map char).sum.matches' ↔ ∃ c ∈ cs, s = [c] := by
  induction cs with
  | nil => simp
  | cons c cs ih =>
    rw [List.map_cons, List.sum_cons, mem_add, mem_char, ih]
    simp

theorem mem_digit : s ∈ digit.matches' ↔ ∃ c, c.isDigit = true ∧ s = [c] := by
  rw [digit, mem_sum_char]
  constructor
  · rintro ⟨c, hc, rfl⟩
    have hdigits : digits.all Char.isDigit = true := by decide
    exact ⟨c, List.all_eq_true.1 hdigits c hc, rfl⟩
  · rintro ⟨c, hc, rfl⟩
    obtain ⟨hlt, heq⟩ := Digits.digitChar_of_isDigit hc
    refine ⟨c, ?_, rfl⟩
    rw [← heq]
    generalize c.toNat - '0'.toNat = k at hlt
    revert k
    decide

theorem mem_digits : s ∈ (digit ^ n).matches' ↔ ∃ k, k < 10 ^ n ∧ s = Digits.fixed n k := by
  induction n generalizing s with
  | zero =>
    rw [matches'_pow, pow_zero, Language.mem_one]
    simp [Digits.fixed]
  | succ n ih =>
    show s ∈ (digit ^ n * digit).matches' ↔ _
    simp only [mem_mul, ih, mem_digit]
    constructor
    · rintro ⟨_, ⟨k, hk, rfl⟩, _, ⟨c, hc, rfl⟩, rfl⟩
      obtain ⟨hlt, heq⟩ := Digits.digitChar_of_isDigit hc
      refine ⟨10 * k + (c.toNat - '0'.toNat), by rw [pow_succ]; omega, ?_⟩
      rw [Digits.fixed, show (10 * k + (c.toNat - '0'.toNat)) / 10 = k by omega,
        show (10 * k + (c.toNat - '0'.toNat)) % 10 = c.toNat - '0'.toNat by omega, heq]
    · rintro ⟨k, hk, rfl⟩
      refine ⟨_, ⟨k / 10, by rw [pow_succ] at hk; omega, rfl⟩, _, ⟨Nat.digitChar (k % 10), ?_, rfl⟩,
        rfl⟩
      rw [Nat.isDigit_digitChar]
      exact decide_eq_true (Nat.mod_lt _ (by decide))

theorem mem_star_digit : s ∈ digit.star.matches' ↔ ∀ c ∈ s, c.isDigit = true := by
  rw [matches'_star, Language.mem_kstar]
  constructor
  · rintro ⟨parts, rfl, hparts⟩ c hc
    obtain ⟨part, hpart, hc⟩ := List.mem_flatten.1 hc
    obtain ⟨d, hd, rfl⟩ := mem_digit.1 (hparts part hpart)
    rwa [List.mem_singleton.1 hc]
  · intro hs
    refine ⟨s.map fun c => [c], (List.flatMap_singleton' s).symm, fun part hpart => ?_⟩
    obtain ⟨c, hc, rfl⟩ := List.mem_map.1 hpart
    exact mem_digit.2 ⟨c, hs c hc, rfl⟩

theorem mem_date : s ∈ date.matches' ↔ ∃ d : Date, d.Fits ∧ s = d.text := by
  simp only [date, mem_mul, mem_char, mem_digits]
  constructor
  · rintro ⟨_, ⟨y, hy, rfl⟩, _, ⟨_, rfl, _, ⟨_, ⟨m, hm, rfl⟩, _,
      ⟨_, rfl, _, ⟨d, hd, rfl⟩, rfl⟩, rfl⟩, rfl⟩, rfl⟩
    exact ⟨⟨y, m, d⟩, ⟨hy, hm, hd⟩, by simp [Date.text]⟩
  · rintro ⟨⟨y, m, d⟩, ⟨hy, hm, hd⟩, rfl⟩
    exact ⟨_, ⟨y, hy, rfl⟩, _, ⟨_, rfl, _, ⟨_, ⟨m, hm, rfl⟩, _,
      ⟨_, rfl, _, ⟨d, hd, rfl⟩, rfl⟩, rfl⟩, rfl⟩, by simp [Date.text]⟩

theorem mem_hourMinute : s ∈ hourMinute.matches' ↔
    ∃ hour minute, hour < 100 ∧ minute < 100 ∧ s = hourMinuteText hour minute := by
  simp only [hourMinute, mem_mul, mem_char, mem_digits]
  constructor
  · rintro ⟨_, ⟨h, hh, rfl⟩, _, ⟨_, rfl, _, ⟨m, hm, rfl⟩, rfl⟩, rfl⟩
    exact ⟨h, m, hh, hm, rfl⟩
  · rintro ⟨h, m, hh, hm, rfl⟩
    exact ⟨_, ⟨h, hh, rfl⟩, _, ⟨_, rfl, _, ⟨m, hm, rfl⟩, rfl⟩, rfl⟩

theorem mem_time : s ∈ time.matches' ↔ ∃ hour minute second,
    (hour < 100 ∧ minute < 100 ∧ second < 100) ∧ s = timeText hour minute second := by
  simp only [time, mem_mul, mem_char, mem_digits, mem_hourMinute]
  constructor
  · rintro ⟨_, ⟨h, m, hh, hm, rfl⟩, _, ⟨_, rfl, _, ⟨k, hk, rfl⟩, rfl⟩, rfl⟩
    exact ⟨h, m, k, ⟨hh, hm, hk⟩, rfl⟩
  · rintro ⟨h, m, k, ⟨hh, hm, hk⟩, rfl⟩
    exact ⟨_, ⟨h, m, hh, hm, rfl⟩, _, ⟨_, rfl, _, ⟨k, hk, rfl⟩, rfl⟩, rfl⟩

theorem mem_fraction : s ∈ fraction.matches' ↔ ∃ ds, FractionText ['.'] s ds := by
  rw [fraction, mem_add, matches'_epsilon, Language.mem_one]
  simp only [mem_mul, mem_char, mem_digit, mem_star_digit]
  constructor
  · rintro (rfl | ⟨_, rfl, _, ⟨_, ⟨c, hc, rfl⟩, ds, hds, rfl⟩, rfl⟩)
    · exact ⟨[], .empty⟩
    · exact ⟨c :: ds, .digits (by simp) (by simp) (List.forall_mem_cons.2 ⟨hc, hds⟩)⟩
  · rintro ⟨ds, h⟩
    cases h with
    | empty => exact .inl rfl
    | digits hmark hne hds =>
      obtain ⟨c, ds, rfl⟩ := List.exists_cons_of_ne_nil hne
      obtain ⟨hc, hds⟩ := List.forall_mem_cons.1 hds
      rw [List.mem_singleton.1 hmark]
      exact .inr ⟨_, rfl, c :: ds, ⟨[c], ⟨c, hc, rfl⟩, ds, hds, rfl⟩, rfl⟩

theorem mem_offset : s ∈ offset.matches' ↔ ∃ o, OffsetText s o := by
  simp only [offset, mem_add, mem_char, mem_mul, mem_hourMinute]
  constructor
  · rintro ((rfl | rfl) | ⟨_, rfl | rfl, _, ⟨h, m, hh, hm, rfl⟩, rfl⟩)
    · exact ⟨0, .utc⟩
    · exact ⟨0, .utcSmall⟩
    · exact ⟨_, .ahead hh hm⟩
    · exact ⟨_, .behind hh hm⟩
  · rintro ⟨o, h⟩
    cases h with
    | utc => exact .inl (.inl rfl)
    | utcSmall => exact .inl (.inr rfl)
    | ahead hh hm => exact .inr ⟨_, .inl rfl, _, ⟨_, _, hh, hm, rfl⟩, rfl⟩
    | behind hh hm => exact .inr ⟨_, .inr rfl, _, ⟨_, _, hh, hm, rfl⟩, rfl⟩

end Pattern

namespace ExpirationFormat

open Pattern

/-- **A text has the shape of a format exactly when it matches its pattern.** -/
theorem mem_pattern_iff {f : ExpirationFormat} {s : List Char} :
    s ∈ f.pattern.matches' ↔ ∃ p, f.spelling? s = some p := by
  cases f with
  | rfc3339 =>
    simp only [pattern, spelling?, mem_mul, mem_add, mem_char, mem_date, mem_time, mem_fraction,
      mem_offset, dateTimeOffset?_eq_some_iff]
    constructor
    · rintro ⟨_, ⟨d, hd, rfl⟩, _, ⟨mark, hmark, _, ⟨_, ⟨h, m, k, ht, rfl⟩, _,
        ⟨f, ⟨ds, hf⟩, z, ⟨o, ho⟩, rfl⟩, rfl⟩, rfl⟩, rfl⟩
      rcases hmark with rfl | rfl
      · exact ⟨⟨d, h, m, k, ds, o⟩, 'T', f, z, .inl rfl, hd, ht, hf, ho, rfl⟩
      · exact ⟨⟨d, h, m, k, ds, o⟩, 't', f, z, .inr rfl, hd, ht, hf, ho, rfl⟩
    · rintro ⟨⟨d, h, m, k, ds, o⟩, mark, f, z, hmark, hd, ht, hf, ho, rfl⟩
      refine ⟨_, ⟨d, hd, rfl⟩, _, ⟨[mark], ?_, _, ⟨_, ⟨h, m, k, ht, rfl⟩, _,
        ⟨f, ⟨ds, hf⟩, z, ⟨o, ho⟩, rfl⟩, rfl⟩, rfl⟩, rfl⟩
      exact hmark.imp (congrArg fun c => [c]) (congrArg fun c => [c])
  | dateTimeT =>
    simp only [pattern, spelling?, mem_mul, mem_char, mem_date, mem_time, faceWith?_eq_some_iff]
    constructor
    · rintro ⟨_, ⟨d, hd, rfl⟩, _, ⟨_, rfl, _, ⟨h, m, k, ht, rfl⟩, rfl⟩, rfl⟩
      exact ⟨⟨d, h, m, k, [], 0⟩, hd, ht, rfl, rfl, rfl⟩
    · rintro ⟨⟨d, h, m, k, ds, o⟩, hd, ht, rfl, rfl, rfl⟩
      exact ⟨_, ⟨d, hd, rfl⟩, _, ⟨_, rfl, _, ⟨h, m, k, ht, rfl⟩, rfl⟩, rfl⟩
  | dateTimeSpace =>
    simp only [pattern, spelling?, mem_mul, mem_char, mem_date, mem_time, faceWith?_eq_some_iff]
    constructor
    · rintro ⟨_, ⟨d, hd, rfl⟩, _, ⟨_, rfl, _, ⟨h, m, k, ht, rfl⟩, rfl⟩, rfl⟩
      exact ⟨⟨d, h, m, k, [], 0⟩, hd, ht, rfl, rfl, rfl⟩
    · rintro ⟨⟨d, h, m, k, ds, o⟩, hd, ht, rfl, rfl, rfl⟩
      exact ⟨_, ⟨d, hd, rfl⟩, _, ⟨_, rfl, _, ⟨h, m, k, ht, rfl⟩, rfl⟩, rfl⟩
  | date =>
    simp only [pattern, spelling?, mem_date, dateOnly?_eq_some_iff]
    constructor
    · rintro ⟨d, hd, rfl⟩
      exact ⟨_, d, hd, rfl, rfl⟩
    · rintro ⟨p, d, hd, rfl, rfl⟩
      exact ⟨d, hd, rfl⟩

theorem matches_iff {f : ExpirationFormat} {t : Text} :
    f.Matches t ↔ ∃ p, t.chars?.bind f.spelling? = some p := by
  simp only [Matches, matches'_map, Option.bind_eq_some_iff, Text.chars?_eq_some_iff]
  constructor
  · rintro ⟨s, hs, rfl⟩
    obtain ⟨p, hp⟩ := mem_pattern_iff.1 hs
    exact ⟨p, s, rfl, hp⟩
  · rintro ⟨p, s, rfl, hp⟩
    exact ⟨s, mem_pattern_iff.2 ⟨p, hp⟩, rfl⟩

/-! ## Trying the formats in turn -/

/-- The outcome for a text that names a time, or none. -/
def outcome : Option Zoned → Except Failure (Option Instant)
  | none => .ok none
  | some z =>
    match z.utc? with
    | none => .error .dateOutOfRange
    | some e => .ok (some e)

/-- The instant that a text names when some formats are tried one after the other. A format whose
shape the text does not have is passed over, and so is one in which the text names no time. A time
that has no date in UTC ends the trying. -/
def tryInTurn (t : Text) : List ExpirationFormat → Except Failure (Option Instant)
  | [] => .ok none
  | f :: fs =>
    match t.chars?.bind f.spelling? with
    | none => tryInTurn t fs
    | some p =>
      match f.meaning? p with
      | none => tryInTurn t fs
      | some z => outcome (some z)

theorem tryInTurn_eq (t : Text) (fs : List ExpirationFormat) :
    tryInTurn t fs = outcome (t.chars?.bind (readExpiration? fs)) := by
  induction fs with
  | nil => cases t.chars? <;> rfl
  | cons f fs ih =>
    rw [tryInTurn]
    cases hs : t.chars? with
    | none => simp [ih, hs]
    | some s =>
      rw [hs] at ih
      simp only [Option.bind_some, readExpiration?, List.findSome?_cons, zoned?] at ih ⊢
      cases f.spelling? s with
      | none => exact ih
      | some p =>
        cases hz : f.meaning? p with
        | none => simp only [Option.bind_some, hz, ih]
        | some z => simp only [Option.bind_some, hz]

theorem expirationInstant?_eq_tryInTurn (t : Text) : expirationInstant? t = tryInTurn t list := by
  rw [tryInTurn_eq]
  rfl

theorem readExpiration?_eq_none {f : ExpirationFormat} {p : Spelling} {s : List Char}
    (h : f.spelling? s = some p) (hp : f.meaning? p = none) (fs : List ExpirationFormat) :
    readExpiration? fs s = none := by
  rw [readExpiration?, List.findSome?_eq_none_iff]
  intro g _
  rw [zoned?_of_spelling? h, hp, ite_self]

theorem readExpiration?_of_shapeless {s : List Char}
    (h : ∀ f : ExpirationFormat, f.spelling? s = none) (fs : List ExpirationFormat) :
    readExpiration? fs s = none := by
  rw [readExpiration?, List.findSome?_eq_none_iff]
  intro f _
  rw [zoned?, h, Option.bind_none]

theorem readExpiration?_perm {fs gs : List ExpirationFormat} (h : fs.Perm gs) (hall : ∀ f, f ∈ gs)
    (s : List Char) : readExpiration? fs s = readExpiration? gs s := by
  by_cases hs : ∃ (f : ExpirationFormat) (p : Spelling), f.spelling? s = some p
  · obtain ⟨f, p, hp⟩ := hs
    rw [readExpiration?_of_spelling? (h.mem_iff.2 (hall f)) hp,
      readExpiration?_of_spelling? (hall f) hp]
  · push Not at hs
    have hnone : ∀ f : ExpirationFormat, f.spelling? s = none := fun f =>
      Option.eq_none_iff_forall_ne_some.2 (hs f)
    rw [readExpiration?_of_shapeless hnone, readExpiration?_of_shapeless hnone]

/-- **The formats of an expiration do not get into each other's way.** A text matches the pattern of
at most one format. Where it names no time in that one, it names none in any formats that are tried,
and no key expires then. Trying all formats comes to the same in every order. -/
theorem formats_unambiguous (t : Text) :
    (∀ f g : ExpirationFormat, f.Matches t → g.Matches t → f = g) ∧
    (∀ f : ExpirationFormat, f.Matches t → t.chars?.bind f.zoned? = none →
      (∀ fs, tryInTurn t fs = .ok none) ∧ ∀ room now,
        checkExpiration room (.text t) now = .error (.rejected (.ofText .expiresAt t))) ∧
    ∀ fs : List ExpirationFormat, fs.Perm list → tryInTurn t fs = expirationInstant? t := by
  refine ⟨fun f g hf hg => ?_, fun f hf hnone => ?_, fun fs hfs => ?_⟩
  · obtain ⟨p, hp⟩ := matches_iff.1 hf
    obtain ⟨q, hq⟩ := matches_iff.1 hg
    obtain ⟨s, hs, hp⟩ := Option.bind_eq_some_iff.1 hp
    rw [hs, Option.bind_some] at hq
    exact eq_of_spelling? hp hq
  · obtain ⟨p, hp⟩ := matches_iff.1 hf
    obtain ⟨s, hs, hp⟩ := Option.bind_eq_some_iff.1 hp
    rw [hs, Option.bind_some, zoned?, hp, Option.bind_some] at hnone
    have htry : ∀ fs, tryInTurn t fs = .ok none := by
      intro fs
      rw [tryInTurn_eq, hs, Option.bind_some, readExpiration?_eq_none hp hnone, outcome]
    refine ⟨htry, fun room now => ?_⟩
    rw [checkExpiration, expirationInstant?_eq_tryInTurn, htry, Field.refusal_text]
  · rw [expirationInstant?_eq_tryInTurn, tryInTurn_eq, tryInTurn_eq]
    cases t.chars? with
    | none => rfl
    | some s => rw [Option.bind_some, Option.bind_some, readExpiration?_perm hfs mem_list]

/-- A day that February does not have, with the date first among the formats, and a leap second in
another zone. -/
theorem formats_unambiguous_february :
    let t : Text := "2030-02-30T00:00:00"
    let u : Text := "2030-12-31t23:59:60.5-00:30"
    let fs : List ExpirationFormat := [.date, .dateTimeSpace, .rfc3339, .dateTimeT]
    dateTimeT.Matches t ∧ ¬ rfc3339.Matches t ∧ t.chars?.bind dateTimeT.zoned? = none ∧
      tryInTurn t fs = .ok none ∧ rfc3339.Matches u ∧ fs.Perm list ∧
      tryInTurn u fs = expirationInstant? u ∧
      (expirationInstant? u).toOption = some (some ⟨64060590599999999⟩) := by
  intro t u fs
  have ht : dateTimeT.Matches t := matches_iff.2 (Option.isSome_iff_exists.1 (by decide))
  have hu : rfc3339.Matches u := matches_iff.2 (Option.isSome_iff_exists.1 (by decide))
  have hnone : t.chars?.bind dateTimeT.zoned? = none := by decide
  have hperm : fs.Perm list := by decide
  refine ⟨ht, fun h => ?_, hnone, ((formats_unambiguous t).2.1 _ ht hnone).1 fs, hu, hperm,
    (formats_unambiguous u).2.2 fs hperm, by decide⟩
  exact absurd ((formats_unambiguous t).1 _ _ ht h) (by decide)

end ExpirationFormat

end ApiKeys

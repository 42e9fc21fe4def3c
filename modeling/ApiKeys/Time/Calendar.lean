/-!
# The calendar

Days of the proleptic Gregorian calendar, years 1 to 9999, numbered from 0 for the first day of
year 1. `Date.dayNumber` counts the days before a date, and `Date.ofDayNumber` finds the date: first
the year, by a quotient that is at most one year off, then the month by its length. The two undo
each other: `Date.dayNumber_ofDayNumber` and `Date.ofDayNumber_dayNumber`.
-/

namespace ApiKeys

/-- Every fourth year is a leap year, of the centuries only every fourth one. -/
def isLeapYear (year : Nat) : Bool :=
  year % 4 == 0 && (year % 100 != 0 || year % 400 == 0)

/-- The lengths of the twelve months of a year. -/
def monthLengths (year : Nat) : List Nat :=
  [31, if isLeapYear year then 29 else 28, 31, 30, 31, 30, 31, 31, 30, 31, 30, 31]

/-- A day as year, month and day, perhaps none of the calendar: see `Date.Valid`. -/
structure Date where
  year : Nat
  month : Nat
  day : Nat
  deriving DecidableEq

namespace Date

/-- The date exists, in one of the years 1 to 9999. -/
def Valid (d : Date) : Prop :=
  1 ≤ d.year ∧ d.year ≤ 9999 ∧ 1 ≤ d.month ∧ d.month ≤ 12 ∧
    1 ≤ d.day ∧ d.day ≤ (monthLengths d.year).getD (d.month - 1) 0

instance (d : Date) : Decidable d.Valid := by unfold Valid; infer_instance

/-- The number of days in the years before a year. -/
def daysBeforeYear (year : Nat) : Nat :=
  365 * (year - 1) + (year - 1) / 4 - (year - 1) / 100 + (year - 1) / 400

/-- The number of days in the first months, of the given lengths. -/
def daysInMonths : (lengths : List Nat) → (months : Nat) → Nat
  | [], _ => 0
  | _, 0 => 0
  | length :: rest, months + 1 => length + daysInMonths rest months

/-- The number of days before a date, counted from the first day of year 1. -/
def dayNumber (d : Date) : Nat :=
  daysBeforeYear d.year + daysInMonths (monthLengths d.year) (d.month - 1) + (d.day - 1)

/-- The year of a day number. -/
def yearOf (n : Nat) : Nat :=
  let guess := n * 400 / 146097 + 1
  if n < daysBeforeYear guess then guess - 1
  else if daysBeforeYear (guess + 1) ≤ n then guess + 1
  else guess

/-- The whole months, of the given lengths, in a number of days, and the days that are left. -/
def splitMonths : (lengths : List Nat) → (days : Nat) → Nat × Nat
  | [], days => (0, days)
  | length :: rest, days =>
    if days < length then (0, days)
    else ((splitMonths rest (days - length)).1 + 1, (splitMonths rest (days - length)).2)

/-- The date of a day number. -/
def ofDayNumber (n : Nat) : Date :=
  let year := yearOf n
  let (months, days) := splitMonths (monthLengths year) (n - daysBeforeYear year)
  ⟨year, months + 1, days + 1⟩

/-- The number of days in the years 1 to 9999. -/
def dayCount : Nat := 3652059

/-! ## Laws -/

theorem daysBeforeYear_succ {year : Nat} (h : 1 ≤ year) :
    daysBeforeYear (year + 1) = daysBeforeYear year + daysInMonths (monthLengths year) 12 := by
  obtain ⟨p, rfl⟩ : ∃ p, year = p + 1 := ⟨year - 1, by omega⟩
  simp only [daysBeforeYear, monthLengths, isLeapYear, daysInMonths, Nat.add_sub_cancel]
  by_cases h4 : (p + 1) % 4 = 0
  · by_cases h100 : (p + 1) % 100 = 0
    · by_cases h400 : (p + 1) % 400 = 0
      · simp [h4, h100, h400]
        omega
      · simp [h4, h100, h400]
        omega
    · simp [h4, h100]
      omega
  · have h100 : (p + 1) / 100 = p / 100 := by omega
    have h400 : (p + 1) / 400 = p / 400 := by omega
    simp [h4]
    omega

theorem yearOf_bounds (n : Nat) :
    1 ≤ yearOf n ∧ daysBeforeYear (yearOf n) ≤ n ∧ n < daysBeforeYear (yearOf n + 1) := by
  unfold yearOf
  dsimp only
  split
  · next h =>
    unfold daysBeforeYear at *
    exact ⟨by omega, by omega, by omega⟩
  · split
    · next h =>
      unfold daysBeforeYear at *
      exact ⟨by omega, by omega, by omega⟩
    · omega

theorem daysBeforeYear_mono {a b : Nat} (h : a ≤ b) : daysBeforeYear a ≤ daysBeforeYear b := by
  induction h with
  | refl => exact Nat.le_refl _
  | @step m _ ih =>
    refine Nat.le_trans ih ?_
    unfold daysBeforeYear
    omega

theorem yearOf_eq {n year : Nat} (hle : daysBeforeYear year ≤ n)
    (hlt : n < daysBeforeYear (year + 1)) : yearOf n = year := by
  obtain ⟨_, h1, h2⟩ := yearOf_bounds n
  rcases Nat.lt_trichotomy (yearOf n) year with h | h | h
  · have := daysBeforeYear_mono (show yearOf n + 1 ≤ year from h)
    omega
  · exact h
  · have := daysBeforeYear_mono (show year + 1 ≤ yearOf n from h)
    omega

theorem splitMonths_add : ∀ {lengths : List Nat} {months days : Nat},
    months < lengths.length → days < lengths.getD months 0 →
      splitMonths lengths (daysInMonths lengths months + days) = (months, days)
  | [], _, _, h, _ => absurd h (Nat.not_lt_zero _)
  | length :: rest, 0, days, _, h => by
    have : days < length := h
    simp [splitMonths, daysInMonths, this]
  | length :: rest, months + 1, days, h, hd => by
    have ih := splitMonths_add (Nat.lt_of_succ_lt_succ h : months < rest.length) hd
    have : ¬ length + daysInMonths rest months + days < length := by omega
    have he : length + daysInMonths rest months + days - length =
        daysInMonths rest months + days := by omega
    simp [splitMonths, daysInMonths, this, he, ih]

theorem splitMonths_bounds : ∀ {lengths : List Nat} {days : Nat},
    days < daysInMonths lengths lengths.length →
      (splitMonths lengths days).1 < lengths.length ∧
        (splitMonths lengths days).2 < lengths.getD (splitMonths lengths days).1 0 ∧
        daysInMonths lengths (splitMonths lengths days).1 + (splitMonths lengths days).2 = days
  | [], _, h => absurd h (Nat.not_lt_zero _)
  | length :: rest, days, h => by
    by_cases hd : days < length
    · simp [splitMonths, daysInMonths, hd]
    · have hlt : days - length < daysInMonths rest rest.length := by
        simp only [daysInMonths, List.length_cons] at h
        omega
      obtain ⟨h1, h2, h3⟩ := splitMonths_bounds hlt
      simp only [splitMonths, hd, if_false, daysInMonths, List.length_cons, List.getD_cons_succ]
      exact ⟨by omega, h2, by omega⟩

theorem daysInMonths_add_lt : ∀ {lengths : List Nat} {months days : Nat},
    months < lengths.length → days < lengths.getD months 0 →
      daysInMonths lengths months + days < daysInMonths lengths lengths.length
  | [], _, _, h, _ => absurd h (Nat.not_lt_zero _)
  | length :: rest, 0, days, _, h => by
    have : days < length := h
    simp only [daysInMonths, List.length_cons]
    omega
  | length :: rest, months + 1, days, h, hd => by
    have ih := daysInMonths_add_lt (Nat.lt_of_succ_lt_succ h : months < rest.length) hd
    simp only [daysInMonths, List.length_cons]
    omega

theorem length_monthLengths (year : Nat) : (monthLengths year).length = 12 := rfl

theorem lt_daysInMonths {n year : Nat} (hy : 1 ≤ year) (hle : daysBeforeYear year ≤ n)
    (hlt : n < daysBeforeYear (year + 1)) :
    n - daysBeforeYear year < daysInMonths (monthLengths year) (monthLengths year).length := by
  rw [length_monthLengths]
  have := daysBeforeYear_succ hy
  omega

/-- **Every day number is the number of its date.** -/
theorem dayNumber_ofDayNumber (n : Nat) : (ofDayNumber n).dayNumber = n := by
  obtain ⟨hy, hle, hlt⟩ := yearOf_bounds n
  obtain ⟨_, _, h⟩ := splitMonths_bounds (lt_daysInMonths hy hle hlt)
  simp only [ofDayNumber, dayNumber, Nat.add_sub_cancel]
  omega

/-- **Every date is the date of its number.** -/
theorem ofDayNumber_dayNumber {d : Date} (h : d.Valid) : ofDayNumber d.dayNumber = d := by
  obtain ⟨year, month, day⟩ := d
  obtain ⟨hy, -, hm, hm', hd, hd'⟩ := h
  simp only at hy hm hm' hd hd'
  have hlen : month - 1 < (monthLengths year).length := by
    rw [length_monthLengths]; omega
  have hday : day - 1 < (monthLengths year).getD (month - 1) 0 := by omega
  have hlt := daysInMonths_add_lt hlen hday
  rw [length_monthLengths] at hlt
  have hnext := daysBeforeYear_succ hy
  have hyear : yearOf (dayNumber ⟨year, month, day⟩) = year :=
    yearOf_eq (by simp only [dayNumber]; omega) (by simp only [dayNumber]; omega)
  have hrest : dayNumber ⟨year, month, day⟩ - daysBeforeYear year =
      daysInMonths (monthLengths year) (month - 1) + (day - 1) := by
    simp only [dayNumber]
    omega
  simp only [ofDayNumber, hyear, hrest, splitMonths_add hlen hday, mk.injEq, true_and]
  omega

theorem valid_ofDayNumber {n : Nat} : (ofDayNumber n).Valid ↔ n < dayCount := by
  obtain ⟨hy, hle, hlt⟩ := yearOf_bounds n
  obtain ⟨h1, h2, -⟩ := splitMonths_bounds (lt_daysInMonths hy hle hlt)
  rw [length_monthLengths] at h1
  simp only [Valid, ofDayNumber, Nat.add_sub_cancel]
  have hcount : dayCount = daysBeforeYear 10000 := rfl
  constructor
  · rintro ⟨-, h, -⟩
    have := daysBeforeYear_mono (show yearOf n + 1 ≤ 10000 by omega)
    omega
  · intro h
    refine ⟨hy, ?_, by omega, by omega, by omega, by omega⟩
    refine Nat.le_of_not_lt fun hc => ?_
    have := daysBeforeYear_mono (show 10000 ≤ yearOf n from hc)
    omega

theorem dayNumber_lt {d : Date} (h : d.Valid) : d.dayNumber < dayCount := by
  rw [← valid_ofDayNumber, ofDayNumber_dayNumber h]
  exact h

end Date

end ApiKeys

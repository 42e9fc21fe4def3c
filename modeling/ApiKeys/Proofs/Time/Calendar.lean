import ApiKeys.Time.Calendar
import Mathlib.Tactic

/-!
# Day after day

The number of a date is the number of days to go from the first day of year 1 to it: going on to the
next day adds one (`Date.dayNumber_next`), so a date is reached after as many days as its number
says and after no others (`Date.iterate_next_eq_iff`).
-/

namespace ApiKeys.Date

/-- The first day of the calendar. -/
def first : Date := ⟨1, 1, 1⟩

/-- The day after a date: in the same month while it has days left, or else the first day of the
next month or of the next year. -/
def next (d : Date) : Date :=
  if d.day < (monthLengths d.year).getD (d.month - 1) 0 then { d with day := d.day + 1 }
  else if d.month < 12 then ⟨d.year, d.month + 1, 1⟩
  else ⟨d.year + 1, 1, 1⟩

/-- The date exists, in any year from year 1 on. -/
def Proper (d : Date) : Prop :=
  1 ≤ d.year ∧ 1 ≤ d.month ∧ d.month ≤ 12 ∧
    1 ≤ d.day ∧ d.day ≤ (monthLengths d.year).getD (d.month - 1) 0

theorem valid_iff_proper {d : Date} : d.Valid ↔ d.Proper ∧ d.year ≤ 9999 := by
  unfold Valid Proper
  constructor
  · rintro ⟨hy, hy', h⟩
    exact ⟨⟨hy, h⟩, hy'⟩
  · rintro ⟨⟨hy, h⟩, hy'⟩
    exact ⟨hy, hy', h⟩

theorem daysInMonths_succ : ∀ (lengths : List Nat) (months : Nat),
    daysInMonths lengths (months + 1) = daysInMonths lengths months + lengths.getD months 0
  | [], months => by simp [daysInMonths]
  | length :: rest, 0 => by cases rest <;> simp [daysInMonths]
  | length :: rest, months + 1 => by
    rw [daysInMonths, daysInMonths_succ rest months, daysInMonths, List.getD_cons_succ]
    omega

theorem getD_monthLengths_pos (year : Nat) {month : Nat} (h : month < 12) :
    0 < (monthLengths year).getD month 0 := by
  have hlen : month < (monthLengths year).length := by rwa [length_monthLengths]
  rw [List.getD_eq_getElem?_getD, List.getElem?_eq_getElem hlen, Option.getD_some]
  have hmem := List.getElem_mem hlen
  simp only [monthLengths, List.mem_cons, List.not_mem_nil, or_false] at hmem ⊢
  split_ifs at hmem ⊢ <;> omega

theorem getD_monthLengths_le (year month : Nat) : (monthLengths year).getD month 0 ≤ 31 := by
  rw [List.getD_eq_getElem?_getD]
  cases h : (monthLengths year)[month]? with
  | none => simp
  | some n =>
    have hn := List.mem_of_getElem? h
    simp only [monthLengths, List.mem_cons, List.not_mem_nil, or_false] at hn
    rw [Option.getD_some]
    split_ifs at hn <;> omega

theorem proper_next {d : Date} (h : d.Proper) : d.next.Proper := by
  obtain ⟨year, month, day⟩ := d
  obtain ⟨hy, hm, hm', hd, hd'⟩ := h
  simp only at hy hm hm' hd hd'
  unfold next
  dsimp only
  split_ifs with hday hmonth
  · exact ⟨hy, hm, hm', Nat.le_add_left 1 day, hday⟩
  · exact ⟨hy, Nat.le_add_left 1 month, hmonth, le_refl 1, getD_monthLengths_pos year hmonth⟩
  · exact ⟨Nat.le_add_left 1 year, le_refl 1, (by decide : 1 ≤ 12), le_refl 1,
      getD_monthLengths_pos (year + 1) (by decide : 0 < 12)⟩

/-- **The day after a date has the next number.** -/
theorem dayNumber_next {d : Date} (h : d.Proper) : d.next.dayNumber = d.dayNumber + 1 := by
  obtain ⟨year, month, day⟩ := d
  obtain ⟨hy, hm, hm', hd, hd'⟩ := h
  simp only at hy hm hm' hd hd'
  have hmonth := daysInMonths_succ (monthLengths year) (month - 1)
  rw [Nat.sub_add_cancel hm] at hmonth
  unfold next
  dsimp only
  split_ifs with hday hlast
  · simp only [dayNumber]
    omega
  · simp only [dayNumber, Nat.add_sub_cancel]
    omega
  · have hyear := daysBeforeYear_succ hy
    obtain rfl : month = 12 := by omega
    simp only [dayNumber, Nat.sub_self]
    have hzero : daysInMonths (monthLengths (year + 1)) 0 = 0 := rfl
    omega

theorem proper_iterate_next (n : Nat) : (next^[n] first).Proper := by
  induction n with
  | zero => exact ⟨le_refl 1, le_refl 1, (by decide : 1 ≤ 12), le_refl 1, (by decide : 1 ≤ 31)⟩
  | succ n ih =>
    rw [Function.iterate_succ_apply']
    exact proper_next ih

theorem dayNumber_iterate_next (n : Nat) : (next^[n] first).dayNumber = n := by
  induction n with
  | zero => decide
  | succ n ih =>
    rw [Function.iterate_succ_apply', dayNumber_next (proper_iterate_next n), ih]

/-- **A date is reached from the first day after as many days as its number says**, and after no
others. -/
theorem iterate_next_eq_iff {d : Date} (h : d.Valid) {n : Nat} :
    next^[n] first = d ↔ n = d.dayNumber := by
  constructor
  · rintro rfl
    exact (dayNumber_iterate_next n).symm
  · rintro rfl
    have hnumber := dayNumber_iterate_next d.dayNumber
    have hproper := proper_iterate_next d.dayNumber
    generalize next^[d.dayNumber] first = d' at hnumber hproper
    have hlt := dayNumber_lt h
    have hyear : d'.year ≤ 9999 := by
      by_contra hyear
      have hmono := daysBeforeYear_mono (show 10000 ≤ d'.year by omega)
      have hcount : dayCount = daysBeforeYear 10000 := rfl
      have hstart : daysBeforeYear d'.year ≤ d'.dayNumber := by
        rw [dayNumber]
        omega
      omega
    rw [← ofDayNumber_dayNumber (valid_iff_proper.2 ⟨hproper, hyear⟩), hnumber,
      ofDayNumber_dayNumber h]

/-! ## The order of dates -/

/-- A date comes before another one: by the year, or in one year by the month, or in one month by
the day. -/
def Before (d d' : Date) : Prop :=
  d.year < d'.year ∨
    d.year = d'.year ∧ (d.month < d'.month ∨ d.month = d'.month ∧ d.day < d'.day)

theorem daysInMonths_mono (lengths : List Nat) {a b : Nat} (h : a ≤ b) :
    daysInMonths lengths a ≤ daysInMonths lengths b := by
  induction h with
  | refl => exact Nat.le_refl _
  | step _ ih =>
    rw [daysInMonths_succ]
    exact Nat.le_add_right_of_le ih

theorem Proper.day_lt {d : Date} (h : d.Proper) :
    daysInMonths (monthLengths d.year) (d.month - 1) + (d.day - 1) <
      daysInMonths (monthLengths d.year) d.month := by
  obtain ⟨-, hm, -, hd, hd'⟩ := h
  have hmonth := daysInMonths_succ (monthLengths d.year) (d.month - 1)
  rw [Nat.sub_add_cancel hm] at hmonth
  omega

theorem dayNumber_lt_dayNumber {d d' : Date} (h : d.Proper) (hlt : d.Before d') :
    d.dayNumber < d'.dayNumber := by
  have hday := h.day_lt
  obtain ⟨hy, hm, hm', hd, -⟩ := h
  have hmonths := daysInMonths_mono (monthLengths d.year) hm'
  have hyear := daysBeforeYear_succ hy
  rw [dayNumber, dayNumber]
  rcases hlt with hlt | ⟨heq, hlt | ⟨hmonth, hlt⟩⟩
  · have hnext := daysBeforeYear_mono (show d.year + 1 ≤ d'.year from hlt)
    omega
  · have hnext := daysInMonths_mono (monthLengths d.year)
      (show d.month ≤ d'.month - 1 by omega)
    rw [← heq]
    omega
  · rw [← heq, ← hmonth]
    omega

end ApiKeys.Date

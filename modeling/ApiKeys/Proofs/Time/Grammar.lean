import ApiKeys.Expiration.Format
import ApiKeys.Proofs.Text.Numeral

/-!
# What the readers of timestamps read

Each reader takes a text of one form off the front, and every text of that form is taken:
`date?_eq_some_iff`, `timeOfDay?_eq_some_iff`, `requiredOffset?_eq_some_iff`. The numbers need not
make sense together, they only have to fit their digits. A fraction is the exception to the second
half: it goes on as long as there are digits, so what follows it must not start with one
(`fraction?_append`).
-/

namespace ApiKeys

/-- A time of day as `HH:MM`. -/
def hourMinuteText (hour minute : Nat) : List Char :=
  Digits.fixed 2 hour ++ ':' :: Digits.fixed 2 minute

/-- A time of day as `HH:MM:SS`. -/
def timeText (hour minute second : Nat) : List Char :=
  hourMinuteText hour minute ++ ':' :: Digits.fixed 2 second

/-- The texts of a fraction with the digits that they hold: one of the marks and at least one digit,
or nothing at all. -/
inductive FractionText (marks : List Char) : List Char → List Char → Prop
  | empty : FractionText marks [] []
  | digits {mark : Char} {ds : List Char} : mark ∈ marks → ds ≠ [] →
      (∀ c ∈ ds, c.isDigit = true) → FractionText marks (mark :: ds) ds

/-- The texts that say by how many minutes a clock is ahead of UTC. -/
inductive OffsetText : List Char → Int → Prop
  | utc : OffsetText ['Z'] 0
  | utcSmall : OffsetText ['z'] 0
  | ahead {hours minutes : Nat} : hours < 100 → minutes < 100 →
      OffsetText ('+' :: hourMinuteText hours minutes) (60 * hours + minutes)
  | behind {hours minutes : Nat} : hours < 100 → minutes < 100 →
      OffsetText ('-' :: hourMinuteText hours minutes) (-(60 * hours + minutes))

/-- The numbers of a date fit the digits that a text has for them. -/
def Date.Fits (d : Date) : Prop := d.year < 10000 ∧ d.month < 100 ∧ d.day < 100

/-! ## Lengths -/

theorem Date.length_text (d : Date) : d.text.length = 10 := by
  simp [Date.text, Digits.length_fixed]

theorem length_hourMinuteText (hour minute : Nat) : (hourMinuteText hour minute).length = 5 := by
  simp [hourMinuteText, Digits.length_fixed]

theorem length_timeText (hour minute second : Nat) : (timeText hour minute second).length = 8 := by
  simp [timeText, length_hourMinuteText, Digits.length_fixed]

theorem hourMinuteText_inj {h m h' m' : Nat} (hh : h < 100) (hm : m < 100) (hh' : h' < 100)
    (hm' : m' < 100) (heq : hourMinuteText h m = hourMinuteText h' m') : h = h' ∧ m = m' := by
  obtain ⟨hhours, hrest⟩ := List.append_inj heq (by simp [Digits.length_fixed])
  exact ⟨(Digits.fixed_inj hh hh').1 hhours, (Digits.fixed_inj hm hm').1 (List.cons.inj hrest).2⟩

theorem FractionText.isDigit {marks t ds : List Char} (h : FractionText marks t ds) :
    ∀ c ∈ ds, c.isDigit = true := by
  cases h with
  | empty => exact fun c hc => nomatch hc
  | digits _ _ hds => exact hds

/-! ## Readers -/

namespace Grammar

theorem date?_eq_some_iff {d : Date} {s rest : List Char} :
    date? s = some (d, rest) ↔ d.Fits ∧ s = d.text ++ rest := by
  obtain ⟨y, m, n⟩ := d
  simp only [date?, Option.bind_eq_bind, Option.bind_eq_some_iff, Prod.exists, Option.pure_def,
    Digits.take?_eq_some_iff_fixed, Digits.mark?_eq_some_iff, Option.some.injEq, Prod.mk.injEq,
    Date.mk.injEq, Date.Fits, Date.text]
  constructor
  · rintro ⟨_, _, ⟨hy, rfl⟩, _, rfl, _, _, ⟨hm, rfl⟩, _, rfl, _, _, ⟨hn, rfl⟩, ⟨rfl, rfl, rfl⟩, rfl⟩
    exact ⟨⟨hy, hm, hn⟩, by simp⟩
  · rintro ⟨⟨hy, hm, hn⟩, rfl⟩
    exact ⟨y, _, ⟨hy, by simp⟩, _, rfl, m, _, ⟨hm, rfl⟩, _, rfl, n, _, ⟨hn, rfl⟩,
      ⟨rfl, rfl, rfl⟩, rfl⟩

theorem hourMinute?_eq_some_iff {hour minute : Nat} {s rest : List Char} :
    hourMinute? s = some ((hour, minute), rest) ↔
      hour < 100 ∧ minute < 100 ∧ s = hourMinuteText hour minute ++ rest := by
  simp only [hourMinute?, Option.bind_eq_bind, Option.bind_eq_some_iff, Prod.exists, Option.pure_def,
    Digits.take?_eq_some_iff_fixed, Digits.mark?_eq_some_iff, Option.some.injEq, Prod.mk.injEq,
    hourMinuteText]
  constructor
  · rintro ⟨_, _, ⟨hh, rfl⟩, _, rfl, _, _, ⟨hm, rfl⟩, ⟨rfl, rfl⟩, rfl⟩
    exact ⟨hh, hm, by simp⟩
  · rintro ⟨hh, hm, rfl⟩
    exact ⟨hour, _, ⟨hh, by simp⟩, _, rfl, minute, _, ⟨hm, rfl⟩, ⟨rfl, rfl⟩, rfl⟩

theorem colonSecond?_eq_some_iff {second : Nat} {s rest : List Char} :
    colonSecond? s = some (second, rest) ↔
      second < 100 ∧ s = ':' :: Digits.fixed 2 second ++ rest := by
  simp only [colonSecond?, Option.bind_eq_bind, Option.bind_eq_some_iff,
    Digits.take?_eq_some_iff_fixed, Digits.mark?_eq_some_iff]
  constructor
  · rintro ⟨_, rfl, hs, rfl⟩
    exact ⟨hs, rfl⟩
  · rintro ⟨hs, rfl⟩
    exact ⟨_, rfl, hs, rfl⟩

theorem timeOfDay?_eq_some_iff {hour minute second : Nat} {s rest : List Char} :
    timeOfDay? s = some ((hour, minute, second), rest) ↔
      (hour < 100 ∧ minute < 100 ∧ second < 100) ∧ s = timeText hour minute second ++ rest := by
  simp only [timeOfDay?, Option.bind_eq_bind, Option.bind_eq_some_iff, Prod.exists, Option.pure_def,
    hourMinute?_eq_some_iff, colonSecond?_eq_some_iff, Option.some.injEq, Prod.mk.injEq, timeText]
  constructor
  · rintro ⟨_, _, _, ⟨hh, hm, rfl⟩, _, _, ⟨hs, rfl⟩, ⟨rfl, rfl, rfl⟩, rfl⟩
    exact ⟨⟨hh, hm, hs⟩, by simp⟩
  · rintro ⟨⟨hh, hm, hs⟩, rfl⟩
    exact ⟨hour, minute, _, ⟨hh, hm, by simp⟩, second, _, ⟨hs, rfl⟩, ⟨rfl, rfl, rfl⟩, rfl⟩

theorem fraction?_eq_some {marks ds s rest : List Char} (h : fraction? marks s = some (ds, rest)) :
    ∃ t, FractionText marks t ds ∧ s = t ++ rest := by
  cases s with
  | nil =>
    simp only [fraction?, Option.some.injEq, Prod.mk.injEq] at h
    obtain ⟨rfl, rfl⟩ := h
    exact ⟨[], .empty, rfl⟩
  | cons c s =>
    rw [fraction?] at h
    split_ifs at h with hc hrun
    · have hr : Digits.run s = (ds, rest) := Option.some.inj h
      have hs := Digits.run_fst_append_snd s
      have hds := Digits.isDigit_run s
      rw [hr] at hrun hs hds
      exact ⟨c :: ds, .digits hc hrun hds, by rw [← hs]; rfl⟩
    · obtain ⟨rfl, rfl⟩ := Prod.mk.inj (Option.some.inj h)
      exact ⟨[], .empty, rfl⟩

theorem fraction?_append {marks t ds rest : List Char} (h : FractionText marks t ds)
    (hmark : ∀ c, rest.head? = some c → c ∉ marks)
    (hdigit : ∀ c, rest.head? = some c → c.isDigit = false) :
    fraction? marks (t ++ rest) = some (ds, rest) := by
  cases h with
  | empty =>
    cases rest with
    | nil => rfl
    | cons c rest => rw [List.nil_append, fraction?, if_neg (hmark c rfl)]
  | digits hm hne hds =>
    rw [List.cons_append, fraction?, if_pos hm, Digits.run_append hds hdigit, if_neg hne]

theorem requiredOffset?_eq_some_iff {o : Int} {s rest : List Char} :
    requiredOffset? s = some (o, rest) ↔ ∃ t, OffsetText t o ∧ s = t ++ rest := by
  constructor
  · intro h
    cases s with
    | nil => simp [requiredOffset?] at h
    | cons c s =>
      simp only [requiredOffset?, sign?] at h
      split_ifs at h with hz hplus hminus
      · obtain ⟨rfl, rfl⟩ := Prod.mk.inj (Option.some.inj h)
        rcases hz with rfl | rfl
        · exact ⟨_, .utc, rfl⟩
        · exact ⟨_, .utcSmall, rfl⟩
      · simp only [Option.bind_eq_bind, Option.bind_some, Option.bind_eq_some_iff, Prod.exists,
          Option.pure_def, hourMinute?_eq_some_iff, Option.some.injEq, Prod.mk.injEq] at h
        obtain ⟨hours, minutes, _, ⟨hh, hm, rfl⟩, rfl, rfl⟩ := h
        refine ⟨'+' :: hourMinuteText hours minutes, ?_, by rw [hplus]; rfl⟩
        rw [one_mul]
        exact .ahead hh hm
      · simp only [Option.bind_eq_bind, Option.bind_some, Option.bind_eq_some_iff, Prod.exists,
          Option.pure_def, hourMinute?_eq_some_iff, Option.some.injEq, Prod.mk.injEq] at h
        obtain ⟨hours, minutes, _, ⟨hh, hm, rfl⟩, rfl, rfl⟩ := h
        refine ⟨'-' :: hourMinuteText hours minutes, ?_, by rw [hminus]; rfl⟩
        rw [neg_one_mul]
        exact .behind hh hm
      · simp at h
  · rintro ⟨t, ht, rfl⟩
    cases ht with
    | utc => rfl
    | utcSmall => rfl
    | @ahead hours minutes hh hm =>
      have hread : hourMinute? (hourMinuteText hours minutes ++ rest) =
          some ((hours, minutes), rest) := hourMinute?_eq_some_iff.2 ⟨hh, hm, rfl⟩
      simp [requiredOffset?, sign?, hread]
    | @behind hours minutes hh hm =>
      have hread : hourMinute? (hourMinuteText hours minutes ++ rest) =
          some ((hours, minutes), rest) := hourMinute?_eq_some_iff.2 ⟨hh, hm, rfl⟩
      simp [requiredOffset?, sign?, hread]

end Grammar

theorem OffsetText.head {t : List Char} {o : Int} (h : OffsetText t o) {c : Char}
    (hc : t.head? = some c) : c ∉ ['.'] ∧ c.isDigit = false := by
  cases h <;> simp only [List.head?_cons, Option.some.injEq] at hc <;> subst hc <;> decide

theorem OffsetText.length_pos {t : List Char} {o : Int} (h : OffsetText t o) : 0 < t.length := by
  cases h <;> simp

end ApiKeys

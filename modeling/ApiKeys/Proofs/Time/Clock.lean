import ApiKeys.Clock
import Mathlib.Tactic

/-!
# Clocks in UTC and steady clocks

A time of a UTC clock is the instant that it shows, and that instant has a date (`Zoned.Utc.utc?`).
Reading a UTC clock gives such a time and leaves a UTC clock behind. No reading of a steady clock
lies before an earlier one (`Clock.Steady.notBefore_after_read`), and it stays steady while nobody
moves it back.
-/

namespace ApiKeys

/-- The time is one that a clock in UTC shows. -/
def Zoned.Utc (z : Zoned) : Prop := z.offset = 0 ∧ z.wall < Civil.limit

/-- All times that a clock gives are in UTC. -/
def Clock.Utc : Clock → Prop
  | .stepping now _ => now.Utc
  | .scripted readings => ∀ z ∈ readings, z.Utc

/-- The clock does not go back from one reading to the next. -/
def Clock.Steady : Clock → Prop
  | .stepping _ step => 0 ≤ step
  | .scripted readings => readings.Pairwise fun a b => a.instant ≤ b.instant

/-- No time that the clock gives next lies before an instant. -/
def Clock.NotBefore (t : Instant) : Clock → Prop
  | .stepping now _ => t ≤ now.instant
  | .scripted readings => ∀ z ∈ readings, t ≤ z.instant

namespace Instant

theorem le_refl (t : Instant) : t ≤ t := Int.le_refl t.micros

theorem le_trans {a b c : Instant} (hab : a ≤ b) (hbc : b ≤ c) : a ≤ c := Int.le_trans hab hbc

theorem lt_of_le_of_lt {a b c : Instant} (hab : a ≤ b) (hbc : b < c) : a < c :=
  Int.lt_of_le_of_lt hab hbc

theorem not_le_of_lt {a b : Instant} (h : a < b) : ¬ b ≤ a := Int.not_le.2 h

end Instant

namespace Zoned

theorem Utc.representable {z : Zoned} (h : z.Utc) : z.instant.Representable := by
  obtain ⟨hoffset, hwall⟩ := h
  simp only [instant, hoffset, Instant.Representable]
  omega

theorem Utc.utc? {z : Zoned} (h : z.Utc) : z.utc? = some z.instant :=
  if_pos h.representable

theorem Utc.move? {z z' : Zoned} (h : z.Utc) {micros : Int} (hz : z.move? micros = some z') :
    z'.Utc := by
  unfold Zoned.move? at hz
  split at hz
  · next hrange =>
    obtain rfl := Option.some.inj hz
    exact ⟨h.1, by dsimp only; omega⟩
  · cases hz

theorem micros_move? {z z' : Zoned} {micros : Int} (hz : z.move? micros = some z') :
    z'.instant.micros = z.instant.micros + micros := by
  unfold Zoned.move? at hz
  split at hz
  · next hrange =>
    obtain rfl := Option.some.inj hz
    simp only [instant]
    omega
  · cases hz

theorem le_move? {z z' : Zoned} {micros : Int} (hmicros : 0 ≤ micros)
    (hz : z.move? micros = some z') : z.instant ≤ z'.instant := by
  show z.instant.micros ≤ z'.instant.micros
  rw [micros_move? hz]
  omega

end Zoned

namespace Clock

theorem Utc.read {c : Clock} (h : c.Utc) {z : Zoned} (hz : c.read.1 = .ok z) : z.Utc := by
  cases c with
  | stepping now step =>
    rw [Clock.read] at hz
    cases hm : now.move? step with
    | none => simp [hm] at hz
    | some next =>
      obtain rfl : now = z := by simpa [hm] using hz
      exact h
  | scripted readings =>
    cases readings with
    | nil => cases hz
    | cons now rest =>
      obtain rfl := Except.ok.inj hz
      exact h now (by simp)

theorem Utc.after_read {c : Clock} (h : c.Utc) : c.read.2.Utc := by
  cases c with
  | stepping now step =>
    rw [Clock.read]
    cases hm : now.move? step with
    | none => exact h
    | some next => exact Zoned.Utc.move? h hm
  | scripted readings =>
    cases readings with
    | nil => exact h
    | cons now rest => exact fun z hz => h z (by simp [hz])

theorem Utc.kept {c c' : Clock} (h : c.Utc) (hc : c' = c ∨ c' = c.read.2) : c'.Utc := by
  rcases hc with rfl | rfl
  · exact h
  · exact h.after_read

theorem Utc.after_advance {c : Clock} (h : c.Utc) (micros : Int) : (c.advance micros).2.Utc := by
  cases c with
  | stepping now step =>
    rw [Clock.advance]
    cases hm : now.move? micros with
    | none => exact h
    | some next => exact Zoned.Utc.move? h hm
  | scripted readings => exact h

/-! ## Steady clocks -/

variable {c : Clock} {t : Instant}

theorem NotBefore.le_read (h : c.NotBefore t) {z : Zoned} (hz : c.read.1 = .ok z) :
    t ≤ z.instant := by
  cases c with
  | stepping now step =>
    rw [Clock.read] at hz
    cases hm : now.move? step with
    | none => simp [hm] at hz
    | some next =>
      obtain rfl : now = z := by simpa [hm] using hz
      exact h
  | scripted readings =>
    cases readings with
    | nil => cases hz
    | cons now rest =>
      obtain rfl := Except.ok.inj hz
      exact h now List.mem_cons_self

theorem Steady.notBefore_after_read (h : c.Steady) {z : Zoned} (hz : c.read.1 = .ok z) :
    c.read.2.NotBefore z.instant := by
  cases c with
  | stepping now step =>
    rw [Clock.read] at hz ⊢
    cases hm : now.move? step with
    | none => simp [hm] at hz
    | some next =>
      obtain rfl : now = z := by simpa [hm] using hz
      exact Zoned.le_move? h hm
  | scripted readings =>
    cases readings with
    | nil => cases hz
    | cons now rest =>
      obtain rfl := Except.ok.inj hz
      exact (List.pairwise_cons.1 h).1

/-- A steady clock that gives no time before an instant. -/
structure SteadyFrom (t : Instant) (c : Clock) : Prop where
  steady : c.Steady
  notBefore : c.NotBefore t

theorem SteadyFrom.after_read (h : c.SteadyFrom t) : c.read.2.SteadyFrom t := by
  obtain ⟨hsteady, hbefore⟩ := h
  cases c with
  | stepping now step =>
    rw [Clock.read]
    cases hm : now.move? step with
    | none => exact ⟨hsteady, hbefore⟩
    | some next => exact ⟨hsteady, Instant.le_trans hbefore (Zoned.le_move? hsteady hm)⟩
  | scripted readings =>
    cases readings with
    | nil => exact ⟨hsteady, hbefore⟩
    | cons now rest =>
      exact ⟨(List.pairwise_cons.1 hsteady).2, fun z hz => hbefore z (List.mem_cons_of_mem now hz)⟩

theorem Steady.after_read (h : c.Steady) : c.read.2.Steady := by
  cases c with
  | stepping now step =>
    rw [Clock.read]
    cases now.move? step <;> exact h
  | scripted readings =>
    cases readings with
    | nil => exact h
    | cons now rest => exact (List.pairwise_cons.1 h).2

theorem Steady.after_advance (h : c.Steady) (micros : Int) : (c.advance micros).2.Steady := by
  cases c with
  | stepping now step =>
    rw [Clock.advance]
    cases now.move? micros <;> exact h
  | scripted readings => exact h

theorem SteadyFrom.after_advance (h : c.SteadyFrom t) {micros : Int} (hmicros : 0 ≤ micros) :
    (c.advance micros).2.SteadyFrom t := by
  obtain ⟨hsteady, hbefore⟩ := h
  cases c with
  | stepping now step =>
    rw [Clock.advance]
    cases hm : now.move? micros with
    | none => exact ⟨hsteady, hbefore⟩
    | some next => exact ⟨hsteady, Instant.le_trans hbefore (Zoned.le_move? hmicros hm)⟩
  | scripted readings => exact ⟨hsteady, hbefore⟩

end Clock

end ApiKeys

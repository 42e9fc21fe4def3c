import ApiKeys.Proofs.Session.Agreement
import ApiKeys.Proofs.Value.Room

/-!
# How a request can end

A request for a record or for a change of one succeeds, or is refused for a field that is missing or
that has a value it cannot take; the refusal shows that value (`Rejection.OfRequest`). Two kinds of
values are no part of this and end the request in another way: an expiration on a clock so far from
UTC that its instant has no date there (`Session.create_leaves_calendar`), and a value that a
refusal cannot show, as it holds a number that is too long or is nested too deeply
(`Session.create_of_long_number`). With these exceptions the ways to end are closed, in creating and
in updating alike (`Session.request_ends`).
-/

namespace ApiKeys

/-- The refusals that a request can meet: a field that is needed is missing, or a field has a value
that is shown as the request has it. -/
inductive Rejection.OfRequest (room : Room) (absence : Field → Field.Absence) (ms : Members) :
    Rejection → Prop
  | missing {f : Field} : ms.get? f.inputName = none → absence f = .refuse →
      OfRequest room absence ms (.absent f)
  | invalid {f : Field} {raw : Value} {t : List Char} : ms.get? f.inputName = some raw →
      raw.display room = .ok t → OfRequest room absence ms (.invalid f raw (Text.ofChars t))

/-- The ways in which a value can end a request that is not refused for it: it shows a time without
a date in UTC, or it has no text. -/
inductive Field.Escapes (room : Room) (f : Field) (raw : Value) : Failure → Prop
  | leavesCalendar : f.LeavesCalendar raw → Escapes room f raw .dateOutOfRange
  | unwritten {u : Unwritten} : raw.display room = .error u → ¬ raw.Fits room →
      Escapes room f raw (.unwritten u)

/-- The ways in which a request can end. It succeeds, or is refused, or has a value that ends it in
another way. Where the other fields have no fault, an expiration that is not taken is refused as it
is, unless it has no date in UTC or no text. -/
structure RequestEnds (room : Room) (now : Instant) (absence : Field → Field.Absence) (ms : Members)
    (success : Answer) (answer : Except Failure Answer) : Prop where
  closed : answer = .ok success ∨
    (∃ r, Rejection.OfRequest room absence ms r ∧ answer = .error (.rejected r)) ∨
    ∃ f raw e, ms.get? f.inputName = some raw ∧ Field.Escapes room f raw e ∧ answer = .error e
  expiration : ∀ raw, ms.get? Field.expiresAt.inputName = some raw →
    (∀ f, f ≠ .expiresAt → ∀ e, ¬ Field.Fault room now absence ms f e) →
    (∀ a, ¬ Field.Takes now .expiresAt raw a) →
      (∃ t, raw.display room = .ok t ∧ ¬ Field.LeavesCalendar .expiresAt raw ∧
        answer = .error (.rejected (.invalid .expiresAt raw (Text.ofChars t)))) ∨
      ∃ e, Field.Escapes room .expiresAt raw e ∧ answer = .error e

namespace Field

variable {room : Room} {now : Instant} {absence : Field → Absence} {ms : Members} {f : Field}
  {raw : Value} {e : Failure}

theorem refusal_cases_escapes (room : Room) (f : Field) (raw : Value) :
    (∃ t, raw.display room = .ok t ∧
        f.refusal room raw = .rejected (.invalid f raw (Text.ofChars t))) ∨
      Escapes room f raw (f.refusal room raw) := by
  rcases refusal_cases room f raw with hshown | ⟨u, hu, heq⟩
  · exact .inl hshown
  · refine .inr (heq ▸ .unwritten hu fun hfits => ?_)
    obtain ⟨t, ht⟩ := hfits.display_eq_ok
    rw [hu] at ht
    cases ht

theorem Fault.cases_rejected (h : Fault room now absence ms f e) :
    (∃ r, Rejection.OfRequest room absence ms r ∧ e = .rejected r) ∨
      ∃ raw, ms.get? f.inputName = some raw ∧ Escapes room f raw e := by
  cases h with
  | missing hnone hrefuse => exact .inl ⟨_, .missing hnone hrefuse, rfl⟩
  | @invalid raw hsome =>
    rcases refusal_cases_escapes room f raw with ⟨t, ht, heq⟩ | hescapes
    · exact .inl ⟨_, .invalid hsome ht, heq⟩
    · exact .inr ⟨raw, hsome, hescapes⟩
  | leavesCalendar hsome hleaves => exact .inr ⟨_, hsome, .leavesCalendar hleaves⟩

theorem firstFault_expiresAt
    (hothers : ∀ g, g ≠ .expiresAt → ∀ e, ¬ Fault room now absence ms g e)
    (h : Fault room now absence ms .expiresAt e) : FirstFault room now absence ms e :=
  ⟨[.description, .actions, .indexes], .expiresAt, [], rfl,
    fun g hg e' => hothers g (fun heq => by simp [heq] at hg) e', h⟩

end Field

theorem RequestEnds.of_firstFault {room : Room} {now : Instant} {absence : Field → Field.Absence}
    {ms : Members} {success : Answer} {answer : Except Failure Answer}
    (hok : ∀ a, answer = .ok a → a = success)
    (herror : ∀ e, answer = .error e ↔ Field.FirstFault room now absence ms e) :
    RequestEnds room now absence ms success answer where
  closed := by
    cases answer with
    | ok a => exact .inl (congrArg Except.ok (hok a rfl))
    | error e =>
      obtain ⟨before, f, after, -, -, hfault⟩ := (herror e).1 rfl
      rcases hfault.cases_rejected with ⟨r, hr, rfl⟩ | ⟨raw, hraw, hescapes⟩
      · exact .inr (.inl ⟨r, hr, rfl⟩)
      · exact .inr (.inr ⟨f, raw, e, hraw, hescapes, rfl⟩)
  expiration := by
    intro raw hget hothers hnot
    by_cases hleaves : Field.LeavesCalendar .expiresAt raw
    · refine .inr ⟨_, .leavesCalendar hleaves, ?_⟩
      exact (herror _).2 (Field.firstFault_expiresAt hothers (.leavesCalendar hget hleaves))
    · have hanswer : answer = .error (Field.expiresAt.refusal room raw) :=
        (herror _).2 (Field.firstFault_expiresAt hothers (.invalid hget hnot hleaves))
      rcases Field.refusal_cases_escapes room .expiresAt raw with ⟨t, ht, heq⟩ | hescapes
      · exact .inl ⟨t, ht, hleaves, heq ▸ hanswer⟩
      · exact .inr ⟨_, hescapes, hanswer⟩

namespace Session

variable {s : Session} {h : Handle} {now : Zoned}

/-- **A request succeeds or is refused**, be it for a record or for a change of one that is fit for
changes; only an expiration without a date in UTC and a value without a text end it in another way.
At a reading of a UTC clock and with draws for an identifier nothing else comes out of a request. -/
theorem request_ends (hread : s.supplies.clock.read.1 = .ok now) (hnow : now.Utc) {id : Text}
    (hid : (KeyId.generate s.supplies.draws).1 = some id) {r : Held}
    (hr : s.records[h]? = some r) (hfit : r.Changeable) (ms : Members) :
    RequestEnds s.supplies.room now.instant Field.absentFromCreation ms (.record s.records.length)
        (s.step (.create (.object ms))).answer ∧
      RequestEnds s.supplies.room now.instant Field.absentFromUpdate ms (.record h)
        (s.step (.update h (.object ms))).answer := by
  refine ⟨.of_firstFault (fun a ha => ?_) fun e => answer_create_eq_error_iff hread hnow hid,
    .of_firstFault (fun a ha => ?_) fun e =>
      answer_update_eq_error_iff_of_changeable hr hfit hread⟩
  · obtain ⟨k, rfl, -⟩ := create_eq_ok hread ha
    rfl
  · rw [answer_update hr hfit] at ha
    cases hc : (Key.changes s.supplies.room (.object ms) s.supplies.clock).1 with
    | error e => simp [hc, Except.map] at ha
    | ok c =>
      rw [hc] at ha
      exact (Except.ok.inj ha).symm

/-- An array is refused as an expiration, also for a record whose description is a number. -/
theorem request_ends_array :
    let r : Held := (Held.ofKey (.blank [] ⟨0⟩)).give .description (.int 5) 1
    let s := sample [r]
    let ms : Members := [("expiresAt", .list [])]
    r.Changeable ∧ (s.step (.update 0 (.object ms))).answer =
      .error (.rejected (.invalid .expiresAt (.list []) "[]")) := by
  intro r s ms
  have hdraws : (KeyId.generate s.supplies.draws).1.isSome = true := by decide +kernel
  obtain ⟨id, hid⟩ := Option.isSome_iff_exists.1 hdraws
  have hread : s.supplies.clock.read.1 = .ok ⟨0, 0⟩ := rfl
  have hfit : r.Changeable := ⟨rfl, rfl, rfl, _, rfl⟩
  obtain ⟨-, hends⟩ := request_ends (s := s) (h := 0) hread ⟨rfl, by decide⟩ hid rfl hfit ms
  have hothers : ∀ f : Field, f ≠ .expiresAt → ms.get? f.inputName = none := by
    intro f hf
    cases f with
    | expiresAt => exact absurd rfl hf
    | _ => rfl
  have hdisplay : (Value.list []).display s.supplies.room = .ok ['[', ']'] := rfl
  have hends := hends.expiration (.list []) rfl
    (fun f hf e hfault => nomatch ((Field.fault_of_absent_iff (hothers f hf)).1 hfault).1)
    (fun a ha => nomatch ha)
  rcases hends with ⟨t, ht, -, hanswer⟩ | ⟨e, hescapes, -⟩
  · obtain rfl := Except.ok.inj (hdisplay.symm.trans ht)
    exact ⟨hfit, hanswer⟩
  · cases hescapes with
    | leavesCalendar hleaves =>
      obtain ⟨-, s, c, o, htext, -⟩ := hleaves
      cases htext
    | unwritten hu =>
      rw [hdisplay] at hu
      cases hu

/-- The last second of the calendar, on a clock one minute behind UTC, is an expiration that is not
refused: it ends the request in another way. -/
theorem create_leaves_calendar :
    let s := sample []
    let ms : Members := [("actions", .list [.text "*"]), ("indexes", .list [.text "*"]),
      ("expiresAt", .text "9999-12-31T23:59:59-00:01")]
    s.supplies.clock.read.1 = .ok ⟨0, 0⟩ ∧ (⟨0, 0⟩ : Zoned).Utc ∧
      (KeyId.generate s.supplies.draws).1.isSome = true ∧
      (∀ a, (s.step (.create (.object ms))).answer ≠ .ok a) ∧
      ∀ r, (s.step (.create (.object ms))).answer ≠ .error (.rejected r) := by
  intro s ms
  have hanswer : (s.step (.create (.object ms))).answer = .error .dateOutOfRange := by rfl
  refine ⟨rfl, ⟨rfl, by decide⟩, by decide +kernel, fun a ha => ?_, fun r hr => ?_⟩
  · rw [hanswer] at ha
    cases ha
  · rw [hanswer] at hr
    cases hr

theorem create_of_long_number (hread : s.supplies.clock.read.1 = .ok now) (hnow : now.Utc)
    {id : Text} (hid : (KeyId.generate s.supplies.draws).1 = some id) {ms : Members} {raw : Value}
    (hget : ms.get? Field.description.inputName = some raw) {i : Int}
    (hi : (Value.int i).Within raw) (hlong : ¬ Value.IsShort i) :
    ∃ u, (s.step (.create (.object ms))).answer = .error (.unwritten u) := by
  have hnot : ∀ a, ¬ Field.Takes now.instant .description raw a := by
    intro a ha
    cases ha <;> cases hi with
    | child hu => cases hu
  have hfault : Field.Fault s.supplies.room now.instant Field.absentFromCreation ms .description
      (Field.description.refusal s.supplies.room raw) :=
    .invalid hget hnot fun hleaves => nomatch hleaves.1
  have hanswer := (answer_create_eq_error_iff hread hnow hid).2
    ⟨[], .description, _, rfl, fun _ hg => absurd hg List.not_mem_nil, hfault⟩
  rcases Field.refusal_cases s.supplies.room .description raw with ⟨t, ht, -⟩ | ⟨u, -, heq⟩
  · exact absurd (Value.isShort_of_display ht hi) hlong
  · exact ⟨u, hanswer.trans (congrArg Except.error heq)⟩

end Session

end ApiKeys

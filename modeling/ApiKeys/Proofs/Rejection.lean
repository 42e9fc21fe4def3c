import ApiKeys.Proofs.Value.Characters
import ApiKeys.Rejection

/-!
# Messages about refused values

The message about a value that a field cannot take is safe to show, whatever the value is, and tells
which value of JSON was refused: `Rejection.message_invalid_faithful`. A value that is too deep or
holds a number that is too long has no message. An object with a name that is none in JSON is shown
as a literal, so its message need not be ASCII: `Rejection.message_invalid_not_ascii`.
-/

namespace ApiKeys.Rejection

variable {room : Room} {f : Field} {v w : Value} {shown : Text} {s : List Char} {r : Rejection}

theorem message_invalid_eq (f : Field) (v : Value) (shown : Text) : (invalid f v shown).message =
    Text.ofString ("`" ++ f.inputName ++ "` field value `") ++ shown ++
      Text.ofString ("` is invalid. " ++ f.expectation) := by
  simp [message, Text.ofString, Text.ofChars]

theorem refuse_eq_ok (h : refuse room f v = .ok r) :
    ∃ s, v.display room = .ok s ∧ r = invalid f v (Text.ofChars s) := by
  obtain ⟨s, hs, hr⟩ := Value.map_eq_ok.1 h
  exact ⟨s, hs, hr.symm⟩

theorem forall_message_invalid {P : CodePoint → Prop} (hP : ∀ p : CodePoint, p.Ascii → P p)
    (hs : Shows P s) : ∀ p ∈ (invalid f v (Text.ofChars s)).message, P p := by
  have hfront : ∀ p ∈ Text.ofString ("`" ++ f.inputName ++ "` field value `"), p.Ascii := by
    cases f <;> decide
  have hback : ∀ p ∈ Text.ofString ("` is invalid. " ++ f.expectation), p.Ascii := by
    cases f <;> decide +kernel
  intro p hp
  rw [message_invalid_eq, List.mem_append, List.mem_append] at hp
  rcases hp with (hp | hp) | hp
  · exact hP p (hfront p hp)
  · obtain ⟨c, hc, rfl⟩ := List.mem_map.1 hp
    exact hs c hc
  · exact hP p (hback p hp)

theorem shown_eq_of_message {t : List Char}
    (h : (invalid f v (Text.ofChars s)).message = (invalid f w (Text.ofChars t)).message) :
    s = t := by
  rw [message_invalid_eq, message_invalid_eq] at h
  exact Text.ofChars_injective (List.append_cancel_left (List.append_cancel_right h))

/-- **A message about a refused value is safe and faithful.** There is one for each value whose
numbers are short and whose depth fits the room. No control character stands in a message, whatever
the value is; where nothing is foreign to JSON in the value, however deep, be it octets, a set, a
time or an object with a name that is none in JSON, the message is printable ASCII throughout; and
of the values of JSON, no two have the same message, in whatever room they were made. -/
theorem message_invalid_faithful (f : Field) :
    (∀ (room : Room) (v : Value), v.Fits room → ∃ r, refuse room f v = .ok r) ∧
    (∀ (room : Room) (v : Value) (r : Rejection), refuse room f v = .ok r →
      (∀ p ∈ r.message, ¬ p.Control) ∧
        ((∀ w : Value, w.Within v → ¬ w.Foreign) → ∀ p ∈ r.message, p.Ascii)) ∧
    ∀ (room room' : Room) (v w : Value) (r r' : Rejection), v.IsJson → w.IsJson →
      refuse room f v = .ok r → refuse room' f w = .ok r' → r.message = r'.message → v = w := by
  refine ⟨fun room v hfits => ?_, fun room v r h => ⟨?_, fun hforeign => ?_⟩,
    fun room room' v w r r' hv hw h h' hmessage => ?_⟩
  · obtain ⟨s, hs⟩ := hfits.display_eq_ok
    exact ⟨_, Value.map_eq_ok.2 ⟨s, hs, rfl⟩⟩
  · obtain ⟨s, hs, rfl⟩ := refuse_eq_ok h
    exact forall_message_invalid (fun _ => CodePoint.Ascii.tame) (Value.tame_display room v _ hs)
  · obtain ⟨s, hs, rfl⟩ := refuse_eq_ok h
    obtain rfl := Value.eq_spell_of_display hforeign hs
    exact forall_message_invalid (fun _ => id) (Value.ascii_spell v)
  · obtain ⟨s, hs, rfl⟩ := refuse_eq_ok h
    obtain ⟨t, ht, rfl⟩ := refuse_eq_ok h'
    obtain rfl := Value.eq_spell_of_display (fun _ => hv.not_foreign_of_within) hs
    obtain rfl := Value.eq_spell_of_display (fun _ => hw.not_foreign_of_within) ht
    have hend : Value.NoDigit [] := fun c hc => nomatch hc
    have hspell : v.spell ++ [] = w.spell ++ [] := congrArg (· ++ []) (shown_eq_of_message hmessage)
    exact (hv.eq_of_append_eq hw hend hend hspell).1

/-- An object with a surrogate that stands alone, control characters and a negative number in it; a
set with a control character; and lists that are told apart only by their commas. -/
theorem message_invalid_faithful_hostile :
    let room : Room := ⟨3, 3⟩
    let nested : Value := .object [("\n", .text [.surrogate 0, .char '\x7f']), ("\"", .int (-1))]
    (∃ r, refuse room .actions nested = .ok r ∧ ∀ p ∈ r.message, p.Ascii) ∧
      (∃ r, refuse room .indexes (.set [.text "\x01é"]) = .ok r ∧ ∀ p ∈ r.message, ¬ p.Control) ∧
      ∃ r r', refuse room .expiresAt (.list [.text "1, 2"]) = .ok r ∧
        refuse room .expiresAt (.list [.text "1", .text "2"]) = .ok r' ∧ r.message ≠ r'.message := by
  intro room nested
  have hwithin : ∀ w : Value, w.Within nested → w = nested ∨ w = .int (-1) ∨ ∃ t, w = .text t := by
    intro w hw
    cases hw with
    | self => exact .inl rfl
    | @child u _ hu h =>
      have hu : u ∈ [Value.text "\n", .text "\"", .text [.surrogate 0, .char '\x7f'], .int (-1)] := hu
      simp only [List.mem_cons, List.not_mem_nil, or_false] at hu
      rcases hu with rfl | rfl | rfl | rfl <;> cases h with
        | self => simp
        | child hu _ => cases hu
  have hfits : nested.Fits room := by
    refine ⟨fun i hi => ?_, by decide, by decide⟩
    obtain rfl : i = -1 := by simpa [nested] using hwithin _ hi
    decide
  have hforeign : ∀ w : Value, w.Within nested → ¬ w.Foreign := by
    intro w hw
    rcases hwithin w hw with rfl | rfl | ⟨t, rfl⟩
    · simp [nested, Value.Foreign, Value.NamesMember]
    · exact id
    · exact id
  have hshown : ∀ (f : Field) (v : Value), (v.display room).toOption.isSome = true →
      ∃ r, refuse room f v = .ok r := by
    intro f v h
    cases hv : v.display room with
    | ok s => exact ⟨_, by rw [refuse, hv]; rfl⟩
    | error u => simp [hv, Except.toOption] at h
  have hjson : ∀ ss : List String,
      (Value.list (ss.map fun s => .text (Text.ofString s))).IsJson := by
    intro ss
    refine .list (List.forall_mem_map.2 fun s _ => ?_)
    exact .text (Option.isSome_of_eq_some (Text.chars?_ofChars s.toList))
  refine ⟨?_, ?_, ?_⟩
  · obtain ⟨r, hr⟩ := (message_invalid_faithful .actions).1 room nested hfits
    exact ⟨r, hr, ((message_invalid_faithful .actions).2.1 room nested r hr).2 hforeign⟩
  · obtain ⟨r, hr⟩ := hshown .indexes (.set [.text "\x01é"]) (by decide +kernel)
    exact ⟨r, hr, ((message_invalid_faithful .indexes).2.1 room _ r hr).1⟩
  · obtain ⟨r, hr⟩ := hshown .expiresAt (.list [.text "1, 2"]) (by decide +kernel)
    obtain ⟨r', hr'⟩ := hshown .expiresAt (.list [.text "1", .text "2"]) (by decide +kernel)
    refine ⟨r, r', hr, hr', fun h => ?_⟩
    have hvalue := (message_invalid_faithful .expiresAt).2.2 room room _ _ r r' (hjson ["1, 2"])
      (hjson ["1", "2"]) hr hr' h
    simp at hvalue

/-- An object whose only name is a tuple is shown as a literal, with a letter that is not ASCII,
though neither octets nor a set occurs in it. -/
theorem message_invalid_not_ascii :
    let v : Value := .object [(.tuple [.text "é"], .int 1)]
    (∀ w : Value, w.Within v → w.kind ∉ ["set", "frozenset", "bytes"]) ∧
      ∃ r, refuse ⟨9, 9⟩ .description v = .ok r ∧ ¬ ∀ p ∈ r.message, p.Ascii := by
  intro v
  have hdisplay : v.display ⟨9, 9⟩ = .ok "\x7b('é',): 1\x7d".toList := by decide +kernel
  refine ⟨fun w hw => ?_, .invalid .description v "\x7b('é',): 1\x7d", ?_, fun h => ?_⟩
  · cases hw with
    | self => decide
    | @child u _ hu hw =>
      have hu : u = .tuple [.text "é"] ∨ u = .int 1 := by simpa [v, Value.children] using hu
      rcases hu with rfl | rfl
      · cases hw with
        | self => decide
        | @child u _ hu hw =>
          obtain rfl : u = .text "é" := by simpa [Value.children] using hu
          cases hw with
          | self => decide
          | child hu _ => cases hu
      · cases hw with
        | self => decide
        | child hu _ => cases hu
  · rw [refuse, hdisplay]
    rfl
  · have hletter : CodePoint.char 'é' ∈ (invalid .description v "\x7b('é',): 1\x7d").message := by
      decide +kernel
    exact absurd (h _ hletter) (by decide)

end ApiKeys.Rejection

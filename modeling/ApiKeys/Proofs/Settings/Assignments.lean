import ApiKeys.Proofs.Settings.Lines

/-!
# Files of assignments

Most settings files have nothing in them but names and values with an equals sign between them. They
have these for their lines (`lines_assignments`).
-/

namespace ApiKeys.DotEnv

/-- The line that gives a name a value, as it stands in a file. -/
def assignment (name value : Text) : Text := name ++ .char '=' :: value ++ [.char '\n']

/-- What a name without quotes cannot hold, besides white space. -/
def nameMarks : Text := [.char '=', .char '#', .char '\'', .char '\ufeff']

/-- The quotes of values. -/
def quotes : Text := [.char '\'', .char '"']

/-- A name and a value that need no quotes. -/
structure Plain (name value : Text) : Prop where
  named : name ≠ []
  unmarked : ∀ p ∈ name, isSpace p = false ∧ p ∉ nameMarks
  /-- The value is on one line, without a comment. -/
  oneLine : ∀ p ∈ value, p ∉ ([.char '\n', .char '\r', .char '#'] : Text)
  head : ∀ p ∈ value.head?, isSpace p = false ∧ p ∉ quotes
  last : ∀ p ∈ value.getLast?, isSpace p = false

variable {name value rest s : Text}

theorem isBlank_eq_false {p : CodePoint} (h : isSpace p = false) : isBlank p = false := by
  rw [isBlank, h, Bool.false_and]

theorem dropWhile_of_head {f : CodePoint → Bool} {p : CodePoint} (h : f p = false) (s : Text) :
    (p :: s).dropWhile f = p :: s := by
  rw [List.dropWhile_cons_of_neg (by simp [h])]

theorem dropWhile_of_head? {f : CodePoint → Bool} (h : ∀ p ∈ s.head?, f p = false) :
    s.dropWhile f = s := by
  cases s with
  | nil => rfl
  | cons p s => exact dropWhile_of_head (h p rfl) s

theorem cutComment_eq_self (h : CodePoint.char '#' ∉ s) : cutComment s = s := by
  induction s with
  | nil => rfl
  | cons p s ih =>
    have hs : CodePoint.char '#' ∉ s := fun hmem => h (List.mem_cons_of_mem p hmem)
    rw [cutComment, if_neg, ih hs]
    rintro ⟨-, hhead⟩
    exact hs ((List.dropWhile_sublist _).mem (List.mem_of_mem_head? hhead))

theorem trim_eq_self (hhead : ∀ p ∈ s.head?, isSpace p = false)
    (hlast : ∀ p ∈ s.getLast?, isSpace p = false) : trim s = s := by
  rw [trim, dropWhile_of_head? hhead, dropWhile_of_head?, List.reverse_reverse]
  rwa [List.head?_reverse]

theorem unifyBreaks_eq_self (h : CodePoint.char '\r' ∉ s) : unifyBreaks s = s := by
  fun_induction unifyBreaks s with
  | case1 => rfl
  | case2 s ih => simp at h
  | case3 s _ ih => simp at h
  | case4 p s _ _ ih => rw [ih fun hs => h (List.mem_cons_of_mem p hs)]

theorem takeWhile_append_cons {f : CodePoint → Bool} {p : CodePoint} (h : ∀ q ∈ s, f q = true)
    (hp : f p = false) : (s ++ p :: rest).takeWhile f = s := by
  rw [List.takeWhile_append_of_pos h, List.takeWhile_cons_of_neg (by simp [hp]), List.append_nil]

theorem dropWhile_append_cons {f : CodePoint → Bool} {p : CodePoint} (h : ∀ q ∈ s, f q = true)
    (hp : f p = false) : (s ++ p :: rest).dropWhile f = p :: rest := by
  rw [List.dropWhile_append_of_pos h, dropWhile_of_head hp]

theorem value?_plain (h : Plain name value) :
    value? (value ++ .char '\n' :: rest) = some (value, .char '\n' :: rest) := by
  have hbreak : ∀ p ∈ value, decide (p ≠ .char '\n') = true := by
    intro p hp
    simpa using fun heq => h.oneLine p hp (by simp [heq])
  have hline : (line (value ++ .char '\n' :: rest)).1 = value :=
    takeWhile_append_cons hbreak (by decide)
  have hcomment : CodePoint.char '#' ∉ value := fun hmem => h.oneLine _ hmem (by decide)
  have htrim : trim value = value := trim_eq_self (fun p hp => (h.head p hp).1) h.last
  have hblank : (value ++ .char '\n' :: rest).dropWhile isBlank = value ++ .char '\n' :: rest := by
    cases value with
    | nil => exact dropWhile_of_head (by decide) rest
    | cons p value => exact dropWhile_of_head (isBlank_eq_false (h.head p rfl).1) _
  rw [value?, hblank, hline, cutComment_eq_self hcomment, htrim,
    dropWhile_append_cons hbreak (by decide)]
  cases value with
  | nil => rfl
  | cons p value =>
    have hquote := (h.head p rfl).2
    split
    · next heq => exact absurd (List.cons.inj heq).1 fun heq => hquote (by rw [heq]; decide)
    · next heq => exact absurd (List.cons.inj heq).1 fun heq => hquote (by rw [heq]; decide)
    · rfl

theorem Plain.opens (h : Plain name value) (rest : Text) :
    ∃ p s, assignment name value ++ rest = p :: s ∧ isSpace p = false ∧ p ∉ nameMarks := by
  obtain ⟨p, name, rfl⟩ := List.exists_cons_of_ne_nil h.named
  exact ⟨p, _, rfl, h.unmarked p List.mem_cons_self⟩

theorem name?_plain (h : Plain name value) :
    name? (name ++ .char '=' :: rest) = some (some name, .char '=' :: rest) := by
  have hstop : ∀ p ∈ name, (!(p == .char '=' || p == .char '#' || isSpace p)) = true := by
    intro p hp
    obtain ⟨hspace, hmark⟩ := h.unmarked p hp
    simp only [nameMarks, List.mem_cons, not_or] at hmark
    simp [hspace, hmark]
  obtain ⟨p, name, rfl⟩ := List.exists_cons_of_ne_nil h.named
  have hmark := (h.unmarked p List.mem_cons_self).2
  rw [List.cons_append, name?]
  · rw [← List.cons_append, takeWhile_append_cons hstop (by decide),
      dropWhile_append_cons hstop (by decide), if_neg h.named]
  · rintro _ ⟨⟩
    exact hmark (by decide)
  · rintro _ ⟨⟩
    exact hmark (by decide)

theorem skipExport_plain (h : Plain name value) :
    skipExport (name ++ .char '=' :: rest) = name ++ .char '=' :: rest := by
  have hsplit : name ++ .char '=' :: rest = (name ++ [.char '=']) ++ rest := by simp
  have hblank : ∀ p ∈ name ++ [CodePoint.char '='], isBlank p = false := by
    intro p hp
    rcases List.mem_append.1 hp with hp | hp
    · exact isBlank_eq_false (h.unmarked p hp).1
    · rw [List.mem_singleton.1 hp]
      decide
  rw [hsplit, skipExport]
  refine if_neg ?_
  rintro ⟨hexport, hspace⟩
  by_cases hlen : 6 < (name ++ [CodePoint.char '=']).length
  · rw [List.head?_drop, List.getElem?_append_left hlen, List.getElem?_eq_getElem hlen,
      Option.map_some, hblank _ (List.getElem_mem hlen)] at hspace
    cases hspace
  · rw [List.take_append, List.take_of_length_le (Nat.le_of_not_lt hlen)] at hexport
    have hequals : CodePoint.char '=' ∈ ("export" : Text) := by
      rw [← hexport]
      simp
    exact absurd hequals (by decide)

theorem binding_assignment (h : Plain name value) :
    binding (assignment name value ++ rest) = (some (name, some value), rest) := by
  have hassign : assignment name value ++ rest =
      name ++ .char '=' :: (value ++ .char '\n' :: rest) := by
    simp [assignment]
  rw [hassign, binding, skipExport_plain h]
  simp only [name?_plain h]
  rw [dropWhile_of_head (by decide)]
  simp only [assigned?, value?_plain h]
  rfl

/-- The text of a file with a line for each name and its value. -/
def assignments (ls : List (Text × Text)) : Text := ls.flatMap fun l => assignment l.1 l.2

theorem bindings_assignments {ls : List (Text × Text)} (h : ∀ l ∈ ls, Plain l.1 l.2) {count : Nat}
    (hcount : (assignments ls).length ≤ count) :
    bindings count (assignments ls) = ls.map fun l => (l.1, some l.2) := by
  induction ls generalizing count with
  | nil => cases count <;> rfl
  | cons l ls ih =>
    obtain ⟨hl, hls⟩ := List.forall_mem_cons.1 h
    have hcons : assignments (l :: ls) = assignment l.1 l.2 ++ assignments ls := List.flatMap_cons
    rw [hcons] at hcount ⊢
    cases count with
    | zero => simp [assignment] at hcount
    | succ count =>
      have hrest : (assignments ls).length ≤ count := by
        simp only [assignment, List.length_append, List.length_cons] at hcount
        omega
      obtain ⟨p, s, hopens, hp, -⟩ := hl.opens (assignments ls)
      have hstep : bindings (count + 1) (p :: s) =
          (binding (p :: s)).1.toList ++ bindings count (binding (p :: s)).2 := by
        rw [bindings, dropWhile_of_head hp]
      rw [hopens, hstep, ← hopens, binding_assignment hl, ih hls hrest]
      rfl

theorem lines_assignments {ls : List (Text × Text)} (h : ∀ l ∈ ls, Plain l.1 l.2) :
    lines (assignments ls) = ls.map fun l => (l.1, some l.2) := by
  have hbreaks : CodePoint.char '\r' ∉ assignments ls := by
    intro hmem
    obtain ⟨l, hl, hmem⟩ := List.mem_flatMap.1 hmem
    simp only [assignment, List.mem_append, List.mem_cons, List.not_mem_nil, or_false] at hmem
    rcases hmem with (hmem | hmem | hmem) | hmem
    · exact absurd ((h l hl).unmarked _ hmem).1 (by decide)
    · exact absurd hmem (by decide)
    · exact (h l hl).oneLine _ hmem (by decide)
    · exact absurd hmem (by decide)
  have hmark : skipByteOrderMark (assignments ls) = assignments ls := by
    cases ls with
    | nil => rfl
    | cons l ls =>
      obtain ⟨p, s, hopens, -, hp⟩ := (h l List.mem_cons_self).opens (assignments ls)
      rw [show assignments (l :: ls) = p :: s from hopens, skipByteOrderMark]
      rintro _ ⟨⟩
      exact hp (by decide)
  rw [lines, hmark, unifyBreaks_eq_self hbreaks]
  exact bindings_assignments h le_rfl

end ApiKeys.DotEnv

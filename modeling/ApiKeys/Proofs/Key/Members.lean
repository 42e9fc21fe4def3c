import ApiKeys.Proofs.Expiration.Stored

/-!
# The members of a part

Each part of a record has two names, and no name is one of two parts (`WireName.Names.unique`). So a
part is found in the same member wherever that stands (`Members.get?_perm`), and a member that is
added matters to the part that it names alone (`Members.Adds.agreeBut`).
-/

namespace ApiKeys

/-! ## Names -/

/-- The parts of a record, in the order in which they are judged. -/
def WireName.list : List WireName :=
  [.description, .id, .actions, .indexes, .expiresAt, .createdAt, .updatedAt]

theorem WireName.mem_list (n : WireName) : n ∈ list := by cases n <;> decide

/-- The part is one of the timestamps of a record. -/
def WireName.IsTime (n : WireName) : Prop := n = .expiresAt ∨ n = .createdAt ∨ n = .updatedAt

instance (n : WireName) : Decidable n.IsTime := by unfold WireName.IsTime; infer_instance

/-- The part may be absent from stored data, or null. -/
def WireName.IsOptional (n : WireName) : Prop := n = .description ∨ n = .expiresAt

instance (n : WireName) : Decidable n.IsOptional := by unfold WireName.IsOptional; infer_instance

/-- The name is one of the two under which a part is found. -/
def WireName.Names (n : WireName) (name : Value) : Prop :=
  name.isText n.text ∨ name.isText n.recordName

instance (n : WireName) (name : Value) : Decidable (n.Names name) := by
  unfold WireName.Names; infer_instance

@[simp] theorem Value.isText_iff {v : Value} {t : Text} : v.isText t = true ↔ v = .text t := by
  cases v <;> simp [Value.isText]

theorem WireName.names_iff {n : WireName} {name : Value} :
    n.Names name ↔ name = .text n.text ∨ name = .text n.recordName := by
  simp [WireName.Names]

theorem WireName.names_text (n : WireName) : n.Names n.text := names_iff.2 (.inl rfl)

theorem WireName.names_recordName (n : WireName) : n.Names n.recordName := names_iff.2 (.inr rfl)

theorem WireName.Names.exists_text {n : WireName} {name : Value} (h : n.Names name) :
    ∃ t : Text, name = .text t := by
  rcases names_iff.1 h with rfl | rfl <;> exact ⟨_, rfl⟩

theorem WireName.Names.unique {n m : WireName} {name : Value} (hn : n.Names name)
    (hm : m.Names name) : n = m := by
  have hdistinct : ∀ n m : WireName, n.Names m.text ∨ n.Names m.recordName → n = m := by
    intro n m
    cases n <;> cases m <;> decide
  rcases names_iff.1 hm with rfl | rfl
  · exact hdistinct n m (.inl hn)
  · exact hdistinct n m (.inr hn)

/-! ## Members -/

namespace Members

variable {ms ms' before after base : Members} {n m : WireName} {name v : Value} {t : Text}

theorem get?_append (before after : Members) (t : Text) :
    get? (before ++ after) t = (before.get? t).or (after.get? t) := by
  rw [get?, List.find?_append, Option.map_or, get?, get?]

theorem get?_cons (name v : Value) (ms : Members) (t : Text) :
    get? ((name, v) :: ms) t = if name.isText t then some v else ms.get? t := by
  cases h : name.isText t <;> simp [get?, h]

theorem get?_insert_of_ne (h : name ≠ .text t) :
    get? (before ++ (name, v) :: after) t = get? (before ++ after) t := by
  rw [get?_append, get?_append, get?_cons, if_neg (by simpa using h)]

theorem get?_insert_self (h : before.get? t = none) :
    get? (before ++ (.text t, v) :: after) t = some v := by
  rw [get?_append, h, Option.none_or, get?_cons, if_pos (by simp)]

theorem get?_filter (p : Value → Prop) [DecidablePred p] (ms : Members) (t : Text) :
    get? (ms.filter fun m => p m.1) t = if p (.text t) then get? ms t else none := by
  induction ms with
  | nil => simp [get?]
  | cons m ms ih =>
    obtain ⟨name, v⟩ := m
    rw [get?_cons]
    by_cases hp : p name
    · rw [List.filter_cons_of_pos (by simpa using hp), get?_cons, ih]
      split
      · next hname => rw [if_pos (Value.isText_iff.1 hname ▸ hp)]
      · rfl
    · rw [List.filter_cons_of_neg (by simpa using hp), ih]
      split
      · next hpt =>
        have hname : ¬ name.isText t = true := fun hname => by
          rw [Value.isText_iff.1 hname] at hp
          exact hp hpt
        rw [if_neg hname]
      · rfl

theorem get?_perm (h : ms.Perm ms') (hnodup : (ms.map Prod.fst).Nodup) (t : Text) :
    ms.get? t = ms'.get? t := by
  induction h with
  | nil => rfl
  | cons m _ ih => rw [get?_cons, get?_cons, ih (List.nodup_cons.1 hnodup).2]
  | swap m m' ms =>
    obtain ⟨a, v⟩ := m
    obtain ⟨b, w⟩ := m'
    rw [get?_cons, get?_cons, get?_cons, get?_cons]
    split
    · next hb =>
      have ha : ¬ a.isText t = true := by
        rw [Value.isText_iff] at hb ⊢
        rintro rfl
        simp [hb] at hnodup
      rw [if_neg ha]
    · rfl
  | trans h _ ih ih' => exact (ih hnodup).trans (ih' ((h.map Prod.fst).nodup_iff.1 hnodup))

/-! ### The member of a part -/

theorem part?_congr (h : ∀ t : Text, n.Names t → ms.get? t = ms'.get? t) :
    ms.part? n = ms'.part? n := by
  rw [part?, part?, h _ n.names_text, h _ n.names_recordName]

theorem names_of_part? (h : ms.part? n = some (t, v)) : n.Names t := by
  unfold part? at h
  split at h
  · obtain ⟨rfl, -⟩ := Prod.mk.inj (Option.some.inj h)
    exact n.names_text
  · obtain ⟨_, -, heq⟩ := Option.map_eq_some_iff.1 h
    obtain ⟨rfl, -⟩ := Prod.mk.inj heq
    exact n.names_recordName

/-- What the data holds for one part, with other data for the other parts. -/
def only (ms : Members) (n : WireName) (base : Members) : Members :=
  (ms.filter fun m => n.Names m.1) ++ base.filter fun m => ¬ n.Names m.1

theorem part?_only (ms : Members) (n : WireName) (base : Members) :
    (ms.only n base).part? n = ms.part? n := by
  refine part?_congr fun t hname => ?_
  rw [only, get?_append, get?_filter, get?_filter (fun name => ¬ n.Names name), if_pos hname,
    if_neg (not_not.2 hname), Option.or_none]

theorem agreeBut_only (ms : Members) (n : WireName) (base : Members) :
    (ms.only n base).AgreeBut n base := by
  refine fun m hm => part?_congr fun t hname => ?_
  have hother : ¬ n.Names t := fun h => hm (hname.unique h)
  rw [only, get?_append, get?_filter, get?_filter (fun name => ¬ n.Names name), if_neg hother,
    if_pos hother, Option.none_or]

/-! ### One more member -/

/-- The data with one more member, wherever that stands. -/
def Adds (ms : Members) (name v : Value) (ms' : Members) : Prop :=
  ∃ before after, ms = before ++ after ∧ ms' = before ++ (name, v) :: after

theorem Adds.part?_of_not_names (h : ms.Adds name v ms') (hname : ¬ n.Names name) :
    ms.part? n = ms'.part? n := by
  obtain ⟨before, after, rfl, rfl⟩ := h
  refine (part?_congr fun t hother => get?_insert_of_ne ?_).symm
  rintro rfl
  exact hname hother

theorem Adds.agreeBut (h : ms.Adds name v ms') (hname : n.Names name) : ms.AgreeBut n ms' :=
  fun _ hm => h.part?_of_not_names fun hother => hm (hother.unique hname)

theorem part?_eq_none_iff : ms.part? n = none ↔ ∀ t : Text, n.Names t → ms.get? t = none := by
  constructor
  · intro h t hname
    unfold part? at h
    split at h
    · cases h
    · next htext =>
      rcases WireName.names_iff.1 hname with heq | heq
      · exact Value.text.inj heq ▸ htext
      · exact Value.text.inj heq ▸ Option.map_eq_none_iff.1 h
  · intro h
    rw [part?, h _ n.names_text, h _ n.names_recordName]
    rfl

theorem Adds.part?_of_names (h : ms.Adds (.text t) v ms') (hname : n.Names t)
    (hms : ms.part? n = none) : ms'.part? n = some (t, v) := by
  obtain ⟨before, after, rfl, rfl⟩ := h
  have hnone := part?_eq_none_iff.1 hms
  have hself : get? (before ++ (.text t, v) :: after) t = some v := by
    have hbefore := hnone t hname
    rw [get?_append, Option.or_eq_none_iff] at hbefore
    exact get?_insert_self hbefore.1
  by_cases htext : t = n.text
  · subst htext
    rw [part?, hself]
  · obtain rfl : t = n.recordName := by
      simpa [WireName.names_iff, htext] using hname
    have hne : Value.text n.recordName ≠ .text n.text := fun heq => htext (Value.text.inj heq)
    rw [part?, get?_insert_of_ne hne, hnone _ n.names_text, hself]
    rfl

theorem Adds.part?_of_recordName (h : ms.Adds n.recordName v ms') (hn : n.IsTime)
    (hms : ms.get? n.text ≠ none) : ms.part? n = ms'.part? n := by
  obtain ⟨before, after, rfl, rfl⟩ := h
  have hne : Value.text n.recordName ≠ .text n.text := by
    rw [ne_eq, Value.text.injEq]
    rcases hn with rfl | rfl | rfl <;> decide
  obtain ⟨w, hw⟩ := Option.ne_none_iff_exists'.1 hms
  rw [part?, part?, get?_insert_of_ne hne, hw]

end Members

end ApiKeys

import ApiKeys.Value.Literal

/-!
# What a value holds

A value holds others, one level down (`Value.children`) or deeper (`Value.Within`), and what holds
of a value whenever it holds of all that the value holds, holds of all values (`Value.induct`). Both
writers go through the parts of a value one after the other: `Value.jsonItems_eq` and its companions
say so, and what the lemmas on `List.mapM` say of such a walk is then said of them.
-/

namespace ApiKeys.Value

variable {v w : Value} {items : List Value} {ms : Members} {room : Nat}

/-- The values that a value holds, one level down. -/
def children : Value → List Value
  | list items | tuple items | set items | frozenSet items => items
  | object ms => ms.map (·.1) ++ ms.map (·.2)
  | _ => []

/-- A value occurs in another: it is that value, or occurs in one that it holds. -/
inductive Within (w : Value) : Value → Prop
  | self : Within w w
  | child {u v : Value} (hu : u ∈ v.children) (h : Within w u) : Within w v

theorem forall_mem_children_object {P : Value → Prop} :
    (∀ w ∈ (object ms).children, P w) ↔ ∀ m ∈ ms, P m.1 ∧ P m.2 := by
  simp only [children, List.forall_mem_append, List.forall_mem_map]
  exact ⟨fun h m hm => ⟨h.1 m hm, h.2 m hm⟩, fun h => ⟨fun m hm => (h m hm).1, fun m hm => (h m hm).2⟩⟩

theorem name_mem_children {m : Value × Value} (hm : m ∈ ms) : m.1 ∈ (object ms).children :=
  (forall_mem_children_object (P := (· ∈ (object ms).children)).1 (fun _ => id) m hm).1

theorem value_mem_children {m : Value × Value} (hm : m ∈ ms) : m.2 ∈ (object ms).children :=
  (forall_mem_children_object (P := (· ∈ (object ms).children)).1 (fun _ => id) m hm).2

/-- What passes from a value to all that it holds passes to everything that occurs in it. -/
theorem Within.of_children {P : Value → Prop} (hP : ∀ {v w}, P v → w ∈ v.children → P w)
    (hw : w.Within v) (hv : P v) : P w := by
  induction hw with
  | self => exact hv
  | child hu _ ih => exact ih (hP hv hu)

theorem sizeOf_lt_of_mem_children (h : w ∈ v.children) : sizeOf w < sizeOf v := by
  cases v with
  | list items | tuple items | set items | frozenSet items =>
    exact Nat.lt_of_lt_of_le (List.sizeOf_lt_of_mem h) (by simp [children])
  | object ms =>
    have hmembers : ∀ m ∈ ms, sizeOf m.1 < sizeOf (object ms) ∧ sizeOf m.2 < sizeOf (object ms) := by
      rintro ⟨name, w⟩ hm
      have hlt := List.sizeOf_lt_of_mem hm
      simp only [object.sizeOf_spec, Prod.mk.sizeOf_spec] at hlt ⊢
      omega
    exact forall_mem_children_object (P := (sizeOf · < sizeOf (object ms))).2 hmembers w h
  | _ => cases h

@[elab_as_elim]
theorem induct {P : Value → Prop} (value : ∀ v, (∀ w ∈ v.children, P w) → P v) (v : Value) : P v :=
  value v fun w hw =>
    have := sizeOf_lt_of_mem_children hw
    induct value w
termination_by sizeOf v

/-! ## Walks -/

section

variable {ε ε' α β : Type} {x : Except ε α} {f : α → Except ε β} {g : α → β} {a : α} {as : List α}
  {b : β} {bs : List β} {e : ε} {e' : ε'}

theorem map_eq_ok : x.map g = .ok b ↔ ∃ a, x = .ok a ∧ g a = b := by
  cases x <;> simp [Except.map]

theorem map_eq_error : x.map g = .error e ↔ x = .error e := by
  cases x <;> simp [Except.map]

theorem mapError_eq_error {h : ε → ε'} :
    x.mapError h = .error e' ↔ ∃ e, x = .error e ∧ h e = e' := by
  cases x with
  | ok a => exact ⟨fun heq => (nomatch heq), fun ⟨_, hx, _⟩ => (nomatch hx)⟩
  | error e =>
    show Except.error (h e) = .error e' ↔ _
    simp

theorem bind_eq_ok : (x >>= f) = .ok b ↔ ∃ a, x = .ok a ∧ f a = .ok b := by
  cases x <;> simp [bind, Except.bind]

theorem bind_eq_error : (x >>= f) = .error e ↔ x = .error e ∨ ∃ a, x = .ok a ∧ f a = .error e := by
  cases x <;> simp [bind, Except.bind]

theorem mapM_cons_eq_ok (h : (a :: as).mapM f = .ok bs) :
    ∃ b bs', f a = .ok b ∧ as.mapM f = .ok bs' ∧ bs = b :: bs' := by
  rw [List.mapM_cons, bind_eq_ok] at h
  obtain ⟨b, ha, h⟩ := h
  obtain ⟨bs', has, h⟩ := bind_eq_ok.1 h
  exact ⟨b, bs', ha, has, (Except.ok.inj h).symm⟩

theorem exists_of_mapM_eq_error (h : as.mapM f = .error e) : ∃ a ∈ as, f a = .error e := by
  induction as with
  | nil => cases h
  | cons a as ih =>
    rw [List.mapM_cons, bind_eq_error] at h
    rcases h with h | ⟨b, -, h⟩
    · exact ⟨a, List.mem_cons_self, h⟩
    · rcases bind_eq_error.1 h with h | ⟨bs, -, h⟩
      · obtain ⟨a', ha', he⟩ := ih h
        exact ⟨a', List.mem_cons_of_mem _ ha', he⟩
      · cases h

theorem exists_of_mapM_eq_ok (h : as.mapM f = .ok bs) : ∀ a ∈ as, ∃ b, f a = .ok b := by
  induction as generalizing bs with
  | nil => exact fun a ha => nomatch ha
  | cons a as ih =>
    obtain ⟨b, bs', ha, has, -⟩ := mapM_cons_eq_ok h
    exact List.forall_mem_cons.2 ⟨⟨b, ha⟩, ih has⟩

theorem eq_map_of_mapM_eq_ok (hg : ∀ a ∈ as, ∀ b, f a = .ok b → b = g a) (h : as.mapM f = .ok bs) :
    bs = as.map g := by
  induction as generalizing bs with
  | nil => exact (Except.ok.inj h).symm
  | cons a as ih =>
    obtain ⟨b, bs', ha, has, rfl⟩ := mapM_cons_eq_ok h
    rw [List.map_cons, hg a List.mem_cons_self b ha,
      ih (fun a' ha' => hg a' (List.mem_cons_of_mem _ ha')) has]

end

/-- What a computation gives, if it gives anything, has the property. -/
def Gives {ε α : Type} (P : α → Prop) (x : Except ε α) : Prop := ∀ a, x = .ok a → P a

namespace Gives

variable {ε α β : Type} {P : α → Prop} {Q : β → Prop} {x : Except ε α}

theorem ok {a : α} (h : P a) : Gives P (.ok a : Except ε α) := fun _ ha => Except.ok.inj ha ▸ h

theorem error {e : ε} : Gives P (.error e) := fun _ ha => nomatch ha

theorem map {g : α → β} (h : Gives P x) (hg : ∀ a, P a → Q (g a)) : Gives Q (x.map g) := by
  intro b hb
  obtain ⟨a, ha, rfl⟩ := map_eq_ok.1 hb
  exact hg a (h a ha)

theorem bind {f : α → Except ε β} (h : Gives P x) (hf : ∀ a, P a → Gives Q (f a)) :
    Gives Q (x >>= f) := by
  intro b hb
  obtain ⟨a, ha, hb⟩ := bind_eq_ok.1 hb
  exact hf a (h a ha) b hb

theorem mapM {as : List α} {f : α → Except ε β} (h : ∀ a ∈ as, Gives Q (f a)) :
    Gives (fun bs => ∀ b ∈ bs, Q b) (as.mapM f) := by
  induction as with
  | nil => exact .ok fun b hb => nomatch hb
  | cons a as ih =>
    obtain ⟨ha, has⟩ := List.forall_mem_cons.1 h
    intro bs hbs
    obtain ⟨b, bs', hb, hbs', rfl⟩ := mapM_cons_eq_ok hbs
    exact List.forall_mem_cons.2 ⟨ha b hb, ih has bs' hbs'⟩

end Gives

/-- The JSON text of a member of an object. -/
def jsonMember (room : Nat) (m : Value × Value) : Except JsonFault (List Char) := do
  let name ← jsonName m.1
  let t ← json room m.2
  return name ++ ':' :: ' ' :: t

/-- The literal text of a member of an object. -/
def literalMember (room : Nat) (m : Value × Value) : Except Unwritten (List Char) := do
  let name ← literal room m.1
  let t ← literal room m.2
  return name ++ ':' :: ' ' :: t

theorem jsonItems_eq (room : Nat) (items : List Value) :
    jsonItems room items = items.mapM (json room) := by
  induction items with
  | nil => rfl
  | cons v items ih => rw [jsonItems, ih, List.mapM_cons]

theorem jsonMembers_eq (room : Nat) (ms : Members) :
    jsonMembers room ms = ms.mapM (jsonMember room) := by
  induction ms with
  | nil => rfl
  | cons m ms ih =>
    obtain ⟨name, v⟩ := m
    rw [jsonMembers, ih, List.mapM_cons, jsonMember]
    cases jsonName name <;> cases json room v <;> rfl

theorem literalItems_eq (room : Nat) (items : List Value) :
    literalItems room items = items.mapM (literal room) := by
  induction items with
  | nil => rfl
  | cons v items ih => rw [literalItems, ih, List.mapM_cons]

theorem literalMembers_eq (room : Nat) (ms : Members) :
    literalMembers room ms = ms.mapM (literalMember room) := by
  induction ms with
  | nil => rfl
  | cons m ms ih =>
    obtain ⟨name, v⟩ := m
    rw [literalMembers, ih, List.mapM_cons, literalMember]
    cases literal room name <;> cases literal room v <;> rfl

end ApiKeys.Value

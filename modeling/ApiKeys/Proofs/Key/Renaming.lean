import ApiKeys.Key.Held
import ApiKeys.Proofs.Draws.Stream

/-!
# Renaming the identifiers of records

A renaming of identifiers tells apart what was apart and keeps the part of each that is shown
(`Renaming`). Nothing that is done to a record looks at its identifier: building it from renamed
draws gives the renamed record (`Key.create_rename`), and a change does the same to both
(`Held.rename_change`). What is shown of the identifier stays as it is (`Renaming.shownId`).
-/

namespace ApiKeys

/-- A value that may be an identifier, with texts renamed. -/
def Value.rename (f : Text → Text) : Value → Value
  | .text t => .text (f t)
  | v => v

/-- A record with its identifier renamed. -/
def Key.rename (f : Text → Text) (k : Key) : Key := { k with id := f k.id }

/-- A stray with what stands in the place of the identifier renamed. -/
def Stray.rename (f : Text → Text) (s : Stray) : Stray :=
  if s.part = .id then { s with value := s.value.rename f } else s

/-- A record in use with its identifier renamed. -/
def Held.rename (f : Text → Text) (r : Held) : Held :=
  { r with key := r.key.rename f, strays := r.strays.map (Stray.rename f) }

/-- The identifiers that a source yields are the renamed ones of another source, one by one. -/
def Draws.Renames (f : Text → Text) (s s' : Draws) : Prop :=
  ∀ n, KeyId.yield s' n = (KeyId.yield s n).map f

/-- Clock and room are the same, and the source yields the renamed identifiers. -/
structure Supplies.Renames (f : Text → Text) (s s' : Supplies) : Prop where
  clock : s'.clock = s.clock
  room : s'.room = s.room
  draws : s.draws.Renames f s'.draws

/-- A renaming of identifiers tells apart what was apart and keeps what is shown of each. -/
structure Renaming (f : Text → Text) : Prop where
  injective : Function.Injective f
  shown : ∀ t, shownId (f t) = shownId t

variable {f : Text → Text}

theorem Value.rename_of_no_text {v : Value} (hv : ∀ t, v ≠ .text t) : v.rename f = v := by
  cases v with
  | text t => exact absurd rfl (hv t)
  | _ => rfl

/-! ## Sources -/

namespace Draws.Renames

variable {s s' : Draws}

theorem generate_fst (h : s.Renames f s') :
    (KeyId.generate s').1 = (KeyId.generate s).1.map f :=
  h 0

theorem generate (h : s.Renames f s') : (KeyId.generate s).2.Renames f (KeyId.generate s').2 :=
  fun n => h (n + 1)

theorem exists_of_valid (hf : ∀ id, KeyId.Valid id → KeyId.Valid (f id)) (s : Draws) :
    ∃ s', s.Renames f s' := by
  let count := s.accepted.length / KeyId.length
  have hyield : ∀ n, KeyId.yield s n ≠ none ↔ n < count := by
    intro n
    rw [KeyId.yield_eq, Nat.lt_iff_add_one_le, Nat.le_div_iff_mul_le (by decide), Nat.mul_comm]
    simp
  have hvalid : ∀ id ∈ (List.range count).map fun n => f ((KeyId.yield s n).getD []),
      KeyId.Valid id := by
    intro id hid
    obtain ⟨n, hn, rfl⟩ := List.mem_map.1 hid
    obtain ⟨t, ht⟩ := Option.ne_none_iff_exists'.1 ((hyield n).2 (List.mem_range.1 hn))
    rw [ht]
    exact hf t (KeyId.valid_of_yield ht)
  obtain ⟨s', hs'⟩ := KeyId.exists_yield hvalid
  refine ⟨s', fun n => ?_⟩
  rw [hs' n, List.getElem?_map]
  by_cases hn : n < count
  · obtain ⟨t, ht⟩ := Option.ne_none_iff_exists'.1 ((hyield n).2 hn)
    rw [List.getElem?_range hn, Option.map_some, ht]
    rfl
  · have hnone : KeyId.yield s n = none := by_contra fun h => hn ((hyield n).1 h)
    rw [hnone, List.getElem?_eq_none (by simpa using hn)]
    rfl

end Draws.Renames

/-! ## Building records -/

namespace Key

theorem rename_assign (f : Text → Text) (k : Key) (a : Assignment) :
    (k.assign a).rename f = (k.rename f).assign a := by
  cases a <;> rfl

theorem rename_assignAll (f : Text → Text) (k : Key) (as : List Assignment) :
    (k.assignAll as).rename f = (k.rename f).assignAll as := by
  induction as generalizing k with
  | nil => rfl
  | cons a as ih =>
    rw [assignAll, assignAll, List.foldl_cons, List.foldl_cons, ← rename_assign]
    exact ih (k.assign a)

variable {draws draws' : Draws}

theorem build_rename (h : draws.Renames f draws') (now : Zoned) (parts : List Assignment) :
    (build now parts draws').1 = (build now parts draws).1.map (rename f) ∧
      (build now parts draws).2.Renames f (build now parts draws').2 := by
  have hfirst := h.generate_fst
  have hrest := h.generate
  unfold build
  revert hfirst hrest
  rcases KeyId.generate draws with ⟨_ | id, rest⟩ <;>
    rcases KeyId.generate draws' with ⟨_ | id', rest'⟩ <;> intro hfirst hrest
  · exact ⟨rfl, hrest⟩
  · cases hfirst
  · cases hfirst
  · obtain rfl : id' = f id := Option.some.inj hfirst
    dsimp only
    cases now.utc? with
    | none => exact ⟨rfl, hrest⟩
    | some t => exact ⟨congrArg Except.ok (rename_assignAll f (.blank id t) parts).symm, hrest⟩

variable {s s' : Supplies}

theorem create_rename (h : s.Renames f s') (body : Value) :
    (create body s').1 = (create body s).1.map (rename f) ∧
      (create body s).2.Renames f (create body s').2 := by
  cases body with
  | object ms =>
    rw [create, create, h.clock]
    rcases s.clock.read with ⟨_ | now, clock⟩
    · exact ⟨rfl, rfl, h.room, h.draws⟩
    · dsimp only
      rw [h.room]
      cases Field.readAll s.room now.instant Field.absentFromCreation ms Field.list with
      | error e => exact ⟨rfl, rfl, rfl, h.draws⟩
      | ok parts =>
        obtain ⟨hfirst, hrest⟩ := build_rename h.draws now parts
        exact ⟨hfirst, rfl, rfl, hrest⟩
  | _ => exact ⟨rfl, h⟩

theorem createDefault_rename (h : s.Renames f s') (settings : Settings) (which : DefaultKey) :
    (createDefault settings which s').1 = (createDefault settings which s).1.map (rename f) ∧
      (createDefault settings which s).2.Renames f (createDefault settings which s').2 := by
  rw [createDefault, createDefault, h.clock]
  rcases s.clock.read with ⟨_ | now, clock⟩
  · exact ⟨rfl, rfl, h.room, h.draws⟩
  · obtain ⟨hfirst, hrest⟩ := build_rename h.draws now (which.parts settings)
    exact ⟨hfirst, rfl, h.room, hrest⟩

end Key

/-! ## Records in use -/

namespace Held

theorem rename_ofKey (f : Text → Text) (k : Key) : (ofKey k).rename f = ofKey (k.rename f) := rfl

theorem part_rename (f : Text → Text) (s : Stray) : (s.rename f).part = s.part := by
  rw [Stray.rename]
  split <;> rfl

theorem stray?_rename (f : Text → Text) (r : Held) (p : Part) :
    (r.rename f).stray? p = (r.stray? p).map (Stray.rename f) := by
  rw [stray?, stray?, rename, List.find?_map]
  simp only [Function.comp_def, part_rename]

theorem stray?_rename_of_ne (f : Text → Text) (r : Held) {p : Part} (hp : p ≠ .id) :
    (r.rename f).stray? p = r.stray? p := by
  rw [stray?_rename]
  cases h : r.stray? p with
  | none => rfl
  | some s =>
    have hpart : s.part = p := by simpa using List.find?_some h
    rw [Option.map_some, Stray.rename, if_neg (hpart ▸ hp)]

theorem rename_assign (f : Text → Text) (r : Held) (a : Assignment) :
    (r.assign a).rename f = (r.rename f).assign a := by
  rw [assign, assign, rename, rename, List.filter_map]
  simp only [Function.comp_def, part_rename, Key.rename_assign]
  rfl

theorem rename_assignAll (f : Text → Text) (r : Held) (as : List Assignment) :
    (r.rename f).assignAll as = ((r.assignAll as).1.rename f, (r.assignAll as).2) := by
  induction as generalizing r with
  | nil => rfl
  | cons a as ih =>
    have hfault : (r.rename f).markFault? = r.markFault? := rfl
    rw [assignAll, assignAll, hfault, ← rename_assign]
    cases r.markFault? with
    | none => exact ih (r.assign a)
    | some e => rfl

theorem rename_change (f : Text → Text) (r : Held) (now : Zoned) (as : List Assignment) :
    (r.rename f).change now as = ((r.change now as).1.rename f, (r.change now as).2) := by
  rw [change, change, rename_assignAll, stray?_rename_of_ne f r (by decide)]
  rcases r.assignAll as with ⟨changed, _ | e⟩
  · dsimp only
    cases r.stray? .updatedAt with
    | some s => rfl
    | none =>
      dsimp only
      rw [show (r.rename f).parts = r.parts from rfl]
      split
      · rw [rename_assign]
        rfl
      · rfl
  · rfl

theorem id_rename (f : Text → Text) (r : Held) : (r.rename f).id = r.id.map (Value.rename f) := by
  rw [id, id, stray?_rename]
  cases h : r.stray? .id with
  | some s =>
    have hpart : s.part = .id := by simpa using List.find?_some h
    rw [Option.map_some, Stray.rename, if_pos hpart]
    rfl
  | none =>
    rw [Option.map_none, show (r.rename f).parts = r.parts from rfl]
    dsimp only
    split <;> rfl

end Held

namespace Renaming

variable (hf : Renaming f)
include hf

theorem front (v : Value) : (v.rename f).front = v.front := by
  cases v with
  | text t => exact congrArg (fun t => Except.ok (Value.text t)) (hf.shown t)
  | _ => rfl

theorem shownId (r : Held) : (r.rename f).shownId = r.shownId := by
  rw [Held.shownId, Held.shownId, Held.id_rename]
  cases r.id with
  | error e => rfl
  | ok v => exact hf.front v

end Renaming

end ApiKeys

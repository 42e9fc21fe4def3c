import ApiKeys.Store
import Mathlib.Tactic

/-!
# The entries of a store

A store whose identifiers are apart stays so: filing a record enters its identifier only if it is
not there (`Store.nodup_put`), and erasing leaves identifiers out (`Store.nodup_erase`). In such a
store an identifier has at most one entry, with what is found under it (`Store.filter_entries`).
-/

namespace ApiKeys.Store

variable {s : Store} {id : Text} {h : Handle}

/-- The identifiers of the store, in order. -/
def ids (s : Store) : List Text := s.entries.map Prod.fst

/-! ## Reading -/

theorem find_eq_some {v : Value} (hv : s.find v = .ok (some h)) :
    ∃ id, v = .text id ∧ s.get? id = some h := by
  unfold find at hv
  split at hv
  · next id => exact ⟨id, rfl, Except.ok.inj hv⟩
  · split at hv <;> cases hv

theorem filter_entries (hs : s.ids.Nodup) (id : Text) :
    (s.entries.filter fun entry => entry.1 = id).map Prod.snd = (s.get? id).toList := by
  obtain ⟨es⟩ := s
  simp only [ids, get?] at hs ⊢
  induction es with
  | nil => rfl
  | cons e es ih =>
    obtain ⟨a, b⟩ := e
    obtain ⟨hnew, hrest⟩ := List.nodup_cons.1 hs
    by_cases he : a = id
    · have hnone : es.filter (fun entry => entry.1 = id) = [] := by
        refine List.filter_eq_nil_iff.2 fun entry hentry heq => hnew ?_
        have hid : entry.1 = a := (of_decide_eq_true heq).trans he.symm
        exact List.mem_map.2 ⟨entry, hentry, hid⟩
      simp [he, hnone]
    · have hb : (id == a) = false := by simpa using fun heq : id = a => he heq.symm
      rw [List.filter_cons_of_neg (by simpa using he), List.lookup_cons, hb]
      exact ih hrest

/-! ## Writing -/

theorem insert_eq_ok {s' : Store} (hs : s.insert id h = .ok s') :
    s.contains id = false ∧ s' = s.put id h := by
  unfold insert at hs
  split at hs
  · cases hs
  · next habsent => exact ⟨Bool.eq_false_iff.2 habsent, (Except.ok.inj hs).symm⟩

theorem replace_eq_ok {s' : Store} (hs : s.replace id h = .ok s') :
    s.contains id = true ∧ s' = s.put id h := by
  unfold replace at hs
  split at hs
  · next hpresent => exact ⟨hpresent, (Except.ok.inj hs).symm⟩
  · cases hs

@[simp] theorem contains_put_self (s : Store) (id : Text) (h : Handle) :
    (s.put id h).contains id = true := by
  rw [contains, get?_put_self]
  rfl

theorem contains_put_of_contains (hid : s.contains id = true) (id' : Text) (h : Handle) :
    (s.put id' h).contains id = true := by
  by_cases hsame : id = id'
  · rw [hsame, contains_put_self]
  · rwa [contains, get?_put_of_ne s hsame]

theorem mem_putEntry {entry : Text × Handle} {es : List (Text × Handle)}
    (hentry : entry ∈ putEntry id h es) : entry = (id, h) ∨ entry ∈ es := by
  induction es with
  | nil => exact .inl (List.mem_singleton.1 hentry)
  | cons e es ih =>
    rw [putEntry] at hentry
    split at hentry
    · exact (List.mem_cons.1 hentry).imp_right (List.mem_cons_of_mem e)
    · rcases List.mem_cons.1 hentry with rfl | hentry
      · exact .inr List.mem_cons_self
      · exact (ih hentry).imp_right (List.mem_cons_of_mem e)

theorem mem_put {entry : Text × Handle} (hentry : entry ∈ (s.put id h).entries) :
    entry = (id, h) ∨ entry ∈ s.entries :=
  mem_putEntry hentry

theorem mem_erase {entry : Text × Handle} (hentry : entry ∈ (s.erase id).entries) :
    entry ∈ s.entries :=
  List.mem_of_mem_filter hentry

theorem nodup_put (hs : s.ids.Nodup) (id : Text) (h : Handle) : (s.put id h).ids.Nodup := by
  obtain ⟨es⟩ := s
  simp only [ids, put] at hs ⊢
  induction es with
  | nil => exact List.nodup_singleton id
  | cons e es ih =>
    obtain ⟨hnew, hrest⟩ := List.nodup_cons.1 hs
    rw [putEntry]
    split
    · next he => exact List.nodup_cons.2 ⟨he ▸ hnew, hrest⟩
    · next he =>
      refine List.nodup_cons.2 ⟨fun hmem => ?_, ih hrest⟩
      obtain ⟨entry, hentry, heq⟩ := List.mem_map.1 hmem
      rcases mem_putEntry hentry with rfl | hold
      · exact he heq.symm
      · exact hnew (heq ▸ List.mem_map_of_mem hold)

theorem nodup_erase (hs : s.ids.Nodup) (id : Text) : (s.erase id).ids.Nodup :=
  hs.sublist (List.filter_sublist.map Prod.fst)

end ApiKeys.Store

import ApiKeys.Proofs.Store.Entries
import Mathlib.Data.List.Dedup

/-!
# The order of a store

The entries of a store stand in the order in which their identifiers entered it. A log holds all
identifiers that ever entered, in order; of each only the last time counts, and `List.dedup` keeps
just that (`Arrived`). Filing under an identifier that is present does not move it, and one that was
taken out goes to the end when it enters again. The listing of a store is sorted by the times of
creation, and where two of these are the same it keeps the order of the entries (`pairwise_list`).
-/

namespace ApiKeys

theorem dedup_concat {α : Type} [DecidableEq α] (l : List α) (a : α) :
    (l ++ [a]).dedup = (l.dedup.filter fun b => b ≠ a) ++ [a] := by
  induction l with
  | nil => rfl
  | cons b l ih =>
    rw [List.cons_append]
    by_cases hl : b ∈ l
    · rw [List.dedup_cons_of_mem (List.mem_append_left [a] hl), List.dedup_cons_of_mem hl, ih]
    · rw [List.dedup_cons_of_notMem hl]
      by_cases hb : b = a
      · rw [hb, List.dedup_cons_of_mem (by simp), ih]
        simp
      · rw [List.dedup_cons_of_notMem (by simp [hl, hb]), ih]
        simp [hb]

theorem pairwise_mergeSort_of_pairwise {α : Type} {le : α → α → Bool} {R : α → α → Prop}
    (htrans : ∀ a b c, le a b → le b c → le a c) (htotal : ∀ a b, (le a b || le b a) = true)
    {l : List α} (hl : l.Pairwise R) :
    (l.mergeSort le).Pairwise fun a b => le a b = true ∧ (le b a = true → R a b) := by
  induction l with
  | nil => simp
  | cons a l ih =>
    obtain ⟨hhead, htail⟩ := List.pairwise_cons.1 hl
    obtain ⟨l₁, l₂, hcons, hrest, hbefore⟩ := List.mergeSort_cons htrans htotal a l
    have hsorted := List.pairwise_mergeSort htrans htotal (a :: l)
    have hpairs := ih htail
    rw [hrest] at hpairs
    rw [hcons] at hsorted ⊢
    obtain ⟨hfront, hback, hcross⟩ := List.pairwise_append.1 hpairs
    obtain ⟨-, hlast, hsplit⟩ := List.pairwise_append.1 hsorted
    refine List.pairwise_append.2 ⟨hfront, List.pairwise_cons.2 ⟨fun b hb => ?_, hback⟩,
      fun b hb c hc => ?_⟩
    · have hmem : b ∈ l := List.mem_mergeSort.1 (hrest ▸ List.mem_append_right l₁ hb)
      exact ⟨(List.pairwise_cons.1 hlast).1 b hb, fun _ => hhead b hmem⟩
    · rcases List.mem_cons.1 hc with rfl | hc
      · -- what the sort puts before the new item comes strictly before it
        refine ⟨hsplit b hb c List.mem_cons_self, fun hle => ?_⟩
        have hnot := hbefore b hb
        rw [hle] at hnot
        cases hnot
      · exact hcross b hb c hc

namespace Store

variable {s : Store} {id : Text} {h : Handle}

/-! ## Identifiers -/

theorem mem_ids : id ∈ s.ids ↔ s.contains id = true := by
  rw [ids, contains, get?, List.lookup_isSome_iff, List.mem_map]
  constructor
  · rintro ⟨entry, hentry, rfl⟩
    exact ⟨entry, hentry, beq_self_eq_true _⟩
  · rintro ⟨entry, hentry, hid⟩
    exact ⟨entry, hentry, (eq_of_beq hid).symm⟩

theorem mem_entries_of_get? (hget : s.get? id = some h) : (id, h) ∈ s.entries := by
  obtain ⟨before, after, hentries, -⟩ := List.lookup_eq_some_iff.1 hget
  rw [hentries]
  exact List.mem_append_right before List.mem_cons_self

theorem ids_put_of_mem (hmem : id ∈ s.ids) (h : Handle) : (s.put id h).ids = s.ids := by
  obtain ⟨es⟩ := s
  simp only [ids, put] at hmem ⊢
  induction es with
  | nil => cases hmem
  | cons e es ih =>
    by_cases he : e.1 = id
    · simp [putEntry, he]
    · have hrest : id ∈ es.map Prod.fst := by simpa [Ne.symm he] using hmem
      simp [putEntry, he, ih hrest]

theorem entries_put_of_notMem (hnot : id ∉ s.ids) (h : Handle) :
    (s.put id h).entries = s.entries ++ [(id, h)] := by
  obtain ⟨es⟩ := s
  simp only [ids, put] at hnot ⊢
  induction es with
  | nil => rfl
  | cons e es ih =>
    obtain ⟨hne, hrest⟩ : id ≠ e.1 ∧ id ∉ es.map Prod.fst := by simpa using hnot
    rw [putEntry, if_neg hne.symm, ih hrest, List.cons_append]

theorem ids_put_of_notMem (hnot : id ∉ s.ids) (h : Handle) : (s.put id h).ids = s.ids ++ [id] := by
  rw [ids, entries_put_of_notMem hnot, List.map_append]
  rfl

theorem erase_of_notMem (hnot : id ∉ s.ids) : s.erase id = s := by
  have hall : s.entries.filter (fun entry => entry.1 ≠ id) = s.entries :=
    List.filter_eq_self.2 fun entry hentry =>
      decide_eq_true fun heq => hnot (heq ▸ List.mem_map_of_mem hentry)
  rw [erase, hall]

theorem ids_erase : (s.erase id).ids = s.ids.filter fun id' => id' ≠ id := by
  rw [ids, ids, List.filter_map]
  rfl

/-! ## Arrivals -/

/-- The identifiers of the store stand in the order in which they last entered it, as a log has it.
-/
def Arrived (log : List Text) (s : Store) : Prop := s.ids.Sublist log.dedup

namespace Arrived

variable {log : List Text}

theorem put_of_mem (hs : s.Arrived log) (hmem : id ∈ s.ids) (h : Handle) :
    (s.put id h).Arrived log := by
  rw [Arrived, ids_put_of_mem hmem]
  exact hs

theorem put_of_notMem (hs : s.Arrived log) (hnot : id ∉ s.ids) (h : Handle) :
    (s.put id h).Arrived (log ++ [id]) := by
  have hothers : s.ids.filter (fun id' => id' ≠ id) = s.ids :=
    List.filter_eq_self.2 fun id' hid' => decide_eq_true fun heq => hnot (heq ▸ hid')
  rw [Arrived, ids_put_of_notMem hnot, dedup_concat, ← hothers]
  exact (hs.filter _).append_right [id]

theorem again (hs : s.Arrived (log ++ [id])) : s.Arrived (log ++ [id, id]) := by
  have htwice : (log ++ [id] ++ [id]).dedup = (log ++ [id]).dedup := by
    rw [dedup_concat, dedup_concat]
    simp
  rw [List.append_assoc] at htwice
  rw [Arrived, ← List.singleton_append, htwice]
  exact hs

theorem erase (hs : s.Arrived log) (id : Text) : (s.erase id).Arrived log := by
  rw [Arrived, ids_erase]
  exact List.filter_sublist.trans hs

end Arrived

/-! ## The listing -/

/-- **A listing goes from the oldest record on**, and among records of one time it keeps what holds
between the entries in order. -/
theorem pairwise_list {R : Handle → Handle → Prop} (hs : (s.entries.map Prod.snd).Pairwise R)
    (createdAt : Handle → Instant) : (s.list createdAt).Pairwise fun a b =>
      createdAt a ≤ createdAt b ∧ (createdAt b ≤ createdAt a → R a b) := by
  have htrans : ∀ a b c : Handle, decide (createdAt a ≤ createdAt b) = true →
      decide (createdAt b ≤ createdAt c) = true → decide (createdAt a ≤ createdAt c) = true := by
    intro a b c hab hbc
    exact decide_eq_true (Int.le_trans (of_decide_eq_true hab) (of_decide_eq_true hbc))
  have htotal : ∀ a b : Handle,
      (decide (createdAt a ≤ createdAt b) || decide (createdAt b ≤ createdAt a)) = true := by
    intro a b
    rw [Bool.or_eq_true, decide_eq_true_eq, decide_eq_true_eq]
    exact Int.le_total _ _
  simpa only [list, decide_eq_true_eq] using pairwise_mergeSort_of_pairwise htrans htotal hs

theorem list_of_pairwise {createdAt : Handle → Instant}
    (hs : (s.entries.map Prod.snd).Pairwise fun a b => createdAt a ≤ createdAt b) :
    s.list createdAt = s.entries.map Prod.snd :=
  List.mergeSort_of_pairwise (hs.imp fun hle => decide_eq_true hle)

theorem handles_put_of_get? (hs : (s.entries.map Prod.snd).Nodup) {old : Handle}
    (hget : s.get? id = some old) (h : Handle) : (s.put id h).entries.map Prod.snd =
      (s.entries.map Prod.snd).map fun a => if a = old then h else a := by
  obtain ⟨es⟩ := s
  simp only [get?, put] at hs hget ⊢
  induction es with
  | nil => cases hget
  | cons e es ih =>
    obtain ⟨id', a⟩ := e
    obtain ⟨hnew, hrest⟩ := List.nodup_cons.1 hs
    rw [List.lookup_cons] at hget
    by_cases hid : id' = id
    · subst hid
      obtain rfl : a = old := by simpa using hget
      have hothers : (es.map Prod.snd).map (fun b => if b = a then h else b) = es.map Prod.snd := by
        refine (List.map_congr_left fun b hb => ?_).trans (List.map_id _)
        have hne : b ≠ a := fun heq => hnew (heq ▸ hb)
        exact if_neg hne
      rw [putEntry, if_pos rfl, List.map_cons, List.map_cons, List.map_cons, if_pos rfl, hothers]
    · have hkey : (id == id') = false := by simpa using Ne.symm hid
      rw [hkey] at hget
      have hmem : old ∈ es.map Prod.snd :=
        List.mem_map_of_mem (mem_entries_of_get? (s := ⟨es⟩) hget)
      have hne : a ≠ old := fun heq => hnew (heq ▸ hmem)
      rw [putEntry, if_neg hid, List.map_cons, ih hrest hget, List.map_cons, List.map_cons,
        if_neg hne]

theorem list_put_of_get? (hs : (s.entries.map Prod.snd).Nodup) {old : Handle}
    (hget : s.get? id = some old) {createdAt : Handle → Instant}
    (htie : createdAt h = createdAt old) : (s.put id h).list createdAt =
      (s.list createdAt).map fun a => if a = old then h else a := by
  have hsame : ∀ a, createdAt (if a = old then h else a) = createdAt a := by
    intro a
    by_cases ha : a = old
    · rw [if_pos ha, htie, ha]
    · rw [if_neg ha]
  rw [list, handles_put_of_get? hs hget, list, List.map_mergeSort]
  intro a _ b _
  rw [hsame, hsame]

theorem list_put_of_notMem (hid : id ∉ s.ids) (hh : h ∉ s.entries.map Prod.snd)
    (createdAt : Handle → Instant) : ∃ before after,
      (s.put id h).list createdAt = before ++ h :: after ∧
        ∀ a ∈ after, createdAt h < createdAt a := by
  have hentries : ((s.put id h).entries.map Prod.snd).Pairwise fun a _ => a ≠ h := by
    rw [entries_put_of_notMem hid, List.map_append]
    refine List.pairwise_append.2 ⟨?_, List.pairwise_singleton _ h, fun a ha b _ heq => ?_⟩
    · exact List.pairwise_of_forall_mem_list fun a ha b _ heq => hh (heq ▸ ha)
    · exact hh (heq ▸ ha)
  have hmem : h ∈ (s.put id h).list createdAt := by
    rw [((s.put id h).list_perm createdAt).mem_iff, entries_put_of_notMem hid]
    simp
  obtain ⟨before, after, hlist⟩ := List.append_of_mem hmem
  have hpairs := pairwise_list hentries createdAt
  rw [hlist] at hpairs
  obtain ⟨-, hafter, -⟩ := List.pairwise_append.1 hpairs
  refine ⟨before, after, hlist, fun a ha => ?_⟩
  obtain ⟨-, htie⟩ := (List.pairwise_cons.1 hafter).1 a ha
  exact Int.not_le.1 fun hle => htie hle rfl

theorem list_congr {f g : Handle → Instant} (hfg : ∀ entry ∈ s.entries, f entry.2 = g entry.2) :
    s.list f = s.list g := by
  have hall : ∀ a ∈ s.entries.map Prod.snd, f a = g a := by
    intro a ha
    obtain ⟨entry, hentry, rfl⟩ := List.mem_map.1 ha
    exact hfg entry hentry
  have hmap := List.map_mergeSort (r := fun a b => decide (f a ≤ f b))
    (s := fun a b => decide (g a ≤ g b)) (f := id) (l := s.entries.map Prod.snd)
    fun a ha b hb => by rw [hall a ha, hall b hb]; rfl
  simpa [list] using hmap

end Store

end ApiKeys

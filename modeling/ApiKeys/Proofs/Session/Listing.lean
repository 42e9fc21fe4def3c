import ApiKeys.Proofs.Session.Coherence
import ApiKeys.Proofs.Store.Order

/-!
# The order of a listing

The store lists its records from the oldest on. Records of one time are told apart by a log that the
answers of a session leave: each command adds the identifiers that it brings into the store
(`Session.arrivals`). The record whose identifier entered the store first, since it was last absent,
comes first (`Session.Lists`). What one command does to the order of the store is said by
`arrived_step`, and what a run does by `arrived_run`.
-/

namespace ApiKeys

/-- The records that an answer names, in order. -/
def Answer.handles : Answer → List Handle
  | .record h => [h]
  | .records hs => hs
  | _ => []

/-- In a log, the last time that one identifier comes is before the last time that another one does.
-/
def LastBefore (log : List Text) (a b : Text) : Prop :=
  ∃ before after, log = before ++ a :: after ∧ a ∉ after ∧ b ∈ after

theorem lastBefore_of_sublist {log : List Text} {a b : Text} (h : [a, b].Sublist log.dedup) :
    LastBefore log a b := by
  induction log with
  | nil => cases h
  | cons c log ih =>
    have hlater : [a, b].Sublist log.dedup → LastBefore (c :: log) a b := by
      intro hrest
      obtain ⟨before, after, rfl, ha, hb⟩ := ih hrest
      exact ⟨c :: before, after, rfl, ha, hb⟩
    by_cases hc : c ∈ log
    · rw [List.dedup_cons_of_mem hc] at h
      exact hlater h
    · rw [List.dedup_cons_of_notMem hc] at h
      rcases List.sublist_cons_iff.1 h with hrest | ⟨rest, heq, hrest⟩
      · exact hlater hrest
      · obtain ⟨rfl, rfl⟩ := List.cons.inj heq
        have hb : b ∈ log.dedup := List.singleton_sublist.1 hrest
        exact ⟨[], log, rfl, hc, List.mem_dedup.1 hb⟩

namespace Session

variable {s : Session} {h : Handle} {id : Text} {c : Command}

/-! ## Arrivals -/

/-- The identifiers that a command brings into the store: of the records that its answer names,
those that are in the store after it and were not there before. -/
def arriving (s : Session) (c : Command) : List Text :=
  match (s.step c).answer with
  | .ok a => (a.handles.filterMap (s.step c).session.idOf?).filter fun id =>
      !s.store.contains id && (s.step c).session.store.contains id
  | .error _ => []

/-- All identifiers that some commands bring into the store, one after the other. -/
def arrivals (s : Session) : List Command → List Text
  | [] => []
  | c :: cs => s.arriving c ++ (s.step c).session.arrivals cs

theorem arriving_eq_nil (hc : ∀ id, (s.step c).session.store.contains id = true →
    s.store.contains id = true) : s.arriving c = [] := by
  unfold arriving
  split
  · refine List.filter_eq_nil_iff.2 fun id _ hid => ?_
    obtain ⟨hbefore, hafter⟩ := Bool.and_eq_true_iff.1 hid
    rw [hc id hafter] at hbefore
    cases hbefore
  · rfl

theorem arriving_replace (s : Session) (h : Handle) : s.arriving (.replace h) = [] := by
  refine arriving_eq_nil fun id' hid' => ?_
  cases s.step_storeEffect (.replace h) with
  | kept hstore => rwa [hstore] at hid'
  | @replaced _ id _ _ hpresent _ hstore =>
    by_cases heq : id' = id
    · rwa [heq]
    · rwa [hstore, Store.contains, Store.get?_put_of_ne _ heq] at hid'

theorem arriving_insert (hid : s.idOf? h = some id) (habsent : s.store.contains id = false)
    (hanswer : (s.step (.insert h)).answer = .ok (.record h))
    (hstore : (s.step (.insert h)).session.store = s.store.put id h) :
    s.arriving (.insert h) = [id] := by
  have hid' : (s.step (.insert h)).session.idOf? h = some id := idOf?_step hid trivial
  have hpresent : (s.step (.insert h)).session.store.contains id = true := by
    rw [hstore, Store.contains_put_self]
  simp [arriving, hanswer, Answer.handles, hid', habsent, hpresent]

theorem arriving_seed {admin search : Key} (hempty : s.store.entries = [])
    (hanswer : (s.step .seed).answer = .ok (.records [s.records.length, s.records.length + 1]))
    (hrecords : (s.step .seed).session.records = s.records ++ [.ofKey admin, .ofKey search])
    (hstore : (s.step .seed).session.store =
      (s.store.put admin.id s.records.length).put search.id (s.records.length + 1)) :
    s.arriving .seed = [admin.id, search.id] := by
  have hids : [s.records.length, s.records.length + 1].filterMap (s.step .seed).session.idOf? =
      [admin.id, search.id] := by simp [idOf?, hrecords]
  have hpresent : ∀ id ∈ [admin.id, search.id],
      (!s.store.contains id && (s.step .seed).session.store.contains id) = true := by
    intro id hid
    have habsent : s.store.contains id = false := by
      rw [Store.contains, Store.get?, hempty]
      rfl
    have hafter : (s.step .seed).session.store.contains id = true := by
      rw [hstore]
      rcases List.mem_pair.1 hid with rfl | rfl
      · exact Store.contains_put_of_contains (Store.contains_put_self _ _ _) _ _
      · exact Store.contains_put_self _ _ _
    rw [habsent, hafter]
    rfl
  rw [arriving, hanswer]
  dsimp only [Answer.handles]
  rw [hids]
  exact List.filter_eq_self.2 hpresent

/-- **A command keeps the store in the order of arrival.** -/
theorem arrived_step {log : List Text} (hs : s.store.Arrived log) (c : Command) :
    (s.step c).session.store.Arrived (log ++ s.arriving c) := by
  have hnothing : (∀ id, (s.step c).session.store.contains id = true →
      s.store.contains id = true) → (s.step c).session.store.Arrived log →
      (s.step c).session.store.Arrived (log ++ s.arriving c) := by
    intro hc harrived
    rwa [arriving_eq_nil hc, List.append_nil]
  cases s.step_storeEffect c with
  | kept hstore =>
    refine hnothing (fun id hid => ?_) ?_
    · rwa [hstore] at hid
    · rwa [hstore]
  | @replaced h id _ _ hpresent _ hstore =>
    rw [arriving_replace, List.append_nil, hstore]
    exact hs.put_of_mem (Store.mem_ids.2 hpresent) h
  | @deleted id _ _ hstore =>
    refine hnothing (fun id' hid' => ?_) ?_
    · rw [← Store.mem_ids, hstore, Store.ids_erase] at hid'
      exact Store.mem_ids.1 (List.mem_of_mem_filter hid')
    · rw [hstore]
      exact hs.erase id
  | @inserted h id _ hid habsent hanswer hstore =>
    rw [arriving_insert hid habsent hanswer hstore, hstore]
    refine hs.put_of_notMem (fun hmem => ?_) h
    rw [Store.mem_ids, habsent] at hmem
    cases hmem
  | @seeded admin search _ hempty hanswer hrecords hstore =>
    rw [arriving_seed hempty hanswer hrecords hstore, hstore]
    have hnot : admin.id ∉ s.store.ids := by simp [Store.ids, hempty]
    have hadmin := hs.put_of_notMem hnot s.records.length
    by_cases hmem : search.id ∈ (s.store.put admin.id s.records.length).ids
    · -- both have one identifier, which the log then has twice at its end
      obtain heq : search.id = admin.id := by
        simpa [Store.ids, Store.put, hempty, Store.putEntry] using hmem
      rw [heq]
      exact (hadmin.put_of_mem (heq ▸ hmem) _).again
    · have hboth := hadmin.put_of_notMem hmem (s.records.length + 1)
      rwa [List.append_assoc] at hboth

theorem arrived_run {log : List Text} (hs : s.store.Arrived log) (cs : List Command) :
    (s.run cs).store.Arrived (log ++ s.arrivals cs) := by
  induction cs generalizing s log with
  | nil => simpa [arrivals, run] using hs
  | cons c cs ih =>
    have hrest := ih (arrived_step hs c)
    rwa [List.append_assoc] at hrest

/-! ## Times of creation -/

theorem createdAt_step (hh : h < s.records.length) (hc : c.KeepsParts) :
    (s.step c).session.createdAt h = s.createdAt h := by
  have hr : s.records[h]? = some s.records[h] := List.getElem?_eq_getElem hh
  rcases (s.step_effect c).records with ⟨extra, he, -⟩ | ⟨h', old, new, -, hold, he, hsame⟩
  · rw [createdAt, createdAt, he, List.getElem?_append_left hh]
  · by_cases heq : h' = h
    · subst heq
      obtain rfl : s.records[h'] = old := Option.some.inj (hr.symm.trans hold)
      rw [createdAt, createdAt, he, List.getElem?_set_self hh, hr]
      exact (hsame hc).createdAt
    · rw [createdAt, createdAt, he, List.getElem?_set_ne heq]

namespace Coherent

theorem lt_length_of_mem (hs : s.Coherent) {entry : Text × Handle}
    (hentry : entry ∈ s.store.entries) : entry.2 < s.records.length := by
  obtain ⟨r, hr, -⟩ := idOf?_eq_some_iff.1 (hs.filed entry hentry)
  exact (List.getElem?_eq_some_iff.1 hr).1

theorem nodup_handles (hs : s.Coherent) : (s.store.entries.map Prod.snd).Nodup := by
  have hids : (s.store.entries.map Prod.snd).map s.idOf? = s.store.ids.map some := by
    rw [Store.ids, List.map_map, List.map_map]
    exact List.map_congr_left hs.filed
  refine List.Nodup.of_map s.idOf? ?_
  rw [hids]
  exact hs.apart.map (Option.some_injective _)

theorem listed_step (hs : s.Coherent) (hc : c.KeepsParts)
    (hstore : (s.step c).session.store = s.store) : (s.step c).session.listed = s.listed := by
  rw [listed, listed, hstore]
  exact Store.list_congr fun entry hentry => createdAt_step (hs.lt_length_of_mem hentry) hc

end Coherent

/-! ## The listing -/

theorem store_step (hc : c.writes = false ∨ (∃ e, (s.step c).answer = .error e) ∨
    (s.step c).answer = .ok (.flag false)) : (s.step c).session.store = s.store := by
  cases s.step_storeEffect c with
  | kept hstore => exact hstore
  | inserted _ _ hanswer _ | replaced _ _ hanswer _ | seeded _ hanswer _ _ =>
    rw [hanswer] at hc
    rcases hc with hc | ⟨e, he⟩ | he
    · cases hc
    · cases he
    · cases he
  | @deleted id _ hanswer hstore =>
    rw [hanswer] at hc
    rcases hc with hc | ⟨e, he⟩ | he
    · cases hc
    · cases he
    · have habsent : s.store.contains id = false := Answer.flag.inj (Except.ok.inj he)
      rw [hstore, Store.erase_of_notMem fun hmem => ?_]
      rw [Store.mem_ids, habsent] at hmem
      cases hmem

/-- The records that a listing has: what identifiers find, each once, from the oldest on. Records of
one time come in the order in which their identifiers last entered the store, as the log has it. -/
structure Lists (s : Session) (log : List Text) (hs : List Handle) : Prop where
  answer : (s.step .list).answer = .ok (.records hs)
  stored : ∀ h, h ∈ hs ↔ ∃ id, (s.step (.get (.text id))).answer = .ok (.found (some h))
  nodup : hs.Nodup
  oldest : hs.Pairwise fun a b => s.createdAt a ≤ s.createdAt b
  ties : hs.Pairwise fun a b => s.createdAt a = s.createdAt b →
    ∃ i j, s.idOf? a = some i ∧ s.idOf? b = some j ∧ LastBefore log i j

/-- What becomes of a listing. A command that does not write to the store, or fails to, leaves it; a
record that takes the place of another one does not move its identifier; and a record that is filed
anew comes after all that were built at its time or earlier. -/
structure Relists (s : Session) (hs : List Handle) : Prop where
  kept : ∀ c : Command, c.KeepsParts → (c.writes = false ∨ (∃ e, (s.step c).answer = .error e) ∨
      (s.step c).answer = .ok (.flag false)) →
    ((s.step c).session.step .list).answer = .ok (.records hs)
  replaced : ∀ h old id, s.idOf? h = some id →
    (s.step (.get (.text id))).answer = .ok (.found (some old)) →
    (s.step (.replace h)).answer = .ok (.record h) ∧ s.arriving (.replace h) = [] ∧
      (s.createdAt h = s.createdAt old → ((s.step (.replace h)).session.step .list).answer =
        .ok (.records (hs.map fun a => if a = old then h else a)))
  reinserted : ∀ h id, s.idOf? h = some id → ∃ before after,
    ((s.run [.delete (.text id), .insert h]).step .list).answer =
        .ok (.records (before ++ h :: after)) ∧
      ∀ a ∈ after, s.createdAt h < s.createdAt a

theorem answer_list (s : Session) : (s.step .list).answer = .ok (.records s.listed) := rfl

theorem session_delete_text (s : Session) (id : Text) :
    (s.step (.delete (.text id))).session = { s with store := s.store.erase id } := by
  rw [step]
  unfold delete
  split
  · next hempty =>
    have herase : s.store.erase id = s.store := Store.erase_of_notMem (by simp [Store.ids, hempty])
    rw [herase]
  · rfl

theorem step_replace_of_get? (hid : s.idOf? h = some id) {old : Handle}
    (hget : s.store.get? id = some old) : s.step (.replace h) =
      ⟨.ok (.record h), [], { s with store := s.store.put id h }⟩ := by
  have hpresent : s.store.contains id = true := by
    rw [Store.contains, hget]
    rfl
  rw [step_replace hid, if_pos hpresent]

theorem run_reinsert (hid : s.idOf? h = some id) : s.run [.delete (.text id), .insert h] =
    { s with store := (s.store.erase id).put id h } := by
  have hid' : ({ s with store := s.store.erase id } : Session).idOf? h = some id := hid
  have habsent : (s.store.erase id).contains id = false := by
    rw [Store.contains, Store.get?_erase_self]
    rfl
  rw [run, List.foldl_cons, session_delete_text, List.foldl_cons, List.foldl_nil, step_insert hid',
    habsent]
  rfl

theorem get_eq_ok_iff : (s.step (.get (.text id))).answer = .ok (.found (some h)) ↔
    s.store.get? id = some h := by
  rw [step, lookUp, Store.find]
  exact ⟨fun heq => Answer.found.inj (Except.ok.inj heq), fun heq => by rw [heq]⟩

namespace Coherent

theorem mem_handles_iff (hs : s.Coherent) :
    h ∈ s.store.entries.map Prod.snd ↔ ∃ id, s.store.get? id = some h := by
  constructor
  · intro hmem
    obtain ⟨⟨id, h'⟩, hentry, rfl⟩ := List.mem_map.1 hmem
    have hids := Store.filter_entries hs.apart id
    have hfound : h' ∈ (s.store.entries.filter fun entry => entry.1 = id).map Prod.snd :=
      List.mem_map_of_mem (List.mem_filter.2 ⟨hentry, decide_eq_true rfl⟩)
    rw [hids] at hfound
    exact ⟨id, Option.mem_toList.1 hfound⟩
  · rintro ⟨id, hget⟩
    exact List.mem_map_of_mem (Store.mem_entries_of_get? hget)

theorem pairwise_handles (hs : s.Coherent) {log : List Text} (hlog : s.store.Arrived log) :
    (s.store.entries.map Prod.snd).Pairwise fun a b =>
      ∃ i j, s.idOf? a = some i ∧ s.idOf? b = some j ∧ LastBefore log i j := by
  have hids : s.store.ids.Pairwise (LastBefore log) :=
    List.pairwise_iff_forall_sublist.2 fun hsub => lastBefore_of_sublist (hsub.trans hlog)
  rw [Store.ids, List.pairwise_map] at hids
  rw [List.pairwise_map]
  refine hids.imp_of_mem fun ha hb hbefore => ?_
  exact ⟨_, _, hs.filed _ ha, hs.filed _ hb, hbefore⟩

theorem lists (hs : s.Coherent) {log : List Text} (hlog : s.store.Arrived log) :
    s.Lists log s.listed := by
  have hperm : s.listed.Perm (s.store.entries.map Prod.snd) := s.store.list_perm s.createdAt
  have hpairs := Store.pairwise_list (hs.pairwise_handles hlog) s.createdAt
  refine ⟨rfl, fun h => ?_, hperm.nodup_iff.2 hs.nodup_handles, ?_, ?_⟩
  · simp only [hperm.mem_iff, hs.mem_handles_iff, get_eq_ok_iff]
  · exact hpairs.imp fun hpair => hpair.1
  · exact hpairs.imp fun hpair htie => hpair.2 (Int.le_of_eq (congrArg Instant.micros htie.symm))

theorem listed_replace (hs : s.Coherent) (hid : s.idOf? h = some id) {old : Handle}
    (hget : s.store.get? id = some old) (htie : s.createdAt h = s.createdAt old) :
    (s.step (.replace h)).session.listed = s.listed.map fun a => if a = old then h else a := by
  rw [step_replace_of_get? hid hget]
  exact Store.list_put_of_get? hs.nodup_handles hget htie

theorem listed_reinsert (hs : s.Coherent) (hid : s.idOf? h = some id) : ∃ before after,
    (s.run [.delete (.text id), .insert h]).listed = before ++ h :: after ∧
      ∀ a ∈ after, s.createdAt h < s.createdAt a := by
  have hnot : id ∉ (s.store.erase id).ids := by
    rw [Store.mem_ids, Store.contains, Store.get?_erase_self]
    exact Bool.false_ne_true
  have hh : h ∉ (s.store.erase id).entries.map Prod.snd := by
    intro hmem
    obtain ⟨⟨id', h'⟩, hentry, rfl⟩ := List.mem_map.1 hmem
    obtain rfl : id' = id := Option.some.inj ((hs.filed _ (Store.mem_erase hentry)).symm.trans hid)
    exact hnot (List.mem_map.2 ⟨_, hentry, rfl⟩)
  rw [run_reinsert hid]
  exact Store.list_put_of_notMem hnot hh s.createdAt

theorem relists (hs : s.Coherent) : s.Relists s.listed where
  kept c hc hidle := by
    rw [answer_list, hs.listed_step hc (store_step hidle)]
  replaced h old id hid hget := by
    rw [get_eq_ok_iff] at hget
    exact ⟨by rw [step_replace_of_get? hid hget], s.arriving_replace h,
      fun htie => by rw [answer_list, hs.listed_replace hid hget htie]⟩
  reinserted h id hid := by
    obtain ⟨before, after, hlisted, hafter⟩ := hs.listed_reinsert hid
    exact ⟨before, after, by rw [answer_list, hlisted], hafter⟩

end Coherent

/-- **The order of a listing.** However a session goes on, short of replacing the parts of a record
all at once, a listing has the records of the store from the oldest on, and those of one time in the
order in which their identifiers entered the store since they were last absent from it; replacing a
record keeps that place, filing it anew gives the last one, and nothing else touches the order. -/
theorem listing_order {supplies : Supplies} {arguments : Option Settings.Arguments}
    {environment : Environment} (hs : Session.start supplies arguments environment = .ok s)
    {cs : List Command} (hcs : ∀ c ∈ cs, c.KeepsParts) :
    ∃ hs, (s.run cs).Lists (s.arrivals cs) hs ∧ (s.run cs).Relists hs := by
  have hcoherent : (s.run cs).Coherent := (Coherent.of_start hs).run hcs
  have hempty : s.store.Arrived [] := by
    rw [(start_eq_ok hs).2]
    exact List.nil_sublist _
  exact ⟨_, hcoherent.lists (arrived_run hempty cs), hcoherent.relists⟩

/-- Two seeded records of one time: a copy takes the place of the first one and is listed there, the
second one cannot be inserted again, and the first one comes last when it is filed anew. -/
theorem listing_order_seeded :
    let s := seeding (List.replicate KeyId.length 0 ++ List.replicate KeyId.length 1)
    let a : Text := List.replicate KeyId.length (.char 'a')
    let cs : List Command := [.seed, .copy 0, .replace 2, .insert 1,
      .assign 1 (.text "description") (.int 5)]
    let again : List Command := [.delete (.text a), .insert 0]
    Session.start s.supplies (some seedingArguments) [] = .ok s ∧
      (s.run cs).Lists (s.arrivals cs) [2, 1] ∧
      (s.run (cs ++ again)).Lists (s.arrivals cs ++ [a]) [1, 0] := by
  intro s a cs again
  have hstart : Session.start s.supplies (some seedingArguments) [] = .ok s := start_seeding _
  have hcs : ∀ c ∈ cs, c.KeepsParts := by simp [cs, Command.KeepsParts]
  have hall : ∀ c ∈ cs ++ again, c.KeepsParts := by simp [cs, again, Command.KeepsParts]
  have hlog : s.arrivals (cs ++ again) = s.arrivals cs ++ [a] := by decide +kernel
  have hlisted : (s.run cs).listed = [2, 1] :=
    (Store.list_of_pairwise (by decide +kernel)).trans (by decide +kernel)
  have hlisted' : (s.run (cs ++ again)).listed = [1, 0] :=
    (Store.list_of_pairwise (by decide +kernel)).trans (by decide +kernel)
  obtain ⟨hs, hlists, -⟩ := listing_order hstart hcs
  obtain ⟨hs', hlists', -⟩ := listing_order hstart hall
  obtain rfl : (s.run cs).listed = hs := Answer.records.inj (Except.ok.inj hlists.answer)
  obtain rfl : (s.run (cs ++ again)).listed = hs' :=
    Answer.records.inj (Except.ok.inj hlists'.answer)
  rw [hlisted] at hlists
  rw [hlisted', hlog] at hlists'
  exact ⟨hstart, hlists, hlists'⟩

end Session

end ApiKeys

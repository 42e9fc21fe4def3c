import ApiKeys.Proofs.Session.Filing

/-!
# The store and its records

A record may be changed while the store holds it, and the store is not told. It need not be: no
command changes the identifier of a record, short of replacing all its parts at once (`idOf?_step`).
So the entries of the store stay filed under the identifiers that their records have, however the
commands follow each other (`Coherent.step`, `Coherent.run`), and what the store answers in its
different ways agrees (`Ordered`).
-/

namespace ApiKeys

/-- The command asks something of the store. -/
def Command.ofStore : Command → Bool
  | .insert _ | .replace _ | .get _ | .delete _ | .contains _ | .size | .list | .seed => true
  | _ => false

namespace Session

variable {s : Session} {h : Handle} {id : Text} {c : Command}

/-! ## Identifiers -/

/-- **A command leaves the identifier of a record**, unless it replaces all its parts at once. -/
theorem idOf?_step (hid : s.idOf? h = some id) (hc : c.KeepsParts) :
    (s.step c).session.idOf? h = some id := by
  obtain ⟨r, hr, hr'⟩ := idOf?_eq_some_iff.1 hid
  have hlt : h < s.records.length := (List.getElem?_eq_some_iff.1 hr).1
  rcases (s.step_effect c).records with ⟨extra, he, -⟩ | ⟨h', old, new, -, hold, he, hsame⟩
  · exact idOf?_eq_some_iff.2 ⟨r, by rw [he, List.getElem?_append_left hlt, hr], hr'⟩
  · by_cases heq : h' = h
    · subst heq
      obtain rfl : r = old := Option.some.inj (hr.symm.trans hold)
      refine idOf?_eq_some_iff.2 ⟨new, by rw [he, List.getElem?_set_self hlt], ?_⟩
      rw [Held.filedAs?, (hsame hc).id]
      exact hr'
    · exact idOf?_eq_some_iff.2 ⟨r, by rw [he, List.getElem?_set_ne heq, hr], hr'⟩

theorem start_eq_ok {supplies : Supplies} {arguments : Option Settings.Arguments}
    {environment : Environment} (hs : Session.start supplies arguments environment = .ok s) :
    s.records = [] ∧ s.store = .empty := by
  rw [start] at hs
  revert hs
  rcases capture arguments (.start environment) with ⟨_ | builder, host⟩ <;> intro hs <;> cases hs
  exact ⟨rfl, rfl⟩

/-! ## The invariant -/

/-- Every record has an identifier that has the form of one, the entries of the store are filed
under the identifiers that their records have, and no two entries share one. -/
structure Coherent (s : Session) : Prop where
  identified : ∀ r ∈ s.records, ∃ id, r.filedAs? = some id ∧ KeyId.Valid id
  filed : ∀ entry ∈ s.store.entries, s.idOf? entry.2 = some entry.1
  apart : s.store.ids.Nodup

namespace Coherent

theorem of_start {supplies : Supplies} {arguments : Option Settings.Arguments}
    {environment : Environment} (hs : Session.start supplies arguments environment = .ok s) :
    s.Coherent := by
  obtain ⟨hrecords, hstore⟩ := start_eq_ok hs
  refine ⟨fun r hr => ?_, fun entry hentry => ?_, ?_⟩
  · rw [hrecords] at hr
    cases hr
  · rw [hstore] at hentry
    cases hentry
  · rw [hstore]
    exact List.nodup_nil

theorem valid (hs : s.Coherent) (hid : s.idOf? h = some id) : KeyId.Valid id := by
  obtain ⟨r, hr, hr'⟩ := idOf?_eq_some_iff.1 hid
  obtain ⟨id', hid', hvalid⟩ := hs.identified r (List.mem_of_getElem? hr)
  obtain rfl : id = id' := Option.some.inj (hr'.symm.trans hid')
  exact hvalid

theorem identified_step (hs : s.Coherent) (hc : c.KeepsParts) :
    ∀ r ∈ (s.step c).session.records, ∃ id, r.filedAs? = some id ∧ KeyId.Valid id := by
  intro r hr
  rcases (s.step_effect c).records with ⟨extra, he, hextra⟩ | ⟨h, old, new, -, hold, he, hsame⟩
  · rw [he] at hr
    rcases List.mem_append.1 hr with hr | hr
    · exact hs.identified r hr
    · rcases hextra r hr with hr | ⟨k, hk, rfl⟩
      · exact hs.identified r hr
      · exact ⟨k.id, rfl, hk.id⟩
  · rw [he] at hr
    rcases List.mem_or_eq_of_mem_set hr with hr | rfl
    · exact hs.identified r hr
    · rw [Held.filedAs?, (hsame hc).id]
      exact hs.identified old (List.mem_of_getElem? hold)

theorem filed_step (hs : s.Coherent) (hc : c.KeepsParts) :
    ∀ entry ∈ (s.step c).session.store.entries,
      (s.step c).session.idOf? entry.2 = some entry.1 := by
  intro entry hentry
  have hkept : entry ∈ s.store.entries → (s.step c).session.idOf? entry.2 = some entry.1 :=
    fun hold => idOf?_step (hs.filed entry hold) hc
  cases s.step_storeEffect c with
  | kept hstore => exact hkept (hstore ▸ hentry)
  | inserted hid _ _ hstore | replaced hid _ _ hstore =>
    rw [hstore] at hentry
    rcases Store.mem_put hentry with rfl | hold
    · exact idOf?_step hid hc
    · exact hkept hold
  | deleted _ hstore =>
    rw [hstore] at hentry
    exact hkept (Store.mem_erase hentry)
  | seeded _ _ hrecords hstore =>
    rw [hstore] at hentry
    rcases Store.mem_put hentry with rfl | hentry
    · simp [idOf?, hrecords]
    · rcases Store.mem_put hentry with rfl | hold
      · simp [idOf?, hrecords]
      · exact hkept hold

theorem apart_step (hs : s.Coherent) (c : Command) : (s.step c).session.store.ids.Nodup := by
  cases s.step_storeEffect c with
  | kept hstore =>
    rw [hstore]
    exact hs.apart
  | inserted _ _ _ hstore | replaced _ _ _ hstore =>
    rw [hstore]
    exact Store.nodup_put hs.apart _ _
  | deleted _ hstore =>
    rw [hstore]
    exact Store.nodup_erase hs.apart _
  | seeded _ _ _ hstore =>
    rw [hstore]
    exact Store.nodup_put (Store.nodup_put hs.apart _ _) _ _

/-- **A command keeps the session coherent.** -/
theorem step (hs : s.Coherent) (hc : c.KeepsParts) : (s.step c).session.Coherent :=
  ⟨hs.identified_step hc, hs.filed_step hc, hs.apart_step c⟩

theorem run {cs : List Command} (hs : s.Coherent) (hcs : ∀ c ∈ cs, c.KeepsParts) :
    (s.run cs).Coherent := by
  induction cs generalizing s with
  | nil => exact hs
  | cons c cs ih =>
    obtain ⟨hc, hcs⟩ := List.forall_mem_cons.1 hcs
    exact ih (hs.step hc) hcs

/-! ## What the store answers -/

theorem filter_listed (hs : s.Coherent) (id : Text) :
    (s.listed.filter fun h => s.idOf? h = some id) = (s.store.get? id).toList := by
  have hperm : (s.listed.filter fun h => s.idOf? h = some id).Perm (s.store.get? id).toList := by
    refine ((s.store.list_perm s.createdAt).filter _).trans (.of_eq ?_)
    rw [List.filter_map, ← Store.filter_entries hs.apart]
    refine congrArg (List.map Prod.snd) (List.filter_congr fun entry hentry => ?_)
    simp [hs.filed entry hentry]
  cases hget : s.store.get? id with
  | none =>
    rw [hget] at hperm
    exact List.perm_nil.1 hperm
  | some h =>
    rw [hget] at hperm
    exact List.perm_singleton.1 hperm

end Coherent

/-- The store says that an identifier is in it. -/
def Present (s : Session) (id : Text) : Prop :=
  (s.step (.contains (.text id))).answer = .ok (.flag true)

theorem present_iff : s.Present id ↔ s.store.contains id = true := by
  have hanswer : (s.step (.contains (.text id))).answer = .ok (.flag (s.store.contains id)) := rfl
  rw [Present, hanswer]
  exact ⟨fun h => Answer.flag.inj (Except.ok.inj h), fun h => by rw [h]⟩

theorem lookUp_eq_true {v : Value}
    (h : (s.lookUp v fun found => .flag found.isSome).answer = .ok (.flag true)) :
    ∃ id, v = .text id ∧ s.Present id := by
  rw [lookUp] at h
  cases hfind : s.store.find v with
  | error f =>
    rw [hfind] at h
    cases h
  | ok found =>
    rw [hfind] at h
    cases found with
    | none => cases h
    | some r =>
      obtain ⟨id, rfl, hget⟩ := Store.find_eq_some hfind
      exact ⟨id, rfl, present_iff.2 (by rw [Store.contains, hget]; rfl)⟩

theorem delete_eq_true_iff {v : Value} :
    (s.step (.delete v)).answer = .ok (.flag true) ↔ ∃ id, v = .text id ∧ s.Present id := by
  rw [step]
  unfold delete
  constructor
  · intro h
    split at h
    · cases h
    · cases v with
      | text id => exact ⟨id, rfl, present_iff.2 (Answer.flag.inj (Except.ok.inj h))⟩
      | _ => exact lookUp_eq_true h
  · rintro ⟨id, rfl, hpresent⟩
    rw [present_iff] at hpresent
    split
    · next hempty =>
      rw [Store.contains, Store.get?, hempty] at hpresent
      cases hpresent
    · dsimp only
      rw [hpresent]

/-! ## Failures -/

theorem session_delete_of_error {v : Value} {e : Failure} (he : (s.delete v).answer = .error e) :
    (s.delete v).session = s := by
  unfold delete at he ⊢
  split
  · rfl
  · next hfull =>
    rw [if_neg hfull] at he
    cases v with
    | text id => cases he
    | _ => exact session_lookUp _ _

/-- **What is asked of the store in vain leaves the store and all records.** -/
theorem step_ofStore_eq_error {e : Failure} (hc : c.ofStore = true)
    (he : (s.step c).answer = .error e) :
    (s.step c).session.store = s.store ∧ (s.step c).session.records = s.records := by
  have of_eq : (s.step c).session = s →
      (s.step c).session.store = s.store ∧ (s.step c).session.records = s.records :=
    fun heq => ⟨congrArg store heq, congrArg records heq⟩
  cases c with
  | insert h =>
    refine of_eq ?_
    rcases s.step_insert_cases h with heq | ⟨f, heq⟩ | ⟨id, store, -, -, heq⟩ <;> rw [heq] at he ⊢
    · rfl
    · cases he
  | replace h =>
    refine of_eq ?_
    rcases s.step_replace_cases h with heq | ⟨f, heq⟩ | ⟨id, store, -, -, heq⟩ <;> rw [heq] at he ⊢
    · rfl
    · cases he
  | get v | contains v => exact of_eq (session_lookUp _ _)
  | delete v => exact of_eq (session_delete_of_error he)
  | seed =>
    rw [step] at he ⊢
    rcases s.seed_cases with
      heq | ⟨supplies, -, ⟨f, heq⟩ | ⟨admin, search, -, -, -, heq⟩⟩ <;> rw [heq] at he ⊢
    · exact ⟨rfl, rfl⟩
    · exact ⟨rfl, rfl⟩
    · cases he
  | size | list => exact of_eq rfl
  | _ => cases hc

/-! ## Runs -/

/-- The store is in order. Its entries are filed under the valid identifiers that their records have
and no two share one; the ways to read it agree; a write fails only for what is in the store, or not
in it, deleting tells which, and a failure changes nothing. -/
structure Ordered (s : Session) : Prop where
  filed : ∀ entry ∈ s.store.entries, s.idOf? entry.2 = some entry.1 ∧ KeyId.Valid entry.1
  apart : s.store.ids.Nodup
  views : ∀ id, ∃ found hs, (s.step (.get (.text id))).answer = .ok (.found found) ∧
    (s.step (.contains (.text id))).answer = .ok (.flag found.isSome) ∧
    (s.step .list).answer = .ok (.records hs) ∧
    (hs.filter fun h => s.idOf? h = some id) = found.toList ∧
    (s.step .size).answer = .ok (.count hs.length)
  insert : ∀ h < s.records.length, ∃ id, s.idOf? h = some id ∧
    ((∃ e, (s.step (.insert h)).answer = .error e) ↔ s.Present id)
  replace : ∀ h < s.records.length, ∃ id, s.idOf? h = some id ∧
    ((∃ e, (s.step (.replace h)).answer = .error e) ↔ ¬ s.Present id)
  delete : ∀ v, (s.step (.delete v)).answer = .ok (.flag true) ↔ ∃ id, v = .text id ∧ s.Present id
  failure : ∀ c e, c.ofStore = true → (s.step c).answer = .error e →
    (s.step c).session.store = s.store ∧ (s.step c).session.records = s.records

namespace Coherent

theorem exists_id (hs : s.Coherent) (hh : h < s.records.length) : ∃ id, s.idOf? h = some id := by
  obtain ⟨id, hid, -⟩ := hs.identified _ (List.getElem_mem hh)
  exact ⟨id, idOf?_eq_some_iff.2 ⟨_, List.getElem?_eq_getElem hh, hid⟩⟩

theorem ordered (hs : s.Coherent) : s.Ordered where
  filed entry hentry := ⟨hs.filed entry hentry, hs.valid (hs.filed entry hentry)⟩
  apart := hs.apart
  views id := by
    refine ⟨s.store.get? id, s.listed, rfl, rfl, rfl, hs.filter_listed id, ?_⟩
    have hlength := (s.store.list_perm s.createdAt).length_eq
    rw [List.length_map] at hlength
    rw [listed, hlength]
    rfl
  insert h hh := by
    obtain ⟨id, hid⟩ := hs.exists_id hh
    refine ⟨id, hid, ?_⟩
    rw [step_insert hid, present_iff]
    split
    · next hpresent => exact ⟨fun _ => hpresent, fun _ => ⟨_, rfl⟩⟩
    · next habsent => exact ⟨fun ⟨e, he⟩ => (nomatch he), fun hpresent => absurd hpresent habsent⟩
  replace h hh := by
    obtain ⟨id, hid⟩ := hs.exists_id hh
    refine ⟨id, hid, ?_⟩
    rw [step_replace hid, present_iff]
    split
    · next hpresent => exact ⟨fun ⟨e, he⟩ => (nomatch he), fun habsent => absurd hpresent habsent⟩
    · next habsent => exact ⟨fun _ => habsent, fun _ => ⟨_, rfl⟩⟩
  delete v := delete_eq_true_iff
  failure c e hc he := step_ofStore_eq_error hc he

end Coherent

/-- **However a session goes on, its store is in order**, if no command replaces the parts of a
record all at once: records may be changed, copied and restored while the store holds them. -/
theorem ordered_run {supplies : Supplies} {arguments : Option Settings.Arguments}
    {environment : Environment} (hs : Session.start supplies arguments environment = .ok s)
    {cs : List Command} (hcs : ∀ c ∈ cs, c.KeepsParts) : (s.run cs).Ordered :=
  ((Coherent.of_start hs).run hcs).ordered

/-- The arguments that give the settings of a session that may be seeded. -/
def seedingArguments : Settings.Arguments :=
  [("environment", .text "testing"), ("debug", .bool false), ("log_level", .text "INFO"),
    ("seed_default_keys", .bool true), ("default_admin_description", .text ""),
    ("default_search_description", .text "")]

theorem start_seeding (draws : List Draw) :
    Session.start (seeding draws).supplies (some seedingArguments) [] = .ok (seeding draws) := by
  rfl

/-- A seeded store in which a copy takes the place of one record and the other one is given a number
for a description, after an identifier was assigned, and the copy inserted, in vain. -/
theorem ordered_run_seeded :
    let s := seeding [⟨0, by decide⟩, ⟨1, by decide⟩, ⟨2, by decide⟩]
    let cs : List Command := [.seed, .assign 0 (.text "id") (.text "x"), .copy 0, .insert 2,
      .assign 1 (.text "description") (.int 5), .delete (.text "x"), .replace 2]
    Session.start s.supplies (some seedingArguments) [] = .ok s ∧ (s.run cs).Ordered ∧
      (s.run cs).store.entries.map Prod.snd = [2, 1] := by
  intro s cs
  have hcs : ∀ c ∈ cs, c.KeepsParts := by simp [cs, Command.KeepsParts]
  exact ⟨start_seeding _, ordered_run (start_seeding _) hcs, by decide +kernel⟩

/-- A record in the store that is given other parts has another identifier than its entry, and the
store does not find it under that, although it lists it. -/
theorem replaced_parts_break_order :
    let s := seeding [⟨0, by decide⟩]
    let b : Text := List.replicate KeyId.length (.char 'b')
    let parts : Value := .object [("description", .null), ("id", .text b), ("actions", .list []),
      ("indexes", .list []), ("expires_at", .null), ("created_at", .time ⟨0, 0⟩),
      ("updated_at", .time ⟨0, 0⟩)]
    let t := s.run [.createDefault .admin, .insert 0, .assign 0 (.text "__dict__") parts]
    Session.start s.supplies (some seedingArguments) [] = .ok s ∧
      (t.step .list).answer = .ok (.records [0]) ∧ t.idOf? 0 = some b ∧ ¬ t.Present b ∧
      ¬ t.Ordered := by
  intro s b parts t
  obtain ⟨hid, habsent, hlist⟩ :
      t.idOf? 0 = some b ∧ t.store.get? b = none ∧ t.listed = [0] := by decide +kernel
  refine ⟨start_seeding _, by rw [step, hlist], hid, fun hpresent => ?_, fun hordered => ?_⟩
  · rw [present_iff, Store.contains, habsent] at hpresent
    cases hpresent
  · obtain ⟨found, hs, hget, -, hanswer, hfilter, -⟩ := hordered.views b
    rw [step, lookUp, Store.find, habsent] at hget
    obtain rfl := Answer.found.inj (Except.ok.inj hget)
    rw [step, hlist] at hanswer
    obtain rfl := Answer.records.inj (Except.ok.inj hanswer)
    simp [hid] at hfilter

end Session

end ApiKeys

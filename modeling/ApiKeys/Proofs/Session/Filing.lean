import ApiKeys.Proofs.Key.WellFormed
import ApiKeys.Proofs.Session.Step
import ApiKeys.Proofs.Store.Entries

/-!
# What the store keeps

Four commands write to the store, each in its own way (`StoreEffect`). What an identifier finds, it
finds until a replacement or a deletion that names it succeeds, with whatever builders the store is
used (`get?_calls`), and inserting a record where another one is found is refused. Seeding alone
does not look what is filed under an identifier: of two seeded records with one identifier only the
second one is kept (`filed_records`, `seed_overwrites`).
-/

namespace ApiKeys

/-- What a record is filed under: its identifier, if that is a text. -/
def Held.filedAs? (r : Held) : Option Text :=
  match r.id with
  | .ok (.text id) => some id
  | _ => none

theorem Held.filedAs?_eq_some_iff {r : Held} {id : Text} :
    r.filedAs? = some id ↔ r.id = .ok (.text id) := by
  unfold filedAs?
  split
  · next id' hid => simp [hid]
  · next hother => simpa using hother id

@[simp] theorem Held.filedAs?_ofKey (k : Key) : (ofKey k).filedAs? = some k.id := rfl

/-- A builder: its settings, with its clock and its source of draws. -/
structure Builder where
  settings : Settings
  supplies : Supplies

namespace Session

variable {s : Session} {h : Handle} {id : Text} {c : Command}

/-- What the record under a number is filed under. -/
def idOf? (s : Session) (h : Handle) : Option Text := s.records[h]?.bind Held.filedAs?

theorem idOf?_eq_some_iff :
    s.idOf? h = some id ↔ ∃ r, s.records[h]? = some r ∧ r.filedAs? = some id :=
  Option.bind_eq_some_iff

/-! ## Writing to the store -/

theorem insert_cases (r : Held) : (∃ f, s.insert h r = s.fail f) ∨
    ∃ id store, r.filedAs? = some id ∧ s.store.insert id h = .ok store ∧
      s.insert h r = ⟨.ok (.record h), [.stored id], { s with store }⟩ := by
  unfold insert
  split
  · exact .inl ⟨_, rfl⟩
  · next id hid =>
    cases hwrite : s.store.insert id h with
    | error e => exact .inl ⟨_, rfl⟩
    | ok store => exact .inr ⟨id, store, Held.filedAs?_eq_some_iff.2 hid, hwrite, rfl⟩
  · split <;> exact .inl ⟨_, rfl⟩

theorem replace_cases (r : Held) : (∃ f, s.replace h r = s.fail f) ∨
    ∃ id store, r.filedAs? = some id ∧ s.store.replace id h = .ok store ∧
      s.replace h r = ⟨.ok (.record h), [], { s with store }⟩ := by
  unfold replace
  split
  · exact .inl ⟨_, rfl⟩
  · next id hid =>
    cases hwrite : s.store.replace id h with
    | error e => exact .inl ⟨_, rfl⟩
    | ok store => exact .inr ⟨id, store, Held.filedAs?_eq_some_iff.2 hid, hwrite, rfl⟩
  · split <;> exact .inl ⟨_, rfl⟩

theorem onRecord_cases {file : Held → Outcome} {write : Text → Except Rejection Store}
    {filed : Text → Store → Outcome}
    (hfile : ∀ r, (∃ f, file r = s.fail f) ∨
      ∃ id store, r.filedAs? = some id ∧ write id = .ok store ∧ file r = filed id store) :
    s.onRecord h file = ⟨.ok .unknown, [], s⟩ ∨ (∃ f, s.onRecord h file = s.fail f) ∨
      ∃ id store, s.idOf? h = some id ∧ write id = .ok store ∧
        s.onRecord h file = filed id store := by
  rw [onRecord]
  cases hr : s.records[h]? with
  | none => exact .inl rfl
  | some r =>
    refine .inr ((hfile r).imp_right ?_)
    rintro ⟨id, store, hid, hwrite, heq⟩
    exact ⟨id, store, idOf?_eq_some_iff.2 ⟨r, hr, hid⟩, hwrite, heq⟩

theorem step_insert_cases (s : Session) (h : Handle) :
    s.step (.insert h) = ⟨.ok .unknown, [], s⟩ ∨ (∃ f, s.step (.insert h) = s.fail f) ∨
      ∃ id store, s.idOf? h = some id ∧ s.store.insert id h = .ok store ∧
        s.step (.insert h) = ⟨.ok (.record h), [.stored id], { s with store }⟩ :=
  onRecord_cases fun r => insert_cases r

theorem step_replace_cases (s : Session) (h : Handle) :
    s.step (.replace h) = ⟨.ok .unknown, [], s⟩ ∨ (∃ f, s.step (.replace h) = s.fail f) ∨
      ∃ id store, s.idOf? h = some id ∧ s.store.replace id h = .ok store ∧
        s.step (.replace h) = ⟨.ok (.record h), [], { s with store }⟩ :=
  onRecord_cases fun r => replace_cases r

theorem step_insert (hid : s.idOf? h = some id) :
    s.step (.insert h) = if s.store.contains id then s.fail (.rejected (.conflict (shownId id)))
      else ⟨.ok (.record h), [.stored id], { s with store := s.store.put id h }⟩ := by
  obtain ⟨r, hr, hr'⟩ := idOf?_eq_some_iff.1 hid
  rw [step, onRecord_of_some hr, insert, Held.filedAs?_eq_some_iff.1 hr']
  cases hc : s.store.contains id <;> simp [Store.insert, hc]

theorem step_replace (hid : s.idOf? h = some id) :
    s.step (.replace h) =
      if s.store.contains id then ⟨.ok (.record h), [], { s with store := s.store.put id h }⟩
      else s.fail (.rejected (.notFound (shownId id))) := by
  obtain ⟨r, hr, hr'⟩ := idOf?_eq_some_iff.1 hid
  rw [step, onRecord_of_some hr, replace, Held.filedAs?_eq_some_iff.1 hr']
  cases hc : s.store.contains id <;> simp [Store.replace, hc]

/-- What a command may do to the store. -/
inductive StoreEffect (s : Session) : Command → Outcome → Prop
  | kept {c : Command} {o : Outcome} : o.session.store = s.store → StoreEffect s c o
  | inserted {h : Handle} {id : Text} {o : Outcome} : s.idOf? h = some id →
      s.store.contains id = false → o.answer = .ok (.record h) →
      o.session.store = s.store.put id h → StoreEffect s (.insert h) o
  | replaced {h : Handle} {id : Text} {o : Outcome} : s.idOf? h = some id →
      s.store.contains id = true → o.answer = .ok (.record h) →
      o.session.store = s.store.put id h → StoreEffect s (.replace h) o
  | deleted {id : Text} {o : Outcome} : o.answer = .ok (.flag (s.store.contains id)) →
      o.session.store = s.store.erase id → StoreEffect s (.delete (.text id)) o
  | seeded {admin search : Key} {o : Outcome} : s.store.entries = [] →
      o.answer = .ok (.records [s.records.length, s.records.length + 1]) →
      o.session.records = s.records ++ [.ofKey admin, .ofKey search] →
      o.session.store =
        (s.store.put admin.id s.records.length).put search.id (s.records.length + 1) →
      StoreEffect s .seed o

/-- **Every command that writes to the store does so in its own way.** -/
theorem step_storeEffect (s : Session) (c : Command) : StoreEffect s c (s.step c) := by
  cases c with
  | insert h =>
    rcases s.step_insert_cases h with
      heq | ⟨f, heq⟩ | ⟨id, store, hid, hwrite, heq⟩ <;> rw [heq]
    · exact .kept rfl
    · exact .kept rfl
    · obtain ⟨habsent, rfl⟩ := Store.insert_eq_ok hwrite
      exact .inserted hid habsent rfl rfl
  | replace h =>
    rcases s.step_replace_cases h with
      heq | ⟨f, heq⟩ | ⟨id, store, hid, hwrite, heq⟩ <;> rw [heq]
    · exact .kept rfl
    · exact .kept rfl
    · obtain ⟨hpresent, rfl⟩ := Store.replace_eq_ok hwrite
      exact .replaced hid hpresent rfl rfl
  | delete v =>
    rw [step]
    unfold delete
    split
    · exact .kept rfl
    · cases v with
      | text id => exact .deleted rfl rfl
      | _ => exact .kept (congrArg Session.store (session_lookUp _ _))
  | seed =>
    rw [step]
    rcases s.seed_cases with
      heq | ⟨supplies, -, ⟨f, heq⟩ | ⟨admin, search, hempty, -, -, heq⟩⟩ <;> rw [heq]
    · exact .kept rfl
    · exact .kept rfl
    · exact .seeded hempty rfl rfl rfl
  | _ => exact .kept ((step_effect s _).store rfl)

/-! ## Runs with any builders -/

/-- The command names the identifier to replace or to delete what is filed under it, and succeeds.
-/
def Withdraws (id : Text) (s : Session) : Command → Prop
  | .replace h => s.idOf? h = some id ∧ (s.step (.replace h)).answer = .ok (.record h)
  | .delete v => v = .text id ∧ (s.step (.delete v)).answer = .ok (.flag true)
  | _ => False

/-- The session with another builder. -/
def use (s : Session) (b : Builder) : Session :=
  { s with builder := b.settings, supplies := b.supplies }

/-- The session after some commands, each with a builder of its own. -/
def calls (s : Session) : List (Builder × Command) → Session
  | [] => s
  | (b, c) :: rest => ((s.use b).step c).session.calls rest

/-- None of the commands withdraws the identifier. -/
def Spares (id : Text) : Session → List (Builder × Command) → Prop
  | _, [] => True
  | s, (b, c) :: rest => ¬ (s.use b).Withdraws id c ∧ Spares id ((s.use b).step c).session rest

/-- From here on the identifier finds the record, until it is withdrawn. -/
def Keeps (s : Session) (id : Text) (h : Handle) : Prop :=
  ∀ run, s.Spares id run → ((s.calls run).step (.get (.text id))).answer = .ok (.found (some h))

/-- **A command that does not withdraw an identifier leaves the record that it finds.** -/
theorem get?_step (hget : s.store.get? id = some h) (hc : ¬ s.Withdraws id c) :
    (s.step c).session.store.get? id = some h := by
  have hpresent : s.store.contains id = true := by rw [Store.contains, hget]; rfl
  cases s.step_storeEffect c with
  | kept hstore => rw [hstore, hget]
  | @inserted h' id' _ hid habsent hanswer hstore =>
    have hne : id ≠ id' := fun heq => by simp [← heq, hpresent] at habsent
    rw [hstore, Store.get?_put_of_ne _ hne, hget]
  | @replaced h' id' _ hid _ hanswer hstore =>
    have hne : id ≠ id' := fun heq => hc ⟨heq ▸ hid, hanswer⟩
    rw [hstore, Store.get?_put_of_ne _ hne, hget]
  | @deleted id' _ hanswer hstore =>
    have hne : id ≠ id' := by
      rintro rfl
      exact hc ⟨rfl, by rw [hanswer, hpresent]⟩
    rw [hstore, Store.get?_erase_of_ne _ hne, hget]
  | seeded hempty =>
    rw [Store.get?, hempty] at hget
    cases hget

/-- **What an identifier finds, it finds until it is withdrawn.** -/
theorem get?_calls {run : List (Builder × Command)} (hget : s.store.get? id = some h)
    (hrun : s.Spares id run) : (s.calls run).store.get? id = some h := by
  induction run generalizing s with
  | nil => exact hget
  | cons call rest ih =>
    obtain ⟨b, c⟩ := call
    have huse : (s.use b).store.get? id = some h := hget
    exact ih (get?_step huse hrun.1) hrun.2

theorem keeps_of_get? (hget : s.store.get? id = some h) : s.Keeps id h := by
  intro run hrun
  rw [step, lookUp, Store.find, get?_calls hget hrun]

theorem Keeps.get? (hkeeps : s.Keeps id h) : s.store.get? id = some h := by
  have hget := hkeeps [] trivial
  simpa [calls, step, lookUp, Store.find] using hget

/-! ## Inserting and seeding -/

theorem step_insert_eq_ok (ha : (s.step (.insert h)).answer = .ok (.record h)) :
    ∃ id, s.idOf? h = some id ∧ s.store.contains id = false ∧
      (s.step (.insert h)).session.store = s.store.put id h := by
  rcases s.step_insert_cases h with
    heq | ⟨f, heq⟩ | ⟨id, store, hid, hwrite, heq⟩ <;> rw [heq] at ha ⊢
  · cases ha
  · cases ha
  · obtain ⟨habsent, rfl⟩ := Store.insert_eq_ok hwrite
    exact ⟨id, hid, habsent, rfl⟩

theorem step_seed_eq_ok {hs : List Handle} (ha : (s.step .seed).answer = .ok (.records hs)) :
    (hs = [] ∧ (s.step .seed).session = s) ∨
      ∃ admin search : Key, s.store.entries = [] ∧
        hs = [s.records.length, s.records.length + 1] ∧
        (s.step .seed).session.idOf? s.records.length = some admin.id ∧
        (s.step .seed).session.idOf? (s.records.length + 1) = some search.id ∧
        (s.step .seed).session.store =
          (s.store.put admin.id s.records.length).put search.id (s.records.length + 1) := by
  rw [step] at ha ⊢
  rcases s.seed_cases with
    heq | ⟨supplies, -, ⟨f, heq⟩ | ⟨admin, search, hempty, -, -, heq⟩⟩ <;> rw [heq] at ha ⊢
  · exact .inl ⟨by cases ha; rfl, rfl⟩
  · cases ha
  · refine .inr ⟨admin, search, hempty, by cases ha; rfl, ?_, ?_, rfl⟩ <;>
      simp [idOf?]

/-- **Seeded records are kept if and only if they have different identifiers.** -/
theorem seeded_kept_iff {hs : List Handle} (ha : (s.step .seed).answer = .ok (.records hs)) :
    (hs.map (s.step .seed).session.idOf?).Nodup ↔ ∀ h ∈ hs, ∃ id,
      (s.step .seed).session.idOf? h = some id ∧ (s.step .seed).session.Keeps id h := by
  rcases step_seed_eq_ok ha with ⟨rfl, -⟩ | ⟨admin, search, -, rfl, hadmin, hsearch, hstore⟩
  · exact ⟨fun _ h hh => (nomatch hh), fun _ => List.nodup_nil⟩
  · rw [List.map_cons, List.map_singleton, hadmin, hsearch, List.nodup_cons]
    refine ⟨fun ⟨hdiff, _⟩ h hh => ?_, fun hkept => ⟨fun hsame => ?_, List.nodup_singleton _⟩⟩
    · have hne : admin.id ≠ search.id := fun heq => hdiff (by simp [heq])
      rcases List.mem_pair.1 hh with rfl | rfl
      · refine ⟨admin.id, hadmin, keeps_of_get? ?_⟩
        rw [hstore, Store.get?_put_of_ne _ hne, Store.get?_put_self]
      · exact ⟨search.id, hsearch, keeps_of_get? (by rw [hstore, Store.get?_put_self])⟩
    · -- The identifier finds only the second record, so the first one is not kept.
      obtain ⟨id, hid, hkeeps⟩ := hkept _ List.mem_cons_self
      have heq : admin.id = search.id := Option.some.inj (List.mem_singleton.1 hsame)
      obtain rfl : admin.id = id := Option.some.inj (hadmin.symm.trans hid)
      have hget := hkeeps.get?
      rw [hstore, heq, Store.get?_put_self] at hget
      exact absurd (Option.some.inj hget) (Nat.succ_ne_self _)

/-- **A record that was filed is kept.** What an insertion gives is what its identifier finds until
it is withdrawn, and an insertion under an identifier in use is refused and changes nothing. What a
seeding gives is kept so if, and only if, the new records have different identifiers; a store with
entries is not seeded. -/
theorem filed_records (s : Session) :
    (∀ h, (s.step (.insert h)).answer = .ok (.record h) → ∃ id, s.idOf? h = some id ∧
      s.store.contains id = false ∧ (s.step (.insert h)).session.Keeps id h) ∧
    (∀ h id, s.idOf? h = some id → s.store.contains id = true →
      s.step (.insert h) = s.fail (.rejected (.conflict (shownId id)))) ∧
    (∀ hs, (s.step .seed).answer = .ok (.records hs) →
      ((hs.map (s.step .seed).session.idOf?).Nodup ↔ ∀ h ∈ hs, ∃ id,
        (s.step .seed).session.idOf? h = some id ∧ (s.step .seed).session.Keeps id h)) ∧
    (s.store.entries ≠ [] → s.step .seed = ⟨.ok (.records []), [], s⟩) := by
  refine ⟨fun h ha => ?_, fun h id hid hpresent => ?_, fun hs ha => seeded_kept_iff ha,
    fun hfull => ?_⟩
  · obtain ⟨id, hid, habsent, hstore⟩ := step_insert_eq_ok ha
    exact ⟨id, hid, habsent, keeps_of_get? (by rw [hstore, Store.get?_put_self])⟩
  · rw [step_insert hid, if_pos hpresent]
  · rw [step, seed, if_pos (.inr hfull)]

/-! ## Small runs -/

/-- A session that may be seeded once, at the first microsecond of year 1, with the given draws. -/
def seeding (draws : List Draw) : Session :=
  { sample [] with
    builder := ⟨.testing, false, "INFO", true, "", ""⟩
    supplies := ⟨.scripted [⟨0, 0⟩, ⟨0, 0⟩], .ofList draws (2 * KeyId.length), ⟨0, 0⟩⟩ }

/-- A record that is inserted beside another one, and two records with different identifiers that
are seeded. -/
theorem filed_records_beside :
    let s : Session := { sample [.ofKey (.blank "a" ⟨0⟩), .ofKey (.blank "b" ⟨0⟩)] with
      store := ⟨[("b", 1)]⟩ }
    let t := seeding [⟨0, by decide⟩, ⟨1, by decide⟩, ⟨2, by decide⟩]
    let run : List (Builder × Command) := [(⟨s.builder, s.supplies⟩, .insert 1),
      (⟨t.builder, t.supplies⟩, .seed), (⟨s.builder, s.supplies⟩, .delete (.text "b"))]
    (((s.step (.insert 0)).session.calls run).step (.get (.text "a"))).answer =
        .ok (.found (some 0)) ∧
      s.step (.insert 1) = s.fail (.rejected (.conflict (shownId "b"))) ∧
      s.step .seed = ⟨.ok (.records []), [], s⟩ ∧
      (t.step .seed).answer = .ok (.records [0, 1]) ∧
      ∀ h ∈ [0, 1], ∃ id, (t.step .seed).session.Keeps id h := by
  intro s t run
  have hother : (Value.text "b") ≠ .text "a" := fun heq =>
    absurd (Value.text.inj heq) (by decide)
  obtain ⟨hinsert, hconflict, -, hfull⟩ := filed_records s
  obtain ⟨-, -, hseed, -⟩ := filed_records t
  obtain ⟨id, hid, -, hkeeps⟩ := hinsert 0 rfl
  obtain rfl : id = ("a" : Text) := (Option.some.inj hid).symm
  have hanswer : (t.step .seed).answer = .ok (.records [0, 1]) :=
    answer_of_toOption (by decide +kernel)
  have hdiff : ([0, 1].map (t.step .seed).session.idOf?).Nodup := by decide +kernel
  refine ⟨hkeeps run ⟨id, id, fun h => hother h.1, trivial⟩,
    hconflict 1 "b" rfl rfl, hfull (List.cons_ne_nil _ _), hanswer, fun h hh => ?_⟩
  obtain ⟨id, -, hkept⟩ := (hseed [0, 1] hanswer).1 hdiff h hh
  exact ⟨id, hkept⟩

/-- Where the draws repeat, both seeded records get one identifier, and only the second one is kept.
-/
theorem seed_overwrites :
    let s := seeding [⟨0, by decide⟩]
    let t := (s.step .seed).session
    let id : Text := List.replicate KeyId.length (.char 'a')
    (s.step .seed).answer = .ok (.records [0, 1]) ∧ t.idOf? 0 = some id ∧ t.idOf? 1 = some id ∧
      (t.step (.get (.text id))).answer = .ok (.found (some 1)) ∧ ¬ t.Keeps id 0 := by
  intro s t id
  have hget : t.store.get? id = some 1 := by decide +kernel
  refine ⟨answer_of_toOption (by decide +kernel), by decide +kernel, by decide +kernel, ?_,
    fun hkeeps => ?_⟩
  · rw [step, lookUp, Store.find, hget]
  · rw [hkeeps.get?] at hget
    cases hget

end Session

end ApiKeys

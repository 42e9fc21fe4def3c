import ApiKeys.Proofs.Session.Coherence

/-!
# Seeding

Seeding fills an empty store or does nothing. Both records are built before either one is filed, so
a failure of the clock or of the draws, at whichever call, leaves the store empty (`AllOrNothing`).
An identifier leaves the store only when it is deleted (`deleted_of_not_present`), so a store that
was seeded is not seeded again until every identifier that came into it has been deleted. Whether a
builder seeds is settled when it captures its settings: the variables of the host have no part in it
(`builder_run`, `step_seed_host`).
-/

namespace ApiKeys

/-- The command gives the session no new builder. -/
def Command.KeepsBuilder : Command → Prop
  | .newBuilder _ => False
  | _ => True

namespace Session

variable {s : Session} {id : Text} {c : Command}

/-- Seeding gives no record and changes nothing at all. -/
def SeedsNothing (s : Session) : Prop := s.step .seed = ⟨.ok (.records []), [], s⟩

/-- The builder of the session may seed, and the store is empty. -/
def Seedable (s : Session) : Prop := s.builder.seedDefaultKeys = true ∧ s.store.entries = []

theorem not_seedable_iff :
    ¬ s.Seedable ↔ s.builder.seedDefaultKeys = false ∨ s.store.entries ≠ [] := by
  rw [Seedable, not_and_or, Bool.not_eq_true]

/-! ## One seeding -/

theorem step_seed_of_not_seedable (h : ¬ s.Seedable) : s.SeedsNothing := by
  rw [SeedsNothing, step, seed, if_pos (not_seedable_iff.1 h)]

theorem step_seed_of_admin {f : Failure} {rest : Supplies} (h : s.Seedable)
    (hadmin : Key.createDefault s.builder .admin s.supplies = (.error f, rest)) :
    s.step .seed = ({ s with supplies := rest } : Session).fail f := by
  rw [step, seed, if_neg fun hnot => not_seedable_iff.2 hnot h, hadmin]

theorem step_seed_of_search {admin : Key} {left rest : Supplies} {f : Failure} (h : s.Seedable)
    (hadmin : Key.createDefault s.builder .admin s.supplies = (.ok admin, left))
    (hsearch : Key.createDefault s.builder .search left = (.error f, rest)) :
    s.step .seed = ({ s with supplies := rest } : Session).fail f := by
  rw [step, seed, if_neg fun hnot => not_seedable_iff.2 hnot h, hadmin]
  dsimp only
  rw [hsearch]

theorem step_seed_of_both {admin search : Key} {left rest : Supplies} (h : s.Seedable)
    (hadmin : Key.createDefault s.builder .admin s.supplies = (.ok admin, left))
    (hsearch : Key.createDefault s.builder .search left = (.ok search, rest)) :
    s.step .seed = ⟨.ok (.records [s.records.length, s.records.length + 1]), [.seeded 2],
      { s with
        records := s.records ++ [.ofKey admin, .ofKey search]
        store := (s.store.put admin.id s.records.length).put search.id (s.records.length + 1)
        supplies := rest }⟩ := by
  rw [step, seed, if_neg fun hnot => not_seedable_iff.2 hnot h, hadmin]
  dsimp only
  rw [hsearch]

theorem not_seedsNothing (h : s.Seedable) : ¬ s.SeedsNothing := by
  rw [SeedsNothing]
  rcases hadmin : Key.createDefault s.builder .admin s.supplies with ⟨_ | admin, left⟩
  · rw [step_seed_of_admin h hadmin]
    exact fun heq => nomatch congrArg Outcome.answer heq
  · rcases hsearch : Key.createDefault s.builder .search left with ⟨_ | search, rest⟩
    · rw [step_seed_of_search h hadmin hsearch]
      exact fun heq => nomatch congrArg Outcome.answer heq
    · rw [step_seed_of_both h hadmin hsearch]
      exact fun heq => nomatch congrArg Outcome.answer heq

/-- **Seeding does nothing exactly where the builder may not seed or the store holds a record.** -/
theorem seedsNothing_iff :
    s.SeedsNothing ↔ s.builder.seedDefaultKeys = false ∨ s.store.entries ≠ [] := by
  rw [← not_seedable_iff]
  exact ⟨fun hnothing h => not_seedsNothing h hnothing, step_seed_of_not_seedable⟩

theorem entries_put_put {store : Store} (hempty : store.entries = []) {a b : Text} (hab : a ≠ b)
    (h h' : Handle) : ((store.put a h).put b h').entries = [(a, h), (b, h')] := by
  simp [Store.put, hempty, Store.putEntry, hab]

/-- What seeding may come to. Where the builder may not seed or the store holds a record, it does
nothing; elsewhere a failure to build the first record, or the second one from what the first one
leaves, is the failure of the seeding, which then has used supplies and nothing more; and two
records that could be built are given, in order, and are all that the store holds if they can be
told apart. -/
structure AllOrNothing (s : Session) : Prop where
  idle : s.SeedsNothing ↔ s.builder.seedDefaultKeys = false ∨ s.store.entries ≠ []
  admin : ∀ f rest, s.Seedable →
    Key.createDefault s.builder .admin s.supplies = (.error f, rest) →
    s.step .seed = ⟨.error f, [], { s with supplies := rest }⟩
  search : ∀ k left f rest, s.Seedable →
    Key.createDefault s.builder .admin s.supplies = (.ok k, left) →
    Key.createDefault s.builder .search left = (.error f, rest) →
    s.step .seed = ⟨.error f, [], { s with supplies := rest }⟩
  both : ∀ k left l rest, s.Seedable →
    Key.createDefault s.builder .admin s.supplies = (.ok k, left) →
    Key.createDefault s.builder .search left = (.ok l, rest) →
    (s.step .seed).answer = .ok (.records [s.records.length, s.records.length + 1]) ∧
      (s.step .seed).session.records = s.records ++ [.ofKey k, .ofKey l] ∧
      (s.step .seed).session.supplies = rest ∧
      (k.id ≠ l.id → (s.step .seed).session.store.entries =
        [(k.id, s.records.length), (l.id, s.records.length + 1)])

theorem allOrNothing (s : Session) : s.AllOrNothing where
  idle := seedsNothing_iff
  admin _ _ h hadmin := step_seed_of_admin h hadmin
  search _ _ _ _ h hadmin hsearch := step_seed_of_search h hadmin hsearch
  both k left l rest h hadmin hsearch := by
    rw [step_seed_of_both h hadmin hsearch]
    exact ⟨rfl, rfl, rfl, fun hne => entries_put_put h.2 hne _ _⟩

/-! ## Deletions -/

theorem present_step (hid : s.Present id)
    (hc : ¬ (c = .delete (.text id) ∧ (s.step c).answer = .ok (.flag true))) :
    (s.step c).session.Present id := by
  rw [present_iff] at hid ⊢
  cases s.step_storeEffect c with
  | kept hstore => rwa [hstore]
  | inserted _ _ _ hstore | replaced _ _ _ hstore =>
    rw [hstore]
    exact Store.contains_put_of_contains hid _ _
  | @deleted id' _ hanswer hstore =>
    have hne : id ≠ id' := by
      rintro rfl
      exact hc ⟨rfl, by rw [hanswer, hid]⟩
    rwa [hstore, Store.contains, Store.get?_erase_of_ne _ hne]
  | seeded _ _ _ hstore =>
    rw [hstore]
    exact Store.contains_put_of_contains (Store.contains_put_of_contains hid _ _) _ _

/-- One of the calls deletes the identifier. -/
def Deletes (id : Text) (s : Session) (run : List (Builder × Command)) : Prop :=
  ∃ before b after, run = before ++ (b, .delete (.text id)) :: after ∧
    (((s.calls before).use b).step (.delete (.text id))).answer = .ok (.flag true)

theorem Deletes.cons {b : Builder} {run : List (Builder × Command)}
    (h : ((s.use b).step c).session.Deletes id run) : s.Deletes id ((b, c) :: run) := by
  obtain ⟨before, b', after, rfl, hanswer⟩ := h
  exact ⟨(b, c) :: before, b', after, rfl, hanswer⟩

theorem deleted_of_not_present {run : List (Builder × Command)} (hid : s.Present id)
    (hgone : ¬ (s.calls run).Present id) : s.Deletes id run := by
  induction run generalizing s with
  | nil => exact absurd hid hgone
  | cons call rest ih =>
    obtain ⟨b, c⟩ := call
    by_cases hc : c = .delete (.text id) ∧ ((s.use b).step c).answer = .ok (.flag true)
    · obtain ⟨rfl, hanswer⟩ := hc
      exact ⟨[], b, rest, rfl, hanswer⟩
    · have huse : (s.use b).Present id := hid
      exact (ih (present_step huse hc) hgone).cons

theorem not_present_of_empty (h : s.store.entries = []) : ¬ s.Present id := by
  rw [present_iff, Store.contains, Store.get?, h]
  exact Bool.false_ne_true

theorem present_of_seeded {hs : List Handle} (ha : (s.step .seed).answer = .ok (.records hs)) :
    ∀ h ∈ hs, ∃ id, (s.step .seed).session.idOf? h = some id ∧
      (s.step .seed).session.Present id := by
  rcases step_seed_eq_ok ha with ⟨rfl, -⟩ | ⟨admin, search, -, rfl, hadmin, hsearch, hstore⟩
  · exact fun h hh => nomatch hh
  · intro h hh
    rcases List.mem_pair.1 hh with rfl | rfl
    · refine ⟨admin.id, hadmin, present_iff.2 ?_⟩
      rw [hstore]
      exact Store.contains_put_of_contains (Store.contains_put_self _ _ _) _ _
    · refine ⟨search.id, hsearch, present_iff.2 ?_⟩
      rw [hstore, Store.contains_put_self]

theorem calls_append (s : Session) (before after : List (Builder × Command)) :
    s.calls (before ++ after) = (s.calls before).calls after := by
  induction before generalizing s with
  | nil => rfl
  | cons call before ih =>
    obtain ⟨b, c⟩ := call
    exact ih _

theorem deletes_of_seeds {run : List (Builder × Command)} {b : Builder}
    (h : ¬ ((s.calls run).use b).SeedsNothing) (hid : s.Present id) : s.Deletes id run := by
  have hempty : (s.calls run).store.entries = [] := by
    rw [seedsNothing_iff, not_or, not_not] at h
    exact h.2
  exact deleted_of_not_present hid (not_present_of_empty hempty)

/-! ## Captured settings -/

/-- **A builder keeps its settings**, whatever becomes of the variables and the settings of the
host. -/
theorem builder_step (s : Session) (hc : c.KeepsBuilder) : (s.step c).session.builder = s.builder := by
  have hrecord : ∀ {h : Handle} {f : Held → Outcome}, (∀ r, (f r).session.builder = s.builder) →
      (s.onRecord h f).session.builder = s.builder :=
    onRecord_leaves (P := fun t => t.builder = s.builder) rfl
  cases c with
  | create body =>
    obtain ⟨records, heq⟩ := session_give (Key.create body s.supplies).1 _
    rw [step_create, heq]
  | createDefault which =>
    obtain ⟨records, heq⟩ := session_give (Key.createDefault s.builder which s.supplies).1 _
    rw [step_createDefault, heq]
  | restore data =>
    obtain ⟨records, heq⟩ := session_give (s := s) (Key.ofStored data) fun _ => []
    rw [step, heq]
  | update h body =>
    obtain ⟨records, clock, -, heq⟩ := s.session_update h body
    rw [heq]
  | copy h =>
    refine hrecord fun r => ?_
    cases r.copyFault? <;> rfl
  | assign h name value =>
    refine hrecord fun r => ?_
    obtain ⟨records, assignments, heq⟩ := session_assign (s := s) (h := h) r name value
    rw [heq]
  | insert h =>
    refine hrecord fun r => ?_
    obtain ⟨store, heq⟩ := session_insert (s := s) (h := h) r
    rw [heq]
  | replace h =>
    refine hrecord fun r => ?_
    obtain ⟨store, heq⟩ := session_replace (s := s) (h := h) r
    rw [heq]
  | get v | contains v => rw [step, session_lookUp]
  | delete v =>
    obtain ⟨store, heq⟩ := session_delete (s := s) v
    rw [step, heq]
  | seed =>
    rw [step]
    rcases s.seed_cases with
      heq | ⟨supplies, -, ⟨f, heq⟩ | ⟨admin, search, -, -, -, heq⟩⟩ <;> rw [heq]
    rfl
  | newBuilder arguments => exact hc.elim
  | _ => rfl

theorem builder_run {cs : List Command} (hcs : ∀ c ∈ cs, c.KeepsBuilder) :
    (s.run cs).builder = s.builder := by
  induction cs generalizing s with
  | nil => rfl
  | cons c cs ih =>
    obtain ⟨hc, hcs⟩ := List.forall_mem_cons.1 hcs
    exact (ih hcs).trans (builder_step s hc)

theorem builder_newBuilder {arguments : Option Settings.Arguments} {settings : Settings}
    (h : (capture arguments s.host).1 = .ok settings) :
    (s.step (.newBuilder arguments)).session.builder = settings := by
  rw [step]
  rcases hcapture : capture arguments s.host with ⟨o, host⟩
  obtain rfl : o = .ok settings := by rwa [hcapture] at h
  rfl

theorem step_seed_host (s : Session) (host : Host) : ({ s with host } : Session).step .seed =
    { s.step .seed with session := { (s.step .seed).session with host } } := by
  by_cases h : s.Seedable
  · have h' : ({ s with host } : Session).Seedable := h
    rcases hadmin : Key.createDefault s.builder .admin s.supplies with ⟨_ | admin, left⟩
    · rw [step_seed_of_admin h hadmin, step_seed_of_admin h' hadmin]
      rfl
    · rcases hsearch : Key.createDefault s.builder .search left with ⟨_ | search, rest⟩
      · rw [step_seed_of_search h hadmin hsearch, step_seed_of_search h' hadmin hsearch]
        rfl
      · rw [step_seed_of_both h hadmin hsearch, step_seed_of_both h' hadmin hsearch]
  · have h' : ¬ ({ s with host } : Session).Seedable := h
    rw [step_seed_of_not_seedable h, step_seed_of_not_seedable h']

/-! ## Runs -/

/-- **Seeding is all or nothing, and only into an empty store.** It does nothing where the builder
may not seed or the store holds a record, and elsewhere it files both records or none
(`AllOrNothing`). After it has given records, a later seeding, by whatever builder, does nothing
until each of them, and each record that came into the store since, has been deleted. Whether it
seeds is settled by the settings that the builder has captured: the host has no part in it, whatever
becomes of its variables. -/
theorem seeds_all_or_nothing (s : Session) :
    s.AllOrNothing ∧
    (∀ h hs, (s.step .seed).answer = .ok (.records (h :: hs)) →
      (∀ h' ∈ h :: hs, ∃ id, (s.step .seed).session.idOf? h' = some id ∧
        (s.step .seed).session.Present id) ∧
      ∀ earlier later b,
        ¬ (((s.step .seed).session.calls (earlier ++ later)).use b).SeedsNothing →
          ∀ id, ((s.step .seed).session.calls earlier).Present id →
            ((s.step .seed).session.calls earlier).Deletes id later) ∧
    (∀ cs, (∀ c ∈ cs, c.KeepsBuilder) → ((s.run cs).SeedsNothing ↔
      s.builder.seedDefaultKeys = false ∨ (s.run cs).store.entries ≠ [])) ∧
    (∀ arguments settings, (capture arguments s.host).1 = .ok settings →
      (s.step (.newBuilder arguments)).session.builder = settings) ∧
    (∀ host, ({ s with host } : Session).step .seed =
      { s.step .seed with session := { (s.step .seed).session with host } }) := by
  refine ⟨s.allOrNothing, fun h hs ha => ⟨present_of_seeded ha, fun earlier later b hseeds id hid => ?_⟩,
    fun cs hcs => ?_, fun arguments settings => builder_newBuilder, s.step_seed_host⟩
  · rw [calls_append] at hseeds
    exact deletes_of_seeds hseeds hid
  · rw [seedsNothing_iff, builder_run hcs]

/-- A session that is seeded once more only when both of its records have been deleted, although its
host forbids it by then; and one whose draws end within the second identifier. -/
theorem seeds_all_or_nothing_deleted :
    let s := seeding [⟨0, by decide⟩, ⟨1, by decide⟩, ⟨2, by decide⟩]
    let short : Session :=
      { s with supplies := { s.supplies with draws := .ofList [⟨0, by decide⟩] (KeyId.length + 9) } }
    let t := (s.step .seed).session
    let id (h : Handle) : Text := (t.idOf? h).getD []
    let b : Builder := ⟨s.builder, s.supplies⟩
    let first : List (Builder × Command) :=
      [(b, .setVariable (.text "AUTHKEYS_SEED_DEFAULT_KEYS") (.text "no")), (b, .delete (.text (id 1)))]
    let second : List (Builder × Command) := [(b, .clearSettings), (b, .delete (.text (id 0)))]
    (s.step .seed).answer = .ok (.records [0, 1]) ∧ t.store.entries = [(id 0, 0), (id 1, 1)] ∧
      ((t.calls first).use b).SeedsNothing ∧ ¬ ((t.calls (first ++ second)).use b).SeedsNothing ∧
      (t.calls first).Deletes (id 0) second ∧
      ∃ f, (short.step .seed).answer = .error f ∧ (short.step .seed).session.store = .empty := by
  intro s short t id b first second
  have hanswer : (s.step .seed).answer = .ok (.records [0, 1]) :=
    answer_of_toOption (by decide +kernel)
  have hleft : (t.calls first).store.get? (id 0) = some 0 := by decide +kernel
  have hfull : ((t.calls first).use b).store.entries ≠ [] := by decide +kernel
  have hempty : ((t.calls (first ++ second)).use b).store.entries = [] := by decide +kernel
  have hmay : ((t.calls (first ++ second)).use b).builder.seedDefaultKeys ≠ false := by
    decide +kernel
  have hidle := (seeds_all_or_nothing ((t.calls first).use b)).1.idle
  have hseeds : ¬ ((t.calls (first ++ second)).use b).SeedsNothing := by
    rw [(seeds_all_or_nothing ((t.calls (first ++ second)).use b)).1.idle, not_or, not_not]
    exact ⟨hmay, hempty⟩
  refine ⟨hanswer, by decide +kernel, hidle.2 (.inr hfull), hseeds, ?_, ?_⟩
  · refine ((seeds_all_or_nothing s).2.1 0 [1] hanswer).2 first second b hseeds (id 0) ?_
    rw [present_iff, Store.contains, hleft]
    rfl
  · have hadmin : (Key.createDefault short.builder .admin short.supplies).1.toOption.isSome = true := by
      decide +kernel
    have hsearch : (Key.createDefault short.builder .search
        (Key.createDefault short.builder .admin short.supplies).2).1.toOption.isSome = false := by
      decide +kernel
    rcases hk : Key.createDefault short.builder .admin short.supplies with ⟨_ | k, left⟩
    · rw [hk] at hadmin
      cases hadmin
    · rw [hk] at hsearch
      dsimp only at hsearch
      rcases hl : Key.createDefault short.builder .search left with ⟨f | l, rest⟩
      · refine ⟨f, ?_⟩
        rw [(seeds_all_or_nothing short).1.search k left f rest ⟨rfl, rfl⟩ hk hl]
        exact ⟨rfl, rfl⟩
      · rw [hl] at hsearch
        cases hsearch

end Session

end ApiKeys

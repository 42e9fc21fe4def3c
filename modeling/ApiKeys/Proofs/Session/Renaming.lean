import ApiKeys.Proofs.Key.Renaming
import ApiKeys.Proofs.Session.Step

/-!
# What a session shows of its identifiers

Identifiers are compared with each other, filed and looked up, and a part of them is shown; nothing
else is done with them. So two sessions that differ in their identifiers alone, and in those alone
that are still to be drawn, go on alike: each command gets the same answer, is reported in the same
words, and leaves sessions that differ in the same way (`Renaming.step`, `Renaming.run`). The main
statement is `Session.shown_of_renamed`: what a session shows tells no more of an identifier than
its first eight characters.
-/

namespace ApiKeys

/-- A store with its identifiers renamed. -/
def Store.rename (f : Text → Text) (s : Store) : Store :=
  ⟨s.entries.map fun entry => (f entry.1, entry.2)⟩

/-- An event with its identifier renamed. -/
def Event.rename (f : Text → Text) : Event → Event
  | .created id actions indexes => .created (f id) actions indexes
  | .updated id fields => .updated (f id) fields
  | .stored id => .stored (f id)
  | .deleted id => .deleted (f id)
  | .seeded count => .seeded count

namespace Command

/-- A command with the identifier that it names renamed. -/
def rename (f : Text → Text) : Command → Command
  | .get id => .get (id.rename f)
  | .delete id => .delete (id.rename f)
  | .contains id => .contains (id.rename f)
  | c => c

/-- The command brings no identifier into a record from outside, by an assignment or in stored
data. -/
def BringsNoId : Command → Prop
  | .assign .. | .restore _ => False
  | _ => True

end Command

/-- A session with its identifiers renamed, and with other supplies. -/
def Session.rename (f : Text → Text) (supplies : Supplies) (s : Session) : Session :=
  { s with
    records := s.records.map (Held.rename f)
    store := s.store.rename f
    supplies }

/-- An outcome with its identifiers renamed, and with other supplies after it. -/
def Outcome.rename (f : Text → Text) (supplies : Supplies) (o : Outcome) : Outcome :=
  ⟨o.answer, o.events.map (Event.rename f), o.session.rename f supplies⟩

variable {f : Text → Text}

namespace Renaming

variable (hf : Renaming f)
include hf

theorem event (e : Event) :
    (e.rename f).message = e.message ∧ (e.rename f).extra = e.extra := by
  cases e <;> simp [Event.rename, Event.message, Event.extra, Event.shownIdMember, hf.shown]

/-! ## Stores -/

theorem get?_rename (s : Store) (id : Text) : (s.rename f).get? (f id) = s.get? id := by
  obtain ⟨entries⟩ := s
  show List.lookup (f id) (entries.map fun entry => (f entry.1, entry.2)) = List.lookup id entries
  induction entries with
  | nil => rfl
  | cons entry entries ih =>
    have hkey : (f id == f entry.1) = (id == entry.1) := by
      rw [Bool.eq_iff_iff, beq_iff_eq, beq_iff_eq, hf.injective.eq_iff]
    rw [List.map_cons, List.lookup_cons, hkey, List.lookup_cons, ih]

theorem contains_rename (s : Store) (id : Text) :
    (s.rename f).contains (f id) = s.contains id := by
  rw [Store.contains, Store.contains, hf.get?_rename]

theorem put_rename (s : Store) (id : Text) (h : Handle) :
    (s.rename f).put (f id) h = (s.put id h).rename f := by
  obtain ⟨entries⟩ := s
  refine congrArg Store.mk ?_
  show Store.putEntry (f id) h (entries.map fun entry => (f entry.1, entry.2)) =
    (Store.putEntry id h entries).map fun entry => (f entry.1, entry.2)
  induction entries with
  | nil => rfl
  | cons entry entries ih =>
    simp only [List.map_cons, Store.putEntry, hf.injective.eq_iff, ih]
    split <;> rfl

theorem erase_rename (s : Store) (id : Text) :
    (s.rename f).erase (f id) = (s.erase id).rename f := by
  refine congrArg Store.mk ?_
  rw [Store.rename, List.filter_map]
  simp only [Function.comp_def, ne_eq, hf.injective.eq_iff]
  rfl

theorem insert_rename (s : Store) (id : Text) (h : Handle) :
    (s.rename f).insert (f id) h = (s.insert id h).map (Store.rename f) := by
  rw [Store.insert, Store.insert, hf.contains_rename, hf.shown, hf.put_rename]
  split <;> rfl

theorem replace_rename (s : Store) (id : Text) (h : Handle) :
    (s.rename f).replace (f id) h = (s.replace id h).map (Store.rename f) := by
  rw [Store.replace, Store.replace, hf.contains_rename, hf.shown, hf.put_rename]
  split <;> rfl

theorem find_rename (s : Store) (v : Value) : (s.rename f).find (v.rename f) = s.find v := by
  cases v with
  | text id => exact congrArg Except.ok (hf.get?_rename s id)
  | _ => rfl

end Renaming

theorem Store.list_rename (f : Text → Text) (s : Store) : (s.rename f).list = s.list := by
  funext createdAt
  rw [list, list, rename, List.map_map]
  rfl

/-! ## Outcomes -/

/-- An outcome is the renamed one of another, up to supplies that yield the renamed identifiers. -/
def Outcome.Renames (f : Text → Text) (o o' : Outcome) : Prop :=
  ∃ supplies, o.session.supplies.Renames f supplies ∧ o' = o.rename f supplies

namespace Session

variable {s : Session} {supplies : Supplies}

theorem renames_fail (h : s.supplies.Renames f supplies) (e : Failure) :
    (s.fail e).Renames f ((s.rename f supplies).fail e) :=
  ⟨supplies, h, rfl⟩

theorem renames_give {r r' : Except Failure Key} {events events' : Key → List Event}
    (h : s.supplies.Renames f supplies) (hr : r' = r.map (Key.rename f))
    (hevents : ∀ k, events' (k.rename f) = (events k).map (Event.rename f)) :
    (s.give r events).Renames f ((s.rename f supplies).give r' events') := by
  subst hr
  cases r with
  | error e => exact ⟨supplies, h, rfl⟩
  | ok k =>
    refine ⟨supplies, h, ?_⟩
    rw [Except.map, give, give, hevents]
    simp only [Outcome.rename, rename, add, List.length_map, List.map_append, List.map_cons,
      List.map_nil, Held.rename_ofKey]

theorem insert_of_no_text {v : Value} (hv : ∀ t, v ≠ .text t) {h : Handle} {r : Held}
    (hr : r.id = .ok v) : s.insert h r = match s.store.find v with
      | .error e => s.fail e
      | .ok _ => s.fail (.unfiled v.kind) := by
  rw [insert, hr]
  cases v with
  | text t => exact absurd rfl (hv t)
  | _ => rfl

theorem replace_of_no_text {v : Value} (hv : ∀ t, v ≠ .text t) {h : Handle} {r : Held}
    (hr : r.id = .ok v) :
    s.replace h r = match s.store.find v, Rejection.shownPart s.supplies.room v with
      | .error e, _ | _, .error e => s.fail e
      | .ok _, .ok shown => s.fail (.rejected (.notFound shown)) := by
  rw [replace, hr]
  cases v with
  | text t => exact absurd rfl (hv t)
  | _ => rfl

theorem records_rename (f : Text → Text) (s : Session) (supplies : Supplies) (h : Handle) :
    (s.rename f supplies).records[h]? = s.records[h]?.map (Held.rename f) :=
  List.getElem?_map

theorem renames_onRecord {h : Handle} {g g' : Held → Outcome}
    (hsupplies : s.supplies.Renames f supplies)
    (hg : ∀ r, (g r).Renames f (g' (r.rename f))) :
    (s.onRecord h g).Renames f ((s.rename f supplies).onRecord h g') := by
  rw [onRecord, onRecord, records_rename]
  cases s.records[h]? with
  | none => exact ⟨supplies, hsupplies, rfl⟩
  | some r => exact hg r

theorem setRecord_rename (f : Text → Text) (s : Session) (supplies : Supplies) (h : Handle)
    (r : Held) :
    (s.rename f supplies).setRecord h (r.rename f) = (s.setRecord h r).rename f supplies := by
  simp only [setRecord, rename, List.map_set]

theorem createdAt_rename (f : Text → Text) (s : Session) (supplies : Supplies) :
    (s.rename f supplies).createdAt = s.createdAt := by
  funext h
  rw [createdAt, createdAt, records_rename]
  cases s.records[h]? <;> rfl

end Session

namespace Renaming

variable (hf : Renaming f) {s : Session} {supplies : Supplies}
  (hsupplies : s.supplies.Renames f supplies)
include hf hsupplies

theorem lookUp (id : Value) (answer : Option Handle → Answer) :
    (s.lookUp id answer).Renames f ((s.rename f supplies).lookUp (id.rename f) answer) := by
  rw [Session.lookUp, Session.lookUp, show (s.rename f supplies).store = s.store.rename f from rfl,
    hf.find_rename]
  cases s.store.find id <;> exact ⟨supplies, hsupplies, rfl⟩

theorem told (r : Held) (answer : Answer) (event : Text → Event)
    (hevent : ∀ id, event (f id) = (event id).rename f) :
    (s.told r answer event).Renames f ((s.rename f supplies).told (r.rename f) answer event) := by
  rw [Session.told, Session.told, hf.shownId]
  cases r.shownId with
  | error e => exact ⟨supplies, hsupplies, rfl⟩
  | ok shown =>
    refine ⟨supplies, hsupplies, ?_⟩
    rw [show (r.rename f).key.id = f r.key.id from rfl, hevent]
    rfl

theorem delete (id : Value) :
    (s.delete id).Renames f ((s.rename f supplies).delete (id.rename f)) := by
  have hstore : (s.rename f supplies).store = s.store.rename f := rfl
  have hempty : (s.rename f supplies).store.entries = [] ↔ s.store.entries = [] :=
    List.map_eq_nil_iff
  unfold Session.delete
  simp only [hempty]
  split
  · exact ⟨supplies, hsupplies, rfl⟩
  · cases id with
    | text id =>
      refine ⟨supplies, hsupplies, ?_⟩
      simp only [Value.rename, hstore, hf.contains_rename, hf.erase_rename, Outcome.rename]
      split <;> rfl
    | _ => exact hf.lookUp hsupplies _ _

theorem insert (h : Handle) (r : Held) :
    (s.insert h r).Renames f ((s.rename f supplies).insert h (r.rename f)) := by
  have hstore : (s.rename f supplies).store = s.store.rename f := rfl
  cases hid : r.id with
  | error e =>
    rw [Session.insert, Session.insert, Held.id_rename, hid]
    exact ⟨supplies, hsupplies, rfl⟩
  | ok id =>
    have hid' : (r.rename f).id = .ok (id.rename f) := by rw [Held.id_rename, hid]; rfl
    by_cases htext : ∃ t, id = .text t
    · obtain ⟨t, rfl⟩ := htext
      simp only [Session.insert, hid, hid', Value.rename, hstore, hf.insert_rename]
      cases s.store.insert t h <;> exact ⟨supplies, hsupplies, rfl⟩
    · have hno : ∀ t, id ≠ .text t := fun t ht => htext ⟨t, ht⟩
      have hfind := hf.find_rename s.store id
      rw [Value.rename_of_no_text hno] at hid' hfind
      rw [Session.insert_of_no_text hno hid, Session.insert_of_no_text hno hid', hstore, hfind]
      cases s.store.find id <;> exact Session.renames_fail hsupplies _

theorem replace (h : Handle) (r : Held) :
    (s.replace h r).Renames f ((s.rename f supplies).replace h (r.rename f)) := by
  have hstore : (s.rename f supplies).store = s.store.rename f := rfl
  cases hid : r.id with
  | error e =>
    rw [Session.replace, Session.replace, Held.id_rename, hid]
    exact ⟨supplies, hsupplies, rfl⟩
  | ok id =>
    have hid' : (r.rename f).id = .ok (id.rename f) := by rw [Held.id_rename, hid]; rfl
    by_cases htext : ∃ t, id = .text t
    · obtain ⟨t, rfl⟩ := htext
      simp only [Session.replace, hid, hid', Value.rename, hstore, hf.replace_rename]
      cases s.store.replace t h <;> exact ⟨supplies, hsupplies, rfl⟩
    · have hno : ∀ t, id ≠ .text t := fun t ht => htext ⟨t, ht⟩
      have hfind := hf.find_rename s.store id
      have hroom : (s.rename f supplies).supplies.room = s.supplies.room := hsupplies.room
      rw [Value.rename_of_no_text hno] at hid' hfind
      rw [Session.replace_of_no_text hno hid, Session.replace_of_no_text hno hid', hstore, hfind,
        hroom]
      cases s.store.find id <;> cases Rejection.shownPart s.supplies.room id <;>
        exact Session.renames_fail hsupplies _

/-! ## Commands -/

theorem update (h : Handle) (body : Value) : (s.step (.update h body)).Renames f
    ((s.rename f supplies).step (.update h body)) := by
  refine Session.renames_onRecord hsupplies fun r => ?_
  rw [show (s.rename f supplies).supplies = supplies from rfl, hsupplies.clock, hsupplies.room]
  rcases Key.changes s.supplies.room body s.supplies.clock with ⟨_ | ⟨now, as⟩, clock⟩
  · exact ⟨{ supplies with clock }, ⟨rfl, hsupplies.room, hsupplies.draws⟩, rfl⟩
  · -- the change goes on in a session whose clock has been read
    have hread : (s.setClock clock).supplies.Renames f { supplies with clock } :=
      ⟨rfl, hsupplies.room, hsupplies.draws⟩
    have hset := Session.setRecord_rename f (s.setClock clock) { supplies with clock } h
    dsimp only
    rw [Held.rename_change]
    rcases r.change now as with ⟨r', _ | e⟩
    · have htold := hf.told (s := (s.setClock clock).setRecord h r') hread r' (.record h)
        (fun id => .updated id (as.filterMap Assignment.field?)) fun id => rfl
      rw [← hset] at htold
      exact htold
    · exact ⟨_, hread, congrArg (Session.fail · e) (hset r')⟩

omit hf in
theorem copy (h : Handle) : (s.step (.copy h)).Renames f
    ((s.rename f supplies).step (.copy h)) := by
  refine Session.renames_onRecord hsupplies fun r => ?_
  rw [show (r.rename f).copyFault? = r.copyFault? from rfl]
  cases r.copyFault? with
  | some e => exact ⟨supplies, hsupplies, rfl⟩
  | none =>
    refine ⟨supplies, hsupplies, ?_⟩
    simp [Outcome.rename, Session.rename, Session.add]

theorem seed : s.seed.Renames f (s.rename f supplies).seed := by
  have hempty : (s.rename f supplies).store.entries ≠ [] ↔ s.store.entries ≠ [] :=
    not_congr List.map_eq_nil_iff
  unfold Session.seed
  simp only [hempty, show (s.rename f supplies).builder = s.builder from rfl,
    show (s.rename f supplies).supplies = supplies from rfl]
  split
  · exact ⟨supplies, hsupplies, rfl⟩
  · obtain ⟨hadmin, hrest⟩ := Key.createDefault_rename hsupplies s.builder .admin
    revert hadmin hrest
    rcases Key.createDefault s.builder .admin s.supplies with ⟨_ | admin, rest⟩ <;>
      rcases Key.createDefault s.builder .admin supplies with ⟨_ | admin', rest'⟩ <;>
      intro hadmin hrest
    · obtain rfl := Except.error.inj hadmin
      exact ⟨_, hrest, rfl⟩
    · cases hadmin
    · cases hadmin
    · obtain rfl := Except.ok.inj hadmin
      obtain ⟨hsearch, hlast⟩ := Key.createDefault_rename hrest s.builder .search
      revert hsearch hlast
      dsimp only
      rcases Key.createDefault s.builder .search rest with ⟨_ | search, last⟩ <;>
        rcases Key.createDefault s.builder .search rest' with ⟨_ | search', last'⟩ <;>
        intro hsearch hlast
      · obtain rfl := Except.error.inj hsearch
        exact ⟨_, hlast, rfl⟩
      · cases hsearch
      · cases hsearch
      · obtain rfl := Except.ok.inj hsearch
        refine ⟨_, hlast, ?_⟩
        have hstore (s : Store) (id : Text) (h : Handle) := hf.put_rename s id h
        simp only [Outcome.rename, Session.rename, List.length_map, List.map_append,
          List.map_cons, List.map_nil, Held.rename_ofKey, Key.rename, hstore]
        rfl

theorem step {c : Command} (hc : c.BringsNoId) :
    (s.step c).Renames f ((s.rename f supplies).step (c.rename f)) := by
  cases c with
  | create body =>
    obtain ⟨hkey, hrest⟩ := Key.create_rename hsupplies body
    exact Session.renames_give (s := { s with supplies := (Key.create body s.supplies).2 }) hrest
      hkey fun k => rfl
  | createDefault which =>
    obtain ⟨hkey, hrest⟩ := Key.createDefault_rename hsupplies s.builder which
    exact Session.renames_give
      (s := { s with supplies := (Key.createDefault s.builder which s.supplies).2 }) hrest hkey
      fun k => rfl
  | update h body => exact hf.update hsupplies h body
  | restore data => exact hc.elim
  | assign h name value => exact hc.elim
  | copy h => exact copy hsupplies h
  | insert h =>
    exact Session.renames_onRecord hsupplies fun r =>
      hf.insert hsupplies h r
  | replace h =>
    exact Session.renames_onRecord hsupplies fun r =>
      hf.replace hsupplies h r
  | get id => exact hf.lookUp hsupplies id _
  | contains id => exact hf.lookUp hsupplies id _
  | delete id => exact hf.delete hsupplies id
  | size =>
    have hsize : (s.store.rename f).size = s.store.size := List.length_map _
    refine ⟨supplies, hsupplies, ?_⟩
    exact congrArg (fun n => (⟨.ok (.count n), [], s.rename f supplies⟩ : Outcome)) hsize
  | list =>
    have hlisted : (s.rename f supplies).listed = s.listed := by
      rw [Session.listed, Session.listed, Session.createdAt_rename]
      exact congrFun (Store.list_rename f s.store) _
    refine ⟨supplies, hsupplies, ?_⟩
    exact congrArg (fun hs => (⟨.ok (.records hs), [], s.rename f supplies⟩ : Outcome)) hlisted
  | seed => exact hf.seed hsupplies
  | advance micros =>
    refine ⟨{ supplies with clock := (s.supplies.clock.advance micros).2 },
      ⟨rfl, hsupplies.room, hsupplies.draws⟩, ?_⟩
    rw [Command.rename.eq_def]
    dsimp only
    rw [Session.step, show (s.rename f supplies).supplies = supplies from rfl, hsupplies.clock]
    rfl
  | setVariable name value => exact ⟨supplies, hsupplies, rfl⟩
  | clearSettings => exact ⟨supplies, hsupplies, rfl⟩
  | newBuilder arguments =>
    rw [Command.rename.eq_def]
    dsimp only
    rw [Session.step, Session.step, show (s.rename f supplies).host = s.host from rfl]
    rcases Session.capture arguments s.host with ⟨_ | builder, host⟩ <;>
      exact ⟨supplies, hsupplies, rfl⟩

end Renaming

/-! ## Runs -/

/-- What some commands show, one after the other: the answer to each, and what is reported of it. -/
def Session.shown (s : Session) :
    List Command → List (Except Failure Answer × List (String × Members))
  | [] => []
  | c :: cs =>
    ((s.step c).answer, (s.step c).events.map fun e => (e.message, e.extra)) ::
      (s.step c).session.shown cs

theorem Renaming.shown_step (hf : Renaming f) {o o' : Outcome} (h : o.Renames f o') :
    o'.answer = o.answer ∧ (o'.events.map fun e => (e.message, e.extra)) =
      o.events.map fun e => (e.message, e.extra) := by
  obtain ⟨supplies, -, rfl⟩ := h
  refine ⟨rfl, ?_⟩
  rw [Outcome.rename, List.map_map]
  exact List.map_congr_left fun e _ => Prod.ext (hf.event e).1 (hf.event e).2

theorem Renaming.run (hf : Renaming f) {s : Session} {supplies : Supplies}
    (hsupplies : s.supplies.Renames f supplies) {cs : List Command}
    (hcs : ∀ c ∈ cs, c.BringsNoId) :
    (s.rename f supplies).shown (cs.map (Command.rename f)) = s.shown cs ∧
      ∃ supplies', (s.run cs).supplies.Renames f supplies' ∧
        (s.rename f supplies).run (cs.map (Command.rename f)) = (s.run cs).rename f supplies' := by
  induction cs generalizing s supplies with
  | nil => exact ⟨rfl, supplies, hsupplies, rfl⟩
  | cons c cs ih =>
    obtain ⟨hc, hcs⟩ := List.forall_mem_cons.1 hcs
    have hstep := hf.step hsupplies hc
    obtain ⟨hanswer, hevents⟩ := hf.shown_step hstep
    obtain ⟨supplies', hsupplies', ho⟩ := hstep
    obtain ⟨hshown, supplies'', hsupplies'', hrun⟩ := ih hsupplies' hcs
    have hsession : ((s.rename f supplies).step (c.rename f)).session =
        (s.step c).session.rename f supplies' := by rw [ho]; rfl
    refine ⟨?_, supplies'', hsupplies'', ?_⟩
    · rw [List.map_cons, Session.shown, hanswer, hevents, hsession, hshown]
      rfl
    · rw [Session.run, List.map_cons, List.foldl_cons, hsession]
      exact hrun

/-- **Only the first eight characters of an identifier are shown.** Let identifiers be renamed so
that valid ones stay valid, different ones stay different, and each keeps its first eight
characters. Some source of draws yields the renamed identifiers, and with any such source the same
commands, with the identifiers that they name renamed, get the same answers and failures, and the
same is reported of them. In the end the records and the store differ in nothing but the renamed
identifiers. -/
theorem Session.shown_of_renamed {f : Text → Text} (hinjective : Function.Injective f)
    (hshown : ∀ t, shownId (f t) = shownId t) (hvalid : ∀ t, KeyId.Valid t → KeyId.Valid (f t))
    (s : Session) {cs : List Command} (hcs : ∀ c ∈ cs, c.BringsNoId) :
    (∃ supplies, s.supplies.Renames f supplies) ∧
      ∀ supplies, s.supplies.Renames f supplies →
        let renamed := (s.rename f supplies).run (cs.map (Command.rename f))
        (s.rename f supplies).shown (cs.map (Command.rename f)) = s.shown cs ∧
          renamed.store = (s.run cs).store.rename f ∧
          renamed.records = (s.run cs).records.map (Held.rename f) := by
  refine ⟨?_, fun supplies hsupplies => ?_⟩
  · obtain ⟨draws, hdraws⟩ := Draws.Renames.exists_of_valid hvalid s.supplies.draws
    exact ⟨{ s.supplies with draws }, rfl, rfl, hdraws⟩
  · have hf : Renaming f := ⟨hinjective, hshown⟩
    obtain ⟨hsame, supplies', -, hrun⟩ := hf.run hsupplies hcs
    intro renamed
    rw [show renamed = _ from hrun]
    exact ⟨hsame, rfl, rfl⟩

/-- A record that is filed twice, under one of two identifiers with the same beginning or under the
other. -/
theorem Session.shown_of_renamed_swap :
    let a : Text := List.replicate 64 (.char 'a')
    let b : Text := List.replicate 8 (.char 'a') ++ List.replicate 56 (.char 'b')
    let s := sample []
    let cs : List Command := [.createDefault .admin, .insert 0, .insert 0, .get (.text a)]
    (s.run cs).store.entries = [(a, 0)] ∧ ∃ supplies,
      let s' := s.rename (Equiv.swap a b) supplies
      let cs' : List Command := [.createDefault .admin, .insert 0, .insert 0, .get (.text b)]
      s'.shown cs' = s.shown cs ∧ (s'.run cs').store.entries = [(b, 0)] := by
  intro a b s cs
  have hentries : (s.run cs).store.entries = [(a, 0)] := by decide +kernel
  have hcases : ∀ t, Equiv.swap a b t = t ∨ t = a ∧ Equiv.swap a b t = b ∨
      t = b ∧ Equiv.swap a b t = a := by
    intro t
    rw [Equiv.swap_apply_def]
    split_ifs with ha hb
    · exact .inr (.inl ⟨ha, rfl⟩)
    · exact .inr (.inr ⟨hb, rfl⟩)
    · exact .inl rfl
  have hshown : ∀ t, shownId (Equiv.swap a b t) = shownId t := by
    intro t
    rcases hcases t with h | ⟨rfl, h⟩ | ⟨rfl, h⟩ <;> rw [h]
    · decide
    · decide
  have hvalid : ∀ t, KeyId.Valid t → KeyId.Valid (Equiv.swap a b t) := by
    intro t ht
    rcases hcases t with h | ⟨rfl, h⟩ | ⟨rfl, h⟩ <;> rw [h]
    · exact ht
    · decide +kernel
    · decide +kernel
  have hcs : ∀ c ∈ cs, c.BringsNoId := by simp [cs, Command.BringsNoId]
  obtain ⟨⟨supplies, hsupplies⟩, hall⟩ :=
    shown_of_renamed (Equiv.swap a b).injective hshown hvalid s hcs
  obtain ⟨hsame, hstore, -⟩ := hall supplies hsupplies
  have hcommands : cs.map (Command.rename (Equiv.swap a b)) =
      [.createDefault .admin, .insert 0, .insert 0, .get (.text b)] := by
    simp [cs, Command.rename, Value.rename]
  rw [hcommands] at hsame hstore
  refine ⟨hentries, supplies, hsame, ?_⟩
  rw [hstore, Store.rename, hentries]
  simp

end ApiKeys

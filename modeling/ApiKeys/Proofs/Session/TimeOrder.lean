import ApiKeys.Proofs.Session.Agreement
import ApiKeys.Proofs.Session.History

/-!
# The order of the times of a record

While the clock does not go back, the three times of a record keep their order: it was created no
later than it was last changed, and it expires after it was created. The time of change is the
reading of the last call that succeeded, and after a call that supplies an expiration the record
expires later than that. Nothing compares an expiration with the time of creation. That it lies
after it follows from the order of the readings, turn by turn (`Followed.InOrder.step`).
-/

namespace ApiKeys

/-- The turn neither replaces the clock nor moves it back. -/
def Turn.Onward : Turn → Prop
  | .clock _ => False
  | .command (.advance micros) => 0 ≤ micros
  | _ => True

/-- The members of a request supply an expiration that is not null. -/
def Members.SuppliesExpiration (ms : Members) : Prop :=
  ∃ raw, ms.get? Field.expiresAt.inputName = some raw ∧ raw ≠ .null

/-- The record expires after its last change, so it has not expired at any time up to that. -/
def Key.ExpiresLater (k : Key) : Prop :=
  (∃ e, k.expiresAt = some e ∧ k.updatedAt < e) ∧
    ∀ t, t ≤ k.updatedAt → (Held.ofKey k).isExpired t = .ok false

/-! ## The clock of a session -/

namespace Session

variable {s : Session} {h : Handle}

theorem steady_run (hs : s.supplies.clock.Steady) (cs : List Command) :
    (s.run cs).supplies.clock.Steady := by
  induction cs generalizing s with
  | nil => exact hs
  | cons c cs ih =>
    refine ih (clock_step (P := Clock.Steady) (fun _ h => h.after_read) ?_ hs)
    exact fun micros _ k hk => hk.after_advance micros

theorem clock_update {k : Key} (hr : s.records[h]? = some (.ofKey k)) (ms : Members) :
    (s.step (.update h (.object ms))).session.supplies.clock = s.supplies.clock.read.2 := by
  have hchanges : (Key.changes s.supplies.room (.object ms) s.supplies.clock).2 =
      s.supplies.clock.read.2 := by
    rw [Key.changes]
    rcases s.supplies.clock.read with ⟨_ | now, clock⟩ <;> rfl
  rw [step_update hr, ← hchanges]
  rcases Key.changes s.supplies.room (.object ms) s.supplies.clock with ⟨_ | ⟨now, as⟩, clock⟩ <;> rfl

end Session

/-! ## Expirations -/

namespace Field

variable {now : Instant} {raw : Value}

theorem Takes.lt_expiresAt {e : Instant} (h : Takes now .expiresAt raw (.expiresAt (some e))) :
    now < e := by
  cases h with
  | expiresAt hcheck =>
    obtain ⟨_, -, -, hlt⟩ := checkExpiration_eq_some_iff.1 (hcheck ⟨0, 0⟩)
    exact hlt

theorem Takes.exists_expiresAt {e : Option Instant} (h : Takes now .expiresAt raw (.expiresAt e))
    (hraw : raw ≠ .null) : ∃ t, e = some t := by
  cases h with
  | never => exact absurd rfl hraw
  | expiresAt hcheck => exact ⟨_, rfl⟩

theorem lastIn_singleton (f : Field) (c : Change) :
    f.lastIn [c] = (c.members.get? f.inputName).map fun raw => (c.now, raw) := by
  rw [lastIn]
  cases hget : c.members.get? f.inputName <;> simp [hget]

end Field

theorem Key.ExpiresLater.of_takes {k : Key} {raw : Value}
    (h : Field.Takes k.updatedAt .expiresAt raw (k.held .expiresAt)) (hraw : raw ≠ .null) :
    k.ExpiresLater := by
  obtain ⟨e, he⟩ := Field.Takes.exists_expiresAt h hraw
  have hlt : k.updatedAt < e := by
    rw [Key.held_expiresAt, he] at h
    exact h.lt_expiresAt
  refine ⟨⟨e, he, hlt⟩, fun t ht => ?_⟩
  have hexpired : k.isExpired t = decide (e ≤ t) := by rw [Key.isExpired, he]
  have hnot : ¬ e ≤ t := Instant.not_le_of_lt (Instant.lt_of_le_of_lt ht hlt)
  show Except.ok (k.isExpired t) = .ok false
  rw [hexpired, decide_eq_false hnot]

theorem Became.updatedAt_of_le {k k' : Key} {c : Change} (h : Became k [c] k')
    (hle : k.updatedAt ≤ c.now) : k'.updatedAt = c.now := by
  have hmax : k'.updatedAt.micros = max k.updatedAt.micros c.now.micros := h.updatedAt
  rw [max_eq_right hle] at hmax
  exact congrArg Instant.mk hmax

/-! ## One turn -/

namespace Followed

variable {p : Followed} {k : Key} {last : Instant} {t : Turn}

/-- The record that is followed has its times in order, its last change was at the given instant,
and the clock of the session does not go back behind that. -/
structure InOrder (p : Followed) (k : Key) (last : Instant) : Prop extends p.Holds k where
  clockFrom : p.session.supplies.clock.SteadyFrom last
  updatedAt : k.updatedAt = last
  createdAt : k.createdAt ≤ last
  expiresAt : ∀ e, k.expiresAt = some e → k.createdAt < e

theorem change?_eq_some {c : Change} (h : p.change? t = some c) :
    ∃ now a, t = .command (.update p.handle (.object c.members)) ∧ c.now = now.instant ∧
      p.session.supplies.clock.read.1 = .ok now ∧
      (p.session.step (.update p.handle (.object c.members))).answer = .ok a := by
  unfold change? at h
  split at h
  · next h' ms =>
    split at h
    · next heq =>
      subst heq
      split at h
      · next a now ha hread =>
        obtain rfl := Option.some.inj h
        exact ⟨now, a, rfl, rfl, hread, ha⟩
      · cases h
    · cases h
  · cases h

theorem InOrder.clockFrom_step (hp : p.InOrder k last) (ht : t.Onward) :
    (p.step t).session.supplies.clock.SteadyFrom last := by
  cases t with
  | command c =>
    refine Session.clock_step (P := Clock.SteadyFrom last) (fun _ h => h.after_read) ?_ hp.clockFrom
    rintro micros rfl clock hclock
    exact hclock.after_advance ht
  | clock c => exact ht.elim
  | copy =>
    rw [step_copy hp.record]
    exact hp.clockFrom
  | restore =>
    rw [step_restore hp.record hp.wellFormed]
    exact hp.clockFrom

theorem InOrder.clockFrom_change (hp : p.InOrder k last) {c : Change} (h : p.change? t = some c) :
    last ≤ c.now ∧ (p.step t).session.supplies.clock.SteadyFrom c.now := by
  obtain ⟨now, a, rfl, hnow, hread, ha⟩ := change?_eq_some h
  rw [hnow]
  refine ⟨hp.clockFrom.notBefore.le_read hread, ?_⟩
  show (p.session.step (.update p.handle (.object c.members))).session.supplies.clock.SteadyFrom _
  rw [Session.clock_update hp.record]
  exact ⟨hp.clockFrom.steady.after_read, hp.clockFrom.steady.notBefore_after_read hread⟩

/-- **One turn keeps the times of the record in order.** -/
theorem InOrder.step (hp : p.InOrder k last) (hplain : t.Plain) (honward : t.Onward) :
    ∃ k', (p.step t).InOrder k' (((p.change? t).map (·.now)).getD last) ∧
      k'.createdAt = k.createdAt := by
  obtain ⟨k', hk', hbecame⟩ := hp.toHolds.step hplain
  refine ⟨k', ?_, hbecame.createdAt⟩
  cases hchange : p.change? t with
  | none =>
    rw [hchange] at hbecame
    obtain rfl := hbecame.unique (.refl k)
    exact ⟨hk', hp.clockFrom_step honward, hp.updatedAt, hp.createdAt, hp.expiresAt⟩
  | some c =>
    rw [hchange] at hbecame
    obtain ⟨hle, hclock⟩ := hp.clockFrom_change hchange
    have hcreated : k'.createdAt = k.createdAt := hbecame.createdAt
    have hupdated : k'.updatedAt = c.now := hbecame.updatedAt_of_le (hp.updatedAt ▸ hle)
    refine ⟨hk', hclock, hupdated, hcreated ▸ Instant.le_trans hp.createdAt hle, fun e he => ?_⟩
    rw [hcreated]
    have hfield := hbecame.field .expiresAt
    rw [Option.toList_some, Field.lastIn_singleton] at hfield
    cases hget : c.members.get? Field.expiresAt.inputName with
    | some raw =>
      -- the expiration was judged at the reading, and that came after the creation
      rw [hget, Option.map_some] at hfield
      have htakes := Field.read_eq_ok_iff.1 (hfield ⟨0, 0⟩)
      rw [Key.held_expiresAt, he] at htakes
      exact Instant.lt_of_le_of_lt (Instant.le_trans hp.createdAt hle) htakes.lt_expiresAt
    | none =>
      rw [hget, Option.map_none] at hfield
      exact hp.expiresAt e ((Assignment.expiresAt.inj hfield).symm.trans he)

theorem InOrder.run (hp : p.InOrder k last) {turns : List Turn}
    (hturns : ∀ t ∈ turns, t.Plain ∧ t.Onward) :
    ∃ k', (p.run turns).InOrder k' (((p.changes turns).getLast?.map (·.now)).getD last) ∧
      k'.createdAt = k.createdAt := by
  induction turns generalizing p k last with
  | nil => exact ⟨k, hp, rfl⟩
  | cons t ts ih =>
    obtain ⟨⟨hplain, honward⟩, hts⟩ := List.forall_mem_cons.1 hturns
    obtain ⟨k₁, hstep, hfirst⟩ := hp.step hplain honward
    obtain ⟨k₂, hrun, hrest⟩ := ih hstep hts
    refine ⟨k₂, ?_, hrest.trans hfirst⟩
    have hlast : ((p.changes (t :: ts)).getLast?.map (·.now)).getD last =
        (((p.step t).changes ts).getLast?.map (·.now)).getD
          (((p.change? t).map (·.now)).getD last) := by
      rw [changes, List.getLast?_append]
      cases ((p.step t).changes ts).getLast? <;> cases p.change? t <;> rfl
    rw [hlast]
    exact hrun

theorem InOrder.expiresLater (hp : p.InOrder k last) {ms : Members} {a : Answer}
    (ha : (p.session.step (.update p.handle (.object ms))).answer = .ok a)
    (hms : ms.SuppliesExpiration) :
    ∃ k', (p.step (.command (.update p.handle (.object ms)))).record? = some (.ofKey k') ∧
      k'.ExpiresLater := by
  obtain ⟨raw, hget, hraw⟩ := hms
  obtain ⟨ms', now, as, hbody, hread, hall, -, hrecord⟩ := Session.step_update_eq_ok hp.record ha
  obtain rfl := Value.object.inj hbody
  have hupdated : (k.change now as).updatedAt = now.instant :=
    (Became.change hall).updatedAt_of_le (hp.updatedAt ▸ hp.clockFrom.notBefore.le_read hread)
  refine ⟨_, hrecord, .of_takes ?_ hraw⟩
  rw [hupdated, Key.held_change]
  exact Field.takes_held_of_readAll hall hget k

end Followed

/-! ## From the command that built a record on -/

namespace Session

variable {s : Session} {c : Command} {h : Handle} {k : Key} {now : Zoned}

theorem clock_build (hc : c.Builds) {a : Answer} (hanswer : (s.step c).answer = .ok a) :
    (s.step c).session.supplies.clock = s.supplies.clock.read.2 := by
  cases c with
  | create body =>
    rw [step_create] at hanswer ⊢
    obtain ⟨k, hk, -⟩ := give_eq_ok hanswer
    obtain ⟨ms, now, parts, rfl, -⟩ := Key.create_eq_ok hk
    rw [supplies_give, Key.create]
    rcases s.supplies.clock.read with ⟨_ | now', clock⟩
    · rfl
    · dsimp only
      cases Field.readAll s.supplies.room now'.instant Field.absentFromCreation ms Field.list <;> rfl
  | createDefault which =>
    rw [step_createDefault, supplies_give]
    exact Key.createDefault_clock s.builder which s.supplies
  | _ => exact hc.elim

theorem expiresAt_of_build (hc : c.Builds) (hread : s.supplies.clock.read.1 = .ok now)
    (hanswer : (s.step c).answer = .ok (.record h))
    (hrecord : (s.step c).session.records[h]? = some (.ofKey k)) :
    (∃ ms : Members, c = .create (.object ms) ∧ Field.Takes now.instant .expiresAt
        ((ms.get? Field.expiresAt.inputName).getD .null) (k.held .expiresAt)) ∨
      (∃ which, c = .createDefault which) ∧ k.expiresAt = none := by
  cases c with
  | create body =>
    have hgive := hanswer
    rw [step_create] at hgive
    obtain ⟨k', hk', -⟩ := give_eq_ok hgive
    obtain ⟨ms, _, _, rfl, -⟩ := Key.create_eq_ok hk'
    obtain ⟨k'', ha, hrecord', htakes⟩ := create_eq_ok hread hanswer
    obtain rfl := Answer.record.inj ha
    obtain rfl : k = k'' := congrArg Held.key (Option.some.inj (hrecord.symm.trans hrecord'))
    exact .inl ⟨ms, rfl, htakes .expiresAt⟩
  | createDefault which =>
    rw [step_createDefault] at hanswer hrecord
    obtain ⟨k', hk', ha, hrecord'⟩ := give_eq_ok hanswer
    obtain rfl := Answer.record.inj ha
    obtain rfl : k = k' := congrArg Held.key (Option.some.inj (hrecord.symm.trans hrecord'))
    obtain ⟨now', -, hbuild⟩ := Key.createDefault_eq_ok hk'
    obtain ⟨id, t, -, -, rfl⟩ := Key.build_eq_ok hbuild
    refine .inr ⟨⟨which, rfl⟩, ?_⟩
    cases which <;> rfl
  | _ => exact hc.elim

theorem inOrder_of_build (hc : c.Builds) (hclock : s.supplies.clock.Utc)
    (hsteady : s.supplies.clock.Steady) (hanswer : (s.step c).answer = .ok (.record h)) :
    ∃ k now, s.supplies.clock.read.1 = .ok now ∧ k.createdAt = now.instant ∧
      (⟨(s.step c).session, h⟩ : Followed).InOrder k now.instant ∧
      ∀ ms : Members, c = .create (.object ms) → ms.SuppliesExpiration → k.ExpiresLater := by
  obtain ⟨k, now, hread, hcreated, hupdated, hp⟩ := holds_of_build hc hclock hanswer
  have hbuilt := expiresAt_of_build hc hread hanswer hp.record
  have hfrom : (s.step c).session.supplies.clock.SteadyFrom now.instant := by
    rw [clock_build hc hanswer]
    exact ⟨hsteady.after_read, hsteady.notBefore_after_read hread⟩
  have hexpires : ∀ e, k.expiresAt = some e → k.createdAt < e := by
    intro e he
    rw [hcreated]
    rcases hbuilt with ⟨ms, -, htakes⟩ | ⟨-, hnone⟩
    · rw [Key.held_expiresAt, he] at htakes
      exact htakes.lt_expiresAt
    · rw [hnone] at he
      cases he
  refine ⟨k, now, hread, hcreated, ⟨hp, hfrom, hupdated, ?_, hexpires⟩, ?_⟩
  · rw [hcreated]
    exact Instant.le_refl now.instant
  · rintro ms rfl ⟨raw, hget, hraw⟩
    rcases hbuilt with ⟨ms', hms, htakes⟩ | ⟨⟨which, hcreate⟩, -⟩
    · obtain rfl := Value.object.inj (Command.create.inj hms)
      rw [hget, ← hupdated] at htakes
      exact .of_takes htakes hraw
    · cases hcreate

/-- **The order of the times of a record.** In a session under a UTC clock that does not go back,
let any commands come before a record is built, and any turns after that, as long as these do not
put the clock back either. At every point the time of change is the reading of the last update of
the record that succeeded, or that of the build; it does not lie before the time of creation, and an
expiration lies after the time of creation. Right after a call that succeeds and supplies an
expiration, the record expires later than that time of change, and is not expired at any time up to
it. -/
theorem time_order (hclock : s.supplies.clock.Utc) (hsteady : s.supplies.clock.Steady)
    (before : List Command) (hc : c.Builds)
    (hanswer : ((s.run before).step c).answer = .ok (.record h)) :
    let p : Followed := ⟨((s.run before).step c).session, h⟩
    ∃ k₀ now, (s.run before).supplies.clock.read.1 = .ok now ∧ p.record? = some (.ofKey k₀) ∧
      (∀ ms : Members, c = .create (.object ms) → ms.SuppliesExpiration → k₀.ExpiresLater) ∧
      ∀ turns : List Turn, (∀ t ∈ turns, t.Plain ∧ t.Onward) → ∃ k,
        (p.run turns).record? = some (.ofKey k) ∧
        k.updatedAt = ((p.changes turns).getLast?.map (·.now)).getD now.instant ∧
        k.createdAt = now.instant ∧ k.createdAt ≤ k.updatedAt ∧
        (∀ e, k.expiresAt = some e → k.createdAt < e) ∧
        ∀ (ms : Members) (a : Answer),
          ((p.run turns).session.step (.update (p.run turns).handle (.object ms))).answer = .ok a →
          ms.SuppliesExpiration → ∃ k',
            ((p.run turns).step (.command (.update (p.run turns).handle (.object ms)))).record? =
              some (.ofKey k') ∧ k'.ExpiresLater := by
  intro p
  obtain ⟨k₀, now, hread, hcreated, hp, hbuilt⟩ :=
    inOrder_of_build hc (utc_run hclock before) (steady_run hsteady before) hanswer
  refine ⟨k₀, now, hread, hp.record, hbuilt, fun turns hturns => ?_⟩
  obtain ⟨k, hk, hkept⟩ := hp.run hturns
  have hle : k.createdAt ≤ k.updatedAt := by
    rw [hk.updatedAt]
    exact hk.createdAt
  exact ⟨k, hk.record, hk.updatedAt, hkept.trans hcreated, hle, hk.expiresAt,
    fun ms a ha hms => hk.expiresLater ha hms⟩

/-- A record with an expiration beside a default one, after an update that is refused and one that
succeeds. -/
theorem time_order_updates :
    let s := { sample [] with
      supplies := ⟨.scripted [⟨0, 0⟩, ⟨0, 0⟩, ⟨5, 0⟩, ⟨7, 0⟩], .ofList [0] 128, ⟨0, 0⟩⟩ }
    let ms : Members := [("actions", .list [.text "search"]), ("indexes", .list []),
      ("expiresAt", .text "0001-01-02")]
    let built := (s.run [.createDefault .admin]).step (.create (.object ms))
    let p : Followed := ⟨built.session, 1⟩
    let turns : List Turn := [.command (.update 1 (.object [("description", .int 1)])),
      .command (.update 1 (.object [("indexes", .list [.text "*"])]))]
    ∃ k₀ k, p.record? = some (.ofKey k₀) ∧ k₀.ExpiresLater ∧
      (p.run turns).record? = some (.ofKey k) ∧ k.updatedAt = ⟨7⟩ := by
  intro s ms built p turns
  have hclock : s.supplies.clock.Utc := by
    intro z hz
    fin_cases hz <;> exact ⟨rfl, by decide⟩
  have hsteady : s.supplies.clock.Steady := by
    show List.Pairwise _ _
    decide
  have hanswer : built.answer = .ok (.record 1) :=
    answer_of_toOption (by decide +kernel)
  have hturns : ∀ t ∈ turns, t.Plain ∧ t.Onward := by simp [turns, Turn.Plain, Turn.Onward]
  have hlast : (p.changes turns).getLast?.map (·.now) = some ⟨7⟩ := by decide +kernel
  obtain ⟨k₀, now, -, hrecord, hlater, hall⟩ :=
    time_order (c := .create (.object ms)) hclock hsteady [.createDefault .admin] trivial hanswer
  obtain ⟨k, hk, hupdated, -⟩ := hall turns hturns
  rw [hlast] at hupdated
  exact ⟨k₀, k, hrecord, hlater ms rfl ⟨_, rfl, Value.noConfusion⟩, hk, hupdated⟩

end Session

end ApiKeys

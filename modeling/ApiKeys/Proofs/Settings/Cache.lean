import ApiKeys.Settings.Host
import Mathlib.Tactic

/-!
# The settings of a host over time

What a host is answered when it asks for its settings depends on all that it did before. What is
cached was loaded from the variables as they stood at the first asking that succeeded since the
cache was cleared last (`loadedBy_of_gives`); it is kept, whatever becomes of the variables, until
it is cleared (`loaded_run`), and every load after that has a higher number (`NumberedFrom.run`). An
asking that fails leaves nothing behind, so the next one sees the variables as they are then.
-/

namespace ApiKeys.Host

variable {h : Host} {σ τ : Settings} {m n k : Nat} {as : List Act} {a : Act}

/-- The host after some acts, one after the other. -/
def run (h : Host) (as : List Act) : Host := as.foldl (fun h a => (h.step a).2) h

/-- What the variables of the host, as they are, come to as settings. -/
def fresh (h : Host) : Except Failure Settings := Settings.load ⟨[], h.environment, none⟩

/-- Asking for settings gives these, of the load with this number. -/
def Gives (h : Host) (σ : Settings) (n : Nat) : Prop := (h.step .get).1 = .ok (some (σ, n))

/-- Asking for settings fails. -/
def Refuses (h : Host) : Prop := ∃ f, (h.step .get).1 = .error f

theorem run_append (h : Host) (as bs : List Act) : h.run (as ++ bs) = (h.run as).run bs :=
  List.foldl_append

theorem run_concat (h : Host) (as : List Act) (a : Act) :
    h.run (as ++ [a]) = ((h.run as).step a).2 :=
  run_append h as [a]

theorem run_cons (h : Host) (a : Act) (as : List Act) : h.run (a :: as) = (h.step a).2.run as := rfl

/-! ## One act -/

theorem step_get_of_loaded {x : Settings × Nat} (hx : h.cache.loaded = some x) :
    h.step .get = (.ok (some x), h) := by
  simp only [step, settings, SettingsCache.get, hx]
  rfl

theorem step_get_of_error {f : Failure} (hnone : h.cache.loaded = none) (hf : h.fresh = .error f) :
    h.step .get = (.error f, h) := by
  rw [fresh] at hf
  simp only [step, settings, SettingsCache.get, hnone, hf]
  rfl

theorem step_get_of_ok (hnone : h.cache.loaded = none) (hσ : h.fresh = .ok σ) : h.step .get =
    (.ok (some (σ, h.cache.next)),
      { h with cache := ⟨some (σ, h.cache.next), h.cache.next + 1⟩ }) := by
  rw [fresh] at hσ
  simp only [step, settings, SettingsCache.get, hnone, hσ]
  rfl

theorem cache_changed (environment : Except Settings.VariableFault Environment) :
    (h.changed environment).2.cache = h.cache := by
  cases environment <;> rfl

theorem Gives.loaded_or (hg : h.Gives σ n) :
    h.cache.loaded = some (σ, n) ∨
      h.cache.loaded = none ∧ h.fresh = .ok σ ∧ n = h.cache.next := by
  rw [Gives] at hg
  cases hloaded : h.cache.loaded with
  | some x =>
    rw [step_get_of_loaded hloaded] at hg
    exact .inl (Except.ok.inj hg)
  | none =>
    cases hfresh : h.fresh with
    | error f =>
      rw [step_get_of_error hloaded hfresh] at hg
      cases hg
    | ok τ =>
      rw [step_get_of_ok hloaded hfresh] at hg
      obtain ⟨rfl, rfl⟩ := Prod.mk.inj (Option.some.inj (Except.ok.inj hg))
      exact .inr ⟨rfl, rfl, rfl⟩

theorem Gives.loaded_after (hg : h.Gives σ n) : (h.step .get).2.cache.loaded = some (σ, n) := by
  rcases hg.loaded_or with hloaded | ⟨hnone, hfresh, rfl⟩
  · rw [step_get_of_loaded hloaded, hloaded]
  · rw [step_get_of_ok hnone hfresh]

theorem gives_of_loaded (hloaded : h.cache.loaded = some (σ, n)) : h.Gives σ n := by
  rw [Gives, step_get_of_loaded hloaded]

theorem refuses_iff : h.Refuses ↔ h.cache.loaded = none ∧ ∃ f, h.fresh = .error f := by
  rw [Refuses]
  cases hloaded : h.cache.loaded with
  | some x =>
    rw [step_get_of_loaded hloaded]
    simp
  | none =>
    cases hfresh : h.fresh with
    | error f =>
      rw [step_get_of_error hloaded hfresh]
      simp
    | ok σ =>
      rw [step_get_of_ok hloaded hfresh]
      simp

theorem Refuses.after (hr : h.Refuses) : (h.step .get).2 = h := by
  obtain ⟨hnone, f, hf⟩ := refuses_iff.1 hr
  rw [step_get_of_error hnone hf]

/-! ## What is cached stays -/

theorem loaded_step {x : Settings × Nat} (hx : h.cache.loaded = some x) (ha : a ≠ .clear) :
    (h.step a).2.cache.loaded = some x := by
  cases a with
  | set name value => rw [step, cache_changed, hx]
  | unset name => rw [step, cache_changed, hx]
  | clear => exact absurd rfl ha
  | get => rw [step_get_of_loaded hx, hx]

theorem loaded_run {x : Settings × Nat} (hx : h.cache.loaded = some x) (has : .clear ∉ as) :
    (h.run as).cache.loaded = some x := by
  induction as generalizing h with
  | nil => exact hx
  | cons a as ih =>
    have ha : a ≠ .clear := fun heq => has (heq ▸ List.mem_cons_self)
    exact ih (loaded_step hx ha) fun hmem => has (List.mem_cons_of_mem a hmem)

/-! ## Numbers of loads -/

/-- The number of what is cached is at least `k` and below the number of the next load, which is at
least `k` too. -/
structure NumberedFrom (k : Nat) (h : Host) : Prop where
  next : k ≤ h.cache.next
  loaded : ∀ σ n, h.cache.loaded = some (σ, n) → k ≤ n ∧ n < h.cache.next

theorem numberedFrom_start (env : Environment) : (start env).NumberedFrom 0 :=
  ⟨Nat.zero_le _, fun _ _ hloaded => nomatch hloaded⟩

namespace NumberedFrom

theorem of_cache_eq {h' : Host} (hh : h.NumberedFrom k) (heq : h'.cache = h.cache) :
    h'.NumberedFrom k := by
  obtain ⟨hnext, hloaded⟩ := hh
  exact ⟨by rwa [heq], by rwa [heq]⟩

theorem step (hh : h.NumberedFrom k) (a : Act) : (h.step a).2.NumberedFrom k := by
  cases a with
  | set name value => exact hh.of_cache_eq (cache_changed _)
  | unset name => exact hh.of_cache_eq (cache_changed _)
  | clear => exact ⟨hh.next, fun _ _ hloaded => nomatch hloaded⟩
  | get =>
    cases hloaded : h.cache.loaded with
    | some x =>
      rw [step_get_of_loaded hloaded]
      exact hh
    | none =>
      cases hfresh : h.fresh with
      | error f =>
        rw [step_get_of_error hloaded hfresh]
        exact hh
      | ok σ =>
        rw [step_get_of_ok hloaded hfresh]
        refine ⟨Nat.le_succ_of_le hh.next, fun τ n heq => ?_⟩
        obtain ⟨-, rfl⟩ := Prod.mk.inj (Option.some.inj heq)
        exact ⟨hh.next, Nat.lt_succ_self _⟩

theorem run (hh : h.NumberedFrom k) (as : List Act) : (h.run as).NumberedFrom k := by
  induction as generalizing h with
  | nil => exact hh
  | cons a as ih => exact ih (hh.step a)

theorem le_of_gives (hh : h.NumberedFrom k) (hg : h.Gives σ n) : k ≤ n := by
  rcases hg.loaded_or with hloaded | ⟨-, -, rfl⟩
  · exact (hh.loaded σ n hloaded).1
  · exact hh.next

end NumberedFrom

theorem lt_of_gives_of_clear (hh : h.NumberedFrom k) (hg : h.Gives σ n) (has : .clear ∈ as)
    (hg' : (h.run (.get :: as)).Gives τ m) : n < m := by
  obtain ⟨before, after, rfl, hbefore⟩ := List.eq_append_cons_of_mem has
  rw [run_cons, run_append, run_cons] at hg'
  have hkept := loaded_run hg.loaded_after hbefore
  have hnext := (((hh.step .get).run before).loaded σ n hkept).2
  have hcleared : ((((h.step .get).2.run before).step .clear).2).NumberedFrom (n + 1) :=
    ⟨hnext, fun _ _ hloaded => nomatch hloaded⟩
  exact (hcleared.run after).le_of_gives hg'

/-! ## Where the settings come from -/

/-- Nothing is cached after these acts: they are the ones up to the last time that the cache was
cleared, or none, and the ones since then, in which all asking was refused. -/
structure Unloaded (h : Host) (before quiet : List Act) : Prop where
  cleared : before = [] ∨ ∃ earlier, before = earlier ++ [.clear]
  uncleared : .clear ∉ quiet
  refused : ∀ earlier later, quiet = earlier ++ .get :: later → (h.run (before ++ earlier)).Refuses

/-- The settings were loaded in these acts: by the first asking that succeeded since the cache was
cleared last, from the variables as they stood then. -/
def LoadedBy (h : Host) (as : List Act) (σ : Settings) : Prop :=
  ∃ before quiet rest, as = before ++ quiet ++ .get :: rest ∧ h.Unloaded before quiet ∧
    .clear ∉ rest ∧ (h.run (before ++ quiet)).fresh = .ok σ

theorem Unloaded.concat {before quiet : List Act} (hu : h.Unloaded before quiet) (ha : a ≠ .clear)
    (hget : a = .get → (h.run (before ++ quiet)).Refuses) : h.Unloaded before (quiet ++ [a]) where
  cleared := hu.cleared
  uncleared := fun hmem => (List.mem_append.1 hmem).elim hu.uncleared fun hmem =>
    ha (List.mem_singleton.1 hmem).symm
  refused earlier later heq := by
    rcases List.eq_nil_or_concat later with rfl | ⟨later, b, rfl⟩
    · obtain ⟨rfl, hlast⟩ := List.append_inj' heq rfl
      exact hget (List.singleton_inj.1 hlast)
    · rw [List.concat_eq_append, ← List.cons_append, ← List.append_assoc] at heq
      exact hu.refused earlier later (List.append_inj' heq rfl).1

theorem LoadedBy.concat (hl : h.LoadedBy as σ) (ha : a ≠ .clear) : h.LoadedBy (as ++ [a]) σ := by
  obtain ⟨before, quiet, rest, rfl, hu, hrest, hfresh⟩ := hl
  refine ⟨before, quiet, rest ++ [a], by simp, hu, fun hmem => ?_, hfresh⟩
  exact (List.mem_append.1 hmem).elim hrest fun hmem => ha (List.mem_singleton.1 hmem).symm

/-- What is cached after some acts says how they went. -/
def Explained (h : Host) (as : List Act) : Prop :=
  match (h.run as).cache.loaded with
  | some (σ, _) => h.LoadedBy as σ
  | none => ∃ before quiet, as = before ++ quiet ∧ h.Unloaded before quiet

theorem explained_of_loaded {x : Settings × Nat} (hx : (h.run as).cache.loaded = some x) :
    h.Explained as ↔ h.LoadedBy as x.1 := by
  rw [Explained, hx]

theorem explained_of_none (hnone : (h.run as).cache.loaded = none) :
    h.Explained as ↔ ∃ before quiet, as = before ++ quiet ∧ h.Unloaded before quiet := by
  rw [Explained, hnone]

theorem Explained.concat (he : h.Explained as) (ha : a ≠ .clear) (hget : a ≠ .get) :
    h.Explained (as ++ [a]) := by
  have hcache : ((h.run as).step a).2.cache = (h.run as).cache := by
    cases a with
    | set name value => exact cache_changed _
    | unset name => exact cache_changed _
    | clear => exact absurd rfl ha
    | get => exact absurd rfl hget
  rw [← run_concat] at hcache
  cases hloaded : (h.run as).cache.loaded with
  | some x =>
    rw [explained_of_loaded hloaded] at he
    rw [explained_of_loaded (hcache ▸ hloaded)]
    exact he.concat ha
  | none =>
    rw [explained_of_none hloaded] at he
    obtain ⟨before, quiet, rfl, hu⟩ := he
    rw [explained_of_none (hcache ▸ hloaded)]
    exact ⟨before, quiet ++ [a], by simp, hu.concat ha fun h => absurd h hget⟩

/-- **What is cached was loaded since the cache was cleared last**, by the first asking that
succeeded, and where nothing is cached none did. -/
theorem explained_run (hnone : h.cache.loaded = none) (as : List Act) : h.Explained as := by
  induction as using List.reverseRecOn with
  | nil =>
    refine (explained_of_none ?_).2 ⟨[], [], rfl, .inl rfl, by simp, by simp⟩
    exact hnone
  | append_singleton as a ih =>
    cases a with
    | set name value => exact ih.concat (by simp) (by simp)
    | unset name => exact ih.concat (by simp) (by simp)
    | clear =>
      refine (explained_of_none (by rw [run_concat]; rfl)).2 ⟨as ++ [.clear], [], by simp, ?_⟩
      exact ⟨.inr ⟨as, rfl⟩, by simp, by simp⟩
    | get =>
      cases hloaded : (h.run as).cache.loaded with
      | some x =>
        rw [explained_of_loaded hloaded] at ih
        refine (explained_of_loaded (x := x) ?_).2 (ih.concat (by simp))
        rw [run_concat, step_get_of_loaded hloaded, hloaded]
      | none =>
        obtain ⟨before, quiet, rfl, hu⟩ := (explained_of_none hloaded).1 ih
        cases hfresh : (h.run (before ++ quiet)).fresh with
        | error f =>
          have hr : (h.run (before ++ quiet)).Refuses := refuses_iff.2 ⟨hloaded, f, hfresh⟩
          refine (explained_of_none ?_).2
            ⟨before, quiet ++ [.get], by simp, hu.concat (by simp) fun _ => hr⟩
          rw [run_concat, hr.after, hloaded]
        | ok σ =>
          have hafter : (h.run (before ++ quiet ++ [.get])).cache.loaded =
              some (σ, (h.run (before ++ quiet)).cache.next) := by
            rw [run_concat, step_get_of_ok hloaded hfresh]
          exact (explained_of_loaded hafter).2 ⟨before, quiet, [], rfl, hu, by simp, hfresh⟩

/-- **Settings that are given were loaded by the first asking that succeeded** since the cache was
cleared last, which may be this one. -/
theorem loadedBy_of_gives (hnone : h.cache.loaded = none) (hg : (h.run as).Gives σ n) :
    h.LoadedBy (as ++ [.get]) σ := by
  have he := explained_run hnone (as ++ [.get])
  rwa [explained_of_loaded (by rw [run_concat]; exact hg.loaded_after)] at he

theorem loaded_run_of_refused (hnone : h.cache.loaded = none)
    (has : ∀ earlier later, as = earlier ++ .get :: later → (h.run earlier).Refuses) :
    (h.run as).cache.loaded = none := by
  induction as generalizing h with
  | nil => exact hnone
  | cons a as ih =>
    have hstep : (h.step a).2.cache.loaded = none := by
      cases a with
      | set name value => rw [step, cache_changed, hnone]
      | unset name => rw [step, cache_changed, hnone]
      | clear => rfl
      | get =>
        have hr : h.Refuses := has [] as rfl
        rw [hr.after, hnone]
    refine ih hstep fun earlier later heq => ?_
    exact has (a :: earlier) later (congrArg (a :: ·) heq)

/-! ## Runs -/

/-- **What a host is answered when it asks for its settings.** Settings that are given were computed
from the variables as they stood at the first asking that succeeded since the cache was cleared
last, or since the start. They come from the same load as any that were given before if and only if
the cache was not cleared in between, and then nothing can make the asking fail. As long as all
asking fails nothing is cached, so the next asking succeeds as soon as the variables, as they are by
then, come to settings. -/
theorem settings_over_time (env : Environment) (as : List Act) :
    (∀ σ n, ((start env).run as).Gives σ n → (start env).LoadedBy (as ++ [.get]) σ) ∧
    (∀ earlier later σ n, as = earlier ++ .get :: later → ((start env).run earlier).Gives σ n →
      (∀ τ m, ((start env).run as).Gives τ m → (m = n ↔ .clear ∉ later)) ∧
        (.clear ∉ later → ((start env).run as).Gives σ n)) ∧
    (∀ earlier later, as = earlier ++ .get :: later → ((start env).run earlier).Refuses →
      (∀ between after, later = between ++ .get :: after →
        ((start env).run (earlier ++ .get :: between)).Refuses) →
      ((start env).run as).cache.loaded = none ∧
        ∀ σ, ((start env).run as).fresh = .ok σ → ∃ n, ((start env).run as).Gives σ n) := by
  refine ⟨fun σ n hg => loadedBy_of_gives rfl hg, ?_, ?_⟩
  · rintro earlier later σ n rfl hg
    have hkept : .clear ∉ later → ((start env).run (earlier ++ .get :: later)).Gives σ n := by
      intro hlater
      rw [run_append, run_cons]
      exact gives_of_loaded (loaded_run hg.loaded_after hlater)
    refine ⟨fun τ m hg' => ⟨?_, fun hlater => ?_⟩, hkept⟩
    · rintro rfl hclear
      rw [run_append] at hg'
      exact lt_irrefl m (lt_of_gives_of_clear ((numberedFrom_start env).run earlier) hg hclear hg')
    · have heq := hg'.symm.trans (hkept hlater)
      exact congrArg Prod.snd (Option.some.inj (Except.ok.inj heq))
  · rintro earlier later rfl hr hlater
    have hnone : ((start env).run (earlier ++ .get :: later)).cache.loaded = none := by
      rw [run_append, run_cons, hr.after]
      refine loaded_run_of_refused (refuses_iff.1 hr).1 fun between after heq => ?_
      have hrefused := hlater between after heq
      rwa [run_append, run_cons, hr.after] at hrefused
    exact ⟨hnone, fun σ hσ => ⟨_, congrArg Prod.fst (step_get_of_ok hnone hσ)⟩⟩

/-- A variable that is bad at the first asking and good at the second one, whose settings are given
again when the variable is bad once more, but not after the cache was cleared. -/
theorem settings_over_time_repaired :
    let debug (value : String) : Act := .set (.text "AUTHKEYS_DEBUG") (.text value)
    let h := start []
    let first := [debug "maybe"]
    let second := first ++ .get :: [debug "on"]
    let third := second ++ .get :: [debug "perhaps"]
    let fourth := second ++ .get :: [debug "perhaps", .clear, debug "off"]
    (h.run first).Refuses ∧ (h.run second).cache.loaded = none ∧ ∃ σ n τ m,
      (h.run second).Gives σ n ∧ σ.debug = true ∧ (h.run third).Gives σ n ∧
        (∃ f, (h.run third).fresh = .error f) ∧ h.LoadedBy (third ++ [.get]) σ ∧
        (h.run fourth).Gives τ m ∧ m ≠ n := by
  intro debug h first second third fourth
  have toOption_eq_none : ∀ r : Except Failure Settings, r.toOption = none → ∃ f, r = .error f := by
    rintro (f | σ) hr
    · exact ⟨f, rfl⟩
    · cases hr
  have toOption_eq_some : ∀ (r : Except Failure Settings) σ, r.toOption = some σ → r = .ok σ := by
    rintro (f | σ) τ hr
    · cases hr
    · rw [Option.some.inj hr]
  have hno : ∀ {as between after : List Act}, .get ∉ as → as ≠ between ++ .get :: after := by
    rintro as between after hget rfl
    exact hget (by simp)
  have hrefuses : (h.run first).Refuses := by
    refine refuses_iff.2 ⟨by rfl, toOption_eq_none _ (by decide +kernel)⟩
  obtain ⟨hnone, hgives⟩ := (settings_over_time [] second).2.2 first [debug "on"] rfl hrefuses
    fun between after heq => absurd heq (hno (by simp [debug]))
  obtain ⟨σ, hσ, hdebug⟩ : ∃ σ, (h.run second).fresh.toOption = some σ ∧ σ.debug = true := by
    have hsome : (h.run second).fresh.toOption.map Settings.debug = some true := by decide +kernel
    exact Option.map_eq_some_iff.1 hsome
  obtain ⟨τ, hτ⟩ : ∃ τ, (h.run fourth).fresh.toOption = some τ :=
    Option.isSome_iff_exists.1 (by decide +kernel)
  obtain ⟨n, hg⟩ := hgives σ (toOption_eq_some _ σ hσ)
  have hthird := ((settings_over_time [] third).2.1 second [debug "perhaps"] σ n rfl hg).2
    (by simp [debug])
  have hcleared : (h.run fourth).cache.loaded = none := Option.isNone_iff_eq_none.1 (by decide +kernel)
  have hfourth : (h.run fourth).Gives τ (h.run fourth).cache.next :=
    congrArg Prod.fst (step_get_of_ok hcleared (toOption_eq_some _ τ hτ))
  have hsame := ((settings_over_time [] fourth).2.1 second [debug "perhaps", .clear, debug "off"]
    σ n rfl hg).1 τ _ hfourth
  exact ⟨hrefuses, hnone, σ, n, τ, _, hg, hdebug, hthird, toOption_eq_none _ (by decide +kernel),
    (settings_over_time [] third).1 σ n hthird, hfourth, fun heq => hsame.1 heq (by simp)⟩

end ApiKeys.Host

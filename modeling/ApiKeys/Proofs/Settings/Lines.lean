import ApiKeys.Settings.DotEnv
import Mathlib.Tactic

/-!
# The lines of a settings file

A settings file binds names line by line, and a line may refer to what the lines before it bind.
Where no two names differ in case only, the last line that has a name, in any case, decides what the
file says of it (`find?_bound_eq_some_iff`). A value without references stands for itself
(`expand_eq_self`).
-/

namespace ApiKeys

namespace Environment

variable {α : Type} {name key : Text} {v : α} {es before : List (Text × α)} {e : Text × α}

theorem mem_set (h : e ∈ set name v es) : e = (name, v) ∨ e ∈ es := by
  induction es with
  | nil => exact .inl (List.mem_singleton.1 h)
  | cons f es ih =>
    rw [set] at h
    split at h
    · exact (List.mem_cons.1 h).imp_right (List.mem_cons_of_mem f)
    · rcases List.mem_cons.1 h with rfl | h
      · exact .inr List.mem_cons_self
      · exact (ih h).imp_right (List.mem_cons_of_mem f)

theorem nodup_set (h : (es.map Prod.fst).Nodup) : ((set name v es).map Prod.fst).Nodup := by
  induction es with
  | nil => simp [set]
  | cons f es ih =>
    obtain ⟨hf, hes⟩ := List.nodup_cons.1 h
    rw [set]
    split
    · next hname => exact List.nodup_cons.2 ⟨hname ▸ hf, hes⟩
    · next hname =>
      refine List.nodup_cons.2 ⟨fun hmem => ?_, ih hes⟩
      obtain ⟨e, he, heq⟩ := List.mem_map.1 hmem
      rcases mem_set he with rfl | he
      · exact hname heq.symm
      · exact hf (heq ▸ List.mem_map_of_mem he)

theorem filter_set_of_ne (h : name.lower ≠ key) :
    (set name v es).filter (fun e => e.1.lower = key) = es.filter fun e => e.1.lower = key := by
  induction es with
  | nil => simp [set, h]
  | cons f es ih =>
    rw [set]
    split
    · next hname => simp [h, hname]
    · simp only [List.filter_cons, ih]

theorem filter_set (h : name.lower = key) (hes : (es.map Prod.fst).Nodup)
    (hapart : ∀ e ∈ es, e.1.lower = key → e.1 = name) :
    (set name v es).filter (fun e => e.1.lower = key) = [(name, v)] := by
  induction es with
  | nil => simp [set, h]
  | cons f es ih =>
    obtain ⟨hf, hes⟩ := List.nodup_cons.1 hes
    obtain ⟨hfapart, hapart⟩ := List.forall_mem_cons.1 hapart
    rw [set]
    split
    · next hname =>
      have hrest : es.filter (fun e => e.1.lower = key) = [] := by
        rw [List.filter_eq_nil_iff]
        intro e he heq
        refine hf (List.mem_map.2 ⟨e, he, ?_⟩)
        rw [hapart e he (of_decide_eq_true heq)]
        exact hname.symm
      simp [h, hrest]
    · next hname =>
      have hlower : f.1.lower ≠ key := fun heq => hname (hfapart heq)
      simp [hlower, ih hes hapart]

/-! ## The last entry of a name -/

theorem find?_reverse (p : α → Bool) (es : List α) :
    es.reverse.find? p = (es.filter p).getLast? := by
  rw [← List.head?_filter, List.filter_reverse, List.head?_reverse]

/-- The last entry that has a name, in any case: the entries before it, and its value. -/
def LastNamed (key : Text) (es before : List (Text × α)) (v : α) : Prop :=
  ∃ name after, es = before ++ (name, v) :: after ∧ name.lower = key ∧
    ∀ e ∈ after, e.1.lower ≠ key

theorem LastNamed.map {β : Type} (f : α → β) (h : LastNamed key es before v) :
    LastNamed key (es.map fun e => (e.1, f e.2)) (before.map fun e => (e.1, f e.2)) (f v) := by
  obtain ⟨name, after, rfl, hname, hafter⟩ := h
  refine ⟨name, after.map fun e => (e.1, f e.2), by simp, hname, ?_⟩
  rw [List.forall_mem_map]
  exact hafter

theorem lastNamed_concat_of_eq (h : e.1.lower = key) :
    LastNamed key (es ++ [e]) before v ↔ before = es ∧ v = e.2 := by
  constructor
  · rintro ⟨name, after, heq, -, hafter⟩
    rcases List.eq_nil_or_concat after with rfl | ⟨after, f, rfl⟩
    · obtain ⟨rfl, he⟩ := List.append_inj' heq rfl
      rw [List.singleton_inj.1 he]
      exact ⟨rfl, rfl⟩
    · rw [List.concat_eq_append, ← List.cons_append, ← List.append_assoc] at heq
      obtain ⟨-, he⟩ := List.append_inj' heq rfl
      rw [List.singleton_inj.1 he] at h
      exact absurd h (hafter f (by simp))
  · rintro ⟨rfl, rfl⟩
    exact ⟨e.1, [], rfl, h, by simp⟩

theorem lastNamed_concat_of_ne (h : e.1.lower ≠ key) :
    LastNamed key (es ++ [e]) before v ↔ LastNamed key es before v := by
  constructor
  · rintro ⟨name, after, heq, hname, hafter⟩
    rcases List.eq_nil_or_concat after with rfl | ⟨after, f, rfl⟩
    · obtain ⟨-, he⟩ := List.append_inj' heq rfl
      rw [List.singleton_inj.1 he] at h
      exact absurd hname h
    · rw [List.concat_eq_append, ← List.cons_append, ← List.append_assoc] at heq
      rw [List.concat_eq_append] at hafter
      exact ⟨name, after, (List.append_inj' heq rfl).1, hname, fun g hg => hafter g (by simp [hg])⟩
  · rintro ⟨name, after, rfl, hname, hafter⟩
    refine ⟨name, after ++ [e], by simp, hname, fun g hg => ?_⟩
    rcases List.mem_append.1 hg with hg | hg
    · exact hafter g hg
    · rwa [List.mem_singleton.1 hg]

theorem find?_reverse_eq_some_iff :
    (es.reverse.find? fun e => e.1.lower = key).map (·.2) = some v ↔
      ∃ before, LastNamed key es before v := by
  rw [find?_reverse]
  induction es using List.reverseRecOn with
  | nil => simp [LastNamed]
  | append_singleton es e ih =>
    by_cases he : e.1.lower = key
    · simp [lastNamed_concat_of_eq he, he, eq_comm]
    · simp [lastNamed_concat_of_ne he, he, ← ih]

end Environment

namespace DotEnv

variable {env : Environment} {key : Text} {ls : List Binding}

/-- The lines of a text that bind a name, in order. -/
def lines (s : Text) : List Binding :=
  let s := unifyBreaks (skipByteOrderMark s)
  bindings s.length s

/-- What some lines bind in an environment, one line after the other. -/
def bound (env : Environment) (ls : List Binding) : List (Text × Option Text) :=
  ls.foldl
    (fun bound (name, value) => Environment.set name (value.map (expand (meaning env bound))) bound)
    []

theorem parse_eq (env : Environment) (s : Text) : parse env s = bound env (lines s) := rfl

theorem bound_concat (env : Environment) (ls : List Binding) (name : Text) (v : Option Text) :
    bound env (ls ++ [(name, v)]) =
      Environment.set name (v.map (expand (meaning env (bound env ls)))) (bound env ls) := by
  rw [bound, List.foldl_concat]
  rfl

/-- Names that differ do so in more than case. -/
def Apart (ls : List Binding) : Prop :=
  ∀ l ∈ ls, ∀ m ∈ ls, l.1.lower = m.1.lower → l.1 = m.1

instance : Decidable (Apart ls) :=
  inferInstanceAs (Decidable (∀ l ∈ ls, ∀ m ∈ ls, l.1.lower = m.1.lower → l.1 = m.1))

theorem nodup_bound (env : Environment) (ls : List Binding) :
    ((bound env ls).map Prod.fst).Nodup := by
  induction ls using List.reverseRecOn with
  | nil => exact List.nodup_nil
  | append_singleton ls l ih =>
    rw [bound_concat]
    exact Environment.nodup_set ih

theorem exists_mem_of_mem_bound {e : Text × Option Text} (h : e ∈ bound env ls) :
    ∃ l ∈ ls, l.1 = e.1 := by
  induction ls using List.reverseRecOn with
  | nil => cases h
  | append_singleton ls l ih =>
    rw [bound_concat] at h
    rcases Environment.mem_set h with rfl | h
    · exact ⟨l, by simp, rfl⟩
    · obtain ⟨m, hm, heq⟩ := ih h
      exact ⟨m, by simp [hm], heq⟩

/-- **The last line that has a name decides what the lines bind to it**, with its references
replaced by what the lines before it say. A last line without a value binds nothing. -/
theorem find?_bound_eq_some_iff (hls : Apart ls) {t : Text} :
    (((bound env ls).reverse.find? fun e => e.1.lower = key).map (·.2)).join = some t ↔
      ∃ before v, Environment.LastNamed key ls before (some v) ∧
        t = expand (meaning env (bound env before)) v := by
  rw [Environment.find?_reverse]
  induction ls using List.reverseRecOn with
  | nil => simp [bound, Environment.LastNamed]
  | append_singleton ls l ih =>
    obtain ⟨name, v⟩ := l
    rw [bound_concat]
    by_cases hname : name.lower = key
    · have hapart : ∀ e ∈ bound env ls, e.1.lower = key → e.1 = name := by
        intro e he heq
        obtain ⟨m, hm, hme⟩ := exists_mem_of_mem_bound he
        rw [← hme]
        exact hls m (by simp [hm]) (name, v) (by simp) (by rw [hme, heq, hname])
      rw [Environment.filter_set hname (nodup_bound env ls) hapart]
      simp only [Environment.lastNamed_concat_of_eq (e := (name, v)) hname]
      cases v <;> simp [eq_comm]
    · have hapart : Apart ls := fun m hm n hn => hls m (by simp [hm]) n (by simp [hn])
      rw [Environment.filter_set_of_ne hname, ih hapart]
      simp only [Environment.lastNamed_concat_of_ne (e := (name, v)) hname]

/-! ## References -/

/-- The references that are replaced in a value, each a name with a default. -/
inductive Refers : Text → Text × Text → Prop
  | here {s left : Text} {r : Text × Text} :
      reference? s = some (r, left) → Refers (.char '$' :: .char '{' :: s) r
  | after {s left : Text} {r r' : Text × Text} : reference? s = some (r', left) →
      Refers left r → Refers (.char '$' :: .char '{' :: s) r
  | skip {p : CodePoint} {s : Text} {r : Text × Text} :
      (∀ s', p :: s = .char '$' :: .char '{' :: s' → reference? s' = none) →
      Refers s r → Refers (p :: s) r

theorem expand_reference {s left : Text} {r : Text × Text} (meaning : Text × Text → Text)
    (hr : reference? s = some (r, left)) :
    expand meaning (.char '$' :: .char '{' :: s) = meaning r ++ expand meaning left := by
  rw [expand]
  split
  · next r' left' hr' =>
    obtain ⟨rfl, rfl⟩ := Prod.mk.inj (Option.some.inj (hr.symm.trans hr'))
    rfl
  · next hnone => cases hr.symm.trans hnone

theorem expand_skip {p : CodePoint} {s : Text} (meaning : Text × Text → Text)
    (hp : ∀ s', p :: s = .char '$' :: .char '{' :: s' → reference? s' = none) :
    expand meaning (p :: s) = p :: expand meaning s := by
  by_cases hopens : ∃ s', p :: s = .char '$' :: .char '{' :: s'
  · obtain ⟨s', heq⟩ := hopens
    have hnone := hp s' heq
    cases heq
    rw [expand]
    split
    · next hr => cases hnone.symm.trans hr
    · rfl
  · rw [expand]
    intro s' hdollar hbrace
    exact hopens ⟨s', by rw [hdollar, hbrace]⟩

/-- **A value takes its meaning from what it refers to**, and from nothing else. -/
theorem expand_congr {m m' : Text × Text → Text} {t : Text} (h : ∀ r, Refers t r → m r = m' r) :
    expand m t = expand m' t := by
  fun_induction expand m t with
  | case1 => rw [expand]
  | case2 s r left hr _ ih =>
    rw [expand_reference m' hr, h r (.here hr), ih fun r' hr' => h r' (.after hr hr')]
  | case3 s hnone ih =>
    have hskip : ∀ s', CodePoint.char '$' :: CodePoint.char '{' :: s =
        .char '$' :: .char '{' :: s' → reference? s' = none := by
      rintro s' ⟨⟩
      exact hnone
    rw [expand_skip m' hskip, ih fun r hr => h r (.skip hskip hr)]
  | case4 p s hp ih =>
    have hskip : ∀ s', p :: s = .char '$' :: .char '{' :: s' → reference? s' = none := by
      rintro s' ⟨⟩
      exact (hp s' rfl rfl).elim
    rw [expand_skip m' hskip, ih fun r hr => h r (.skip hskip hr)]

theorem expand_eq_self {t : Text} (meaning : Text × Text → Text) (ht : ∀ r, ¬ Refers t r) :
    expand meaning t = t := by
  induction t with
  | nil => rw [expand]
  | cons p s ih =>
    have hskip : ∀ s', p :: s = .char '$' :: .char '{' :: s' → reference? s' = none := by
      rintro s' ⟨⟩
      cases hr : reference? s' with
      | none => rfl
      | some x => exact absurd (.here hr) (ht x.1)
    rw [expand_skip meaning hskip, ih fun r hr => ht r (.skip hskip hr)]

end DotEnv

end ApiKeys

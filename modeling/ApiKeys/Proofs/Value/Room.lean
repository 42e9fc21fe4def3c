import ApiKeys.Proofs.Value.Within

/-!
# Room for a value

What keeps a writer from a value is known by the fault it ends with: something foreign to JSON
occurs in the value, or a whole number with too many digits, or the value is too deep for the room
there was (`Value.Hinders`). So a value whose numbers are short and whose depth fits the room of
both writers has a text (`Value.Fits.display_eq_ok`). No writer gets past a number that is too long
(`Value.isShort_of_display`), so a value that is shown and in which nothing is foreign is shown as
JSON (`Value.json_of_display`).
-/

namespace ApiKeys.Value

variable {v w : Value} {items : List Value} {ms : Members} {i : Int} {room : Nat} {r : Room}
  {t : List Char} {e : JsonFault} {u : Unwritten} {doing : String}

/-- A value that can name a member of a JSON object. -/
def NamesMember : Value → Prop
  | text _ | null | bool _ | int _ | float _ => True
  | _ => False

/-- No JSON text stands for the value itself: it is octets, a set of either kind or a time, or an
object with a name that is none in JSON. -/
def Foreign : Value → Prop
  | bytes _ | set _ | frozenSet _ | time _ => True
  | object ms => ∃ m ∈ ms, ¬ m.1.NamesMember
  | _ => False

mutual

/-- How many levels the literal of a value opens. -/
def depth : Value → Nat
  | list items | tuple items => depthAmong items + 1
  | set items | frozenSet items => depthAmong items + 2
  | object ms => depthOf ms + 1
  | time _ => 3
  | _ => 1

/-- The most levels that one of some values opens. -/
def depthAmong : List Value → Nat
  | [] => 0
  | v :: vs => max (depth v) (depthAmong vs)

/-- The most levels that a name or a value of some members opens. -/
def depthOf : List (Value × Value) → Nat
  | [] => 0
  | (name, v) :: ms => max (max (depth name) (depth v)) (depthOf ms)

end

theorem depth_pos (v : Value) : 0 < v.depth := by
  cases v <;> simp [depth]

theorem depth_le_depthAmong (h : v ∈ items) : v.depth ≤ depthAmong items := by
  induction items with
  | nil => cases h
  | cons w items ih =>
    rw [depthAmong]
    rcases List.mem_cons.1 h with rfl | h
    · exact Nat.le_max_left _ _
    · exact Nat.le_trans (ih h) (Nat.le_max_right _ _)

theorem depth_le_depthOf {m : Value × Value} (h : m ∈ ms) :
    m.1.depth ≤ depthOf ms ∧ m.2.depth ≤ depthOf ms := by
  induction ms with
  | nil => cases h
  | cons n ms ih =>
    rw [depthOf]
    rcases List.mem_cons.1 h with rfl | h
    · exact ⟨by omega, by omega⟩
    · have := ih h
      exact ⟨by omega, by omega⟩

theorem depth_lt_of_mem_children (h : w ∈ v.children) : w.depth < v.depth := by
  cases v with
  | list items | tuple items | set items | frozenSet items =>
    have hle : w.depth ≤ depthAmong items := depth_le_depthAmong h
    simp only [depth]
    omega
  | object ms =>
    have hmembers : ∀ m ∈ ms, m.1.depth < (object ms).depth ∧ m.2.depth < (object ms).depth := by
      intro m hm
      have := depth_le_depthOf hm
      simp only [depth]
      omega
    exact forall_mem_children_object (P := (·.depth < (object ms).depth)).2 hmembers w h
  | _ => cases h

/-- Why a writer with so much room has no text for a value. -/
inductive Hinders (room : Nat) (v : Value) : JsonFault → Prop
  | foreign {w : Value} (hw : w.Within v) (h : w.Foreign) : Hinders room v .foreign
  | digits {i : Int} (hi : (int i).Within v) (h : ¬ IsShort i) : Hinders room v (.unwritten .digits)
  | nesting {doing : String} (h : room ≤ v.depth) : Hinders room v (.unwritten (.nesting doing))

theorem Hinders.of_child {levels : Nat} (hw : w ∈ v.children) (hlevels : w.depth + levels ≤ v.depth)
    (h : Hinders room w e) : Hinders (room + levels) v e := by
  cases h with
  | foreign hx hforeign => exact .foreign (.child hw hx) hforeign
  | digits hi hlong => exact .digits (.child hw hi) hlong
  | nesting hdepth => exact .nesting (by omega)

theorem numeral_eq_error (h : numeral i = .error u) : u = .digits ∧ ¬ IsShort i := by
  unfold numeral at h
  split at h
  · cases h
  · next hlong => exact ⟨(Except.error.inj h).symm, hlong⟩

theorem Hinders.of_numeral (h : numeral i = .error u) (hi : (int i).Within v) :
    Hinders room v (.unwritten u) := by
  obtain ⟨rfl, hlong⟩ := numeral_eq_error h
  exact .digits hi hlong

theorem Hinders.of_jsonNumeral (h : jsonNumeral i = .error e) (hi : (int i).Within v) :
    Hinders room v e := by
  obtain ⟨u, hu, rfl⟩ := mapError_eq_error.1 h
  exact .of_numeral hu hi

theorem Hinders.of_jsonName {m : Value × Value} (hm : m ∈ ms) (h : jsonName m.1 = .error e) :
    Hinders room (object ms) e := by
  have hforeign : ¬ m.1.NamesMember → Hinders room (object ms) .foreign :=
    fun hname => .foreign .self ⟨m, hm, hname⟩
  have hname : m.1 ∈ (object ms).children := name_mem_children hm
  cases hm : m.1 with
  | int i =>
    rw [hm, jsonName, map_eq_error] at h
    exact .of_jsonNumeral h (.child hname (hm ▸ .self))
  | text _ | null | bool _ | float _ =>
    rw [hm] at h
    cases h
  | _ =>
    rw [hm] at h
    obtain rfl := Except.error.inj h
    exact hforeign (by rw [hm]; exact id)

theorem Hinders.of_jsonMember {m : Value × Value} (hm : m ∈ ms) (h : jsonMember room m = .error e)
    (hvalue : json room m.2 = .error e → Hinders room m.2 e) :
    Hinders (room + 1) (object ms) e := by
  rcases bind_eq_error.1 h with hname | ⟨name, -, h⟩
  · exact .of_jsonName hm hname
  · rcases bind_eq_error.1 h with hv | ⟨t, -, h⟩
    · have hm := value_mem_children hm
      exact (hvalue hv).of_child hm (depth_lt_of_mem_children hm)
    · cases h

theorem Hinders.of_jsonForeign (hforeign : v.Foreign) : Hinders room v (jsonForeign room) := by
  have hdepth := depth_pos v
  unfold jsonForeign
  split
  · exact .nesting (by omega)
  · exact .foreign .self hforeign

theorem hinders_of_json (h : json room v = .error e) : Hinders room v e := by
  induction v using induct generalizing room e with
  | value v ih =>
    have hfull : Hinders 0 v jsonFull := .nesting (Nat.zero_le _)
    have hitems : ∀ items room, items = v.children → jsonItems room items = .error e →
        Hinders (room + 1) v e := by
      rintro _ room rfl h
      rw [jsonItems_eq] at h
      obtain ⟨w, hw, h⟩ := exists_of_mapM_eq_error h
      exact (ih w hw h).of_child hw (depth_lt_of_mem_children hw)
    cases v with
    | list items | tuple items =>
      cases room with
      | zero => exact Except.error.inj h ▸ hfull
      | succ room => exact hitems items room rfl (map_eq_error.1 h)
    | object ms =>
      cases room with
      | zero => exact Except.error.inj h ▸ hfull
      | succ room =>
        rw [json, map_eq_error, jsonMembers_eq] at h
        obtain ⟨m, hm, h⟩ := exists_of_mapM_eq_error h
        exact .of_jsonMember hm h (ih m.2 (value_mem_children hm))
    | int i =>
      rw [json] at h
      exact .of_jsonNumeral h .self
    | bytes _ | set _ | frozenSet _ | time _ =>
      rw [json] at h
      exact Except.error.inj h ▸ .of_jsonForeign trivial
    | _ =>
      rw [json] at h
      cases h

theorem hinders_of_literal (h : literal room v = .error u) : Hinders (room + 1) v (.unwritten u) := by
  induction v using induct generalizing room u with
  | value v ih =>
    have hfull : ∀ room, room < v.depth → literalFull = u → Hinders (room + 1) v (.unwritten u) := by
      rintro room hroom rfl
      exact .nesting hroom
    have hpart : ∀ levels {room w}, w ∈ v.children → w.depth + levels ≤ v.depth →
        literal room w = .error u → Hinders (room + levels + 1) v (.unwritten u) := by
      intro levels room w hw hlevels h
      rw [Nat.add_right_comm]
      exact (ih w hw h).of_child hw hlevels
    cases room with
    | zero =>
      rw [literal] at h
      exact hfull 0 (depth_pos v) (Except.error.inj h)
    | succ room =>
      cases v with
      | list items | tuple items =>
        rw [literal, map_eq_error, literalItems_eq] at h
        obtain ⟨w, hw, h⟩ := exists_of_mapM_eq_error h
        exact hpart 1 hw (depth_lt_of_mem_children hw) h
      | set items | frozenSet items =>
        rw [literal] at h
        split at h
        · cases h
        · rw [map_eq_error] at h
          cases room with
          | zero => exact hfull 1 (by simp [depth]) (Except.error.inj h)
          | succ room =>
            rw [deeper, literalItems_eq] at h
            obtain ⟨w, hw, h⟩ := exists_of_mapM_eq_error h
            exact hpart 2 hw (Nat.add_le_add_right (depth_le_depthAmong hw) 2) h
      | object ms =>
        rw [literal, map_eq_error, literalMembers_eq] at h
        obtain ⟨m, hm, h⟩ := exists_of_mapM_eq_error h
        rcases bind_eq_error.1 h with h | ⟨name, -, h⟩
        · have hm := name_mem_children hm
          exact hpart 1 hm (depth_lt_of_mem_children hm) h
        · rcases bind_eq_error.1 h with h | ⟨t, -, h⟩
          · have hm := value_mem_children hm
            exact hpart 1 hm (depth_lt_of_mem_children hm) h
          · cases h
      | int i =>
        rw [literal] at h
        exact .of_numeral h .self
      | time z =>
        rw [literal] at h
        split at h
        · next hroom =>
          refine hfull (room + 1) ?_ (Except.error.inj h)
          unfold zoneLevels at hroom
          simp only [depth]
          split at hroom <;> omega
        · cases h
      | _ =>
        rw [literal] at h
        cases h

/-- The room of both writers is enough for a value, and all whole numbers in it are short. -/
structure Fits (r : Room) (v : Value) : Prop where
  short : ∀ i : Int, (int i).Within v → IsShort i
  json : v.depth < r.json
  literal : v.depth ≤ r.literal

/-- **A value that fits has a text.** -/
theorem Fits.display_eq_ok (h : v.Fits r) : ∃ t, v.display r = .ok t := by
  unfold display
  have hliteral : ∃ t, v.literal r.literal = .ok t := by
    cases hv : v.literal r.literal with
    | ok t => exact ⟨t, rfl⟩
    | error u =>
      cases hinders_of_literal hv with
      | digits hi hlong => exact absurd (h.short _ hi) hlong
      | nesting hdepth => exact absurd h.literal (Nat.not_le.2 hdepth)
  split
  · exact ⟨_, rfl⟩
  · next hv =>
    cases hinders_of_json hv with
    | nesting hdepth => exact absurd h.json (Nat.not_lt.2 hdepth)
  · exact hliteral
  · exact hliteral

/-! ## Numbers that are too long -/

/-- In some room the value has a literal. -/
def HasLiteral (v : Value) : Prop := ∃ room t, literal room v = .ok t

/-- In some room the value has a JSON text. -/
def HasJson (v : Value) : Prop := ∃ room t, json room v = .ok t

theorem isShort_of_numeral (h : numeral i = .ok t) : IsShort i := by
  unfold numeral at h
  split at h
  · assumption
  · cases h

theorem HasLiteral.of_mem_children (h : v.HasLiteral) (hw : w ∈ v.children) : w.HasLiteral := by
  obtain ⟨room, t, h⟩ := h
  cases room with
  | zero =>
    rw [literal] at h
    cases h
  | succ room =>
    cases v with
    | list items | tuple items =>
      rw [literal, map_eq_ok, literalItems_eq] at h
      obtain ⟨ts, h, -⟩ := h
      exact ⟨room, exists_of_mapM_eq_ok h w hw⟩
    | set items | frozenSet items =>
      rw [literal] at h
      split at h
      · next hempty =>
        obtain rfl := List.isEmpty_iff.1 hempty
        cases hw
      · obtain ⟨ts, h, -⟩ := map_eq_ok.1 h
        cases room with
        | zero => cases h
        | succ room =>
          rw [deeper, literalItems_eq] at h
          exact ⟨room, exists_of_mapM_eq_ok h w hw⟩
    | object ms =>
      rw [literal, map_eq_ok, literalMembers_eq] at h
      obtain ⟨ts, h, -⟩ := h
      refine forall_mem_children_object.2 (fun m hm => ?_) w hw
      obtain ⟨t, h⟩ := exists_of_mapM_eq_ok h m hm
      obtain ⟨name, hname, h⟩ := bind_eq_ok.1 h
      obtain ⟨t', ht', -⟩ := bind_eq_ok.1 h
      exact ⟨⟨room, name, hname⟩, room, t', ht'⟩
    | _ => cases hw

theorem HasLiteral.isShort (h : v.HasLiteral) (hi : (int i).Within v) : IsShort i := by
  obtain ⟨room, t, hi⟩ := hi.of_children HasLiteral.of_mem_children h
  cases room with
  | zero => cases hi
  | succ room =>
    rw [literal] at hi
    exact isShort_of_numeral hi

theorem hasJson_of_jsonName (h : jsonName v = .ok t) : v.HasJson := by
  cases v with
  | int i =>
    obtain ⟨t', h, -⟩ := map_eq_ok.1 h
    exact ⟨0, t', by rw [json, h]⟩
  | text _ | null | bool _ | float _ => exact ⟨0, _, by rw [json]⟩
  | _ => cases h

theorem HasJson.of_mem_children (h : v.HasJson) (hw : w ∈ v.children) : w.HasJson := by
  obtain ⟨room, t, h⟩ := h
  cases v with
  | list items | tuple items =>
    cases room with
    | zero => cases h
    | succ room =>
      rw [json, map_eq_ok, jsonItems_eq] at h
      obtain ⟨ts, h, -⟩ := h
      exact ⟨room, exists_of_mapM_eq_ok h w hw⟩
  | object ms =>
    cases room with
    | zero => cases h
    | succ room =>
      rw [json, map_eq_ok, jsonMembers_eq] at h
      obtain ⟨ts, h, -⟩ := h
      refine forall_mem_children_object.2 (fun m hm => ?_) w hw
      obtain ⟨t, h⟩ := exists_of_mapM_eq_ok h m hm
      obtain ⟨name, hname, h⟩ := bind_eq_ok.1 h
      obtain ⟨t', ht', -⟩ := bind_eq_ok.1 h
      exact ⟨hasJson_of_jsonName hname, room, t', ht'⟩
  | bytes _ | set _ | frozenSet _ | time _ =>
    rw [json] at h
    cases h
  | _ => cases hw

theorem HasJson.isShort (h : v.HasJson) (hi : (int i).Within v) : IsShort i := by
  obtain ⟨room, t, hi⟩ := hi.of_children HasJson.of_mem_children h
  rw [json, jsonNumeral] at hi
  cases hn : numeral i with
  | ok s => exact isShort_of_numeral hn
  | error u =>
    rw [hn] at hi
    cases hi

/-- **No value with a number that is too long is shown.** -/
theorem isShort_of_display (h : v.display r = .ok t) (hi : (int i).Within v) : IsShort i := by
  unfold display at h
  split at h
  · next hv => exact HasJson.isShort ⟨_, _, hv⟩ hi
  · cases h
  · exact HasLiteral.isShort ⟨_, _, h⟩ hi
  · exact HasLiteral.isShort ⟨_, _, h⟩ hi

/-- **A value that is shown is shown as JSON** if nothing in it is foreign to JSON. -/
theorem json_of_display (hforeign : ∀ w : Value, w.Within v → ¬ w.Foreign) (h : v.display r = .ok t) :
    json r.json v = .ok t := by
  unfold display at h
  split at h
  · next hv => exact Except.ok.inj h ▸ hv
  · cases h
  · next hv =>
    cases hinders_of_json hv with
    | digits hi hlong => exact absurd (HasLiteral.isShort ⟨_, _, h⟩ hi) hlong
  · next hv =>
    cases hinders_of_json hv with
    | foreign hw hv => exact absurd hv (hforeign _ hw)

end ApiKeys.Value

import ApiKeys.Proofs.Value.Json

/-!
# The characters of a shown value

The spelling of JSON is printable ASCII throughout (`Value.ascii_spell`). A literal may hold any
character that is printable, but never a control character, so neither does the text of a value in a
message (`Value.tame_display`).
-/

namespace ApiKeys

/-- A control character: U+0000 to U+001F, or U+007F to U+009F. -/
def CodePoint.Control (p : CodePoint) : Prop := p.toNat < 0x20 ∨ 0x7f ≤ p.toNat ∧ p.toNat < 0xa0

/-- A character of printable ASCII: U+0020 to U+007E. -/
def CodePoint.Ascii (p : CodePoint) : Prop := 0x20 ≤ p.toNat ∧ p.toNat ≤ 0x7e

/-- A code point that may be shown: it is no control character. -/
def CodePoint.Tame (p : CodePoint) : Prop := ¬ p.Control

instance (p : CodePoint) : Decidable p.Control := by unfold CodePoint.Control; infer_instance

instance (p : CodePoint) : Decidable p.Ascii := by unfold CodePoint.Ascii; infer_instance

instance (p : CodePoint) : Decidable p.Tame := by unfold CodePoint.Tame; infer_instance

theorem CodePoint.Ascii.tame {p : CodePoint} (h : p.Ascii) : p.Tame := by
  unfold Ascii at h
  unfold Tame Control
  omega

/-- Every character has the property. -/
def Shows (P : CodePoint → Prop) (s : List Char) : Prop := ∀ c ∈ s, P (.char c)

namespace Shows

variable {P Q : CodePoint → Prop} {c : Char} {s t : List Char} {ts : List (List Char)}

instance [DecidablePred P] (s : List Char) : Decidable (Shows P s) :=
  List.decidableBAll (fun c => P (.char c)) s

@[simp] theorem nil : Shows P [] := fun _ hc => nomatch hc

@[simp] theorem cons_iff : Shows P (c :: s) ↔ P (.char c) ∧ Shows P s := List.forall_mem_cons

@[simp] theorem append_iff : Shows P (s ++ t) ↔ Shows P s ∧ Shows P t := List.forall_mem_append

theorem mono (h : Shows P s) (hPQ : ∀ p, P p → Q p) : Shows Q s := fun c hc => hPQ _ (h c hc)

theorem flatMap {α : Type} {f : α → List Char} {l : List α} (h : ∀ a ∈ l, Shows P (f a)) :
    Shows P (l.flatMap f) := by
  intro c hc
  obtain ⟨a, ha, hc⟩ := List.mem_flatMap.1 hc
  exact h a ha c hc

theorem between {first last : Char} (hfirst : P (.char first)) (h : Shows P s)
    (hlast : P (.char last)) : Shows P (first :: s ++ [last]) :=
  append_iff.2 ⟨cons_iff.2 ⟨hfirst, h⟩, cons_iff.2 ⟨hlast, nil⟩⟩

theorem separated (hP : ∀ p : CodePoint, p.Ascii → P p) (h : ∀ t ∈ ts, Shows P t) :
    Shows P (Value.separated ts) := by
  cases ts with
  | nil => exact nil
  | cons t ts =>
    obtain ⟨ht, hts⟩ := List.forall_mem_cons.1 h
    rw [Value.separated_cons, append_iff]
    refine ⟨ht, flatMap fun t ht => ?_⟩
    exact cons_iff.2 ⟨hP _ (by decide), cons_iff.2 ⟨hP _ (by decide), hts t ht⟩⟩

end Shows

/-! ## Numerals -/

theorem ascii_digitChar : ∀ d < 16, (CodePoint.char (Nat.digitChar d)).Ascii := by decide

theorem ascii_of_isDigit {s : List Char} (h : ∀ c ∈ s, c.isDigit = true) : Shows CodePoint.Ascii s := by
  intro c hc
  obtain ⟨hlt, hdigit⟩ := Digits.digitChar_of_isDigit (h c hc)
  rw [← hdigit]
  exact ascii_digitChar _ (Nat.lt_trans hlt (by decide))

theorem ascii_toDigits (n : Nat) : Shows CodePoint.Ascii (Nat.toDigits 10 n) :=
  ascii_of_isDigit fun _ hc => Nat.isDigit_of_mem_toDigits (by decide) (by decide) hc

theorem ascii_hex (width n : Nat) : Shows CodePoint.Ascii (Digits.hex width n) := by
  induction width generalizing n with
  | zero => exact .nil
  | succ w ih => simpa [Digits.hex] using ⟨ih _, ascii_digitChar _ (Nat.mod_lt n (by decide))⟩

theorem ascii_ofInt (i : Int) : Shows CodePoint.Ascii (Digits.ofInt i) := by
  cases i with
  | ofNat n => exact ascii_toDigits n
  | negSucc n => exact Shows.cons_iff.2 ⟨by decide, ascii_toDigits (n + 1)⟩

theorem ascii_decimalText (digits : Nat) (exponent : Int) :
    Shows CodePoint.Ascii (Floating.decimalText digits exponent) := by
  have hdigits := ascii_toDigits digits
  have htake : ∀ k, Shows CodePoint.Ascii ((Nat.toDigits 10 digits).take k) :=
    fun k c hc => hdigits c (List.mem_of_mem_take hc)
  have hdrop : ∀ k, Shows CodePoint.Ascii ((Nat.toDigits 10 digits).drop k) :=
    fun k c hc => hdigits c (List.mem_of_mem_drop hc)
  have hzeros : ∀ k, Shows CodePoint.Ascii (List.replicate k '0') := by
    intro k c hc
    rw [List.eq_of_mem_replicate hc]
    decide
  have hpower : ∀ n, Shows CodePoint.Ascii
      (if (Nat.toDigits 10 n).length < 2 then '0' :: Nat.toDigits 10 n else Nat.toDigits 10 n) := by
    intro n
    split
    · exact Shows.cons_iff.2 ⟨by decide, ascii_toDigits n⟩
    · exact ascii_toDigits n
  have hsign : ∀ e : Int, (CodePoint.char (if e < 0 then '-' else '+')).Ascii := by
    intro e
    split <;> decide
  have hfraction : Shows CodePoint.Ascii (if (Nat.toDigits 10 digits).length ≤ 1 then []
      else '.' :: (Nat.toDigits 10 digits).drop 1) := by
    split
    · exact .nil
    · exact Shows.cons_iff.2 ⟨by decide, hdrop 1⟩
  unfold Floating.decimalText
  dsimp only
  split
  · split
    · simpa using ⟨by decide, by decide, hzeros _, hdigits⟩
    · split
      · simpa using ⟨htake _, by decide, hdrop _⟩
      · simpa using ⟨hdigits, hzeros _, by decide, by decide⟩
  · simp only [Shows.append_iff, Shows.cons_iff]
    exact ⟨⟨htake 1, hfraction⟩, by decide, hsign _, hpower _⟩

theorem ascii_float (x : Floating) {nan infinity : List Char} (hnan : Shows CodePoint.Ascii nan)
    (hinfinity : Shows CodePoint.Ascii infinity) :
    Shows CodePoint.Ascii (x.text nan infinity) := by
  have hsign : ∀ b : Bool, Shows CodePoint.Ascii (if b = true then ['-'] else []) := by decide
  cases x with
  | nan => exact hnan
  | infinite negative => exact Shows.append_iff.2 ⟨hsign negative, hinfinity⟩
  | finite negative digits exponent =>
    exact Shows.append_iff.2 ⟨hsign negative, ascii_decimalText digits exponent⟩

/-! ## JSON texts -/

namespace Value

variable {v : Value} {items : List Value} {ms : Members}

theorem ascii_unitEscape (n : Nat) : Shows CodePoint.Ascii (unitEscape n) :=
  Shows.cons_iff.2 ⟨by decide, Shows.cons_iff.2 ⟨by decide, ascii_hex 4 n⟩⟩

theorem Escaped.ascii {c : Char} {x : List Char} (h : Escaped c x) : Shows CodePoint.Ascii x := by
  have hletter : ∀ a ∈ shortEscapes, (CodePoint.char a.2).Ascii := by decide
  cases h with
  | short h => simpa using ⟨by decide, hletter _ h⟩
  | plain hlow hhigh => simpa using ⟨hlow, hhigh⟩
  | units => exact Shows.flatMap fun n _ => ascii_unitEscape n

theorem ascii_jsonEscape (p : CodePoint) : Shows CodePoint.Ascii (jsonEscape p) := by
  cases p with
  | surrogate i => exact ascii_unitEscape _
  | char c => exact (escaped_jsonEscape c).ascii

theorem ascii_jsonString (t : Text) : Shows CodePoint.Ascii (jsonString t) :=
  .between (by decide) (.flatMap fun p _ => ascii_jsonEscape p) (by decide)

theorem ascii_jsonBool (b : Bool) : Shows CodePoint.Ascii (jsonBool b) := by
  cases b <;> decide

theorem ascii_jsonFloat (x : Floating) : Shows CodePoint.Ascii (jsonFloat x) :=
  ascii_float x (by decide) (by decide)

theorem ascii_spellName (v : Value) : Shows CodePoint.Ascii v.spellName := by
  have hquoted : ∀ {s}, Shows CodePoint.Ascii s → Shows CodePoint.Ascii (quoted s) :=
    fun h => .between (by decide) h (by decide)
  cases v with
  | text t => exact ascii_jsonString t
  | null => decide
  | bool b => exact hquoted (ascii_jsonBool b)
  | int i => exact hquoted (ascii_ofInt i)
  | float x => exact hquoted (ascii_jsonFloat x)
  | _ => exact .nil

theorem ascii_spell (v : Value) : Shows CodePoint.Ascii v.spell := by
  induction v using induct with
  | value v ih =>
    cases v with
    | null => decide
    | bool b => exact ascii_jsonBool b
    | int i => exact ascii_ofInt i
    | float x => exact ascii_jsonFloat x
    | text t => exact ascii_jsonString t
    | list items =>
      rw [spell_list]
      exact .between (by decide) (.separated (fun _ => id) (List.forall_mem_map.2 ih)) (by decide)
    | tuple items =>
      rw [spell_tuple]
      exact .between (by decide) (.separated (fun _ => id) (List.forall_mem_map.2 ih)) (by decide)
    | object ms =>
      rw [spell_object]
      have hmembers : ∀ m ∈ ms, Shows CodePoint.Ascii (spellMember m) := fun m hm => by
        simpa [spellMember] using
          ⟨ascii_spellName m.1, by decide, by decide, ih m.2 (value_mem_children hm)⟩
      exact .between (by decide) (.separated (fun _ => id) (List.forall_mem_map.2 hmembers))
        (by decide)
    | bytes _ | set _ | frozenSet _ | time _ => exact .nil

/-! ## Literals -/

theorem quoteFor_eq (hasSingle hasDouble : Bool) :
    quoteFor hasSingle hasDouble = '"' ∨ quoteFor hasSingle hasDouble = '\'' := by
  unfold quoteFor
  split
  · exact .inl rfl
  · exact .inr rfl

theorem ascii_quoteFor (hasSingle hasDouble : Bool) :
    (CodePoint.char (quoteFor hasSingle hasDouble)).Ascii := by
  rcases quoteFor_eq hasSingle hasDouble with h | h <;> rw [h] <;> decide

theorem tame_literalEscape {quote : Char} (hquote : (CodePoint.char quote).Ascii) (p : CodePoint) :
    Shows CodePoint.Tame (literalEscape quote p) := by
  have hnumber : ∀ letter : Char, (CodePoint.char letter).Ascii → ∀ width n,
      Shows CodePoint.Tame ('\\' :: letter :: Digits.hex width n) := by
    intro letter hletter width n
    have hascii := Shows.cons_iff.2 ⟨(by decide : (CodePoint.char '\\').Ascii),
      Shows.cons_iff.2 ⟨hletter, ascii_hex width n⟩⟩
    exact hascii.mono fun _ => CodePoint.Ascii.tame
  unfold literalEscape
  split
  case h_5 c _ _ _ _ =>
    split_ifs with hc hprintable
    · rw [hc]
      simpa using ⟨by decide, hquote.tame⟩
    · intro d hd hcontrol
      rw [List.mem_singleton.1 hd] at hcontrol
      rw [CodePoint.printable_eq_false_of_control hcontrol] at hprintable
      cases hprintable
    · exact hnumber 'x' (by decide) 2 _
    · exact hnumber 'u' (by decide) 4 _
    · exact hnumber 'U' (by decide) 8 _
  case h_6 => exact hnumber 'u' (by decide) 4 _
  all_goals decide

theorem tame_literalString (t : Text) : Shows CodePoint.Tame (literalString t) :=
  have hquote := ascii_quoteFor _ _
  .between hquote.tame (.flatMap fun p _ => tame_literalEscape hquote p) hquote.tame

theorem ascii_octetEscape {quote : Char} (hquote : (CodePoint.char quote).Ascii) (b : UInt8) :
    Shows CodePoint.Ascii (octetEscape quote b) := by
  have hb : b.toNat < 256 := b.toNat_lt
  unfold octetEscape
  dsimp only
  split_ifs with hself _ _ _ hplain
  · rcases hself with h | h <;> rw [h]
    · decide
    · simpa using ⟨by decide, hquote⟩
  · decide
  · decide
  · decide
  · have hvalid : b.toNat.isValidChar := .inl (by omega)
    have hnumber : (Char.ofNat b.toNat).toNat = b.toNat := by
      rw [Char.ofNat, dif_pos hvalid]
      rfl
    intro c hc
    rw [List.mem_singleton.1 hc]
    unfold CodePoint.Ascii
    rw [CodePoint.toNat, hnumber]
    omega
  · exact Shows.cons_iff.2 ⟨by decide, Shows.cons_iff.2 ⟨by decide, ascii_hex 2 _⟩⟩

theorem ascii_literalBytes (octets : List UInt8) : Shows CodePoint.Ascii (literalBytes octets) :=
  have hquote := ascii_quoteFor _ _
  Shows.cons_iff.2 ⟨by decide,
    .between hquote (.flatMap fun b _ => ascii_octetEscape hquote b) hquote⟩

theorem ascii_literalOffset (offset : Int) : Shows CodePoint.Ascii (literalOffset offset) := by
  unfold literalOffset
  split
  · exact Shows.append_iff.2 ⟨by decide +kernel, ascii_ofInt _⟩
  · exact Shows.append_iff.2 ⟨by decide +kernel, ascii_ofInt _⟩

theorem ascii_literalZone (offset : Int) : Shows CodePoint.Ascii (literalZone offset) := by
  unfold literalZone
  split
  · decide +kernel
  · simp only [Shows.append_iff]
    exact ⟨⟨by decide +kernel, ascii_literalOffset offset⟩, by decide +kernel⟩

theorem ascii_literalTime (z : Zoned) : Shows CodePoint.Ascii (literalTime z) := by
  have hnumbers : ∀ ns : List Nat,
      Shows CodePoint.Ascii (separated (ns.map (Nat.toDigits 10))) := fun ns =>
    .separated (fun _ => id) (List.forall_mem_map.2 fun n _ => ascii_toDigits n)
  unfold literalTime
  extract_lets
  simp only [Shows.append_iff]
  exact ⟨⟨⟨⟨by decide +kernel, hnumbers _⟩, by decide +kernel⟩, ascii_literalZone _⟩,
    by decide +kernel⟩

theorem ascii_numeral (i : Int) : Gives (Shows CodePoint.Ascii) (numeral i) := by
  unfold numeral
  split
  · exact .ok (ascii_ofInt i)
  · exact .error

theorem tame_lastComma (count : Nat) : Shows CodePoint.Tame (lastComma count) := by
  unfold lastComma
  split <;> decide

theorem tame_literal (room : Nat) (v : Value) :
    Gives (Shows CodePoint.Tame) (literal room v) := by
  have hascii : ∀ s, Shows CodePoint.Ascii s → Shows CodePoint.Tame s :=
    fun _ h => h.mono fun _ => CodePoint.Ascii.tame
  have hseparated : ∀ ts : List (List Char), (∀ t ∈ ts, Shows CodePoint.Tame t) →
      Shows CodePoint.Tame (separated ts) := fun _ => .separated fun _ => CodePoint.Ascii.tame
  induction v using induct generalizing room with
  | value v ih =>
    have hitems : ∀ room, Gives (fun ts => Shows CodePoint.Tame (separated ts))
        (literalItems room v.children) := by
      intro room bs hbs
      rw [literalItems_eq] at hbs
      exact hseparated bs (Gives.mapM (fun w hw => ih w hw room) bs hbs)
    have hdeeper : ∀ room, Gives (fun ts => Shows CodePoint.Tame (separated ts))
        (deeper room (literalItems · v.children)) := by
      intro room
      cases room with
      | zero => exact .error
      | succ room => exact hitems room
    cases room with
    | zero =>
      rw [literal]
      exact .error
    | succ room =>
      cases v with
      | null =>
        rw [literal]
        exact .ok (by decide)
      | bool b =>
        rw [literal]
        exact .ok (by cases b <;> decide)
      | int i =>
        rw [literal]
        exact fun s hs => hascii s (ascii_numeral i s hs)
      | float x =>
        rw [literal]
        exact .ok (hascii _ (ascii_float x (by decide) (by decide)))
      | text t =>
        rw [literal]
        exact .ok (tame_literalString t)
      | bytes octets =>
        rw [literal]
        exact .ok (hascii _ (ascii_literalBytes octets))
      | list items =>
        rw [literal]
        exact (hitems room).map fun ts h => .between (by decide) h (by decide)
      | tuple items =>
        rw [literal]
        refine (hitems room).map fun ts h => ?_
        rw [List.cons_append]
        exact .between (by decide) (Shows.append_iff.2 ⟨h, tame_lastComma _⟩) (by decide)
      | set items =>
        rw [literal]
        split
        · exact .ok (by decide)
        · exact (hdeeper room).map fun ts h => .between (by decide) h (by decide)
      | frozenSet items =>
        rw [literal]
        split
        · exact .ok (by decide)
        · refine (hdeeper room).map fun ts h => ?_
          exact Shows.append_iff.2 ⟨Shows.append_iff.2 ⟨by decide, h⟩, by decide⟩
      | object ms =>
        have hmember : ∀ m ∈ ms, Gives (Shows CodePoint.Tame) (literalMember room m) := by
          intro m hm
          refine .bind (ih m.1 (name_mem_children hm) room) fun name hname => ?_
          refine .bind (ih m.2 (value_mem_children hm) room) fun t ht => .ok ?_
          simpa using ⟨hname, by decide, by decide, ht⟩
        rw [literal, literalMembers_eq]
        exact (Gives.mapM hmember).map fun ts h => .between (by decide) (hseparated ts h) (by decide)
      | time z =>
        rw [literal]
        split
        · exact .error
        · exact .ok (hascii _ (ascii_literalTime z))

/-- **No control character stands in the text of a value in a message.** -/
theorem tame_display (room : Room) (v : Value) :
    Gives (Shows CodePoint.Tame) (v.display room) := by
  unfold display
  split
  · next s hs =>
    rw [eq_spell_of_json hs]
    exact .ok ((ascii_spell v).mono fun _ => CodePoint.Ascii.tame)
  · exact .error
  · exact tame_literal _ v
  · exact tame_literal _ v

end Value

end ApiKeys

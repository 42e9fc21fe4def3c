import ApiKeys.Proofs.Text.Numeral
import ApiKeys.Proofs.Value.Room

/-!
# The spelling of JSON

Whatever room a writer of JSON has, the text that it gives is the spelling of the value
(`Value.eq_spell_of_json`), which is made of the spellings of what the value holds. The spelling of
a value of JSON ends where it ends: whatever follows, it shows which value it is and what follows
it, as long as that does not start with a digit, with which a whole number could go on
(`Value.IsJson.eq_of_append_eq`). Each part of a text shows this in its own way: a numeral, a string
one escape after the other (`Value.escapes_append_inj`), an array or an object by the commas between
its items (`Value.separated_append_inj`).
-/

namespace ApiKeys.Value

variable {v w : Value} {items : List Value} {ms : Members} {p q : CodePoint} {t u : Text}
  {r s : List Char} {room : Nat}

/-! ## The spelling of a value -/

/-- The spelling of a value that names a member. -/
def spellName : Value → List Char
  | text t => jsonString t
  | null => quoted "null".toList
  | bool b => quoted (jsonBool b)
  | int i => quoted (Digits.ofInt i)
  | float x => quoted (jsonFloat x)
  | _ => []

mutual

/-- The spelling of a value in JSON, however long its numbers are and however deep it is. -/
def spell : Value → List Char
  | null => "null".toList
  | bool b => jsonBool b
  | int i => Digits.ofInt i
  | float x => jsonFloat x
  | text t => jsonString t
  | list items | tuple items => '[' :: separated (spellItems items) ++ [']']
  | object ms => '{' :: separated (spellMembers ms) ++ ['}']
  | bytes _ | set _ | frozenSet _ | time _ => []

/-- The spellings of some values. -/
def spellItems : List Value → List (List Char)
  | [] => []
  | v :: vs => spell v :: spellItems vs

/-- The spellings of the members of an object. -/
def spellMembers : List (Value × Value) → List (List Char)
  | [] => []
  | (name, v) :: ms => (spellName name ++ ':' :: ' ' :: spell v) :: spellMembers ms

end

/-- The spelling of a member of an object. -/
def spellMember (m : Value × Value) : List Char := spellName m.1 ++ ':' :: ' ' :: m.2.spell

theorem spellItems_eq (items : List Value) : spellItems items = items.map spell := by
  induction items with
  | nil => rfl
  | cons v items ih => rw [spellItems, ih, List.map_cons]

theorem spellMembers_eq (ms : Members) : spellMembers ms = ms.map spellMember := by
  induction ms with
  | nil => rfl
  | cons m ms ih => rw [spellMembers, ih, List.map_cons, spellMember]

theorem spell_list : (list items).spell = '[' :: separated (items.map spell) ++ [']'] := by
  rw [spell, spellItems_eq]

theorem spell_tuple : (tuple items).spell = '[' :: separated (items.map spell) ++ [']'] := by
  rw [spell, spellItems_eq]

theorem spell_object : (object ms).spell = '{' :: separated (ms.map spellMember) ++ ['}'] := by
  rw [spell, spellMembers_eq]

theorem eq_ofInt_of_jsonNumeral {i : Int} (h : jsonNumeral i = .ok r) : r = Digits.ofInt i := by
  unfold jsonNumeral numeral at h
  split at h
  · exact (Except.ok.inj h).symm
  · cases h

theorem eq_spellName_of_jsonName (h : jsonName v = .ok r) : r = v.spellName := by
  cases v with
  | int i =>
    obtain ⟨s, hs, rfl⟩ := map_eq_ok.1 h
    rw [eq_ofInt_of_jsonNumeral hs, spellName]
  | text _ | null | bool _ | float _ => exact (Except.ok.inj h).symm
  | _ => cases h

theorem eq_spell_of_json (h : json room v = .ok r) : r = v.spell := by
  induction v using induct generalizing room r with
  | value v ih =>
    cases v with
    | list items | tuple items =>
      cases room with
      | zero => cases h
      | succ room =>
        rw [json, map_eq_ok, jsonItems_eq] at h
        obtain ⟨ts, h, rfl⟩ := h
        have hitems : ∀ v ∈ items, ∀ r, json room v = .ok r → r = v.spell := fun v hv _ => ih v hv
        rw [eq_map_of_mapM_eq_ok hitems h, spell, spellItems_eq]
    | object ms =>
      cases room with
      | zero => cases h
      | succ room =>
        rw [json, map_eq_ok, jsonMembers_eq] at h
        obtain ⟨ts, h, rfl⟩ := h
        have hmembers : ∀ m ∈ ms, ∀ r, jsonMember room m = .ok r → r = spellMember m := by
          intro m hm r h
          obtain ⟨name, hname, h⟩ := bind_eq_ok.1 h
          obtain ⟨t, ht, h⟩ := bind_eq_ok.1 h
          rw [spellMember, ← eq_spellName_of_jsonName hname, ← ih m.2 (value_mem_children hm) ht]
          exact (Except.ok.inj h).symm
        rw [eq_map_of_mapM_eq_ok hmembers h, spell_object]
    | int i =>
      rw [json] at h
      exact eq_ofInt_of_jsonNumeral h
    | bytes _ | set _ | frozenSet _ | time _ =>
      rw [json] at h
      cases h
    | _ =>
      rw [json] at h
      exact (Except.ok.inj h).symm

theorem eq_spell_of_display {room : Room} (hforeign : ∀ w : Value, w.Within v → ¬ w.Foreign)
    (h : v.display room = .ok r) : r = v.spell :=
  eq_spell_of_json (json_of_display hforeign h)

/-! ## Numerals -/

/-- No numeral goes on in the text. -/
def NoDigit (r : List Char) : Prop := ∀ c, r.head? = some c → c.isDigit = false

theorem noDigit_cons {c : Char} (h : c.isDigit = false) : NoDigit (c :: r) := by
  rintro _ ⟨⟩
  exact h

theorem toDigits_append_inj {m n : Nat} (hr : NoDigit r) (hs : NoDigit s)
    (h : Nat.toDigits 10 m ++ r = Nat.toDigits 10 n ++ s) : m = n ∧ r = s := by
  have hdigits : ∀ n, ∀ c ∈ Nat.toDigits 10 n, c.isDigit = true :=
    fun _ _ hc => Nat.isDigit_of_mem_toDigits (by decide) (by decide) hc
  have hrun := congrArg Digits.run h
  rw [Digits.run_append (hdigits m) hr, Digits.run_append (hdigits n) hs] at hrun
  obtain ⟨hnumeral, hrest⟩ := Prod.mk.inj hrun
  have hvalue := congrArg Digits.value hnumeral
  rw [Digits.value, Digits.value, Nat.ofDigitChars_toDigits (by decide) (by decide),
    Nat.ofDigitChars_toDigits (by decide) (by decide)] at hvalue
  exact ⟨hvalue, hrest⟩

theorem ofInt_eq_cons (i : Int) : ∃ c cs, Digits.ofInt i = c :: cs ∧
    ((c.isDigit = true ∧ 0 ≤ i) ∨ (c = '-' ∧ i < 0)) := by
  cases i with
  | ofNat n =>
    obtain ⟨c, cs, hcs⟩ := List.exists_cons_of_ne_nil (Nat.toDigits_ne_nil (n := n) (b := 10))
    have hc : c ∈ Nat.toDigits 10 n := hcs ▸ List.mem_cons_self
    exact ⟨c, cs, hcs, .inl ⟨Nat.isDigit_of_mem_toDigits (by decide) (by decide) hc,
      Int.natCast_nonneg n⟩⟩
  | negSucc n => exact ⟨'-', _, rfl, .inr ⟨rfl, Int.negSucc_lt_zero n⟩⟩

theorem ofInt_append_inj {i j : Int} (hr : NoDigit r) (hs : NoDigit s)
    (h : Digits.ofInt i ++ r = Digits.ofInt j ++ s) : i = j ∧ r = s := by
  obtain ⟨c, cs, hi, hc⟩ := ofInt_eq_cons i
  obtain ⟨d, ds, hj, hd⟩ := ofInt_eq_cons j
  have hhead : c = d := by
    rw [hi, hj] at h
    exact (List.cons.inj h).1
  have hsign : 0 ≤ i ↔ 0 ≤ j := by
    subst hhead
    rcases hc with ⟨hc, hi⟩ | ⟨rfl, hi⟩ <;> rcases hd with ⟨hd, hj⟩ | ⟨hd, hj⟩
    · exact iff_of_true hi hj
    · exact absurd hc (by rw [hd]; decide)
    · exact absurd hd (by decide)
    · omega
  cases i with
  | ofNat m =>
    cases j with
    | ofNat n =>
      obtain ⟨rfl, hrest⟩ := toDigits_append_inj hr hs h
      exact ⟨rfl, hrest⟩
    | negSucc n => exact absurd (hsign.1 (Int.natCast_nonneg m)) (Int.negSucc_lt_zero n).not_ge
  | negSucc m =>
    cases j with
    | ofNat n => exact absurd (hsign.2 (Int.natCast_nonneg n)) (Int.negSucc_lt_zero m).not_ge
    | negSucc n =>
      obtain ⟨hmn, hrest⟩ := toDigits_append_inj hr hs (List.cons.inj h).2
      exact ⟨by rw [Nat.succ.inj hmn], hrest⟩

/-! ## Strings -/

theorem length_hex (width n : Nat) : (Digits.hex width n).length = width := by
  induction width generalizing n with
  | zero => rfl
  | succ w ih => rw [Digits.hex, List.length_append, ih, List.length_singleton]

theorem digitChar_inj : ∀ m < 16, ∀ n < 16, Nat.digitChar m = Nat.digitChar n → m = n := by decide

theorem hex_inj {width m n : Nat} (hm : m < 16 ^ width) (hn : n < 16 ^ width)
    (h : Digits.hex width m = Digits.hex width n) : m = n := by
  induction width generalizing m n with
  | zero => omega
  | succ w ih =>
    obtain ⟨hleading, hlast⟩ := List.append_inj' h rfl
    have hquot : m / 16 = n / 16 := ih (by omega) (by omega) hleading
    have hrem := digitChar_inj (m % 16) (Nat.mod_lt _ (by decide)) (n % 16)
      (Nat.mod_lt _ (by decide)) (List.cons.inj hlast).1
    omega

theorem unitEscape_append_inj {m n : Nat} (hm : m < 0x10000) (hn : n < 0x10000)
    (h : unitEscape m ++ r = unitEscape n ++ s) : m = n ∧ r = s := by
  have hhex : Digits.hex 4 m ++ r = Digits.hex 4 n ++ s := (List.cons.inj (List.cons.inj h).2).2
  obtain ⟨hunit, hrest⟩ := List.append_inj hhex (by rw [length_hex, length_hex])
  exact ⟨hex_inj hm hn hunit, hrest⟩

/-- The units of a character: itself, or above U+FFFF the two surrogates of a pair. -/
def units (c : Char) : List Nat :=
  if c.toNat < 0x10000 then [c.toNat]
  else [0xD800 + (c.toNat - 0x10000) / 0x400, 0xDC00 + (c.toNat - 0x10000) % 0x400]

theorem toNat_char (c : Char) : c.toNat < 0xD800 ∨ 0xDFFF < c.toNat ∧ c.toNat < 0x110000 :=
  c.valid

theorem units_append_inj {c d : Char}
    (h : (units c).flatMap unitEscape ++ r = (units d).flatMap unitEscape ++ s) : c = d ∧ r = s := by
  have hc := toNat_char c
  have hd := toNat_char d
  unfold units at h
  split at h <;> split at h <;> simp only [List.flatMap_cons, List.flatMap_nil, List.append_nil,
    List.append_assoc] at h
  · next hc' hd' =>
    obtain ⟨hunit, hrest⟩ := unitEscape_append_inj hc' hd' h
    exact ⟨Char.toNat_inj.1 hunit, hrest⟩
  · next hc' hd' =>
    obtain ⟨hunit, -⟩ := unitEscape_append_inj hc' (by omega) h
    omega
  · next hc' hd' =>
    obtain ⟨hunit, -⟩ := unitEscape_append_inj (by omega) hd' h
    omega
  · next hc' hd' =>
    obtain ⟨hhigh, h⟩ := unitEscape_append_inj (by omega) (by omega) h
    obtain ⟨hlow, hrest⟩ := unitEscape_append_inj (by omega) (by omega) h
    exact ⟨Char.toNat_inj.1 (by omega), hrest⟩

/-- The characters that have an escape of one letter, and the letters. -/
def shortEscapes : List (Char × Char) :=
  [('"', '"'), ('\\', '\\'), ('\n', 'n'), ('\r', 'r'), ('\t', 't'), ('\x08', 'b'), ('\x0c', 'f')]

/-- The ways in which a character stands in a JSON string. -/
inductive Escaped (c : Char) : List Char → Prop
  | short {e : Char} (h : (c, e) ∈ shortEscapes) : Escaped c ['\\', e]
  | plain (hlow : 0x20 ≤ c.toNat) (hhigh : c.toNat ≤ 0x7e) (hquote : c ≠ '"') (hslash : c ≠ '\\') :
    Escaped c [c]
  | units : Escaped c ((units c).flatMap unitEscape)

theorem escaped_jsonEscape (c : Char) : Escaped c (jsonEscape (.char c)) := by
  have hunits := Escaped.units (c := c)
  unfold jsonEscape
  split
  case h_8 d hquote hslash _ _ _ _ _ heq =>
    cases heq
    split_ifs with hplain hunit
    · exact .plain hplain.1 hplain.2 hquote hslash
    · rw [units, if_pos hunit] at hunits
      simpa using hunits
    · rw [units, if_neg hunit] at hunits
      simpa using hunits
  case h_9 heq => cases heq
  all_goals
    next heq =>
      cases heq
      exact .short (by decide)

theorem eq_of_mem_shortEscapes {c d e : Char} (hc : (c, e) ∈ shortEscapes)
    (hd : (d, e) ∈ shortEscapes) : c = d := by
  have hletter : ∀ a ∈ shortEscapes, ∀ b ∈ shortEscapes, a.2 = b.2 → a.1 = b.1 := by decide
  exact hletter _ hc _ hd rfl

theorem not_mem_shortEscapes (c : Char) : (c, 'u') ∉ shortEscapes := by
  have hletter : ∀ a ∈ shortEscapes, a.2 ≠ 'u' := by decide
  exact fun h => hletter _ h rfl

theorem flatMap_units_eq_cons (c : Char) :
    ∃ rest, (units c).flatMap unitEscape = '\\' :: 'u' :: rest := by
  unfold units
  split <;> exact ⟨_, rfl⟩

theorem Escaped.append_inj {c d : Char} {x y : List Char} (hx : Escaped c x) (hy : Escaped d y)
    (h : x ++ r = y ++ s) : c = d ∧ r = s := by
  cases hx with
  | short hc =>
    obtain ⟨rest, hrest⟩ := flatMap_units_eq_cons d
    cases hy with
    | short hd =>
      obtain ⟨hletter, hrest⟩ := List.cons.inj (List.cons.inj h).2
      subst hletter
      exact ⟨eq_of_mem_shortEscapes hc hd, hrest⟩
    | plain _ _ _ hslash => exact absurd (List.cons.inj h).1.symm hslash
    | units =>
      rw [hrest] at h
      obtain ⟨rfl, -⟩ := List.cons.inj (List.cons.inj h).2
      exact absurd hc (not_mem_shortEscapes c)
  | plain _ _ _ hslash =>
    obtain ⟨rest, hrest⟩ := flatMap_units_eq_cons d
    cases hy with
    | short hd => exact absurd (List.cons.inj h).1 hslash
    | plain => exact List.cons.inj h
    | units =>
      rw [hrest] at h
      exact absurd (List.cons.inj h).1 hslash
  | units =>
    obtain ⟨rest, hrest⟩ := flatMap_units_eq_cons c
    cases hy with
    | short hd =>
      rw [hrest] at h
      obtain ⟨rfl, -⟩ := List.cons.inj (List.cons.inj h).2
      exact absurd hd (not_mem_shortEscapes d)
    | plain _ _ _ hslash =>
      rw [hrest] at h
      exact absurd (List.cons.inj h).1.symm hslash
    | units => exact units_append_inj h

theorem Escaped.ne_quote {c : Char} {x : List Char} (hx : Escaped c x) : x ++ r ≠ '"' :: s := by
  cases hx with
  | short _ => exact fun h => absurd (List.cons.inj h).1 (by decide)
  | plain _ _ hquote _ => exact fun h => hquote (List.cons.inj h).1
  | units =>
    obtain ⟨rest, hrest⟩ := flatMap_units_eq_cons c
    rw [hrest]
    exact fun h => absurd (List.cons.inj h).1 (by decide)

theorem escapes_append_inj {cs ds : List Char}
    (h : (Text.ofChars cs).flatMap jsonEscape ++ '"' :: r =
      (Text.ofChars ds).flatMap jsonEscape ++ '"' :: s) : cs = ds ∧ r = s := by
  induction cs generalizing ds with
  | nil =>
    cases ds with
    | nil => exact ⟨rfl, (List.cons.inj h).2⟩
    | cons d ds =>
      refine absurd h.symm ?_
      rw [Text.ofChars, List.map_cons, List.flatMap_cons, List.append_assoc]
      exact (escaped_jsonEscape d).ne_quote
  | cons c cs ih =>
    rw [Text.ofChars, List.map_cons, List.flatMap_cons, List.append_assoc] at h
    cases ds with
    | nil => exact absurd h (escaped_jsonEscape c).ne_quote
    | cons d ds =>
      rw [Text.ofChars, List.map_cons, List.flatMap_cons, List.append_assoc] at h
      obtain ⟨rfl, hbody⟩ := (escaped_jsonEscape c).append_inj (escaped_jsonEscape d) h
      obtain ⟨rfl, hrest⟩ := ih hbody
      exact ⟨rfl, hrest⟩

theorem jsonString_append_inj (ht : t.chars?.isSome) (hu : u.chars?.isSome)
    (h : jsonString t ++ r = jsonString u ++ s) : t = u ∧ r = s := by
  obtain ⟨cs, hcs⟩ := Option.isSome_iff_exists.1 ht
  obtain ⟨ds, hds⟩ := Option.isSome_iff_exists.1 hu
  obtain rfl := Text.chars?_eq_some_iff.1 hcs
  obtain rfl := Text.chars?_eq_some_iff.1 hds
  simp only [jsonString, List.cons_append, List.append_assoc, List.nil_append] at h
  obtain ⟨rfl, hrest⟩ := escapes_append_inj (List.cons.inj h).2
  exact ⟨rfl, hrest⟩

/-! ## Arrays and objects -/

theorem separated_cons (x : List Char) (xs : List (List Char)) :
    separated (x :: xs) = x ++ xs.flatMap fun y => ',' :: ' ' :: y := by
  induction xs generalizing x with
  | nil => simp [separated]
  | cons y xs ih =>
    have hstep : separated (x :: y :: xs) = x ++ [',', ' '] ++ separated (y :: xs) :=
      List.intercalate_cons_cons
    rw [hstep, ih]
    simp

section

variable {α : Type} {f : α → List Char} {as bs : List α} {close : Char}

theorem items_append_inj (hclose : close ≠ ',') (hdigit : close.isDigit = false)
    (hitem : ∀ a ∈ as, ∀ b ∈ bs, ∀ r s, NoDigit r → NoDigit s → f a ++ r = f b ++ s → a = b ∧ r = s)
    (h : ((as.map f).flatMap fun x => ',' :: ' ' :: x) ++ close :: r =
      ((bs.map f).flatMap fun x => ',' :: ' ' :: x) ++ close :: s) : as = bs ∧ r = s := by
  have hnoDigit : ∀ (as : List α) (r : List Char),
      NoDigit (((as.map f).flatMap fun x => ',' :: ' ' :: x) ++ close :: r) := by
    intro as r
    cases as with
    | nil => exact noDigit_cons hdigit
    | cons a as => exact noDigit_cons (by decide)
  induction as generalizing bs with
  | nil =>
    cases bs with
    | nil => exact ⟨rfl, (List.cons.inj h).2⟩
    | cons b bs => exact absurd (List.cons.inj h).1 hclose
  | cons a as ih =>
    cases bs with
    | nil => exact absurd (List.cons.inj h).1.symm hclose
    | cons b bs =>
      simp only [List.map_cons, List.flatMap_cons, List.cons_append, List.append_assoc] at h
      obtain ⟨rfl, hitems⟩ := hitem a List.mem_cons_self b List.mem_cons_self _ _ (hnoDigit as r)
        (hnoDigit bs s) (List.cons.inj (List.cons.inj h).2).2
      obtain ⟨rfl, hrest⟩ := ih (fun a ha b hb =>
        hitem a (List.mem_cons_of_mem _ ha) b (List.mem_cons_of_mem _ hb)) hitems
      exact ⟨rfl, hrest⟩

/-- **Items with commas between them are told from each other and from what follows them**, if that
is so for each item and none starts with the mark that closes them. -/
theorem separated_append_inj (hclose : close ≠ ',') (hdigit : close.isDigit = false)
    (has : ∀ a ∈ as, ∀ r s, f a ++ r ≠ close :: s) (hbs : ∀ b ∈ bs, ∀ r s, f b ++ r ≠ close :: s)
    (hitem : ∀ a ∈ as, ∀ b ∈ bs, ∀ r s, NoDigit r → NoDigit s → f a ++ r = f b ++ s → a = b ∧ r = s)
    (h : separated (as.map f) ++ close :: r = separated (bs.map f) ++ close :: s) :
    as = bs ∧ r = s := by
  cases as with
  | nil =>
    cases bs with
    | nil => exact ⟨rfl, (List.cons.inj h).2⟩
    | cons b bs =>
      refine absurd h.symm ?_
      rw [List.map_cons, separated_cons, List.append_assoc]
      exact hbs b List.mem_cons_self _ _
  | cons a as =>
    cases bs with
    | nil =>
      refine absurd h ?_
      rw [List.map_cons, separated_cons, List.append_assoc]
      exact has a List.mem_cons_self _ _
    | cons b bs =>
      -- With a comma in front the first item is one like all others.
      have hcomma := congrArg (',' :: ' ' :: ·) h
      simp only [List.map_cons, separated_cons] at hcomma
      exact items_append_inj hclose hdigit hitem hcomma

end

/-! ## Values of JSON -/

/-- A value of JSON whose numbers are whole: no surrogate stands alone in its texts. -/
inductive IsJson : Value → Prop
  | null : IsJson .null
  | bool (b : Bool) : IsJson (.bool b)
  | int (i : Int) : IsJson (.int i)
  | text {t : Text} (ht : t.chars?.isSome) : IsJson (.text t)
  | list {items : List Value} (h : ∀ v ∈ items, IsJson v) : IsJson (.list items)
  | object {ms : Members} (hnames : ∀ m ∈ ms, ∃ t : Text, m.1 = .text t ∧ t.chars?.isSome)
    (h : ∀ m ∈ ms, IsJson m.2) : IsJson (.object ms)

theorem IsJson.of_mem_children (hv : v.IsJson) (hw : w ∈ v.children) : w.IsJson := by
  cases hv with
  | list h => exact h w hw
  | object hnames h =>
    refine forall_mem_children_object.2 (fun m hm => ⟨?_, h m hm⟩) w hw
    obtain ⟨t, heq, ht⟩ := hnames m hm
    rw [heq]
    exact .text ht
  | _ => cases hw

theorem IsJson.not_foreign_of_within (hv : v.IsJson) (hw : w.Within v) : ¬ w.Foreign := by
  have hw : w.IsJson := hw.of_children IsJson.of_mem_children hv
  cases hw with
  | object hnames =>
    rintro ⟨m, hm, hname⟩
    obtain ⟨t, heq, -⟩ := hnames m hm
    exact hname (by rw [heq]; trivial)
  | _ => exact id

/-- The kind of value whose JSON text a character starts. -/
def kindOf? (c : Char) : Option String :=
  if c = 'n' then some "NoneType"
  else if c = 't' ∨ c = 'f' then some "bool"
  else if c = '-' ∨ c.isDigit then some "int"
  else if c = '"' then some "str"
  else if c = '[' then some "list"
  else if c = '\x7b' then some "dict"
  else none

theorem IsJson.spell_eq_cons (h : v.IsJson) :
    ∃ c cs, v.spell = c :: cs ∧ kindOf? c = some v.kind := by
  cases h with
  | null => exact ⟨'n', _, rfl, rfl⟩
  | bool b => cases b <;> exact ⟨_, _, rfl, rfl⟩
  | int i =>
    obtain ⟨c, cs, hi, hc⟩ := ofInt_eq_cons i
    have hc : c = '-' ∨ c.isDigit = true := hc.symm.imp And.left And.left
    have hletter : ∀ d : Char, d ≠ '-' → d.isDigit = false → c ≠ d := by
      rintro d hd hdigit rfl
      rcases hc with rfl | hc
      · exact hd rfl
      · rw [hdigit] at hc
        cases hc
    have ht : ¬ (c = 't' ∨ c = 'f') :=
      not_or.2 ⟨hletter 't' (by decide) (by decide), hletter 'f' (by decide) (by decide)⟩
    refine ⟨c, cs, hi, ?_⟩
    rw [kindOf?, if_neg (hletter 'n' (by decide) (by decide)), if_neg ht, if_pos hc]
    rfl
  | text ht => exact ⟨'"', _, rfl, rfl⟩
  | list h => exact ⟨'[', _, spell_list, rfl⟩
  | object _ h => exact ⟨'\x7b', _, spell_object, rfl⟩

theorem IsJson.kind_eq (hv : v.IsJson) (hw : w.IsJson) (h : v.spell ++ r = w.spell ++ s) :
    v.kind = w.kind := by
  obtain ⟨c, cs, hc, hkind⟩ := hv.spell_eq_cons
  obtain ⟨d, ds, hd, hkind'⟩ := hw.spell_eq_cons
  rw [hc, hd] at h
  obtain ⟨rfl, -⟩ := List.cons.inj h
  exact Option.some.inj (hkind.symm.trans hkind')

theorem IsJson.ne_of_kindOf? {c : Char} (hv : v.IsJson) (hc : kindOf? c = none) :
    v.spell ++ r ≠ c :: s := by
  obtain ⟨d, ds, hd, hkind⟩ := hv.spell_eq_cons
  rw [hd]
  intro h
  obtain ⟨rfl, -⟩ := List.cons.inj h
  cases hc.symm.trans hkind

theorem member_ne_brace {m : Value × Value} (hm : ∃ t : Text, m.1 = .text t ∧ t.chars?.isSome) :
    spellMember m ++ r ≠ '}' :: s := by
  obtain ⟨t, ht, -⟩ := hm
  rw [spellMember, ht]
  exact fun h => absurd (List.cons.inj h).1 (by decide)

theorem member_append_inj {m m' : Value × Value} (hm : ∃ t : Text, m.1 = .text t ∧ t.chars?.isSome)
    (hm' : ∃ t : Text, m'.1 = .text t ∧ t.chars?.isSome)
    (hvalue : m.2.spell ++ r = m'.2.spell ++ s → m.2 = m'.2 ∧ r = s)
    (h : spellMember m ++ r = spellMember m' ++ s) : m = m' ∧ r = s := by
  obtain ⟨t, ht, htext⟩ := hm
  obtain ⟨t', ht', htext'⟩ := hm'
  simp only [spellMember, ht, ht', spellName, List.append_assoc, List.cons_append] at h
  obtain ⟨hname, hrest⟩ := jsonString_append_inj htext htext' h
  obtain ⟨hv, hrest⟩ := hvalue (List.cons.inj (List.cons.inj hrest).2).2
  exact ⟨Prod.ext (by rw [ht, ht', hname]) hv, hrest⟩

/-- **The JSON text of a value ends where it ends**: whatever follows it, other than a digit, the
text shows the value and what follows. -/
theorem IsJson.eq_of_append_eq (hv : v.IsJson) (hw : w.IsJson) (hr : NoDigit r) (hs : NoDigit s)
    (h : v.spell ++ r = w.spell ++ s) : v = w ∧ r = s := by
  have hkind := hv.kind_eq hw h
  induction hv generalizing w r s with
  | null =>
    cases hw with
    | null => exact ⟨rfl, List.append_cancel_left h⟩
    | _ => simp [kind] at hkind
  | bool b =>
    cases hw with
    | bool b' =>
      cases b <;> cases b'
      · exact ⟨rfl, List.append_cancel_left h⟩
      · exact absurd (List.cons.inj h).1 (by decide)
      · exact absurd (List.cons.inj h).1 (by decide)
      · exact ⟨rfl, List.append_cancel_left h⟩
    | _ => simp [kind] at hkind
  | int i =>
    cases hw with
    | int j =>
      obtain ⟨rfl, hrest⟩ := ofInt_append_inj hr hs h
      exact ⟨rfl, hrest⟩
    | _ => simp [kind] at hkind
  | text ht =>
    cases hw with
    | text hu =>
      obtain ⟨rfl, hrest⟩ := jsonString_append_inj ht hu h
      exact ⟨rfl, hrest⟩
    | _ => simp [kind] at hkind
  | list hitems ih =>
    cases hw with
    | list hitems' =>
      rw [spell_list, spell_list] at h
      simp only [List.cons_append, List.append_assoc, List.nil_append] at h
      obtain ⟨rfl, hrest⟩ := separated_append_inj (by decide) (by decide)
        (fun v hv _ _ => (hitems v hv).ne_of_kindOf? (by decide))
        (fun v hv _ _ => (hitems' v hv).ne_of_kindOf? (by decide))
        (fun v hv w hw r s hr hs heq => ih v hv (hitems' w hw) hr hs heq
          ((hitems v hv).kind_eq (hitems' w hw) heq)) (List.cons.inj h).2
      exact ⟨rfl, hrest⟩
    | _ => simp [kind] at hkind
  | object hnames hms ih =>
    cases hw with
    | object hnames' hms' =>
      rw [spell_object, spell_object] at h
      simp only [List.cons_append, List.append_assoc, List.nil_append] at h
      obtain ⟨rfl, hrest⟩ := separated_append_inj (by decide) (by decide)
        (fun m hm _ _ => member_ne_brace (hnames m hm))
        (fun m hm _ _ => member_ne_brace (hnames' m hm))
        (fun m hm m' hm' r s hr hs heq => member_append_inj (hnames m hm) (hnames' m' hm')
          (fun heq' => ih m hm (hms' m' hm') hr hs heq'
            ((hms m hm).kind_eq (hms' m' hm') heq')) heq) (List.cons.inj h).2
      exact ⟨rfl, hrest⟩
    | _ => simp [kind] at hkind

end ApiKeys.Value

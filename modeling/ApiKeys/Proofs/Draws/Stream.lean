import ApiKeys.KeyId
import Mathlib.Tactic

/-!
# Identifiers as blocks of a stream

A source of draws is a stream of letters: the draws below 62, in order, the others left out
(`Draws.accepted`). An identifier is the text of 64 consecutive letters, a block. Generating one
takes the next block off the stream, or fails and leaves nothing of a stream that is too short
(`KeyId.generate_fst`, `KeyId.accepted_generate`). So the identifiers of a source are decided by its
stream (`KeyId.yield_eq`), each is generated from one block only (`KeyId.existsUnique_block`), and
any identifiers at all are those of some source (`KeyId.exists_yield`).
-/

namespace ApiKeys

namespace KeyId

/-- A letter of identifiers by its number in the alphabet. -/
abbrev Letter := Fin 62

theorem length_alphabet : alphabet.length = 62 := by decide

/-- The character of a letter. -/
def character (i : Letter) : Char := alphabet.get (i.cast length_alphabet.symm)

/-- The letter that a draw numbers, if it is accepted. -/
def accept? (d : Draw) : Option Letter := if h : d.val < 62 then some ⟨d.val, h⟩ else none

/-- The letters of some draws, those that are rejected left out. -/
def accepted (ds : List Draw) : List Letter := ds.filterMap accept?

/-- The text of some letters. -/
def ofBlock (is : List Letter) : Text := Text.ofChars (is.map character)

end KeyId

/-- The stream of a source: the letters that it still gives. -/
def Draws.accepted (s : Draws) : List KeyId.Letter := KeyId.accepted s.upcoming

namespace KeyId

/-! ## Letters -/

theorem character_injective : Function.Injective character := by decide +kernel

theorem ofBlock_injective : Function.Injective ofBlock := by
  intro is js h
  exact List.map_injective_iff.2 character_injective (Text.ofChars_injective h)

theorem character?_eq (d : Draw) : character? d = (accept? d).map character := by
  rw [character?, accept?]
  split
  · next h => exact List.getElem?_eq_getElem (h.trans_eq length_alphabet.symm)
  · next h => exact List.getElem?_eq_none (length_alphabet.trans_le (not_lt.1 h))

theorem ofAlphabet_iff {p : CodePoint} : ofAlphabet p = true ↔ ∃ i, p = .char (character i) := by
  cases p with
  | surrogate u => simp [ofAlphabet]
  | char c =>
    simp only [ofAlphabet, List.contains_iff_mem, CodePoint.char.injEq]
    constructor
    · intro hc
      obtain ⟨n, rfl⟩ := List.get_of_mem hc
      exact ⟨n.cast length_alphabet, rfl⟩
    · rintro ⟨i, rfl⟩
      exact List.get_mem alphabet _

theorem valid_iff_exists_block {id : Text} :
    Valid id ↔ ∃ is : List Letter, is.length = length ∧ ofBlock is = id := by
  constructor
  · rintro ⟨hlength, hall⟩
    simp only [ofAlphabet_iff] at hall
    choose! letter hletter using hall
    refine ⟨id.map letter, by rw [List.length_map, hlength], ?_⟩
    rw [ofBlock, Text.ofChars, List.map_map, List.map_map]
    exact (List.map_congr_left fun p hp => (hletter p hp).symm).trans (List.map_id id)
  · rintro ⟨is, hlength, rfl⟩
    refine ⟨by simp [ofBlock, Text.ofChars, hlength], fun p hp => ?_⟩
    obtain ⟨c, hc, rfl⟩ := List.mem_map.1 hp
    obtain ⟨i, -, rfl⟩ := List.mem_map.1 hc
    exact ofAlphabet_iff.2 ⟨i, rfl⟩

/-! ## Drawing -/

theorem pick_eq (supply : Nat) (g : Generator) :
    (pick supply g).1 = (accepted (Draws.take supply g)).head?.map character ∧
      (pick supply g).2.accepted = (accepted (Draws.take supply g)).tail := by
  induction supply generalizing g with
  | zero => exact ⟨rfl, rfl⟩
  | succ supply ih =>
    rw [pick, character?_eq, Draws.take, accepted, List.filterMap_cons]
    cases accept? g.next.1 with
    | some i => exact ⟨rfl, rfl⟩
    | none => exact ih g.next.2

theorem accepted_pick (s : Draws) :
    (pick s.supply s.generator).1 = s.accepted.head?.map character ∧
      (pick s.supply s.generator).2.accepted = s.accepted.tail :=
  pick_eq s.supply s.generator

theorem pickMany_eq (count : Nat) (s : Draws) :
    (pickMany count s).1 = (if count ≤ s.accepted.length then
      some ((s.accepted.take count).map character) else none) ∧
      (pickMany count s).2.accepted = s.accepted.drop count := by
  induction count generalizing s with
  | zero => exact ⟨rfl, rfl⟩
  | succ count ih =>
    have hpick := accepted_pick s
    rw [pickMany]
    cases hs : s.accepted with
    | nil =>
      rw [hs] at hpick
      rcases hp : pick s.supply s.generator with ⟨_ | c, rest⟩ <;> rw [hp] at hpick
      · exact ⟨rfl, hpick.2⟩
      · cases hpick.1
    | cons i is =>
      rw [hs] at hpick
      rcases hp : pick s.supply s.generator with ⟨_ | c, rest⟩ <;> rw [hp] at hpick
      · cases hpick.1
      · obtain ⟨hfirst, hrest⟩ := ih rest
        obtain rfl : c = character i := Option.some.inj hpick.1
        rw [show rest.accepted = is from hpick.2] at hfirst hrest
        dsimp only
        rcases hm : pickMany count rest with ⟨_ | cs, last⟩ <;> rw [hm] at hfirst hrest
        · have hshort : ¬ count ≤ is.length := by
            intro hle
            rw [if_pos hle] at hfirst
            cases hfirst
          exact ⟨by rw [if_neg (by rw [List.length_cons]; omega)], hrest⟩
        · split at hfirst
          · next hle =>
            obtain rfl := Option.some.inj hfirst
            exact ⟨by rw [if_pos (by rw [List.length_cons]; omega)]; rfl, hrest⟩
          · cases hfirst

/-- **A new identifier is the next block of the stream**; without a whole block there is none. -/
theorem generate_fst (s : Draws) : (generate s).1 =
    if length ≤ s.accepted.length then some (ofBlock (s.accepted.take length)) else none := by
  show (pickMany length s).1.map Text.ofChars = _
  rw [(pickMany_eq length s).1]
  split <;> rfl

theorem accepted_generate (s : Draws) : (generate s).2.accepted = s.accepted.drop length :=
  (pickMany_eq length s).2

theorem generate_eq_some_iff {s : Draws} {id : Text} : (generate s).1 = some id ↔
    length ≤ s.accepted.length ∧ id = ofBlock (s.accepted.take length) := by
  rw [generate_fst, Option.ite_none_right_eq_some, Option.some.injEq, eq_comm (a := id)]

/-! ## All identifiers of a source -/

/-- The source after some identifiers. -/
def after (n : Nat) (s : Draws) : Draws := (fun s => (generate s).2)^[n] s

/-- The identifier of a source that comes after some others, if there is one. -/
def yield (s : Draws) (n : Nat) : Option Text := (generate (after n s)).1

theorem yield_zero (s : Draws) : yield s 0 = (generate s).1 := rfl

theorem yield_succ (s : Draws) (n : Nat) : yield s (n + 1) = yield (generate s).2 n := rfl

theorem accepted_after (n : Nat) (s : Draws) :
    (after n s).accepted = s.accepted.drop (length * n) := by
  induction n generalizing s with
  | zero => rfl
  | succ n ih =>
    show (after n (generate s).2).accepted = _
    rw [ih, accepted_generate, List.drop_drop, Nat.mul_succ, Nat.add_comm]

/-- **The identifiers of a source are the consecutive blocks of its stream.** -/
theorem yield_eq (s : Draws) (n : Nat) : yield s n =
    if length * (n + 1) ≤ s.accepted.length then
      some (ofBlock ((s.accepted.drop (length * n)).take length)) else none := by
  rw [yield, generate_fst, accepted_after, List.length_drop]
  have hpos : 0 < length := by decide
  split <;> split <;> first | rfl | (rw [Nat.mul_succ] at *; omega)

theorem yield_congr {s s' : Draws} (h : s.accepted = s'.accepted) : yield s = yield s' := by
  funext n
  rw [yield_eq, yield_eq, h]

theorem valid_of_yield {s : Draws} {n : Nat} {id : Text} (h : yield s n = some id) : Valid id := by
  obtain ⟨hlength, rfl⟩ := generate_eq_some_iff.1 h
  exact valid_iff_exists_block.2 ⟨_, List.length_take_of_le hlength, rfl⟩

theorem take_cycle (all rest : List Draw) : Draws.take rest.length (.cycle all rest) = rest := by
  induction rest with
  | nil => rfl
  | cons d rest ih =>
    rw [List.length_cons, Draws.take]
    exact congrArg (d :: ·) ih

/-- A source of some letters. -/
def ofLetters (is : List Letter) : Draws :=
  .ofList (is.map (Fin.castLE (by decide))) is.length

theorem accepted_ofLetters (is : List Letter) : (ofLetters is).accepted = is := by
  have hupcoming : (ofLetters is).upcoming = is.map (Fin.castLE (by decide)) := by
    have htake := take_cycle (is.map (Fin.castLE (by decide : 62 ≤ 64)))
      (is.map (Fin.castLE (by decide)))
    rwa [List.length_map] at htake
  rw [Draws.accepted, hupcoming, accepted, List.filterMap_map]
  have haccept : accept? ∘ Fin.castLE (by decide : 62 ≤ 64) = some := by
    funext i
    exact dif_pos i.isLt
  rw [haccept, List.filterMap_some]

/-- **Each valid identifier is generated from one block of letters, and from no other.** -/
theorem existsUnique_block {id : Text} (h : Valid id) :
    ∃! block : List Letter, block.length = length ∧
      ∀ s : Draws, (generate s).1 = some id ↔ s.accepted.take length = block := by
  obtain ⟨block, hlength, rfl⟩ := valid_iff_exists_block.1 h
  have hgenerate : ∀ s : Draws,
      (generate s).1 = some (ofBlock block) ↔ s.accepted.take length = block := by
    intro s
    rw [generate_eq_some_iff, ofBlock_injective.eq_iff, eq_comm (a := block), and_iff_right_iff_imp]
    rintro rfl
    rw [List.length_take] at hlength
    omega
  refine ⟨block, ⟨hlength, hgenerate⟩, fun other hother => ?_⟩
  -- a source of the other block would have to begin with this one
  have htake : (ofLetters other).accepted.take length = other := by
    rw [accepted_ofLetters, List.take_of_length_le hother.1.le]
  exact htake.symm.trans ((hgenerate _).1 ((hother.2 _).2 htake))

theorem card_valid : Nat.card {id : Text // Valid id} = 62 ^ length := by
  have hblock : Nat.card (List.Vector Letter length) = 62 ^ length := by
    rw [Nat.card_eq_fintype_card, card_vector, Fintype.card_fin]
  rw [← hblock]
  refine (Nat.card_congr (Equiv.ofBijective
    (fun v => ⟨ofBlock v.1, valid_iff_exists_block.2 ⟨v.1, v.2, rfl⟩⟩) ⟨?_, ?_⟩)).symm
  · exact fun v w h => Subtype.ext (ofBlock_injective (congrArg Subtype.val h))
  · rintro ⟨id, hid⟩
    obtain ⟨block, hlength, rfl⟩ := valid_iff_exists_block.1 hid
    exact ⟨⟨block, hlength⟩, rfl⟩

/-- **Any identifiers at all are those of some source**, one after the other. -/
theorem exists_yield {ids : List Text} (h : ∀ id ∈ ids, Valid id) :
    ∃ s, ∀ n, yield s n = ids[n]? := by
  induction ids with
  | nil => exact ⟨ofLetters [], fun n => by rw [yield_eq, accepted_ofLetters]; rfl⟩
  | cons id ids ih =>
    obtain ⟨hid, hids⟩ := List.forall_mem_cons.1 h
    obtain ⟨rest, hrest⟩ := ih hids
    obtain ⟨is, hlength, rfl⟩ := valid_iff_exists_block.1 hid
    -- the block of the first identifier comes before the stream of the others
    refine ⟨ofLetters (is ++ rest.accepted), fun n => ?_⟩
    have hstream := accepted_ofLetters (is ++ rest.accepted)
    cases n with
    | zero =>
      rw [yield_zero]
      refine generate_eq_some_iff.2 ⟨?_, ?_⟩
      · rw [hstream, List.length_append, hlength]
        exact Nat.le_add_right _ _
      · rw [hstream, List.take_left' hlength]
    | succ n =>
      have hgenerate : (generate (ofLetters (is ++ rest.accepted))).2.accepted = rest.accepted := by
        rw [accepted_generate, hstream, List.drop_left' hlength]
      rw [yield_succ, yield_congr hgenerate, hrest]
      rfl

end KeyId

end ApiKeys

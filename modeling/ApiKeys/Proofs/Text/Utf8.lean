import ApiKeys.Text.Basic
import Mathlib.Tactic

/-!
# Texts in UTF-8

A string has octets, and these have its text: `Text.ofUtf8?_eq_some_iff`.
-/

namespace ApiKeys

theorem Text.ofString_injective {a b : String} (h : Text.ofString a = Text.ofString b) : a = b :=
  String.toList_inj.1 (Text.ofChars_injective h)

theorem Text.ofUtf8?_eq_some_iff {octets : List UInt8} {s : String} :
    Text.ofUtf8? octets = some (s : Text) ↔ octets = s.toUTF8.data.toList := by
  rw [Text.ofUtf8?, Option.map_eq_some_iff, String.toUTF8_eq_toByteArray]
  constructor
  · rintro ⟨s', hs', he⟩
    obtain rfl := Text.ofString_injective he
    rw [String.fromUTF8?] at hs'
    split at hs'
    · obtain rfl := Option.some.inj hs'
      rfl
    · cases hs'
  · rintro rfl
    have hvalid : ByteArray.IsValidUTF8 ⟨s.toByteArray.data.toList.toArray⟩ := s.isValidUTF8
    exact ⟨s, by rw [String.fromUTF8?, dif_pos hvalid]; rfl, rfl⟩

end ApiKeys

import SiteSearch.Proofs.Json.Written
import Mathlib.Data.String.Basic

/-
  Texts in the order of their bytes.

  The codes of two characters part at some byte, where the
  lower character has the lower byte, so what follows does
  not matter.  Hence texts stand in the order of their bytes,
  and a text begins with another exactly if its bytes begin
  with those of the other.

  Main declarations:
    * `SiteSearch.Bytes.PartsBelow`
    * `SiteSearch.Bytes.partsBelow_utf8EncodeChar`
    * `SiteSearch.Bytes.prefix_or_partsBelow_of_lt`
    * `SiteSearch.Bytes.ofText_lt_iff`
    * `SiteSearch.Bytes.ofText_prefix_iff`
-/

------------------------------------------------------------
-- Bytes That Part
------------------------------------------------------------

namespace SiteSearch.Bytes

/- Bytes agree up to a place where the first ones are lower. -/
def PartsBelow
    (low high : List UInt8) :
    Prop :=
  ∃ (common : List UInt8) (x y : UInt8) (lowRest highRest : List UInt8),
    x < y ∧ low = common ++ x :: lowRest ∧
      high = common ++ y :: highRest

/- It does not matter what follows. -/
theorem PartsBelow.append
    {low high : List UInt8}
    (hParts : PartsBelow low high)
    (lowMore highMore : List UInt8) :
    PartsBelow (low ++ lowMore) (high ++ highMore) := by
  rcases hParts with ⟨common, x, y, lowRest, highRest, hLess, rfl, rfl⟩
  exact ⟨common, x, y, lowRest ++ lowMore, highRest ++ highMore, hLess,
    by simp, by simp⟩

/- Nor does it matter what both begin with. -/
theorem PartsBelow.behind
    {low high : List UInt8}
    (hParts : PartsBelow low high)
    (front : List UInt8) :
    PartsBelow (front ++ low) (front ++ high) := by
  rcases hParts with ⟨common, x, y, lowRest, highRest, hLess, rfl, rfl⟩
  exact ⟨front ++ common, x, y, lowRest, highRest, hLess,
    by simp, by simp⟩

/- Bytes that part are in order. -/
theorem PartsBelow.lt
    {low high : List UInt8}
    (hParts : PartsBelow low high) :
    low < high := by
  rcases hParts with ⟨common, x, y, lowRest, highRest, hLess, rfl, rfl⟩
  exact List.append_left_lt (List.cons_lt_cons_iff.mpr (Or.inl hLess))

/- Bytes that part from others do not begin them. -/
theorem PartsBelow.not_prefix
    {low high : List UInt8}
    (hParts : PartsBelow low high) :
    ¬ low <+: high := by
  rcases hParts with ⟨common, x, y, lowRest, highRest, hLess, rfl, rfl⟩
  rw [List.prefix_append_right_inj, List.cons_prefix_cons]
  exact fun hPrefix => UInt8.ne_of_lt hLess hPrefix.1

/- Bytes part at the first one, or behind it. -/
theorem partsBelow_cons_iff
    (x y : UInt8)
    (low high : List UInt8) :
    PartsBelow (x :: low) (y :: high) ↔
      x < y ∨ x = y ∧ PartsBelow low high := by
  constructor
  · rintro ⟨common, x', y', lowRest, highRest, hLess, hLow, hHigh⟩
    cases common with
    | nil =>
        left
        rwa [(List.cons.inj hLow).1, (List.cons.inj hHigh).1]
    | cons z common =>
        have hLow := List.cons.inj hLow
        have hHigh := List.cons.inj hHigh
        exact Or.inr ⟨hLow.1.trans hHigh.1.symm, common, x', y',
          lowRest, highRest, hLess, hLow.2, hHigh.2⟩
  · rintro (hLess | ⟨rfl, hParts⟩)
    · exact ⟨[], x, y, low, high, hLess, rfl, rfl⟩
    · exact hParts.behind [x]

/- Nothing is left to part from. -/
theorem not_partsBelow_nil
    (high : List UInt8) :
    ¬ PartsBelow [] high := by
  rintro ⟨common, x, y, lowRest, highRest, -, hLow, -⟩
  simp at hLow

end SiteSearch.Bytes

------------------------------------------------------------
-- Characters
------------------------------------------------------------

namespace SiteSearch.Bytes

/- The codes of characters part, that of the lower one below. -/
theorem partsBelow_utf8EncodeChar
    {c d : Char}
    (hLess : c < d) :
    PartsBelow (String.utf8EncodeChar c) (String.utf8EncodeChar d) := by
  have hCodes : c.val.toNat < d.val.toNat :=
    UInt32.lt_iff_toNat_lt.mp hLess
  have hMost : d.val.toNat < 0x110000 := by
    rcases d.valid with hValid | hValid <;> omega
  -- A code of more bytes has the higher first byte; codes of the same
  -- number of bytes hold the digits of their numbers to the base 64.
  have hSquare : ∀ n : Nat, n / 4096 = n / 64 / 64 := by omega
  have hCube : ∀ n : Nat, n / 262144 = n / 64 / 64 / 64 := by omega
  have hByte : ∀ n < 256, (UInt8.ofNat n).toNat = n := fun n hN =>
    UInt8.toNat_ofNat_of_lt' hN
  unfold String.utf8EncodeChar
  simp only [hSquare, hCube]
  split_ifs <;>
    simp (disch := omega) only [partsBelow_cons_iff, not_partsBelow_nil,
      UInt8.lt_iff_toNat_lt, ← UInt8.toNat_inj, hByte, and_false,
      or_false] <;>
    omega

end SiteSearch.Bytes

------------------------------------------------------------
-- Texts
------------------------------------------------------------

namespace SiteSearch.Bytes

open SiteSearch.Json (charBytes charBytes_cons charBytes_append
  ofText_eq_charBytes)

/-
  Of two texts in order, the lower one begins the other, or
  their bytes part.
-/
theorem prefix_or_partsBelow_of_lt
    {low high : List Char}
    (hLess : low < high) :
    low <+: high ∨ PartsBelow (charBytes low) (charBytes high) := by
  induction low generalizing high with
  | nil => exact Or.inl List.nil_prefix
  | cons c low ih =>
      cases high with
      | nil => exact absurd hLess (List.not_lt_nil _)
      | cons d high =>
          rcases List.cons_lt_cons_iff.mp hLess with
            hChar | ⟨rfl, hRest⟩
          · exact Or.inr
              ((partsBelow_utf8EncodeChar hChar).append _ _)
          · rcases ih hRest with hPrefix | hParts
            · exact Or.inl (List.cons_prefix_cons.mpr ⟨rfl, hPrefix⟩)
            · exact Or.inr (hParts.behind _)

/- Only the empty text has no bytes. -/
theorem charBytes_ne_nil
    {text : List Char}
    (hText : text ≠ []) :
    charBytes text ≠ [] := by
  cases text with
  | nil => exact absurd rfl hText
  | cons c text =>
      rw [charBytes_cons]
      exact List.append_ne_nil_of_left_ne_nil
        String.utf8EncodeChar_ne_nil _

/- Texts in order have their bytes in order. -/
theorem charBytes_lt
    {low high : List Char}
    (hLess : low < high) :
    charBytes low < charBytes high := by
  rcases prefix_or_partsBelow_of_lt hLess with ⟨rest, rfl⟩ | hParts
  · have hRest : rest ≠ [] := by
      rintro rfl
      rw [List.append_nil] at hLess
      exact lt_irrefl low hLess
    rcases List.exists_cons_of_ne_nil (charBytes_ne_nil hRest) with
      ⟨b, bytes, hBytes⟩
    have hBehind : charBytes low ++ [] < charBytes low ++ b :: bytes :=
      List.append_left_lt (List.nil_lt_cons b bytes)
    rwa [List.append_nil, ← hBytes, ← charBytes_append] at hBehind
  · exact hParts.lt

/-
  The order of texts is that of their bytes: it does not
  matter whether they are compared by characters or by bytes.
-/
theorem ofText_lt_iff
    (low high : String) :
    ofText low < ofText high ↔ low < high := by
  rw [ofText_eq_charBytes, ofText_eq_charBytes, String.lt_iff_toList_lt]
  refine ⟨fun hBytes => ?_, charBytes_lt⟩
  rcases lt_trichotomy low.toList high.toList with
    hLess | hSame | hGreater
  · exact hLess
  · rw [hSame] at hBytes
    exact absurd hBytes (List.lt_irrefl _)
  · exact absurd hBytes (List.lt_asymm (charBytes_lt hGreater))

/-
  A text begins with another if its bytes begin with those
  of the other.
-/
theorem ofText_prefix_iff
    (start text : String) :
    ofText start <+: ofText text ↔ start.toList <+: text.toList := by
  rw [ofText_eq_charBytes, ofText_eq_charBytes]
  constructor
  · intro hBytes
    rcases lt_trichotomy start.toList text.toList with
      hLess | hSame | hGreater
    · rcases prefix_or_partsBelow_of_lt hLess with hPrefix | hParts
      · exact hPrefix
      · exact absurd hBytes hParts.not_prefix
    · exact hSame ▸ List.prefix_rfl
    · exact absurd (charBytes_lt hGreater) (List.not_lt.mpr hBytes.le)
  · rintro ⟨rest, hText⟩
    rw [← hText, charBytes_append]
    exact List.prefix_append _ _

end SiteSearch.Bytes

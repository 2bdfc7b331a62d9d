import SiteSearch.Command.Run
import SiteSearch.Proofs.Json.Written
import SiteSearch.Proofs.Text.Runs

/-
  Lines of a text.

  Line feeds divide a text into lines.  As no other character
  is written with the byte of a line feed, the same lines are
  found among the bytes of the text, and each is a text again.

  Main declarations:
    * `SiteSearch.Text.lines`
    * `SiteSearch.linesOf_ofText`
-/

------------------------------------------------------------
-- Lines of Characters
------------------------------------------------------------

namespace SiteSearch.Text

/- A line without the carriage return that it ends in. -/
def withoutReturn
    (line : List Char) :
    List Char :=
  if line.getLast? = some '\r' then line.dropLast else line

/-
  The lines among the pieces that line feeds divide.  The last
  piece has no line feed behind it, and is a line unless it is
  empty.
-/
def linesAmong :
    List (List Char) → List (List Char)
  | [] => []
  | [last] => if last = [] then [] else [last]
  | piece :: next :: pieces =>
      withoutReturn piece :: linesAmong (next :: pieces)

/- The lines of a text. -/
def lines
    (text : String) :
    List String :=
  (linesAmong (text.toList.splitOn '\n')).map String.ofList

/- A piece in front of others is a line. -/
theorem linesAmong_cons
    {pieces : List (List Char)}
    (hPieces : pieces ≠ [])
    (piece : List Char) :
    linesAmong (piece :: pieces) =
      withoutReturn piece :: linesAmong pieces := by
  cases pieces with
  | nil => exact absurd rfl hPieces
  | cons next pieces => rfl

end SiteSearch.Text

------------------------------------------------------------
-- Lines of Bytes
------------------------------------------------------------

namespace SiteSearch

open Json

/- The byte of a control belongs to no other character. -/
theorem not_mem_utf8EncodeChar
    {c : Char}
    (control : Char)
    (hControl : control.toNat < 0x80)
    (hOther : c ≠ control) :
    byte control ∉ String.utf8EncodeChar c := by
  intro hMember
  have hByte : (byte control).toNat = control.toNat := by
    rw [byte, UInt8.toNat_ofNat']
    omega
  rcases eq_or_le_of_mem_utf8EncodeChar hMember with hSame | hAbove
  · rw [hByte] at hSame
    exact hOther (Char.toNat_inj.mp hSame.symm)
  · omega

/- Bytes without a line feed go on with the line begun. -/
theorem linesFrom_append
    {front : List UInt8}
    (hFront : 10 ∉ front)
    (begun rest : List UInt8) :
    linesFrom begun (front ++ rest) =
      linesFrom (front.reverse ++ begun) rest := by
  induction front generalizing begun with
  | nil => rfl
  | cons b front ih =>
      rw [List.mem_cons, not_or] at hFront
      rw [List.cons_append, linesFrom, if_neg (Ne.symm hFront.1),
        ih hFront.2, List.reverse_cons, List.append_assoc]
      rfl

/-
  Bytes of a line lose their carriage return as its
  characters do.
-/
theorem withoutReturn_charBytes
    (line : List Char) :
    (withoutReturn (charBytes line).reverse).reverse =
      charBytes (Text.withoutReturn line) := by
  rcases List.eq_nil_or_concat line with rfl | ⟨front, c, rfl⟩
  · rfl
  · have hBytes : (charBytes (front ++ [c])).reverse =
        (String.utf8EncodeChar c).reverse ++
          (charBytes front).reverse := by
      rw [charBytes_append, charBytes_cons, charBytes_nil,
        List.append_nil, List.reverse_append]
    rw [List.concat_eq_append, hBytes, Text.withoutReturn,
      List.getLast?_concat]
    by_cases hReturn : c = '\r'
    · subst hReturn
      rw [if_pos rfl, List.dropLast_concat]
      exact List.reverse_reverse _
    · have hNot := not_mem_utf8EncodeChar '\r' (by decide) hReturn
      rw [if_neg (by simpa using hReturn)]
      have hKept : withoutReturn ((String.utf8EncodeChar c).reverse ++
            (charBytes front).reverse) =
          (String.utf8EncodeChar c).reverse ++
            (charBytes front).reverse := by
        cases hLast : (String.utf8EncodeChar c).reverse with
        | nil =>
            rw [List.reverse_eq_nil_iff] at hLast
            exact absurd hLast String.utf8EncodeChar_ne_nil
        | cons b before =>
            have hByte : b ≠ 13 := by
              rintro rfl
              apply hNot
              rw [← List.mem_reverse, hLast]
              exact List.mem_cons_self
            rw [List.cons_append, withoutReturn, if_neg hByte]
      rw [hKept, ← hBytes, List.reverse_reverse]

/-
  The lines of bytes are those of characters, from a line
  begun on.
-/
theorem linesFrom_charBytes
    {begun : List Char}
    (hBegun : '\n' ∉ begun)
    (chars : List Char) :
    linesFrom (charBytes begun).reverse (charBytes chars) =
      (Text.linesAmong ((begun ++ chars).splitOn '\n')).map
        charBytes := by
  induction chars generalizing begun with
  | nil =>
      rw [List.append_nil, List.splitOn_eq_singleton hBegun,
        Text.linesAmong, charBytes_nil, linesFrom]
      cases begun with
      | nil => rfl
      | cons c begun =>
          have hSome : charBytes (c :: begun) ≠ [] := by
            simp [String.utf8EncodeChar_ne_nil]
          rw [if_neg (List.cons_ne_nil c begun),
            Text.closeRun_reverse hSome]
          rfl
  | cons c chars ih =>
      by_cases hFeed : c = '\n'
      · subst hFeed
        rw [List.splitOn_append_cons_self_of_not_mem hBegun,
          Text.linesAmong_cons (by simp), List.map_cons,
          ← withoutReturn_charBytes]
        exact congrArg _ (ih List.not_mem_nil)
      · have hFeedByte : 10 ∉ String.utf8EncodeChar c :=
          not_mem_utf8EncodeChar '\n' (by decide) hFeed
        have hMore : '\n' ∉ begun ++ [c] := by
          simp [hBegun, Ne.symm hFeed]
        have hRest := ih hMore
        rw [List.append_assoc, List.singleton_append] at hRest
        rw [← hRest, charBytes_cons, linesFrom_append hFeedByte,
          charBytes_append, List.reverse_append]
        simp

/- The lines of the bytes of a text are the bytes of its lines. -/
theorem linesOf_ofText
    (text : String) :
    linesOf (Bytes.ofText text) =
      (Text.lines text).map Bytes.ofText := by
  rw [linesOf, ofText_eq_charBytes, Text.lines, List.map_map]
  refine (linesFrom_charBytes List.not_mem_nil text.toList).trans ?_
  apply List.map_congr_left
  intro line _
  exact (ofText_ofList line).symm

end SiteSearch

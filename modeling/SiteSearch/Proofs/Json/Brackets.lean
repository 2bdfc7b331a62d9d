import SiteSearch.Proofs.Json.Frame
import Mathlib.Data.List.Forall2

/-
  What stands between brackets.

  Behind an opening bracket stand items with commas between
  them, up to the closing bracket.  The readers of arrays and
  objects fold a step over these items; here the items are
  listed.  A clock that begins with the bytes behind the first
  item never runs out, since every item takes at least a byte.

  Main declarations:
    * `SiteSearch.Json.Folded`
    * `SiteSearch.Json.Listed`
    * `SiteSearch.Json.sequence_eq_ok_iff`
    * `SiteSearch.Json.members_eq_ok_iff`
    * `SiteSearch.Json.folded_map_iff`
    * `SiteSearch.Json.Listed.exists_taken`
    * `SiteSearch.Json.Listed.exists_matching`
-/

------------------------------------------------------------
-- Items and Their Commas
------------------------------------------------------------

namespace SiteSearch.Json

/-
  The bytes of the item ahead, from its first byte on.  All
  but the first item stand behind a comma.
-/
inductive Ahead
    (close : UInt8) :
    Bool → List UInt8 → List UInt8 → Prop where
  | first
      {bytes front : List UInt8}
      {b : UInt8}
      (hFront : skipSpace bytes = b :: front)
      (hItem : b ≠ close) :
      Ahead close true bytes (b :: front)
  | next
      {bytes behind front : List UInt8}
      {b : UInt8}
      (hComma : skipSpace bytes = byte ',' :: behind)
      (hFront : skipSpace behind = b :: front)
      (hItem : b ≠ close) :
      Ahead close false bytes (b :: front)

/-
  A step that is folded over the items up to the closing
  bracket, beginning with the first one or behind another.
-/
inductive Folded
    {σ : Type}
    (close : UInt8)
    (step : σ → Reader σ) :
    Bool → σ → List UInt8 → σ → List UInt8 → Prop where
  | close
      {isFirst : Bool}
      {state : σ}
      {bytes rest : List UInt8}
      (hClose : skipSpace bytes = close :: rest) :
      Folded close step isFirst state bytes state rest
  | item
      {isFirst : Bool}
      {state next last : σ}
      {bytes front after rest : List UInt8}
      (hAhead : Ahead close isFirst bytes front)
      (hStep : step state front = .ok (next, after))
      (hMore : Folded close step false next after last rest) :
      Folded close step isFirst state bytes last rest

/- The items up to the closing bracket. -/
inductive Listed
    {α : Type}
    (close : UInt8)
    (item : Reader α) :
    Bool → List UInt8 → List α → List UInt8 → Prop where
  | close
      {isFirst : Bool}
      {bytes rest : List UInt8}
      (hClose : skipSpace bytes = close :: rest) :
      Listed close item isFirst bytes [] rest
  | item
      {isFirst : Bool}
      {a : α}
      {items : List α}
      {bytes front after rest : List UInt8}
      (hAhead : Ahead close isFirst bytes front)
      (hItem : item front = .ok (a, after))
      (hMore : Listed close item false after items rest) :
      Listed close item isFirst bytes (a :: items) rest

/- An item behind a comma is shorter than all that is left. -/
theorem Ahead.length_lt
    {close : UInt8}
    {bytes front : List UInt8}
    (hAhead : Ahead close false bytes front) :
    front.length < bytes.length := by
  cases hAhead with
  | @next _ behind _ _ hComma hFront hItem =>
      have hBytes := length_skipSpace_le bytes
      have hBehind := length_skipSpace_le behind
      rw [hComma, List.length_cons] at hBytes
      rw [hFront] at hBehind
      omega

/- The first one is no longer. -/
theorem Ahead.length_le
    {close : UInt8}
    {isFirst : Bool}
    {bytes front : List UInt8}
    (hAhead : Ahead close isFirst bytes front) :
    front.length ≤ bytes.length := by
  cases hAhead with
  | first hFront hItem =>
      rw [← hFront]
      exact length_skipSpace_le bytes
  | next hComma hFront hItem =>
      exact (Ahead.next hComma hFront hItem).length_lt.le

/- There is one item ahead. -/
theorem Ahead.unique
    {close : UInt8}
    {isFirst : Bool}
    {bytes front other : List UInt8}
    (hAhead : Ahead close isFirst bytes front)
    (hOther : Ahead close isFirst bytes other) :
    front = other := by
  cases hAhead with
  | first hFront hItem =>
      cases hOther with
      | first hFront' hItem' => rw [← hFront, ← hFront']
  | next hComma hFront hItem =>
      cases hOther with
      | next hComma' hFront' hItem' =>
          rw [hComma, List.cons.injEq] at hComma'
          rw [← hFront, ← hFront', hComma'.2]

/- Where the bracket closes, no item is ahead. -/
theorem Ahead.not_close
    {close : UInt8}
    (hClose : close ≠ byte ',')
    {isFirst : Bool}
    {bytes front rest : List UInt8}
    (hAhead : Ahead close isFirst bytes front) :
    skipSpace bytes ≠ close :: rest := by
  intro hEnd
  cases hAhead with
  | first hFront hItem =>
      rw [hFront, List.cons.injEq] at hEnd
      exact hItem hEnd.1
  | next hComma hFront hItem =>
      rw [hComma, List.cons.injEq] at hEnd
      exact hClose hEnd.1.symm

/- The item ahead is the same with more bytes behind all. -/
theorem Ahead.append
    {close : UInt8}
    {isFirst : Bool}
    {bytes front : List UInt8}
    (hAhead : Ahead close isFirst bytes front)
    (more : List UInt8) :
    Ahead close isFirst (bytes ++ more) (front ++ more) := by
  cases hAhead with
  | first hFront hItem =>
      exact .first (skipSpace_append hFront more) hItem
  | next hComma hFront hItem =>
      exact .next (skipSpace_append hComma more)
        (skipSpace_append hFront more) hItem

/- Items are folded alike with more bytes behind all. -/
theorem Folded.append
    {σ : Type}
    {close : UInt8}
    {step : σ → Reader σ}
    {more : List UInt8}
    (hStep : ∀ state, (step state).Indifferent more)
    {isFirst : Bool}
    {state last : σ}
    {bytes rest : List UInt8}
    (hFolded : Folded close step isFirst state bytes last rest) :
    Folded close step isFirst state (bytes ++ more) last
      (rest ++ more) := by
  induction hFolded with
  | close hClose => exact .close (skipSpace_append hClose more)
  | item hAhead hItem hMore ih =>
      exact .item (hAhead.append more) (hStep _ hItem) ih

/- Folding takes at least the bracket. -/
theorem Folded.length_lt
    {σ : Type}
    {close : UInt8}
    {step : σ → Reader σ}
    (hStep : ∀ state, (step state).Shrinking)
    {isFirst : Bool}
    {state last : σ}
    {bytes rest : List UInt8}
    (hFolded : Folded close step isFirst state bytes last rest) :
    rest.length < bytes.length := by
  induction hFolded with
  | @close _ _ bytes _ hClose =>
      have hBytes := length_skipSpace_le bytes
      rw [hClose, List.length_cons] at hBytes
      omega
  | item hAhead hItem hMore ih =>
      have hFront := hAhead.length_le
      have hAfter := hStep _ hItem
      omega

/- What leads to an item is the same whatever that item is. -/
theorem Ahead.exists_lead
    {close : UInt8}
    {isFirst : Bool}
    {bytes front : List UInt8}
    (hAhead : Ahead close isFirst bytes front) :
    ∃ lead b tail, b ≠ close ∧ front = b :: tail ∧
      bytes = lead ++ b :: tail ∧
      ∀ other,
        Ahead close isFirst (lead ++ b :: other) (b :: other) := by
  cases hAhead with
  | @first _ tail b hFront hItem =>
      rcases exists_space_of_skipSpace hFront with
        ⟨space, hBytes, hSpace⟩
      exact ⟨space, b, tail, hItem, rfl, hBytes, fun other =>
        .first (hSpace other) hItem⟩
  | @next _ behind tail b hComma hFront hItem =>
      rcases exists_space_of_skipSpace hComma with
        ⟨space, hBytes, hSpace⟩
      rcases exists_space_of_skipSpace hFront with
        ⟨space', rfl, hSpace'⟩
      refine ⟨space ++ byte ',' :: space', b, tail, hItem, rfl, ?_, ?_⟩
      · rw [hBytes]
        simp
      · intro other
        have hComma' : skipSpace
            (space ++ byte ',' :: space' ++ b :: other) =
              byte ',' :: (space' ++ b :: other) := by
          rw [List.append_assoc, List.cons_append]
          exact hSpace _
        exact .next hComma' (hSpace' other) hItem

end SiteSearch.Json

------------------------------------------------------------
-- Arrays and Objects as Folds
------------------------------------------------------------

namespace SiteSearch.Json

variable {σ : Type}
variable {strict : Strictness}
variable {step : σ → Reader σ}

/- What is read behind an element is folded up to the bracket. -/
theorem folded_of_sequenceFrom
    {state last : σ}
    {clock bytes rest : List UInt8}
    (hRead : sequenceFrom strict step state clock bytes =
      .ok (last, rest)) :
    Folded (byte ']') step false state bytes last rest := by
  induction clock generalizing state bytes with
  | nil =>
      unfold sequenceFrom at hRead
      split at hRead
      · cases hRead
      · rename_i b front hFront
        split_ifs at hRead with hClose hComma
        · cases hRead
          exact .close (hClose ▸ hFront)
        · split at hRead
          · cases hRead
          · split_ifs at hRead
  | cons tick clock ih =>
      unfold sequenceFrom at hRead
      split at hRead
      · cases hRead
      · rename_i b behind hBehind
        split_ifs at hRead with hClose hComma
        · cases hRead
          exact .close (hClose ▸ hBehind)
        · split at hRead
          · cases hRead
          · rename_i c front hFront
            split_ifs at hRead with hBracket
            dsimp only at hRead
            split at hRead
            · cases hRead
            · rename_i next after hStep
              exact .item (.next (hComma ▸ hBehind) hFront hBracket)
                hStep (ih hRead)

/- What is folded is read, as long as the clock runs. -/
theorem Folded.sequenceFrom
    (hStep : ∀ state, (step state).Consuming)
    (strict : Strictness)
    {state last : σ}
    {clock bytes rest : List UInt8}
    (hFolded : Folded (byte ']') step false state bytes last rest)
    (hClock : bytes.length ≤ clock.length) :
    Json.sequenceFrom strict step state clock bytes =
      .ok (last, rest) := by
  generalize hFirst : false = isFirst at hFolded
  induction hFolded generalizing clock with
  | close hClose =>
      unfold Json.sequenceFrom
      rw [hClose]
      rfl
  | item hAhead hItem hMore ih =>
      subst hFirst
      have hShorter := hStep _ hItem
      cases hAhead with
      | @next _ behind front b hComma hFront hBracket =>
          have hLess := (Ahead.next hComma hFront hBracket).length_lt
          cases clock with
          | nil => simp at hClock; simp [hClock] at hLess
          | cons tick clock =>
              rw [List.length_cons] at hClock
              unfold Json.sequenceFrom
              rw [hComma]
              simp only [if_neg (show byte ',' ≠ byte ']' by decide),
                if_true, hFront, if_neg hBracket, hItem]
              exact ih (by omega) rfl

/- Reading an array is folding its elements. -/
theorem sequence_eq_ok_iff
    (hStep : ∀ state, (step state).Consuming)
    {state last : σ}
    {bytes rest : List UInt8} :
    sequence strict step state bytes = .ok (last, rest) ↔
      Folded (byte ']') step true state bytes last rest := by
  constructor
  · intro hRead
    unfold sequence at hRead
    split at hRead
    · cases hRead
    · rename_i b front hFront
      split_ifs at hRead with hClose
      · cases hRead
        exact .close (hClose ▸ hFront)
      · split at hRead
        · cases hRead
        · rename_i next after hItem
          exact .item (.first hFront hClose) hItem
            (folded_of_sequenceFrom hRead)
  · intro hFolded
    cases hFolded with
    | close hClose =>
        unfold sequence
        rw [hClose]
        rfl
    | item hAhead hItem hMore =>
        cases hAhead with
        | first hFront hBracket =>
            unfold sequence
            rw [hFront]
            simp only [if_neg hBracket, hItem]
            exact hMore.sequenceFrom hStep strict le_rfl

/- A reader behind a quote, which an item then begins with. -/
def quoted
    {α : Type}
    (reader : Reader α) :
    Reader α := fun bytes =>
  match bytes with
  | [] => .error .keyNotString
  | b :: rest =>
      if b = byte '"' then reader rest else .error .keyNotString

/- What is quoted begins with a quote. -/
theorem quoted_eq_ok_iff
    {α : Type}
    {reader : Reader α}
    {bytes rest : List UInt8}
    {a : α} :
    quoted reader bytes = .ok (a, rest) ↔
      ∃ front, bytes = byte '"' :: front ∧
        reader front = .ok (a, rest) := by
  constructor
  · intro hRead
    unfold quoted at hRead
    split at hRead
    · cases hRead
    · split_ifs at hRead with hQuote
      exact ⟨_, by rw [hQuote], hRead⟩
  · rintro ⟨front, rfl, hRead⟩
    exact hRead

theorem framed_quoted
    {α : Type}
    {reader : Reader α}
    (hFramed : reader.Framed) :
    (quoted reader).Framed := by
  intro bytes a rest hRead
  rcases quoted_eq_ok_iff.mp hRead with ⟨front, rfl, hFront⟩
  rcases hFramed hFront with ⟨taken, rfl, hFrame⟩
  exact ⟨byte '"' :: taken, rfl, fun other hOther =>
    quoted_eq_ok_iff.mpr ⟨_, rfl, hFrame other hOther⟩⟩

theorem consuming_quoted
    {α : Type}
    {reader : Reader α}
    (hShrinking : reader.Shrinking) :
    (quoted reader).Consuming := by
  intro bytes a rest hRead
  rcases quoted_eq_ok_iff.mp hRead with ⟨front, rfl, hFront⟩
  exact Nat.lt_succ_of_le (hShrinking hFront)

/-
  Applying a function behind a quote is applying it to the
  quoted.
-/
theorem quoted_map
    {α β : Type}
    (f : α → β)
    (reader : Reader α) :
    quoted (reader.map f) = (quoted reader).map f := by
  funext bytes
  unfold quoted Reader.map
  cases bytes with
  | nil => rfl
  | cons b bytes => dsimp only; split_ifs <;> rfl

/- What is read behind a member is folded up to the brace. -/
theorem folded_of_membersFrom
    {state last : σ}
    {clock bytes rest : List UInt8}
    (hRead : membersFrom strict step state clock bytes =
      .ok (last, rest)) :
    Folded (byte '}') (fun state => quoted (step state)) false
      state bytes last rest := by
  induction clock generalizing state bytes with
  | nil =>
      unfold membersFrom at hRead
      split at hRead
      · cases hRead
      · rename_i b front hFront
        split_ifs at hRead with hClose hComma
        · cases hRead
          exact .close (hClose ▸ hFront)
        · split at hRead
          · cases hRead
          · split_ifs at hRead
  | cons tick clock ih =>
      unfold membersFrom at hRead
      split at hRead
      · cases hRead
      · rename_i b behind hBehind
        split_ifs at hRead with hClose hComma
        · cases hRead
          exact .close (hClose ▸ hBehind)
        · split at hRead
          · cases hRead
          · rename_i c front hFront
            split_ifs at hRead with hBrace hQuote
            dsimp only at hRead
            split at hRead
            · cases hRead
            · rename_i next after hStep
              refine .item (.next (hComma ▸ hBehind) hFront hBrace)
                ?_ (ih hRead)
              exact quoted_eq_ok_iff.mpr
                ⟨front, by rw [hQuote], hStep⟩

/- What is folded is read, as long as the clock runs. -/
theorem Folded.membersFrom
    (hStep : ∀ state, (quoted (step state)).Consuming)
    (strict : Strictness)
    {state last : σ}
    {clock bytes rest : List UInt8}
    (hFolded :
      Folded (byte '}') (fun state => quoted (step state)) false
      state bytes last rest)
    (hClock : bytes.length ≤ clock.length) :
    Json.membersFrom strict step state clock bytes =
      .ok (last, rest) := by
  generalize hFirst : false = isFirst at hFolded
  induction hFolded generalizing clock with
  | close hClose =>
      unfold Json.membersFrom
      rw [hClose]
      rfl
  | item hAhead hItem hMore ih =>
      subst hFirst
      have hShorter := hStep _ hItem
      cases hAhead with
      | @next _ behind front b hComma hFront hBrace =>
          have hLess := (Ahead.next hComma hFront hBrace).length_lt
          rcases quoted_eq_ok_iff.mp hItem with ⟨tail, hQuote, hTail⟩
          rw [List.cons.injEq] at hQuote
          rcases hQuote with ⟨rfl, rfl⟩
          cases clock with
          | nil => simp at hClock; simp [hClock] at hLess
          | cons tick clock =>
              rw [List.length_cons] at hClock
              unfold Json.membersFrom
              rw [hComma]
              simp only [if_neg (show byte ',' ≠ byte '}' by decide),
                if_true, hFront, if_neg hBrace, hTail]
              exact ih (by omega) rfl

/- Reading an object is folding its members. -/
theorem members_eq_ok_iff
    (hStep : ∀ state, (quoted (step state)).Consuming)
    {state last : σ}
    {bytes rest : List UInt8} :
    members strict step state bytes = .ok (last, rest) ↔
      Folded (byte '}') (fun state => quoted (step state)) true
        state bytes last rest := by
  constructor
  · intro hRead
    unfold members at hRead
    split at hRead
    · cases hRead
    · rename_i b front hFront
      split_ifs at hRead with hClose hQuote
      · cases hRead
        exact .close (hClose ▸ hFront)
      · split at hRead
        · cases hRead
        · rename_i next after hItem
          refine .item (.first hFront hClose) ?_
            (folded_of_membersFrom hRead)
          exact quoted_eq_ok_iff.mpr ⟨front, by rw [hQuote], hItem⟩
  · intro hFolded
    cases hFolded with
    | close hClose =>
        unfold members
        rw [hClose]
        rfl
    | item hAhead hItem hMore =>
        cases hAhead with
        | first hFront hBrace =>
            rcases quoted_eq_ok_iff.mp hItem with ⟨tail, hQuote, hTail⟩
            rw [List.cons.injEq] at hQuote
            rcases hQuote with ⟨rfl, rfl⟩
            unfold members
            rw [hFront]
            simp only [if_neg hBrace, if_true, hTail]
            exact hMore.membersFrom hStep strict le_rfl

end SiteSearch.Json

------------------------------------------------------------
-- Lists of Items
------------------------------------------------------------

namespace SiteSearch.Json

variable {α β σ : Type}
variable {close : UInt8}
variable {item : Reader α}

/- A fold that reads each item alone is a fold over their list. -/
theorem folded_map_iff
    (f : σ → α → σ)
    {isFirst : Bool}
    {state last : σ}
    {bytes rest : List UInt8} :
    Folded close (fun state => item.map (f state)) isFirst
        state bytes last rest ↔
      ∃ items, Listed close item isFirst bytes items rest ∧
        items.foldl f state = last := by
  constructor
  · intro hFolded
    induction hFolded with
    | close hClose => exact ⟨[], .close hClose, rfl⟩
    | item hAhead hStep hMore ih =>
        rcases ih with ⟨items, hItems, rfl⟩
        rcases Reader.map_eq_ok_iff.mp hStep with ⟨a, hItem, rfl⟩
        exact ⟨a :: items, .item hAhead hItem hItems, rfl⟩
  · rintro ⟨items, hListed, rfl⟩
    induction hListed generalizing state with
    | close hClose => exact .close hClose
    | item hAhead hItem hMore ih =>
        exact .item hAhead (Reader.map_eq_ok_iff.mpr ⟨_, hItem, rfl⟩) ih

/- Space in front of a list changes nothing. -/
theorem Listed.behind_space
    {space : List UInt8}
    (hSpace : ∀ b ∈ space, isSpace b = true)
    {isFirst : Bool}
    {bytes rest : List UInt8}
    {items : List α}
    (hListed : Listed close item isFirst bytes items rest) :
    Listed close item isFirst (space ++ bytes) items rest := by
  have hSkip := skipSpace_behind_space hSpace bytes
  cases hListed with
  | close hClose => exact .close (hSkip.trans hClose)
  | item hAhead hItem hMore =>
      cases hAhead with
      | first hFront hOpen =>
          exact .item (.first (hSkip.trans hFront) hOpen) hItem hMore
      | next hComma hFront hOpen =>
          exact .item (.next (hSkip.trans hComma) hFront hOpen)
            hItem hMore

/-
  In front of the bracket that closes a list, others may take
  its place: the items are then followed by those listed there.
-/
theorem Listed.exists_front
    (hItem : item.Framed)
    {isFirst : Bool}
    {bytes rest : List UInt8}
    {items : List α}
    (hListed : Listed close item isFirst bytes items rest) :
    ∃ front, bytes = front ++ close :: rest ∧
      ∀ other others last, MayReplace (close :: rest) other →
        Listed close item (isFirst && items.isEmpty) other others last →
        Listed close item isFirst (front ++ other) (items ++ others)
          last := by
  induction hListed with
  | @close isFirst bytes rest hClose =>
      refine ⟨bytes.takeWhile isSpace, ?_, ?_⟩
      · rw [← hClose]
        exact List.takeWhile_append_dropWhile.symm
      · intro other others last _ hOthers
        rw [List.isEmpty_nil, Bool.and_true] at hOthers
        exact hOthers.behind_space fun b hb => List.mem_takeWhile_imp hb
  | @item isFirst a items bytes front after rest hAhead hRead hMore
    ih =>
      rcases ih with ⟨inner, rfl, hAgain⟩
      rcases hItem hRead with ⟨own, rfl, hFrame⟩
      rcases hAhead.exists_lead with
        ⟨lead, b, tail, hOpen, hFront, rfl, hLead⟩
      -- The first byte of the item does not close the list, so it is
      -- kept.
      have hKept : ∃ kept, own ++ inner = b :: kept ∧
          tail = kept ++ close :: rest := by
        rw [← List.append_assoc] at hFront
        cases hOwn : own ++ inner with
        | nil =>
            rw [hOwn, List.nil_append, List.cons.injEq] at hFront
            exact absurd hFront.1.symm hOpen
        | cons c kept =>
            rw [hOwn, List.cons_append, List.cons.injEq] at hFront
            exact ⟨kept, by rw [hFront.1], hFront.2.symm⟩
      rcases hKept with ⟨kept, hBytes, rfl⟩
      refine ⟨lead ++ b :: kept, by simp, ?_⟩
      intro other others last hOther hOthers
      have hOwn := hFrame _ (hOther.append inner)
      rw [← List.append_assoc, hBytes, List.cons_append] at hOwn
      rw [List.append_assoc, List.cons_append]
      refine .item (hLead (kept ++ other)) hOwn
        (hAgain other others last hOther ?_)
      simpa using hOthers

/- The bracket that closes a list is no space. -/
theorem Listed.isSpace_close
    {isFirst : Bool}
    {bytes rest : List UInt8}
    {items : List α}
    (hListed : Listed close item isFirst bytes items rest) :
    isSpace close = false := by
  induction hListed with
  | close hClose => exact isSpace_of_skipSpace hClose
  | item hAhead hItem hMore ih => exact ih

/- A list ends at its bracket, whatever stands behind it. -/
theorem Listed.exists_taken
    (hItem : item.Framed)
    {isFirst : Bool}
    {bytes rest : List UInt8}
    {items : List α}
    (hListed : Listed close item isFirst bytes items rest) :
    ∃ taken, taken ≠ [] ∧ bytes = taken ++ rest ∧
      ∀ other,
        Listed close item isFirst (taken ++ other) items other := by
  rcases hListed.exists_front hItem with ⟨front, rfl, hAgain⟩
  refine ⟨front ++ [close], by simp, by simp, ?_⟩
  intro other
  have hEnd := hAgain (close :: other) [] other (Or.inl rfl)
    (.close (skipSpace_cons hListed.isSpace_close other))
  rw [List.append_nil] at hEnd
  rw [List.append_assoc]
  exact hEnd

/- What is read of a list was read. -/
theorem Listed.exists_read
    {α : Type}
    {close : UInt8}
    {item : Reader α}
    {isFirst : Bool}
    {bytes rest : List UInt8}
    {items : List α}
    (hListed : Listed close item isFirst bytes items rest)
    {a : α}
    (hMember : a ∈ items) :
    ∃ front after, item front = .ok (a, after) := by
  induction hListed with
  | close hClose => cases hMember
  | item hAhead hItem hMore ih =>
      rcases List.mem_cons.mp hMember with rfl | hMember
      · exact ⟨_, _, hItem⟩
      · exact ih hMember

/- Listing takes at least the bracket. -/
theorem Listed.length_lt
    (hItem : item.Shrinking)
    {isFirst : Bool}
    {bytes rest : List UInt8}
    {items : List α}
    (hListed : Listed close item isFirst bytes items rest) :
    rest.length < bytes.length := by
  induction hListed with
  | @close _ bytes _ hClose =>
      have hBytes := length_skipSpace_le bytes
      rw [hClose, List.length_cons] at hBytes
      omega
  | item hAhead hRead hMore ih =>
      have hFront := hAhead.length_le
      have hAfter := hItem hRead
      omega

end SiteSearch.Json

------------------------------------------------------------
-- Readers That Agree
------------------------------------------------------------

namespace SiteSearch.Json

variable {α β : Type}

/-
  Where one reader takes some bytes up to the rest, so does the
  other, and it makes something related of them.
-/
def Reader.Matches
    (related : α → β → Prop)
    (reader : Reader α)
    (other : Reader β)
    (bytes rest : List UInt8) :
    Prop :=
  ∀ ⦃a : α⦄, reader bytes = .ok (a, rest) →
    ∃ b, other bytes = .ok (b, rest) ∧ related a b

variable {related : α → β → Prop}

/- Readers agree on values if they agree on each form. -/
theorem anyForm_matches
    {forms : Forms α}
    {forms' : Forms β}
    {bytes rest : List UInt8}
    (hNull : related forms.null forms'.null)
    (hBool : ∀ flag, related (forms.bool flag) (forms'.bool flag))
    (hNumber : ∀ front,
      Reader.Matches related forms.number forms'.number front rest)
    (hString : ∀ front,
      Reader.Matches related forms.string forms'.string front rest)
    (hArray : ∀ front, front.length < bytes.length →
      Reader.Matches related forms.array forms'.array front rest)
    (hObject : ∀ front, front.length < bytes.length →
      Reader.Matches related forms.object forms'.object front rest) :
    Reader.Matches related (anyForm forms) (anyForm forms')
      bytes rest := by
  intro a hRead
  rcases anyForm_eq_ok_iff.mp hRead with ⟨b, front, hSkip, hBehind⟩
  have hFront : front.length < bytes.length := by
    have hLength := length_skipSpace_le bytes
    rw [hSkip, List.length_cons] at hLength
    exact hLength
  have hOther : ∃ a', forms'.behind b front = .ok (a', rest) ∧
      related a a' := by
    unfold Forms.behind at hBehind ⊢
    split_ifs at hBehind ⊢
    · rcases wordOf_eq_ok_iff.mp hBehind with ⟨hLetters, rfl⟩
      exact ⟨_, wordOf_eq_ok_iff.mpr ⟨hLetters, rfl⟩, hNull⟩
    · rcases wordOf_eq_ok_iff.mp hBehind with ⟨hLetters, rfl⟩
      exact ⟨_, wordOf_eq_ok_iff.mpr ⟨hLetters, rfl⟩, hBool true⟩
    · rcases wordOf_eq_ok_iff.mp hBehind with ⟨hLetters, rfl⟩
      exact ⟨_, wordOf_eq_ok_iff.mpr ⟨hLetters, rfl⟩, hBool false⟩
    · exact hNumber _ hBehind
    · exact hString _ hBehind
    · exact hArray _ hFront hBehind
    · exact hObject _ hFront hBehind
  rcases hOther with ⟨a', hRead', hRelated⟩
  exact ⟨a', anyForm_eq_ok_iff.mpr ⟨b, front, hSkip, hRead'⟩, hRelated⟩

/- Readers agree on lists if they agree on each item. -/
theorem Listed.exists_matching
    {close : UInt8}
    {item : Reader α}
    {other : Reader β}
    (hItem : item.Shrinking)
    {isFirst : Bool}
    {bytes rest : List UInt8}
    {items : List α}
    (hListed : Listed close item isFirst bytes items rest)
    (hMatches : ∀ front after, front.length ≤ bytes.length →
      rest.length < after.length →
      Reader.Matches related item other front after) :
    ∃ items', Listed close other isFirst bytes items' rest ∧
      List.Forall₂ related items items' := by
  induction hListed with
  | close hClose => exact ⟨[], .close hClose, .nil⟩
  | item hAhead hRead hMore ih =>
      have hAfter := hItem hRead
      have hFront := hAhead.length_le
      rcases hMatches _ _ hFront (hMore.length_lt hItem) hRead with
        ⟨b, hOther, hRelated⟩
      rcases ih fun front after hLess =>
        hMatches front after (by omega) with
        ⟨items', hItems, hAll⟩
      exact ⟨b :: items', .item hAhead hOther hItems,
        .cons hRelated hAll⟩

end SiteSearch.Json

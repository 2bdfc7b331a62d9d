import SiteSearch.Proofs.Json.Brackets
import SiteSearch.Proofs.Json.Literal
import SiteSearch.Proofs.Json.Numeral

/-
  Reading and skipping values.

  A generic value is read alike at every depth that suffices
  for it, and whatever stands behind it.  Where it can be read
  it can be skipped, and the same bytes are left.

  Main declarations:
    * `SiteSearch.Json.arrayOf_eq_ok_iff`
    * `SiteSearch.Json.objectOf_eq_ok_iff`
    * `SiteSearch.Json.framed_value`
    * `SiteSearch.Json.value_cases`
    * `SiteSearch.Json.skip_of_value`
-/

------------------------------------------------------------
-- Members of Objects
------------------------------------------------------------

namespace SiteSearch.Json

theorem framed_colon : colon.Framed := by
  intro bytes done rest hRead
  unfold colon at hRead
  split at hRead
  · cases hRead
  · rename_i b left hSkip
    split_ifs at hRead with hColon
    cases hRead
    rcases exists_space_of_skipSpace hSkip with ⟨space, rfl, hSpace⟩
    refine ⟨space ++ [b], by simp, ?_⟩
    intro other _
    have hOther : skipSpace (space ++ [b] ++ other) = b :: other := by
      rw [List.append_assoc]
      exact hSpace other
    rw [colon, hOther]
    exact if_pos hColon

/- A key and what stands behind its colon. -/
def keyed
    {α : Type}
    (item : Reader α) :
    Reader (String × α) :=
  text.andThen fun key => colon.andThen fun _ => item.map (key, ·)

/- A key is read, then a colon, then an item. -/
theorem keyed_eq_ok_iff
    {α : Type}
    {item : Reader α}
    {bytes rest : List UInt8}
    {key : String}
    {a : α} :
    keyed item bytes = .ok ((key, a), rest) ↔
      ∃ behind front, text bytes = .ok (key, behind) ∧
        colon behind = .ok ((), front) ∧
          item front = .ok (a, rest) := by
  constructor
  · intro hRead
    rcases Reader.andThen_eq_ok_iff.mp hRead with
      ⟨key', behind, hKey, hItem⟩
    rcases Reader.andThen_eq_ok_iff.mp hItem with
      ⟨_, front, hColon, hMap⟩
    rcases Reader.map_eq_ok_iff.mp hMap with ⟨a', hRead', hPair⟩
    rw [Prod.mk.injEq] at hPair
    rcases hPair with ⟨rfl, rfl⟩
    exact ⟨behind, front, hKey, hColon, hRead'⟩
  · rintro ⟨behind, front, hKey, hColon, hItem⟩
    exact Reader.andThen_eq_ok_iff.mpr ⟨key, behind, hKey,
      Reader.andThen_eq_ok_iff.mpr ⟨(), front, hColon,
        Reader.map_eq_ok_iff.mpr ⟨a, hItem, rfl⟩⟩⟩

theorem framed_keyed
    {α : Type}
    {item : Reader α}
    (hItem : item.Framed) :
    (keyed item).Framed :=
  framed_text.andThen fun _ => framed_colon.andThen fun _ => hItem.map _

/- A member is set among those before it. -/
theorem member_eq
    (item : Reader Json) :
    member item = fun before =>
      (keyed item).map fun entry =>
        insertMember entry.1 entry.2 before := by
  funext before bytes
  simp only [member, keyed, Reader.andThen, Reader.map, bind,
    Except.bind]
  rcases text bytes with e | ⟨key, behind⟩
  · rfl
  dsimp only
  rcases colon behind with e | ⟨done, front⟩
  · rfl
  dsimp only
  rcases item front with e | ⟨a, rest⟩ <;> rfl

end SiteSearch.Json

------------------------------------------------------------
-- Arrays and Objects
------------------------------------------------------------

namespace SiteSearch.Json

/- Elements are kept in reverse as they are listed. -/
theorem sequence_eq_ok_iff_listed
    {α : Type}
    {item : Reader α}
    (hItem : item.Consuming)
    {bytes rest : List UInt8}
    {items : List α} :
    sequence kept (fun items => item.map (· :: items)) [] bytes =
        .ok (items, rest) ↔
      Listed (byte ']') item true bytes items.reverse rest := by
  rw [sequence_eq_ok_iff fun _ => hItem.map _, folded_map_iff]
  have hFold : ∀ listed : List α,
      listed.foldl (fun items v => v :: items) [] = listed.reverse := by
    intro listed
    rw [List.foldl_flip_cons_eq_append]
    simp
  simp only [hFold]
  constructor
  · rintro ⟨listed, hListed, rfl⟩
    rw [List.reverse_reverse]
    exact hListed
  · intro hListed
    exact ⟨items.reverse, hListed, List.reverse_reverse items⟩

variable {item : Reader Json}

/- An array is read if its elements are listed. -/
theorem arrayOf_eq_ok_iff
    (hItem : item.Consuming)
    {bytes rest : List UInt8}
    {v : Json} :
    arrayOf item bytes = .ok (v, rest) ↔
      ∃ items, Listed (byte ']') item true bytes items rest ∧
        v = .array items := by
  rw [arrayOf, Reader.map_eq_ok_iff]
  simp only [sequence_eq_ok_iff_listed hItem]
  constructor
  · rintro ⟨items, hListed, rfl⟩
    exact ⟨items.reverse, hListed, rfl⟩
  · rintro ⟨items, hListed, rfl⟩
    refine ⟨items.reverse, ?_, by rw [List.reverse_reverse]⟩
    rw [List.reverse_reverse]
    exact hListed

/- An object is read if its members are listed. -/
theorem objectOf_eq_ok_iff
    (hItem : item.Framed)
    {bytes rest : List UInt8}
    {v : Json} :
    objectOf item bytes = .ok (v, rest) ↔
      ∃ named,
        Listed (byte '}') (quoted (keyed item)) true bytes named rest ∧
        v = .object (membersOf named) := by
  have hStep : ∀ before : List (String × Json),
      (quoted (member item before)).Consuming := by
    intro before
    rw [member_eq]
    exact consuming_quoted ((framed_keyed hItem).map _).shrinking
  have hQuoted : (fun before => quoted (member item before)) =
      fun before => (quoted (keyed item)).map fun entry =>
        insertMember entry.1 entry.2 before := by
    funext before
    rw [member_eq, quoted_map]
  rw [objectOf, Reader.map_eq_ok_iff]
  constructor
  · rintro ⟨members, hRead, rfl⟩
    rw [members_eq_ok_iff hStep, hQuoted, folded_map_iff] at hRead
    rcases hRead with ⟨named, hNamed, rfl⟩
    exact ⟨named, hNamed, rfl⟩
  · rintro ⟨named, hNamed, rfl⟩
    refine ⟨membersOf named, ?_, rfl⟩
    rw [members_eq_ok_iff hStep, hQuoted, folded_map_iff]
    exact ⟨named, hNamed, rfl⟩

theorem framed_arrayOf
    (hItem : item.Framed)
    (hConsuming : item.Consuming) :
    (arrayOf item).Framed := by
  intro bytes v rest hRead
  rcases (arrayOf_eq_ok_iff hConsuming).mp hRead with
    ⟨items, hListed, rfl⟩
  rcases hListed.exists_taken hItem with ⟨taken, -, rfl, hAgain⟩
  exact ⟨taken, rfl, fun other _ =>
    (arrayOf_eq_ok_iff hConsuming).mpr ⟨items, hAgain other, rfl⟩⟩

theorem framed_objectOf
    (hItem : item.Framed) :
    (objectOf item).Framed := by
  intro bytes v rest hRead
  rcases (objectOf_eq_ok_iff hItem).mp hRead with ⟨named, hListed, rfl⟩
  rcases hListed.exists_taken (framed_quoted (framed_keyed hItem)) with
    ⟨taken, -, rfl, hAgain⟩
  exact ⟨taken, rfl, fun other _ =>
    (objectOf_eq_ok_iff hItem).mpr ⟨named, hAgain other, rfl⟩⟩

end SiteSearch.Json

------------------------------------------------------------
-- Generic Values
------------------------------------------------------------

namespace SiteSearch.Json

theorem framed_valueForms
    {array object : Reader Json}
    (hArray : array.Framed)
    (hObject : object.Framed) :
    (valueForms array object).Framed where
  number := framed_readNumber.map _
  consuming := consuming_readNumber.map _
  string := framed_text.map _
  array := hArray
  object := hObject

/- What a value with so many brackets around others is made of. -/
def formsAt :
    Nat → Forms Json
  | 0 => valueForms (Reader.fail .tooDeep) (Reader.fail .tooDeep)
  | depth + 1 =>
      valueForms (arrayOf (value depth)) (objectOf (value depth))

theorem value_eq
    (depth : Nat) :
    value depth = anyForm (formsAt depth) := by
  cases depth <;> rfl

theorem framed_formsAt
    (depth : Nat) :
    (formsAt depth).Framed := by
  induction depth with
  | zero =>
      exact framed_valueForms (Reader.framed_fail _)
        (Reader.framed_fail _)
  | succ depth ih =>
      have hFramed : (value depth).Framed := by
        rw [value_eq]
        exact framed_anyForm ih
      have hConsuming : (value depth).Consuming := by
        rw [value_eq]
        exact consuming_anyForm ih
      exact framed_valueForms (framed_arrayOf hFramed hConsuming)
        (framed_objectOf hFramed)

theorem framed_value
    (depth : Nat) :
    (value depth).Framed := by
  rw [value_eq]
  exact framed_anyForm (framed_formsAt depth)

theorem consuming_value
    (depth : Nat) :
    (value depth).Consuming := by
  rw [value_eq]
  exact consuming_anyForm (framed_formsAt depth)

/- Space in front of a value does not matter. -/
theorem value_skipSpace
    (depth : Nat)
    (bytes : List UInt8) :
    value depth (skipSpace bytes) = value depth bytes := by
  rw [value_eq, anyForm_skipSpace]

/- Whether a value is neither an array nor an object. -/
def isLeaf :
    Json → Bool
  | array _ => false
  | object _ => false
  | _ => true

/-
  A value is a leaf, or an array or object with its items
  one level below.
-/
theorem value_cases
    {depth : Nat}
    {bytes rest : List UInt8}
    {v : Json}
    (hRead : value depth bytes = .ok (v, rest)) :
    (v.isLeaf = true ∧ ∃ b front, skipSpace bytes = b :: front ∧
        b ≠ byte '[' ∧ b ≠ byte '{') ∨
      ∃ d, depth = d + 1 ∧ ∃ front,
        (skipSpace bytes = byte '[' :: front ∧ ∃ items,
            Listed (byte ']') (value d) true front items rest ∧
            v = .array items) ∨
          skipSpace bytes = byte '{' :: front ∧ ∃ named,
            Listed (byte '}') (quoted (keyed (value d))) true
              front named rest ∧
            v = .object (membersOf named) := by
  rw [value_eq] at hRead
  rcases anyForm_eq_ok_iff.mp hRead with ⟨b, front, hSkip, hBehind⟩
  by_cases hArray : b = byte '['
  · subst hArray
    have hItems : (formsAt depth).array front = .ok (v, rest) := hBehind
    cases depth with
    | zero => cases hItems
    | succ d =>
        exact Or.inr ⟨d, rfl, front, Or.inl ⟨hSkip,
          (arrayOf_eq_ok_iff (consuming_value d)).mp hItems⟩⟩
  by_cases hObject : b = byte '{'
  · subst hObject
    have hNamed : (formsAt depth).object front = .ok (v, rest) :=
      hBehind
    cases depth with
    | zero => cases hNamed
    | succ d =>
        exact Or.inr ⟨d, rfl, front, Or.inr ⟨hSkip,
          (objectOf_eq_ok_iff (framed_value d)).mp hNamed⟩⟩
  refine Or.inl ⟨?_, b, front, hSkip, hArray, hObject⟩
  unfold Forms.behind at hBehind
  have hForms :
      ∃ array object, formsAt depth = valueForms array object := by
    cases depth with
    | zero => exact ⟨_, _, rfl⟩
    | succ d => exact ⟨_, _, rfl⟩
  rcases hForms with ⟨array, object, hForms⟩
  rw [hForms, if_neg hArray, if_neg hObject] at hBehind
  split_ifs at hBehind
  · rcases wordOf_eq_ok_iff.mp hBehind with ⟨-, rfl⟩
    rfl
  · rcases wordOf_eq_ok_iff.mp hBehind with ⟨-, rfl⟩
    rfl
  · rcases wordOf_eq_ok_iff.mp hBehind with ⟨-, rfl⟩
    rfl
  · rcases Reader.map_eq_ok_iff.mp hBehind with ⟨n, -, rfl⟩
    rfl
  · rcases Reader.map_eq_ok_iff.mp hBehind with ⟨s, -, rfl⟩
    rfl

/- A value that is a number is read as one. -/
theorem exists_readNumber_of_value
    {depth : Nat}
    {bytes rest : List UInt8}
    {n : Json.Number}
    (hRead : value depth bytes = .ok (.number n, rest)) :
    ∃ front, readNumber front = .ok (n, rest) := by
  rw [value_eq] at hRead
  rcases anyForm_eq_ok_iff.mp hRead with ⟨b, front, -, hBehind⟩
  unfold Forms.behind at hBehind
  have hForms :
      ∃ array object, formsAt depth = valueForms array object ∧
      (∀ front, array front ≠ .ok (.number n, rest)) ∧
      ∀ front, object front ≠ .ok (.number n, rest) := by
    cases depth with
    | zero => exact ⟨_, _, rfl, nofun, nofun⟩
    | succ d =>
        refine ⟨_, _, rfl, ?_, ?_⟩
        · intro front hArray
          rcases (arrayOf_eq_ok_iff (consuming_value d)).mp hArray with
            ⟨items, -, hSame⟩
          cases hSame
        · intro front hObject
          rcases (objectOf_eq_ok_iff (framed_value d)).mp hObject with
            ⟨named, -, hSame⟩
          cases hSame
  rcases hForms with ⟨array, object, hForms, hArray, hObject⟩
  rw [hForms] at hBehind
  split_ifs at hBehind
  · rcases wordOf_eq_ok_iff.mp hBehind with ⟨-, hSame⟩
    cases hSame
  · rcases wordOf_eq_ok_iff.mp hBehind with ⟨-, hSame⟩
    cases hSame
  · rcases wordOf_eq_ok_iff.mp hBehind with ⟨-, hSame⟩
    cases hSame
  · rcases Reader.map_eq_ok_iff.mp hBehind with ⟨_, hNumber, hSame⟩
    cases hSame
    exact ⟨b :: front, hNumber⟩
  · rcases Reader.map_eq_ok_iff.mp hBehind with ⟨_, -, hSame⟩
    cases hSame
  · exact absurd hBehind (hArray front)
  · exact absurd hBehind (hObject front)

/- A reader agrees with itself. -/
theorem matches_rfl
    {α : Type}
    (reader : Reader α)
    (bytes rest : List UInt8) :
    Reader.Matches Eq reader reader bytes rest :=
  fun a hRead => ⟨a, hRead, rfl⟩

/- Members agree if their values do. -/
theorem quoted_keyed_matches
    {α β : Type}
    {related : α → β → Prop}
    {item : Reader α}
    {other : Reader β}
    {bytes rest : List UInt8}
    (hMatches : ∀ front, front.length < bytes.length →
      Reader.Matches related item other front rest) :
    Reader.Matches (fun a b => a.1 = b.1 ∧ related a.2 b.2)
      (quoted (keyed item)) (quoted (keyed other)) bytes rest := by
  rintro ⟨key, a⟩ hRead
  rcases quoted_eq_ok_iff.mp hRead with ⟨tail, rfl, hKeyed⟩
  rcases keyed_eq_ok_iff.mp hKeyed with
    ⟨behind, front, hKey, hColon, hItem⟩
  have hBehind := framed_text.shrinking hKey
  have hFront := framed_colon.shrinking hColon
  rcases hMatches front (by rw [List.length_cons]; omega) hItem with
    ⟨b, hOther, hRelated⟩
  exact ⟨(key, b), quoted_eq_ok_iff.mpr ⟨tail, rfl,
    keyed_eq_ok_iff.mpr ⟨behind, front, hKey, hColon, hOther⟩⟩,
    rfl, hRelated⟩

/- A value is read alike where more nesting is allowed. -/
theorem value_succ
    {depth : Nat}
    {bytes rest : List UInt8}
    {v : Json}
    (hRead : value depth bytes = .ok (v, rest)) :
    value (depth + 1) bytes = .ok (v, rest) := by
  have hMatches : ∀ depth bytes rest,
      Reader.Matches Eq (value depth) (value (depth + 1)) bytes
        rest := by
    intro depth
    induction depth with
    | zero =>
        intro bytes rest
        exact anyForm_matches rfl (fun _ => rfl)
          (fun front => matches_rfl _ front rest)
          (fun front => matches_rfl _ front rest)
          (fun _ _ _ hFail => by cases hFail)
          (fun _ _ _ hFail => by cases hFail)
    | succ depth ih =>
        intro bytes rest
        refine anyForm_matches rfl (fun _ => rfl)
          (fun front => matches_rfl _ front rest)
          (fun front => matches_rfl _ front rest) ?_ ?_
        · intro front _ v hArray
          rcases (arrayOf_eq_ok_iff (consuming_value depth)).mp
            hArray with
            ⟨items, hListed, rfl⟩
          rcases hListed.exists_matching
              (consuming_value depth).shrinking
              (fun front after _ _ => ih front after) with
            ⟨items', hListed', hSame⟩
          rw [List.forall₂_eq_eq_eq] at hSame
          subst hSame
          exact ⟨_, (arrayOf_eq_ok_iff (consuming_value _)).mpr
            ⟨items, hListed', rfl⟩, rfl⟩
        · intro front _ v hObject
          rcases (objectOf_eq_ok_iff (framed_value depth)).mp
            hObject with
            ⟨named, hListed, rfl⟩
          rcases hListed.exists_matching
              (framed_quoted (framed_keyed (framed_value depth))).shrinking
              (fun front after _ _ =>
                quoted_keyed_matches fun tail _ => ih tail after) with
            ⟨named', hListed', hSame⟩
          have hPairs : named = named' := by
            rw [← List.forall₂_eq_eq_eq]
            exact hSame.imp fun a b hPair => Prod.ext hPair.1 hPair.2
          subst hPairs
          exact ⟨_, (objectOf_eq_ok_iff (framed_value _)).mpr
            ⟨named, hListed', rfl⟩, rfl⟩
  rcases hMatches depth bytes rest hRead with ⟨_, hMore, rfl⟩
  exact hMore

theorem value_add
    {depth : Nat}
    {bytes rest : List UInt8}
    {v : Json}
    (hRead : value depth bytes = .ok (v, rest))
    (more : Nat) :
    value (depth + more) bytes = .ok (v, rest) := by
  induction more with
  | zero => exact hRead
  | succ more ih => exact value_succ ih

end SiteSearch.Json

------------------------------------------------------------
-- Skipped Values
------------------------------------------------------------

namespace SiteSearch.Json

/- Where members can be read they can be skipped. -/
theorem quoted_skipMember_matches
    {α : Type}
    {item : Reader α}
    {other : Reader Unit}
    {bytes rest : List UInt8}
    (hMatches : ∀ front, front.length < bytes.length →
      Reader.Matches (fun _ _ => True) item other front rest) :
    Reader.Matches (fun _ _ => True) (quoted (keyed item))
      (quoted (skipMember other ())) bytes rest := by
  rintro ⟨key, a⟩ hRead
  rcases quoted_eq_ok_iff.mp hRead with ⟨tail, rfl, hKeyed⟩
  rcases keyed_eq_ok_iff.mp hKeyed with
    ⟨behind, front, hKey, hColon, hItem⟩
  have hBehind := framed_text.shrinking hKey
  have hFront := framed_colon.shrinking hColon
  rcases hMatches front (by rw [List.length_cons]; omega) hItem with
    ⟨_, hOther, -⟩
  have hSkip : skipMember other () tail = .ok ((), rest) :=
    bind_eq_ok_iff.mpr ⟨((), behind), skipText_of_text hKey,
      bind_eq_ok_iff.mpr ⟨((), front), hColon, hOther⟩⟩
  exact ⟨(), quoted_eq_ok_iff.mpr ⟨tail, rfl, hSkip⟩, trivial⟩

/-
  Where members can be skipped they can be skipped
  otherwise, too.
-/
theorem quoted_skipMember_skip
    {item other : Reader Unit}
    {bytes rest : List UInt8}
    (hMatches : ∀ front, front.length < bytes.length →
      Reader.Matches Eq item other front rest) :
    Reader.Matches Eq (quoted (skipMember item ()))
      (quoted (skipMember other ())) bytes rest := by
  intro done hRead
  rcases quoted_eq_ok_iff.mp hRead with ⟨tail, rfl, hMember⟩
  rcases bind_eq_ok_iff.mp hMember with ⟨⟨_, behind⟩, hKey, hMember⟩
  rcases bind_eq_ok_iff.mp hMember with ⟨⟨_, front⟩, hColon, hItem⟩
  have hBehind := framed_skipText.shrinking hKey
  have hFront := framed_colon.shrinking hColon
  rcases hMatches front (by rw [List.length_cons]; omega) hItem with
    ⟨_, hOther, -⟩
  exact ⟨(), quoted_eq_ok_iff.mpr ⟨tail, rfl,
    bind_eq_ok_iff.mpr ⟨(_, behind), hKey,
      bind_eq_ok_iff.mpr ⟨(_, front), hColon, hOther⟩⟩⟩, rfl⟩

/- What is skipped of each form, up to some depth. -/
def skipForms
    (clock : List UInt8) :
    Forms Unit where
  null := ()
  bool := fun _ => ()
  number := (numeral .invalidNumber).map fun _ => ()
  string := skipText
  array := sequence dropped (fun _ => skipFrom clock) ()
  object := members dropped (skipMember (skipFrom clock)) ()

theorem skipFrom_cons
    (tick : UInt8)
    (clock : List UInt8) :
    skipFrom (tick :: clock) = anyForm (skipForms clock) := rfl

/- Skipping one item after the other is skipping their list. -/
theorem folded_skip_iff
    {close : UInt8}
    {item : Reader Unit}
    {isFirst : Bool}
    {bytes rest : List UInt8} :
    Folded close (fun _ => item) isFirst () bytes () rest ↔
      ∃ items, Listed close item isFirst bytes items rest := by
  have hItem : (fun _ : Unit => item) =
      fun state =>
        item.map ((fun _ _ => state : Unit → Unit → Unit) state) := by
    funext state bytes
    unfold Reader.map
    rcases item bytes with e | ⟨done, left⟩ <;> rfl
  rw [hItem, folded_map_iff]
  simp

theorem framed_skipMember
    {item : Reader Unit}
    (hItem : item.Framed)
    (state : Unit) :
    (skipMember item state).Framed :=
  framed_skipText.andThen fun _ => framed_colon.andThen fun _ => hItem

/- Elements are skipped if they are listed. -/
theorem skipElements_iff
    {item : Reader Unit}
    (hItem : item.Consuming)
    {bytes rest : List UInt8} :
    sequence dropped (fun _ => item) () bytes = .ok ((), rest) ↔
      ∃ items, Listed (byte ']') item true bytes items rest :=
  (sequence_eq_ok_iff fun _ => hItem).trans folded_skip_iff

/- Members are skipped if they are listed. -/
theorem skipMembers_iff
    {item : Reader Unit}
    (hItem : item.Framed)
    {bytes rest : List UInt8} :
    members dropped (skipMember item) () bytes = .ok ((), rest) ↔
      ∃ items, Listed (byte '}') (quoted (skipMember item ())) true
        bytes items rest := by
  have hStep : ∀ state, (quoted (skipMember item state)).Consuming :=
    fun state =>
      consuming_quoted (framed_skipMember hItem state).shrinking
  rw [members_eq_ok_iff hStep]
  change Folded _ (fun _ => quoted (skipMember item ())) _ _ _ _ _ ↔ _
  exact folded_skip_iff

/- What is skipped is framed, however much the clock allows. -/
theorem framed_skipForms
    {clock : List UInt8}
    (hFramed : (skipFrom clock).Framed)
    (hConsuming : (skipFrom clock).Consuming) :
    (skipForms clock).Framed where
  number := (framed_numeral _).map _
  consuming := (consuming_numeral _).map _
  string := framed_skipText
  array := by
    intro bytes done rest hRead
    rcases (skipElements_iff hConsuming).mp hRead with ⟨items, hListed⟩
    rcases hListed.exists_taken hFramed with ⟨taken, -, rfl, hAgain⟩
    exact ⟨taken, rfl, fun other _ =>
      (skipElements_iff hConsuming).mpr ⟨items, hAgain other⟩⟩
  object := by
    intro bytes done rest hRead
    rcases (skipMembers_iff hFramed).mp hRead with ⟨items, hListed⟩
    rcases hListed.exists_taken
      (framed_quoted (framed_skipMember hFramed ())) with
      ⟨taken, -, rfl, hAgain⟩
    exact ⟨taken, rfl, fun other _ =>
      (skipMembers_iff hFramed).mpr ⟨items, hAgain other⟩⟩

theorem framed_skipFrom
    (clock : List UInt8) :
    (skipFrom clock).Framed ∧ (skipFrom clock).Consuming := by
  induction clock with
  | nil =>
      constructor
      · exact Reader.framed_fail _
      · intro bytes done rest hRead
        cases hRead
  | cons tick clock ih =>
      rw [skipFrom_cons]
      have hForms := framed_skipForms ih.1 ih.2
      exact ⟨framed_anyForm hForms, consuming_anyForm hForms⟩

/- A value is skipped if its elements and members are. -/
theorem skipFrom_matches_of
    {array object : Reader Json}
    {clock bytes rest : List UInt8}
    (hClock : bytes.length ≤ clock.length)
    (hArray : ∀ clock front, front.length ≤ clock.length →
      Reader.Matches (fun _ _ => True) array
        (sequence dropped (fun _ => skipFrom clock) ()) front rest)
    (hObject : ∀ clock front, front.length ≤ clock.length →
      Reader.Matches (fun _ _ => True) object
        (members dropped (skipMember (skipFrom clock)) ()) front rest) :
    Reader.Matches (fun _ _ => True) (anyForm (valueForms array object))
      (skipFrom clock) bytes rest := by
  cases clock with
  | nil =>
      rw [List.eq_nil_of_length_eq_zero (Nat.le_zero.mp hClock)]
      rintro v ⟨⟩
  | cons tick clock =>
      rw [List.length_cons] at hClock
      rw [skipFrom_cons]
      refine anyForm_matches trivial (fun _ => trivial) ?_ ?_
        (fun front hFront => hArray clock front (by omega))
        (fun front hFront => hObject clock front (by omega))
      · intro front number hRead
        rcases Reader.map_eq_ok_iff.mp hRead with ⟨_, hNumber, rfl⟩
        rw [readNumber_eq] at hNumber
        rcases Reader.andThen_eq_ok_iff.mp hNumber with
          ⟨n, between, hNumeral, hValued⟩
        rcases bind_eq_ok_iff.mp hValued with ⟨_, _, hPure⟩
        cases hPure
        exact ⟨(), Reader.map_eq_ok_iff.mpr
          ⟨n, numeral_atEnd hNumeral .invalidNumber, rfl⟩, trivial⟩
      · intro front read hRead
        rcases Reader.map_eq_ok_iff.mp hRead with ⟨_, hText, rfl⟩
        exact ⟨(), skipText_of_text hText, trivial⟩

/-
  Where a value can be read it can be skipped, if the clock
  allows it.
-/
theorem skipFrom_matches
    (depth : Nat)
    {clock bytes : List UInt8}
    (hClock : bytes.length ≤ clock.length)
    (rest : List UInt8) :
    Reader.Matches (fun _ _ => True) (value depth) (skipFrom clock)
      bytes rest := by
  induction depth generalizing clock bytes rest with
  | zero =>
      exact skipFrom_matches_of hClock
        (fun _ _ _ _ hFail => by cases hFail)
        (fun _ _ _ _ hFail => by cases hFail)
  | succ depth ih =>
      refine skipFrom_matches_of hClock ?_ ?_
      · intro clock front hFront v hArray
        rcases (arrayOf_eq_ok_iff (consuming_value depth)).mp
          hArray with
          ⟨items, hListed, rfl⟩
        rcases hListed.exists_matching (consuming_value depth).shrinking
            (fun tail after hTail _ =>
              ih (hTail.trans hFront) after) with
          ⟨skipped, hSkipped, -⟩
        exact ⟨(), (skipElements_iff (framed_skipFrom clock).2).mpr
          ⟨skipped, hSkipped⟩, trivial⟩
      · intro clock front hFront v hObject
        rcases (objectOf_eq_ok_iff (framed_value depth)).mp hObject with
          ⟨named, hListed, rfl⟩
        rcases hListed.exists_matching
            (framed_quoted (framed_keyed (framed_value depth))).shrinking
            (fun tail after hTail _ => quoted_skipMember_matches
              fun inner hInner =>
                ih (hInner.le.trans (hTail.trans hFront)) after) with
          ⟨skipped, hSkipped, -⟩
        exact ⟨(), (skipMembers_iff (framed_skipFrom clock).1).mpr
          ⟨skipped, hSkipped⟩, trivial⟩

/-
  Where a value can be read it can be skipped, and the same
  is left.
-/
theorem skip_of_value
    {depth : Nat}
    {bytes rest : List UInt8}
    {v : Json}
    (hRead : value depth bytes = .ok (v, rest)) :
    skip bytes = .ok ((), rest) := by
  rcases skipFrom_matches depth le_rfl rest hRead with ⟨_, hSkip, -⟩
  exact hSkip

/-
  Nesting takes a byte on each level, so that a clock as long
  as what is taken allows as much as any other.
-/
theorem skipFrom_of_length_le
    {clock clock' bytes rest : List UInt8}
    (hRead : skipFrom clock bytes = .ok ((), rest))
    (hClock : bytes.length ≤ rest.length + clock'.length) :
    skipFrom clock' bytes = .ok ((), rest) := by
  have hMatches : Reader.Matches Eq (skipFrom clock) (skipFrom clock')
      bytes rest := by
    clear hRead
    induction clock generalizing clock' bytes rest with
    | nil => exact fun _ hFail => by cases hFail
    | cons tick clock ih =>
        rcases framed_skipFrom clock with ⟨hFramed, hConsuming⟩
        intro done hRead
        have hTaken := (framed_skipFrom (tick :: clock)).2 hRead
        cases clock' with
        | nil =>
            rw [List.length_nil] at hClock
            omega
        | cons tick' clock' =>
            rw [List.length_cons] at hClock
            revert hRead
            rw [skipFrom_cons, skipFrom_cons]
            refine @anyForm_matches _ _ _ (skipForms clock)
              (skipForms clock') bytes rest rfl (fun _ => rfl)
              (fun front => matches_rfl _ front rest)
              (fun front => matches_rfl _ front rest) ?_ ?_ done
            · intro front hFront _ hArray
              rcases (skipElements_iff hConsuming).mp hArray with
                ⟨items, hListed⟩
              rcases hListed.exists_matching hFramed.shrinking
                  (fun tail after hTail hAfter => @ih clock' tail after
                    (by omega)) with
                ⟨skipped, hSkipped, -⟩
              exact ⟨(),
                (skipElements_iff (framed_skipFrom clock').2).mpr
                ⟨skipped, hSkipped⟩, rfl⟩
            · intro front hFront _ hObject
              rcases (skipMembers_iff hFramed).mp hObject with
                ⟨items, hListed⟩
              rcases hListed.exists_matching
                  (framed_quoted (framed_skipMember hFramed ())).shrinking
                  (fun tail after hTail hAfter =>
                    quoted_skipMember_skip fun inner hInner =>
                      @ih clock' inner after (by omega)) with
                ⟨skipped, hSkipped, -⟩
              exact ⟨(),
                (skipMembers_iff (framed_skipFrom clock').1).mpr
                ⟨skipped, hSkipped⟩, rfl⟩
  rcases hMatches hRead with ⟨_, hOther, -⟩
  exact hOther

/- Skipping takes the same bytes whatever stands behind them. -/
theorem framed_skip : skip.Framed := by
  intro bytes done rest hRead
  rcases (framed_skipFrom bytes).1 hRead with ⟨taken, rfl, hFrame⟩
  refine ⟨taken, rfl, fun other hOther => ?_⟩
  exact skipFrom_of_length_le (hFrame other hOther)
    (by rw [List.length_append]; omega)

end SiteSearch.Json

import SiteSearch.Json.Read
import Mathlib.Data.List.TakeWhile
import Mathlib.Data.List.DropRight

/-
  What a reader takes from its bytes.

  A reader that succeeds has taken some bytes off the front.
  What it makes of them does not depend on what stands behind
  them, as long as a number is not continued there.  So a
  reader can be asked again with other bytes behind those that
  it took: with fewer, with more, or with none.

  Main declarations:
    * `SiteSearch.Json.MayReplace`
    * `SiteSearch.Json.Reader.Framed`
    * `SiteSearch.Json.Reader.Framed.andThen`
    * `SiteSearch.Json.exists_space_of_skipSpace`
    * `SiteSearch.Json.framed_anyForm`
-/

------------------------------------------------------------
-- Bytes Behind a Value
------------------------------------------------------------

namespace SiteSearch.Json

/- A byte that can stand inside a number. -/
def isNumeric
    (b : UInt8) :
    Bool :=
  isDigit b || b == byte '.' || b == byte 'e' || b == byte 'E'
    || b == byte '+' || b == byte '-'

/-
  Bytes that may stand where others stood behind a value: they
  begin alike, or do not continue a number.
-/
def MayReplace
    (rest other : List UInt8) :
    Prop :=
  other.head? = rest.head? ∨ ∀ b ∈ other.head?, isNumeric b = false

/- At the end of the bytes no number is continued. -/
theorem mayReplace_nil
    (rest : List UInt8) :
    MayReplace rest [] :=
  Or.inr (by simp)

/- Behind the same bytes, both may stand where the other does. -/
theorem MayReplace.append
    {rest other : List UInt8}
    (hOther : MayReplace rest other)
    (taken : List UInt8) :
    MayReplace (taken ++ rest) (taken ++ other) := by
  cases taken with
  | nil => exact hOther
  | cons b taken => exact Or.inl rfl

/- Behind at least one byte, anything may stand. -/
theorem mayReplace_append_of_ne_nil
    {taken : List UInt8}
    (hTaken : taken ≠ [])
    (rest other : List UInt8) :
    MayReplace (taken ++ rest) (taken ++ other) := by
  cases taken with
  | nil => exact absurd rfl hTaken
  | cons b taken => exact Or.inl rfl

/- More bytes may follow if they do not continue a number. -/
theorem mayReplace_append
    {more : List UInt8}
    (hMore : ∀ b ∈ more.head?, isNumeric b = false)
    (rest : List UInt8) :
    MayReplace rest (rest ++ more) := by
  cases rest with
  | nil => exact Or.inr hMore
  | cons b rest => exact Or.inl rfl

/-
  A test that only numeric bytes pass is failed by the first
  byte of both.
-/
theorem MayReplace.fails
    {rest other : List UInt8}
    (hOther : MayReplace rest other)
    {test : UInt8 → Bool}
    (hNumeric : ∀ b, test b = true → isNumeric b = true)
    (hRest : ∀ b ∈ rest.head?, test b = false) :
    ∀ b ∈ other.head?, test b = false := by
  rcases hOther with hSame | hOther
  · rw [hSame]
    exact hRest
  · intro b hb
    cases hTest : test b with
    | false => rfl
    | true => simpa [hNumeric b hTest] using hOther b hb

end SiteSearch.Json

------------------------------------------------------------
-- Framed Readers
------------------------------------------------------------

namespace SiteSearch.Json

/- The steps of a computation that succeeds all succeed. -/
theorem bind_eq_ok_iff
    {ε α β : Type}
    {first : Except ε α}
    {next : α → Except ε β}
    {b : β} :
    (first >>= next) = .ok b ↔ ∃ a, first = .ok a ∧ next a = .ok b := by
  cases first with
  | error e => simp [bind, Except.bind]
  | ok a => simp [bind, Except.bind]

namespace Reader

variable {α β : Type}

/-
  A reader that makes the same of the bytes it takes whatever
  stands behind them.
-/
def Framed
    (reader : Reader α) :
    Prop :=
  ∀ ⦃bytes : List UInt8⦄ ⦃a : α⦄ ⦃rest : List UInt8⦄,
    reader bytes = .ok (a, rest) →
      ∃ taken, bytes = taken ++ rest ∧
        ∀ other, MayReplace rest other →
          reader (taken ++ other) = .ok (a, other)

/-
  A reader that makes the same of some bytes with more
  behind them.
-/
def Indifferent
    (more : List UInt8)
    (reader : Reader α) :
    Prop :=
  ∀ ⦃bytes : List UInt8⦄ ⦃a : α⦄ ⦃rest : List UInt8⦄,
    reader bytes = .ok (a, rest) →
      reader (bytes ++ more) = .ok (a, rest ++ more)

/- A reader that takes at least one byte. -/
def Consuming
    (reader : Reader α) :
    Prop :=
  ∀ ⦃bytes : List UInt8⦄ ⦃a : α⦄ ⦃rest : List UInt8⦄,
    reader bytes = .ok (a, rest) → rest.length < bytes.length

/- A reader that leaves no more bytes than it was given. -/
def Shrinking
    (reader : Reader α) :
    Prop :=
  ∀ ⦃bytes : List UInt8⦄ ⦃a : α⦄ ⦃rest : List UInt8⦄,
    reader bytes = .ok (a, rest) → rest.length ≤ bytes.length

/- Read one thing behind another. -/
def andThen
    (first : Reader α)
    (next : α → Reader β) :
    Reader β := fun bytes => do
  let (a, rest) ← first bytes
  next a rest

/-
  A framed reader does not mind more bytes, unless they
  continue a number.
-/
theorem Framed.indifferent
    {reader : Reader α}
    (hFramed : reader.Framed)
    {more : List UInt8}
    (hMore : ∀ b ∈ more.head?, isNumeric b = false) :
    reader.Indifferent more := by
  intro bytes a rest hRead
  rcases hFramed hRead with ⟨taken, rfl, hFrame⟩
  rw [List.append_assoc]
  exact hFrame _ (mayReplace_append hMore rest)

/- A framed reader leaves an end of what it was given. -/
theorem Framed.shrinking
    {reader : Reader α}
    (hFramed : reader.Framed) :
    reader.Shrinking := by
  intro bytes a rest hRead
  rcases hFramed hRead with ⟨taken, rfl, -⟩
  simp

theorem Consuming.shrinking
    {reader : Reader α}
    (hConsuming : reader.Consuming) :
    reader.Shrinking :=
  fun _ _ _ hRead => (hConsuming hRead).le

/- Both parts of a reading succeed. -/
theorem andThen_eq_ok_iff
    {first : Reader α}
    {next : α → Reader β}
    {bytes rest : List UInt8}
    {b : β} :
    first.andThen next bytes = .ok (b, rest) ↔
      ∃ a between, first bytes = .ok (a, between) ∧
        next a between = .ok (b, rest) := by
  rw [andThen, bind_eq_ok_iff, Prod.exists]

/- Behind what is read, what is next is read. -/
theorem andThen_of_eq_ok
    {first : Reader α}
    {next : α → Reader β}
    {bytes between : List UInt8}
    {a : α}
    (hFirst : first bytes = .ok (a, between)) :
    first.andThen next bytes = next a between := by
  rw [andThen, hFirst]
  rfl

/- Reading nothing is framed. -/
theorem framed_pure
    (a : α) :
    Framed fun bytes => .ok (a, bytes) := by
  rintro bytes _ _ ⟨⟩
  exact ⟨[], rfl, fun other _ => rfl⟩

/- A reader that never succeeds is framed. -/
theorem framed_fail
    (e : Error) :
    (Reader.fail e : Reader α).Framed := by
  rintro bytes a rest ⟨⟩

/- Framed readers one behind the other are framed. -/
theorem Framed.andThen
    {first : Reader α}
    {next : α → Reader β}
    (hFirst : first.Framed)
    (hNext : ∀ a, (next a).Framed) :
    (first.andThen next).Framed := by
  intro bytes b rest hRead
  rcases andThen_eq_ok_iff.mp hRead with
    ⟨a, between, hHead, hTail⟩
  rcases hFirst hHead with ⟨head, rfl, hHeadFrame⟩
  rcases hNext a hTail with ⟨tail, rfl, hTailFrame⟩
  refine ⟨head ++ tail, (List.append_assoc ..).symm, ?_⟩
  intro other hOther
  refine andThen_eq_ok_iff.mpr
    ⟨a, tail ++ other, ?_, hTailFrame other hOther⟩
  rw [List.append_assoc]
  exact hHeadFrame _ (hOther.append tail)

/-
  What comes behind a reader that takes something takes
  something, too.
-/
theorem Consuming.andThen
    {first : Reader α}
    {next : α → Reader β}
    (hFirst : first.Consuming)
    (hNext : ∀ a, (next a).Shrinking) :
    (first.andThen next).Consuming := by
  intro bytes b rest hRead
  rcases andThen_eq_ok_iff.mp hRead with
    ⟨a, between, hHead, hTail⟩
  exact lt_of_le_of_lt (hNext a hTail) (hFirst hHead)

/- A reading and its image succeed together. -/
theorem map_eq_ok_iff
    {f : α → β}
    {reader : Reader α}
    {bytes rest : List UInt8}
    {b : β} :
    reader.map f bytes = .ok (b, rest) ↔
      ∃ a, reader bytes = .ok (a, rest) ∧ f a = b := by
  unfold Reader.map
  cases hRead : reader bytes with
  | error e => simp
  | ok result =>
      rcases result with ⟨a, left⟩
      simp only [Except.ok.injEq, Prod.mk.injEq]
      constructor
      · rintro ⟨rfl, rfl⟩
        exact ⟨a, ⟨rfl, rfl⟩, rfl⟩
      · rintro ⟨_, ⟨rfl, rfl⟩, rfl⟩
        exact ⟨rfl, rfl⟩

/- Applying a function changes nothing about what is taken. -/
theorem Framed.map
    {reader : Reader α}
    (hFramed : reader.Framed)
    (f : α → β) :
    (reader.map f).Framed := by
  intro bytes b rest hRead
  rcases map_eq_ok_iff.mp hRead with ⟨a, hInner, rfl⟩
  rcases hFramed hInner with ⟨taken, rfl, hFrame⟩
  exact ⟨taken, rfl, fun other hOther =>
    map_eq_ok_iff.mpr ⟨a, hFrame other hOther, rfl⟩⟩

theorem Consuming.map
    {reader : Reader α}
    (hConsuming : reader.Consuming)
    (f : α → β) :
    (reader.map f).Consuming := by
  intro bytes b rest hRead
  rcases map_eq_ok_iff.mp hRead with ⟨a, hInner, rfl⟩
  exact hConsuming hInner

/-
  Converting what was read changes nothing about what is
  taken.
-/
theorem Framed.convert
    {reader : Reader α}
    (hFramed : reader.Framed)
    (convert : α → Except Error β) :
    Framed fun bytes => do
      let (a, rest) ← reader bytes
      return (← convert a, rest) := by
  intro bytes b rest hRead
  rcases bind_eq_ok_iff.mp hRead with ⟨⟨a, left⟩, hInner, hOk⟩
  rcases bind_eq_ok_iff.mp hOk with ⟨_, hConvert, hPure⟩
  cases hPure
  rcases hFramed hInner with ⟨taken, rfl, hFrame⟩
  exact ⟨taken, rfl, fun other hOther =>
    bind_eq_ok_iff.mpr ⟨(a, other), hFrame other hOther,
      bind_eq_ok_iff.mpr ⟨b, hConvert, rfl⟩⟩⟩

/- A reader that takes something takes its first byte first. -/
theorem Framed.of_cons
    {reader : Reader α}
    (hFramed : reader.Framed)
    (hConsuming : reader.Consuming)
    (b : UInt8) :
    Framed fun bytes => reader (b :: bytes) := by
  intro bytes a rest hRead
  have hShorter := hConsuming hRead
  rcases hFramed hRead with ⟨taken, hBytes, hFrame⟩
  cases taken with
  | nil =>
      rw [List.nil_append] at hBytes
      exact absurd hShorter (by rw [hBytes]; exact lt_irrefl _)
  | cons c taken =>
      rw [List.cons_append, List.cons.injEq] at hBytes
      rcases hBytes with ⟨rfl, rfl⟩
      exact ⟨taken, rfl, hFrame⟩

end Reader

end SiteSearch.Json

------------------------------------------------------------
-- Space and Words
------------------------------------------------------------

namespace SiteSearch.Json

/-
  Space in front of some bytes is skipped with the space
  that they begin with.
-/
theorem skipSpace_behind_space
    {space : List UInt8}
    (hSpace : ∀ b ∈ space, isSpace b = true)
    (bytes : List UInt8) :
    skipSpace (space ++ bytes) = skipSpace bytes :=
  List.dropWhile_append_of_pos hSpace

/- What follows space is no space. -/
theorem isSpace_of_skipSpace
    {bytes front : List UInt8}
    {b : UInt8}
    (hSkip : skipSpace bytes = b :: front) :
    isSpace b = false := by
  have hNot := List.head?_dropWhile_not isSpace bytes
  rw [skipSpace] at hSkip
  rw [hSkip] at hNot
  simpa using hNot

/-
  Space in front of a byte is skipped whatever stands behind
  that byte.
-/
theorem exists_space_of_skipSpace
    {bytes front : List UInt8}
    {b : UInt8}
    (hSkip : skipSpace bytes = b :: front) :
    ∃ space, bytes = space ++ b :: front ∧
      ∀ other, skipSpace (space ++ b :: other) = b :: other := by
  have hHead : isSpace b = false := isSpace_of_skipSpace hSkip
  refine ⟨bytes.takeWhile isSpace, ?_, ?_⟩
  · rw [← hSkip]
    exact List.takeWhile_append_dropWhile.symm
  · intro other
    rw [skipSpace_behind_space fun c hc => List.mem_takeWhile_imp hc]
    exact List.dropWhile_cons_of_neg (by simp [hHead])

/- Space in front is skipped whatever stands behind all. -/
theorem skipSpace_append
    {bytes front : List UInt8}
    {b : UInt8}
    (hSkip : skipSpace bytes = b :: front)
    (more : List UInt8) :
    skipSpace (bytes ++ more) = b :: (front ++ more) := by
  rcases exists_space_of_skipSpace hSkip with ⟨space, rfl, hSpace⟩
  rw [List.append_assoc, List.cons_append]
  exact hSpace _

/- No space is skipped in front of anything else. -/
theorem skipSpace_cons
    {b : UInt8}
    (hSpace : isSpace b = false)
    (tail : List UInt8) :
    skipSpace (b :: tail) = b :: tail := by
  rw [skipSpace, List.dropWhile_cons_of_neg (by simp [hSpace])]

/- What follows space is no longer than before. -/
theorem length_skipSpace_le
    (bytes : List UInt8) :
    (skipSpace bytes).length ≤ bytes.length :=
  (List.dropWhile_suffix isSpace).length_le

/- The rest of a word is its letters. -/
theorem word_eq_ok_iff
    {letters bytes rest : List UInt8}
    {done : Unit} :
    word letters bytes = .ok (done, rest) ↔
      bytes = letters ++ rest := by
  induction letters generalizing bytes with
  | nil => simp [word]
  | cons letter letters ih =>
      cases bytes with
      | nil => simp [word]
      | cons b bytes =>
          by_cases hLetter : b = letter
          · simp [word, hLetter, ih]
          · simp [word, hLetter]

/- A word is read as its meaning where its letters stand. -/
theorem wordOf_eq_ok_iff
    {α : Type}
    {letters bytes rest : List UInt8}
    {meaning a : α} :
    wordOf letters meaning bytes = .ok (a, rest) ↔
      bytes = letters ++ rest ∧ meaning = a := by
  unfold wordOf
  cases hWord : word letters bytes with
  | error e =>
      have hOther : bytes ≠ letters ++ rest := by
        intro hBytes
        have hRead : word letters bytes = .ok ((), rest) :=
          word_eq_ok_iff.mpr hBytes
        rw [hRead] at hWord
        cases hWord
      simp [hOther]
  | ok result =>
      rcases result with ⟨done, left⟩
      rw [word_eq_ok_iff.mp hWord]
      simp [and_comm, eq_comm]

theorem framed_wordOf
    {α : Type}
    (letters : List UInt8)
    (meaning : α) :
    (wordOf letters meaning).Framed := by
  intro bytes a rest hRead
  rcases wordOf_eq_ok_iff.mp hRead with ⟨rfl, rfl⟩
  exact ⟨letters, rfl, fun other _ =>
    wordOf_eq_ok_iff.mpr ⟨rfl, rfl⟩⟩

end SiteSearch.Json

------------------------------------------------------------
-- Whole Texts
------------------------------------------------------------

namespace SiteSearch.Json

/- A whole text has nothing but space behind its value. -/
theorem readAll_eq_ok_iff
    {α : Type}
    {reader : Reader α}
    {bytes : List UInt8}
    {a : α} :
    readAll reader bytes = .ok a ↔
      ∃ rest, reader bytes = .ok (a, rest) ∧ skipSpace rest = [] := by
  unfold readAll
  rcases reader bytes with e | ⟨a', rest⟩
  · simp
  · simp only [Except.ok.injEq, Prod.mk.injEq]
    constructor
    · intro hRead
      cases hRest : skipSpace rest with
      | nil =>
          rw [hRest] at hRead
          cases hRead
          exact ⟨rest, ⟨rfl, rfl⟩, hRest⟩
      | cons b left =>
          rw [hRest] at hRead
          cases hRead
    · rintro ⟨_, ⟨rfl, rfl⟩, hRest⟩
      rw [hRest]

/- Where nothing follows space, all is space. -/
theorem isSpace_of_skipSpace_eq_nil
    {bytes : List UInt8}
    (hSkip : skipSpace bytes = [])
    {b : UInt8}
    (hMember : b ∈ bytes) :
    isSpace b = true :=
  List.dropWhile_eq_nil_iff.mp hSkip b hMember

end SiteSearch.Json

------------------------------------------------------------
-- Forms
------------------------------------------------------------

namespace SiteSearch.Json

variable {α : Type}

/- What is read behind the first byte of a value. -/
def Forms.behind
    (forms : Forms α)
    (b : UInt8) :
    Reader α := fun rest =>
  if b = byte 'n' then
    wordOf [byte 'u', byte 'l', byte 'l'] forms.null rest
  else if b = byte 't' then
    wordOf [byte 'r', byte 'u', byte 'e'] (forms.bool true) rest
  else if b = byte 'f' then
    wordOf [byte 'a', byte 'l', byte 's', byte 'e']
      (forms.bool false) rest
  else if b = byte '-' ∨ isDigit b then forms.number (b :: rest)
  else if b = byte '"' then forms.string rest
  else if b = byte '[' then forms.array rest
  else if b = byte '{' then forms.object rest
  else .error .expectedValue

/- A value is read behind space, by its first byte. -/
theorem anyForm_eq_ok_iff
    {forms : Forms α}
    {bytes rest : List UInt8}
    {a : α} :
    anyForm forms bytes = .ok (a, rest) ↔
      ∃ b front, skipSpace bytes = b :: front ∧
        forms.behind b front = .ok (a, rest) := by
  unfold anyForm
  cases hSkip : skipSpace bytes with
  | nil => simp
  | cons b front =>
      constructor
      · intro hRead
        exact ⟨b, front, rfl, hRead⟩
      · rintro ⟨_, _, ⟨⟩, hRead⟩
        exact hRead

/-
  Where no space is in front, a value begins with its first
  byte.
-/
theorem anyForm_cons
    (forms : Forms α)
    {b : UInt8}
    (hSpace : isSpace b = false)
    (front : List UInt8) :
    anyForm forms (b :: front) = forms.behind b front := by
  rw [anyForm, skipSpace_cons hSpace]
  rfl

/- Space in front of a value does not matter. -/
theorem anyForm_skipSpace
    (forms : Forms α)
    (bytes : List UInt8) :
    anyForm forms (skipSpace bytes) = anyForm forms bytes := by
  rw [anyForm, anyForm]
  simp only [skipSpace, List.dropWhile_idempotent]

/-
  A minus and a digit are no space, and a number begins with
  them.
-/
theorem Forms.behind_of_number
    (forms : Forms α)
    {b : UInt8}
    (hFirst : b = byte '-' ∨ isDigit b = true)
    (front : List UInt8) :
    isSpace b = false ∧
      forms.behind b front = forms.number (b :: front) := by
  have hAll : [' ', '\n', '\t', '\r', 'n', 't', 'f'].all
      (fun c => byte c != byte '-' && !isDigit (byte c)) = true := by
    decide
  have hOther : ∀ c ∈ [' ', '\n', '\t', '\r', 'n', 't', 'f'],
      b ≠ byte c := by
    rintro c hMember rfl
    have hNeither := List.all_eq_true.mp hAll c hMember
    rw [Bool.and_eq_true, bne_iff_ne, Bool.not_eq_true'] at hNeither
    rcases hFirst with hMinus | hDigit
    · exact hNeither.1 hMinus
    · cases hDigit.symm.trans hNeither.2
  constructor
  · simp only [isSpace, Bool.or_eq_false_iff, beq_eq_false_iff_ne]
    exact ⟨⟨⟨hOther ' ' (by decide), hOther '\n' (by decide)⟩,
      hOther '\t' (by decide)⟩, hOther '\r' (by decide)⟩
  · rw [Forms.behind, if_neg (hOther 'n' (by decide)),
      if_neg (hOther 't' (by decide)), if_neg (hOther 'f' (by decide)),
      if_pos hFirst]

/- Readers of the parts that are framed. -/
structure Forms.Framed
    (forms : Forms α) :
    Prop where
  number : forms.number.Framed
  consuming : forms.number.Consuming
  string : forms.string.Framed
  array : forms.array.Framed
  object : forms.object.Framed

theorem Forms.Framed.behind
    {forms : Forms α}
    (hForms : forms.Framed)
    (b : UInt8) :
    (forms.behind b).Framed := by
  unfold Forms.behind
  split_ifs
  · exact framed_wordOf _ _
  · exact framed_wordOf _ _
  · exact framed_wordOf _ _
  · exact hForms.number.of_cons hForms.consuming b
  · exact hForms.string
  · exact hForms.array
  · exact hForms.object
  · exact Reader.framed_fail .expectedValue

/- A reader of values is framed if it is so for each form. -/
theorem framed_anyForm
    {forms : Forms α}
    (hForms : forms.Framed) :
    (anyForm forms).Framed := by
  intro bytes a rest hRead
  rcases anyForm_eq_ok_iff.mp hRead with ⟨b, front, hSkip, hBehind⟩
  rcases exists_space_of_skipSpace hSkip with ⟨space, rfl, hSpace⟩
  rcases hForms.behind b hBehind with ⟨taken, rfl, hFrame⟩
  refine ⟨space ++ b :: taken, by simp, ?_⟩
  intro other hOther
  refine anyForm_eq_ok_iff.mpr
    ⟨b, taken ++ other, ?_, hFrame other hOther⟩
  rw [List.append_assoc]
  exact hSpace (taken ++ other)

/- A value has at least one byte. -/
theorem consuming_anyForm
    {forms : Forms α}
    (hForms : forms.Framed) :
    (anyForm forms).Consuming := by
  intro bytes a rest hRead
  rcases anyForm_eq_ok_iff.mp hRead with ⟨b, front, hSkip, hBehind⟩
  have hFront := length_skipSpace_le bytes
  rw [hSkip, List.length_cons] at hFront
  have hRest := (hForms.behind b).shrinking hBehind
  omega

end SiteSearch.Json

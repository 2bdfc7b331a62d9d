import SiteSearch.Proofs.Unicode.CodeSets
import SiteSearch.Unicode.Decomposition
import SiteSearch.Unicode.Lowercase

/-
  Characters that are folded already.

  A canonical decomposition is full: its parts have none of
  their own.  Small letters are not lowered again, and what a
  character without a decomposition is lowered to is neither
  a mark nor decomposed.  All of this is read off the tables,
  of which it compares the code points.  So one pass over a
  character leaves nothing for a second one to do.

  Main declarations:
    * `SiteSearch.Unicode.IsWhole`
    * `SiteSearch.Unicode.isWhole_of_mem_decompose`
    * `SiteSearch.Unicode.IsFolded`
    * `SiteSearch.Unicode.isFolded_of_mem_lowercase`
-/

------------------------------------------------------------
-- Decomposition
------------------------------------------------------------

namespace SiteSearch.Unicode

/- The runs of decompositions ascend. -/
theorem pairwise_decompositionRuns :
    decompositionRuns.Pairwise fun a b => a.1 ≤ b.1 := by
  rw [← List.isChain_iff_pairwise]
  decide +kernel

/- The code points with a decomposition. -/
def decomposedBits : Nat :=
  runBits 0xAC00 11172 ||| decompositionRuns.bits

/- A character without a decomposition. -/
def IsWhole
    (c : Char) :
    Prop :=
  ¬ (0xAC00 ≤ c.toNat ∧ c.toNat ≤ 0xD7A3) ∧
    decompositionRuns.row? c.toNat = none

theorem decompose_of_isWhole
    {c : Char}
    (hWhole : IsWhole c) :
    decompose c = [c] := by
  rw [decompose, if_neg hWhole.1, hWhole.2]

/- A character is whole if its code point has no decomposition. -/
theorem isWhole_iff
    (c : Char) :
    IsWhole c ↔ decomposedBits.testBit c.toNat = false := by
  have hRow : decompositionRuns.row? c.toNat = none ↔
      ¬ decompositionRuns.bits.testBit c.toNat = true := by
    constructor
    · intro hNone hCode
      rcases Rows.exists_row?_of_testBit pairwise_decompositionRuns
        hCode with ⟨row, hRow⟩
      rw [hNone] at hRow
      cases hRow
    · intro hCode
      refine Option.eq_none_iff_forall_ne_some.mpr fun row hRow => ?_
      exact hCode (Rows.testBit_bits_of_row? hRow)
  have hHangul : (0xAC00 ≤ c.toNat ∧ c.toNat ≤ 0xD7A3) ↔
      (0xAC00 ≤ c.toNat ∧ c.toNat < 0xAC00 + 11172) := by
    omega
  rw [IsWhole, hRow, hHangul, ← Bool.not_eq_true, decomposedBits,
    Nat.testBit_or, Bool.or_eq_true, testBit_runBits_iff, not_or]

/-
  A number stands for the character with this code point, or
  for the first one if it is no code point.
-/
theorem testBit_toNat_ofNat
    {bits code : Nat}
    (hZero : bits.testBit 0 = false)
    (hCode : bits.testBit code = false) :
    bits.testBit (Char.ofNat code).toNat = false := by
  by_cases hValid : code.isValidChar
  · rw [Char.ofNat, dif_pos hValid]
    exact hCode
  · rw [Char.ofNat, dif_neg hValid]
    exact hZero

theorem isWhole_ofNat
    {code : Nat}
    (hCode : decomposedBits.testBit code = false) :
    IsWhole (Char.ofNat code) :=
  (isWhole_iff _).mpr (testBit_toNat_ofNat (by decide +kernel) hCode)

/- No part of a decomposition has one of its own. -/
theorem parts_apart :
    unionBits (fun run => unionBits codeBits run.2)
      decompositionRuns &&&
      decomposedBits = 0 := by
  decide +kernel

/-
  Nor has a consonant or vowel that a Hangul syllable is
  made of.
-/
theorem jamo_apart :
    runBits 0x1100 256 &&& decomposedBits = 0 := by
  decide +kernel

/- What a row lists is a part of some decomposition. -/
theorem testBit_parts
    {rows : Rows (List Nat)}
    {code : Nat}
    {row : List Nat}
    (hRow : rows.row? code = some row)
    {part : Nat}
    (hPart : part ∈ row) :
    (unionBits (fun run => unionBits codeBits run.2) rows).testBit part =
      true := by
  rw [testBit_unionBits_iff]
  induction rows with
  | nil => simp [Rows.row?] at hRow
  | cons run runs ih =>
      unfold Rows.row? at hRow
      split at hRow
      · cases hRow
      · split at hRow
        · rename_i found hPlace
          rcases Option.some.inj hRow with rfl
          refine ⟨run, List.mem_cons_self, ?_⟩
          rw [testBit_unionBits_iff]
          exact ⟨_, List.mem_of_getElem? hPlace,
            (testBit_codeBits_iff _ _).mpr hPart⟩
        · rcases ih hRow with ⟨other, hOther, hCode⟩
          exact ⟨other, List.mem_cons_of_mem run hOther, hCode⟩

/- The parts of a Hangul syllable are consonants and vowels. -/
theorem exists_jamo_of_mem_hangulParts
    {index : Nat}
    (hIndex : index < 11172)
    {d : Char}
    (hPart : d ∈ hangulParts index) :
    ∃ code, d = Char.ofNat code ∧ 0x1100 ≤ code ∧ code < 0x1200 := by
  have hParts : d = Char.ofNat (0x1100 + index / 588) ∨
      d = Char.ofNat (0x1161 + index % 588 / 28) ∨
      d = Char.ofNat (0x11A7 + index % 28) := by
    unfold hangulParts at hPart
    dsimp only at hPart
    split_ifs at hPart <;> simp at hPart <;> tauto
  rcases hParts with hLeading | hVowel | hTrailing
  · exact ⟨_, hLeading, by omega, by omega⟩
  · exact ⟨_, hVowel, by omega, by omega⟩
  · exact ⟨_, hTrailing, by omega, by omega⟩

/- A decomposition is full. -/
theorem isWhole_of_mem_decompose
    {c d : Char}
    (hPart : d ∈ decompose c) :
    IsWhole d := by
  unfold decompose at hPart
  split at hPart
  · rename_i hHangul
    have hIndex : c.toNat - 0xAC00 < 11172 := by omega
    rcases exists_jamo_of_mem_hangulParts hIndex hPart with
      ⟨code, rfl, hFirst, hLast⟩
    have hJamo : (runBits 0x1100 256).testBit code = true :=
      (testBit_runBits_iff _ _ _).mpr ⟨hFirst, hLast⟩
    exact isWhole_ofNat (not_testBit_of_land_eq_zero jamo_apart hJamo)
  · rename_i hNotHangul
    split at hPart
    · rename_i row hRow
      rcases List.mem_map.mp hPart with ⟨part, hMember, rfl⟩
      have hBit := testBit_parts hRow hMember
      exact isWhole_ofNat (not_testBit_of_land_eq_zero parts_apart hBit)
    · rename_i hNone
      rw [List.mem_singleton.mp hPart]
      exact ⟨hNotHangul, hNone⟩

end SiteSearch.Unicode

------------------------------------------------------------
-- Small Letters
------------------------------------------------------------

namespace SiteSearch.Unicode

/- The code points of a run of capital letters. -/
def CaseRun.codes
    (run : CaseRun) :
    List Nat :=
  List.range' run.first ((run.last - run.first) / run.step + 1) run.step

/- What a code point of a run is lowered to. -/
def CaseRun.lowered
    (run : CaseRun)
    (code : Nat) :
    Nat :=
  (code + run.offset).toNat

/-
  A code point is lowered by a run that it belongs to, or
  stays.
-/
theorem loweredBy_cases
    (code : Nat)
    (runs : List CaseRun) :
    loweredBy code runs = code ∨
      ∃ run ∈ runs, code ∈ run.codes ∧
        loweredBy code runs = run.lowered code := by
  induction runs with
  | nil => exact Or.inl rfl
  | cons run runs ih =>
      unfold loweredBy
      split_ifs with hBefore hInside
      · exact Or.inl rfl
      · refine Or.inr ⟨run, List.mem_cons_self, ?_, rfl⟩
        have hPlace := Nat.div_add_mod (code - run.first) run.step
        have hLast : (code - run.first) / run.step ≤
            (run.last - run.first) / run.step :=
          Nat.div_le_div_right (Nat.sub_le_sub_right hInside.1 _)
        rw [CaseRun.codes, List.mem_range']
        exact ⟨(code - run.first) / run.step, by omega, by omega⟩
      · rcases ih with hStays | ⟨other, hOther, hLowered⟩
        · exact Or.inl hStays
        · exact Or.inr ⟨other, List.mem_cons_of_mem run hOther,
            hLowered⟩

/- The capital letters. -/
def capitalBits : Nat :=
  unionBits (fun run => codeBits run.codes) caseRuns

/- What capital letters without a decomposition are lowered to. -/
def loweredBits : Nat :=
  unionBits
    (fun run => codeBits ((run.codes.filter fun code =>
      !decomposedBits.testBit code).map run.lowered)) caseRuns

/- The code points that folding changes or drops. -/
def unfoldedBits : Nat :=
  capitalBits ||| (markRanges.bits ||| decomposedBits)

/- None of them is what a capital letter is lowered to. -/
theorem lowered_apart :
    loweredBits &&& unfoldedBits = 0 := by
  decide +kernel

/- A code point that is no capital letter is not lowered. -/
theorem loweredBy_of_not_capital
    {code : Nat}
    (hCode : capitalBits.testBit code = false) :
    loweredBy code caseRuns = code := by
  rcases loweredBy_cases code caseRuns with
    hStays | ⟨run, hRun, hMember, -⟩
  · exact hStays
  · have hCapital : capitalBits.testBit code = true :=
      (testBit_unionBits_iff _ _ _).mpr
        ⟨run, hRun, (testBit_codeBits_iff _ _).mpr hMember⟩
    rw [hCode] at hCapital
    cases hCapital

end SiteSearch.Unicode

------------------------------------------------------------
-- Folded Characters
------------------------------------------------------------

namespace SiteSearch.Unicode

/- A character that folding leaves as it is. -/
structure IsFolded
    (c : Char) :
    Prop where
  whole : IsWhole c
  unmarked : isMark c = false
  lower : lowercase c = [c]

/- The dotted capital I has a decomposition. -/
theorem ne_dotted_of_isWhole
    {c : Char}
    (hWhole : IsWhole c) :
    c ≠ '\u0130' := by
  rintro rfl
  have hDotted :
      decomposedBits.testBit 0x130 = true := by decide +kernel
  have hCode := (isWhole_iff '\u0130').mp hWhole
  exact absurd (hDotted.symm.trans hCode) (by decide)

/- So any other whole character has one lowercase form. -/
theorem lowercase_of_isWhole
    {c : Char}
    (hWhole : IsWhole c) :
    lowercase c = [Char.ofNat (loweredBy c.toNat caseRuns)] :=
  if_neg (ne_dotted_of_isWhole hWhole)

/-
  A character is folded if its code point is none that
  folding changes.
-/
theorem isFolded_of_testBit
    {c : Char}
    (hCode : unfoldedBits.testBit c.toNat = false) :
    IsFolded c := by
  rw [unfoldedBits, Nat.testBit_or, Nat.testBit_or,
    Bool.or_eq_false_iff, Bool.or_eq_false_iff] at hCode
  rcases hCode with ⟨hCapital, hMark, hDecomposed⟩
  have hWhole := (isWhole_iff c).mpr hDecomposed
  refine ⟨hWhole, ?_, ?_⟩
  · rw [Bool.eq_false_iff]
    intro hContains
    rw [Ranges.testBit_bits hContains] at hMark
    cases hMark
  · rw [lowercase_of_isWhole hWhole, loweredBy_of_not_capital hCapital,
      Char.ofNat_toNat]

/-
  A whole character that is no mark is lowered to a folded
  one.
-/
theorem isFolded_of_mem_lowercase
    {c d : Char}
    (hWhole : IsWhole c)
    (hMark : isMark c = false)
    (hLower : d ∈ lowercase c) :
    IsFolded d := by
  rw [lowercase_of_isWhole hWhole, List.mem_singleton] at hLower
  rcases loweredBy_cases c.toNat caseRuns with
    hStays | ⟨run, hRun, hMember, hLowered⟩
  · have hSame : d = c := by
      rw [hLower, hStays, Char.ofNat_toNat]
    have hLowercase : lowercase c = [c] := by
      rw [lowercase_of_isWhole hWhole, hStays, Char.ofNat_toNat]
    rw [hSame]
    exact ⟨hWhole, hMark, hLowercase⟩
  · have hKept : c.toNat ∈ run.codes.filter fun code =>
        !decomposedBits.testBit code := by
      rw [List.mem_filter, (isWhole_iff c).mp hWhole]
      exact ⟨hMember, rfl⟩
    have hBit : loweredBits.testBit (run.lowered c.toNat) = true :=
      (testBit_unionBits_iff _ _ _).mpr ⟨run, hRun,
        (testBit_codeBits_iff _ _).mpr (List.mem_map_of_mem hKept)⟩
    rw [hLower, hLowered]
    exact isFolded_of_testBit (testBit_toNat_ofNat (by decide +kernel)
      (not_testBit_of_land_eq_zero lowered_apart hBit))

end SiteSearch.Unicode

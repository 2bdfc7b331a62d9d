import SiteSearch.Source
import Mathlib.Data.List.DropRight

/-
  Paths joined behind each other.

  Joining takes away the slashes that meet and puts a single
  one in their place.  What is in the middle is nothing but
  slashes, or something stands between its slashes that keeps
  both places apart.  In either case it does not matter which
  place is joined first.  So a location is found at the same
  address whether a site resolves it at once or along a path
  of several parts.

  Main declarations:
    * `SiteSearch.joinChars`
    * `SiteSearch.joinChars_of_meeting`
    * `SiteSearch.slashes_or_between`
    * `SiteSearch.joinUrl_assoc`
    * `SiteSearch.MeetInOneSlash`
    * `SiteSearch.isUrl_of_isUrl_joinUrl`
    * `SiteSearch.joinUrl_foldl`
    * `SiteSearch.joining_regroups_with_one_slash`
-/

------------------------------------------------------------
-- Slashes Where Texts Meet
------------------------------------------------------------

namespace SiteSearch

/- A number of slashes. -/
def slashes
    (count : Nat) :
    String :=
  String.ofList (List.replicate count '/')

@[simp] theorem toList_slashes
    (count : Nat) :
    (slashes count).toList = List.replicate count '/' := by
  simp [slashes]

/- A text without the slashes it begins with. -/
def dropLeadingSlashes
    (text : List Char) :
    List Char :=
  text.dropWhile (· == '/')

/- Two texts with one slash in place of those that meet. -/
def joinChars
    (base path : List Char) :
    List Char :=
  dropTrailingSlashes base ++ '/' :: dropLeadingSlashes path

theorem toList_joinUrl
    (base path : String) :
    (joinUrl base path).toList = joinChars base.toList path.toList := by
  rw [joinUrl, String.toList_ofList]
  rfl

/- Slashes at the end do not count. -/
theorem dropTrailingSlashes_append_slashes
    (text : List Char)
    (count : Nat) :
    dropTrailingSlashes (text ++ List.replicate count '/') =
      dropTrailingSlashes text := by
  unfold dropTrailingSlashes
  rw [List.reverse_append, List.dropWhile_append_of_pos]
  intro c hMember
  simp only [List.reverse_replicate] at hMember
  simpa using List.eq_of_mem_replicate hMember

/- Slashes at the beginning do not count. -/
theorem dropLeadingSlashes_slashes_append
    (count : Nat)
    (text : List Char) :
    dropLeadingSlashes (List.replicate count '/' ++ text) =
      dropLeadingSlashes text := by
  unfold dropLeadingSlashes
  rw [List.dropWhile_append_of_pos]
  intro c hMember
  simpa using List.eq_of_mem_replicate hMember

/- Only slashes are taken away from the end. -/
theorem dropTrailingSlashes_eq_self
    {text : List Char}
    (hLast : text.getLast? ≠ some '/') :
    dropTrailingSlashes text = text := by
  refine List.rdropWhile_eq_self_iff.mpr ?_
  intro hText hSlash
  apply hLast
  rw [List.getLast?_eq_some_getLast hText, beq_iff_eq.mp hSlash]

/- Only slashes are taken away from the beginning. -/
theorem dropLeadingSlashes_eq_self
    {text : List Char}
    (hFirst : text.head? ≠ some '/') :
    dropLeadingSlashes text = text := by
  cases text with
  | nil => rfl
  | cons c text =>
      have hOther : ¬ (c == '/') = true := by
        simpa using hFirst
      exact List.dropWhile_cons_of_neg hOther

/- A text ends in some slashes, possibly none. -/
theorem exists_eq_append_slashes
    (text : List Char) :
    ∃ (front : List Char) (count : Nat),
      text = front ++ List.replicate count '/' ∧
        front.getLast? ≠ some '/' := by
  induction text using List.reverseRecOn with
  | nil => exact ⟨[], 0, rfl, by simp⟩
  | append_singleton text c ih =>
      by_cases hSlash : c = '/'
      · rcases ih with ⟨front, count, rfl, hLast⟩
        refine ⟨front, count + 1, ?_, hLast⟩
        rw [hSlash, List.append_assoc, ← List.replicate_succ']
      · exact ⟨text ++ [c], 0, by simp, by simpa using hSlash⟩

/- A text begins with some slashes, possibly none. -/
theorem exists_eq_slashes_append
    (text : List Char) :
    ∃ (count : Nat) (back : List Char),
      text = List.replicate count '/' ++ back ∧
        back.head? ≠ some '/' := by
  induction text with
  | nil => exact ⟨0, [], rfl, by simp⟩
  | cons c text ih =>
      by_cases hSlash : c = '/'
      · rcases ih with ⟨count, back, rfl, hFirst⟩
        exact ⟨count + 1, back,
          by rw [hSlash, List.replicate_succ]; rfl, hFirst⟩
      · exact ⟨0, c :: text, rfl, by simpa using hSlash⟩

/-
  Where two texts meet, however many slashes there are, one
  is left.
-/
theorem joinChars_of_meeting
    {front back : List Char}
    (hFront : front.getLast? ≠ some '/')
    (hBack : back.head? ≠ some '/')
    (i j : Nat) :
    joinChars (front ++ List.replicate i '/')
        (List.replicate j '/' ++ back) =
      front ++ '/' :: back := by
  rw [joinChars, dropTrailingSlashes_append_slashes,
    dropLeadingSlashes_slashes_append,
    dropTrailingSlashes_eq_self hFront,
    dropLeadingSlashes_eq_self hBack]

end SiteSearch

------------------------------------------------------------
-- Three Texts
------------------------------------------------------------

namespace SiteSearch

/-
  A text is nothing but slashes, or there is something
  between those at its two ends.
-/
theorem slashes_or_between
    (text : List Char) :
    (∃ count, text = List.replicate count '/') ∨
      ∃ (i : Nat) (core : List Char) (j : Nat),
        text = List.replicate i '/' ++ core ++ List.replicate j '/' ∧
          core ≠ [] ∧ core.head? ≠ some '/' ∧
            core.getLast? ≠ some '/' := by
  rcases exists_eq_slashes_append text with ⟨i, back, rfl, hFirst⟩
  rcases exists_eq_append_slashes back with ⟨core, j, rfl, hLast⟩
  by_cases hCore : core = []
  · left
    exact ⟨i + j, by
      rw [hCore, List.nil_append, List.replicate_append_replicate]⟩
  · right
    rw [List.head?_append_of_ne_nil _ hCore] at hFirst
    exact ⟨i, core, j, (List.append_assoc ..).symm, hCore, hFirst,
      hLast⟩

/- It does not matter which of two places is joined first. -/
theorem joinChars_assoc
    (base path rest : List Char) :
    joinChars (joinChars base path) rest =
      joinChars base (joinChars path rest) := by
  rcases exists_eq_append_slashes base with ⟨front, i, rfl, hFront⟩
  rcases exists_eq_slashes_append rest with ⟨j, back, rfl, hBack⟩
  rcases slashes_or_between path with
    ⟨count, rfl⟩ | ⟨m, core, n, rfl, hCore, hFirst, hLast⟩
  · -- Slashes alone make one place of two.
    have hNoBack : ([] : List Char).head? ≠ some '/' := by simp
    have hNoFront : ([] : List Char).getLast? ≠ some '/' := by simp
    have hLeft : joinChars (front ++ List.replicate i '/')
        (List.replicate count '/') = front ++ List.replicate 1 '/' := by
      simpa using joinChars_of_meeting hFront hNoBack i count
    have hRight : joinChars (List.replicate count '/')
        (List.replicate j '/' ++ back) = List.replicate 1 '/' ++ back :=
      joinChars_of_meeting hNoFront hBack count j
    rw [hLeft, hRight, joinChars_of_meeting hFront hBack,
      joinChars_of_meeting hFront hBack]
  · -- What is between its slashes keeps the two places apart.
    have hInner : (core ++ List.replicate n '/').head? ≠ some '/' := by
      rwa [List.head?_append_of_ne_nil _ hCore]
    have hOuter :
        (List.replicate m '/' ++ core).getLast? ≠ some '/' := by
      rwa [List.getLast?_append_of_ne_nil _ hCore]
    have hBegun : (front ++ '/' :: core).getLast? ≠ some '/' := by
      rwa [List.append_cons, List.getLast?_append_of_ne_nil _ hCore]
    have hEnded : (core ++ '/' :: back).head? ≠ some '/' := by
      rwa [List.head?_append_of_ne_nil _ hCore]
    calc joinChars (joinChars (front ++ List.replicate i '/')
            (List.replicate m '/' ++ core ++ List.replicate n '/'))
          (List.replicate j '/' ++ back)
        = joinChars ((front ++ '/' :: core) ++ List.replicate n '/')
            (List.replicate j '/' ++ back) := by
          rw [List.append_assoc (List.replicate m '/'),
            joinChars_of_meeting hFront hInner, List.append_assoc,
            List.cons_append]
      _ = front ++ '/' :: (core ++ '/' :: back) := by
          rw [joinChars_of_meeting hBegun hBack, List.append_assoc,
            List.cons_append]
      _ = joinChars (front ++ List.replicate i '/')
            (List.replicate m '/' ++ (core ++ '/' :: back)) :=
          (joinChars_of_meeting hFront hEnded i m).symm
      _ = joinChars (front ++ List.replicate i '/')
            (joinChars
              (List.replicate m '/' ++ core ++ List.replicate n '/')
              (List.replicate j '/' ++ back)) := by
          rw [joinChars_of_meeting hOuter hBack, List.append_assoc]

/- It does not matter which of two places is joined first. -/
theorem joinUrl_assoc
    (base path rest : String) :
    joinUrl (joinUrl base path) rest =
      joinUrl base (joinUrl path rest) := by
  rw [String.ext_iff, toList_joinUrl, toList_joinUrl, toList_joinUrl,
    toList_joinUrl, joinChars_assoc]

/-
  Parts are joined to a base one after the other, or first to
  what follows them.
-/
theorem joinUrl_foldl
    (base : String)
    (paths : List String)
    (location : String) :
    joinUrl (paths.foldl joinUrl base) location =
      joinUrl base (paths.foldr joinUrl location) := by
  induction paths generalizing base with
  | nil => rfl
  | cons path paths ih =>
      rw [List.foldl_cons, ih, joinUrl_assoc, List.foldr_cons]

end SiteSearch

------------------------------------------------------------
-- Slashes of Two Texts
------------------------------------------------------------

namespace SiteSearch

/- A text is two others with exactly one slash where they meet. -/
def MeetInOneSlash
    (base path joined : String) :
    Prop :=
  ∃ (front back : String) (i j : Nat),
    base = front ++ slashes i ∧ path = slashes j ++ back ∧
      front.toList.getLast? ≠ some '/' ∧ back.toList.head? ≠ some '/' ∧
        joined = front ++ "/" ++ back

/- Slashes where two texts are joined do not count. -/
theorem joinUrl_slashes
    (base path : String)
    (i j : Nat) :
    joinUrl (base ++ slashes i) (slashes j ++ path) =
      joinUrl base path := by
  rw [String.ext_iff, toList_joinUrl, toList_joinUrl,
    String.toList_append, String.toList_append, toList_slashes,
    toList_slashes, joinChars,
    dropTrailingSlashes_append_slashes,
    dropLeadingSlashes_slashes_append,
    joinChars]

/- One slash is left where two texts are joined. -/
theorem meetInOneSlash_joinUrl
    (base path : String) :
    MeetInOneSlash base path (joinUrl base path) := by
  rcases exists_eq_append_slashes base.toList with
    ⟨front, i, hBase, hFront⟩
  rcases exists_eq_slashes_append path.toList with
    ⟨j, back, hPath, hBack⟩
  refine ⟨String.ofList front, String.ofList back, i, j, ?_, ?_, ?_,
    ?_, ?_⟩
  · rw [String.ext_iff, hBase]
    simp
  · rw [String.ext_iff, hPath]
    simp
  · rwa [String.toList_ofList]
  · rwa [String.toList_ofList]
  · rw [String.ext_iff, toList_joinUrl, hBase, hPath,
      joinChars_of_meeting hFront hBack]
    simp

end SiteSearch

------------------------------------------------------------
-- Resolved Locations
------------------------------------------------------------

namespace SiteSearch

/-
  Joining does not make the two slashes behind the name of a
  scheme: a text that begins so begins so before its slash.
-/
theorem prefix_of_prefix_joined
    {name front back : List Char}
    (hName : '/' ∉ name)
    (hFront : front.getLast? ≠ some '/')
    (hBack : back.head? ≠ some '/')
    (hPrefix : name ++ ['/', '/'] <+: front ++ '/' :: back) :
    name ++ ['/', '/'] <+: front := by
  induction name generalizing front with
  | nil =>
      match front with
      | [] =>
          have hRest : ['/'] <+: back := by simpa using hPrefix
          rcases hRest with ⟨rest, rfl⟩
          exact absurd rfl hBack
      | [c] =>
          have hSlash : '/' = c := by simpa using hPrefix
          exact absurd (congrArg some hSlash.symm) hFront
      | c :: d :: front =>
          simpa using hPrefix
  | cons c name ih =>
      cases front with
      | nil =>
          have hSlash : c = '/' := (List.cons_prefix_cons.mp hPrefix).1
          exact absurd (hSlash ▸ List.mem_cons_self) hName
      | cons d front =>
          rcases List.cons_prefix_cons.mp hPrefix with ⟨rfl, hRest⟩
          refine List.cons_prefix_cons.mpr ⟨rfl, ih ?_ ?_ hRest⟩
          · exact fun hMember => hName (List.mem_cons_of_mem c hMember)
          · cases front with
            | nil => simp
            | cons e front => simpa using hFront

/- A path is joined to an address only if there was one before. -/
theorem isUrl_of_isUrl_joinUrl
    {base path : String}
    (hUrl : isUrl (joinUrl base path) = true) :
    isUrl base = true := by
  rcases exists_eq_append_slashes base.toList with
    ⟨front, i, hBase, hFront⟩
  rcases exists_eq_slashes_append path.toList with
    ⟨j, back, hPath, hBack⟩
  have hScheme : ∀ name : List Char, '/' ∉ name →
      name ++ ['/', '/'] <+: (joinUrl base path).toList →
        name ++ ['/', '/'] <+: base.toList := by
    intro name hName hPrefix
    rw [toList_joinUrl, hBase, hPath,
      joinChars_of_meeting hFront hBack] at hPrefix
    rw [hBase]
    exact (prefix_of_prefix_joined hName hFront hBack hPrefix).trans
      (List.prefix_append _ _)
  rw [isUrl, Bool.or_eq_true, List.isPrefixOf_iff_prefix,
    List.isPrefixOf_iff_prefix] at hUrl ⊢
  exact hUrl.imp (hScheme "http:".toList (by decide))
    (hScheme "https:".toList (by decide))

/- A location with slashes in front is no address. -/
theorem isUrl_slashes_append
    {location : String}
    (hPath : isUrl location = false)
    (count : Nat) :
    isUrl (slashes count ++ location) = false := by
  cases count with
  | zero =>
      have hSame : slashes 0 ++ location = location := by
        simp [String.ext_iff]
      rw [hSame, hPath]
  | succ count => simp [isUrl, List.replicate_succ, List.isPrefixOf]

/- Parts that begin with a path are joined to a path. -/
theorem isUrl_foldr_joinUrl
    {location : String}
    {paths : List String}
    (hLocation : isUrl location = false)
    (hFirst : ∀ first ∈ paths.head?, isUrl first = false) :
    isUrl (paths.foldr joinUrl location) = false := by
  cases paths with
  | nil => exact hLocation
  | cons path paths =>
      have hPath : isUrl path = false := hFirst path rfl
      rw [List.foldr_cons, Bool.eq_false_iff]
      intro hUrl
      rw [isUrl_of_isUrl_joinUrl hUrl] at hPath
      exact Bool.noConfusion hPath

/- A path is looked for on the site. -/
theorem Source.ofLocation_eq_web
    {location : String}
    (hPath : isUrl location = false)
    (base : String) :
    ofLocation location (some base) = web (joinUrl base location) := by
  rw [ofLocation, hPath]
  rfl

/-
  Joining is associative, and slashes where texts are joined
  do not count: exactly one is left there.  So a path on a
  site is found at the same address however many slashes the
  base ends in and the path begins with, and whether its parts
  are joined to the base one after the other or are resolved
  all at once.
-/
theorem joining_regroups_with_one_slash :
    (∀ base path rest : String,
        joinUrl (joinUrl base path) rest =
          joinUrl base (joinUrl path rest)) ∧
      (∀ (base path : String) (i j : Nat),
        joinUrl (base ++ slashes i) (slashes j ++ path) =
          joinUrl base path) ∧
      (∀ base path : String,
        MeetInOneSlash base path (joinUrl base path)) ∧
      ∀ (base location : String) (paths : List String) (i j : Nat),
        isUrl location = false →
          Source.ofLocation (slashes j ++ location)
              (some (paths.foldl joinUrl base ++ slashes i)) =
            Source.web (joinUrl base (paths.foldr joinUrl location)) ∧
          ((∀ first ∈ paths.head?, isUrl first = false) →
            Source.ofLocation
                (slashes j ++ paths.foldr joinUrl location)
                (some (base ++ slashes i)) =
              Source.web
                (joinUrl base (paths.foldr joinUrl location))) := by
  refine ⟨joinUrl_assoc, joinUrl_slashes, meetInOneSlash_joinUrl, ?_⟩
  intro base location paths i j hLocation
  constructor
  · rw [Source.ofLocation_eq_web (isUrl_slashes_append hLocation j),
      joinUrl_slashes, joinUrl_foldl]
  · intro hFirst
    have hJoined := isUrl_foldr_joinUrl hLocation hFirst
    rw [Source.ofLocation_eq_web (isUrl_slashes_append hJoined j),
      joinUrl_slashes]

/-
  Search data below a nested base that is written with slashes
  everywhere, one part of it being nothing else.
-/
theorem joining_regroups_of_nested_base :
    isUrl "en.json" = false ∧
      (∀ first ∈ ["/docs/", "//"].head?, isUrl first = false) ∧
      Source.ofLocation (slashes 1 ++ "en.json")
          (some (["/docs/", "//"].foldl joinUrl "https://h" ++ slashes 2)) =
        Source.web "https://h/docs/en.json" ∧
      Source.ofLocation
          (slashes 1 ++ ["/docs/", "//"].foldr joinUrl "en.json")
          (some ("https://h" ++ slashes 2)) =
        Source.web "https://h/docs/en.json" := by
  have hLocation : isUrl "en.json" = false := by decide
  have hFirst : ∀ first ∈ ["/docs/", "//"].head?,
      isUrl first = false := by decide
  have hAddress :
      Source.web
          (joinUrl "https://h" (["/docs/", "//"].foldr joinUrl "en.json")) =
        Source.web "https://h/docs/en.json" := by decide
  have hBoth :=
    joining_regroups_with_one_slash.2.2.2 "https://h" "en.json"
      ["/docs/", "//"] 2 1 hLocation
  exact ⟨hLocation, hFirst, hBoth.1.trans hAddress,
    (hBoth.2 hFirst).trans hAddress⟩

end SiteSearch

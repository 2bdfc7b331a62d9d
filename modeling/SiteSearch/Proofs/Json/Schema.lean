import SiteSearch.Proofs.Json.Fields

/-
  Two ways to read a schema.

  Straight from a text the fields of a schema are read just
  like from the generic value that the text writes, with one
  difference: in an object no field may be named twice.

  Main declarations:
    * `SiteSearch.Json.Kind.read_eq_ok_iff`
    * `SiteSearch.Json.keysOf`
    * `SiteSearch.Json.Reader.StandsFor`
    * `SiteSearch.Json.folded_fieldStep_iff`
    * `SiteSearch.Json.readArray_eq_ok_iff`
    * `SiteSearch.Json.Schema.read_eq_ok_iff`
    * `SiteSearch.Json.Schema.indifferent_read`
-/

------------------------------------------------------------
-- Kinds
------------------------------------------------------------

namespace SiteSearch.Json

/- A leaf is read alike whatever is made of brackets. -/
theorem anyForm_of_isLeaf
    {first object array' object' : Reader Json}
    {bytes rest : List UInt8}
    {v : Json}
    (hArray : ∀ front v rest, first front = .ok (v, rest) →
      v.isLeaf = false)
    (hObject : ∀ front v rest, object front = .ok (v, rest) →
      v.isLeaf = false)
    (hRead : anyForm (valueForms first object) bytes = .ok (v, rest))
    (hLeaf : v.isLeaf = true) :
    anyForm (valueForms array' object') bytes = .ok (v, rest) := by
  rcases anyForm_eq_ok_iff.mp hRead with ⟨b, front, hSkip, hBehind⟩
  refine anyForm_eq_ok_iff.mpr ⟨b, front, hSkip, ?_⟩
  unfold Forms.behind at hBehind ⊢
  split_ifs at hBehind ⊢
  · exact hBehind
  · exact hBehind
  · exact hBehind
  · exact hBehind
  · exact hBehind
  · rw [hArray front v rest hBehind] at hLeaf
    cases hLeaf
  · rw [hObject front v rest hBehind] at hLeaf
    cases hLeaf

/- A leaf is read alike with brackets allowed and without. -/
theorem anyForm_fail_iff_value
    {v : Json}
    (hLeaf : v.isLeaf = true)
    (e e' : Error)
    (depth : Nat)
    {bytes rest : List UInt8} :
    anyForm (valueForms (Reader.fail e) (Reader.fail e')) bytes =
        .ok (v, rest) ↔
      value depth bytes = .ok (v, rest) := by
  have hFail : ∀ e front v rest,
      (Reader.fail e : Reader Json) front = .ok (v, rest) →
        v.isLeaf = false := by
    rintro e front v rest ⟨⟩
  constructor
  · intro hRead
    cases depth with
    | zero => exact anyForm_of_isLeaf (hFail _) (hFail _) hRead hLeaf
    | succ depth =>
        exact anyForm_of_isLeaf (hFail _) (hFail _) hRead hLeaf
  · intro hRead
    cases depth with
    | zero => exact anyForm_of_isLeaf (hFail _) (hFail _) hRead hLeaf
    | succ depth =>
        refine anyForm_of_isLeaf ?_ ?_ hRead hLeaf
        · intro front v rest hArray
          rcases (arrayOf_eq_ok_iff (consuming_value depth)).mp
            hArray with
            ⟨items, -, rfl⟩
          rfl
        · intro front v rest hObject
          rcases (objectOf_eq_ok_iff (framed_value depth)).mp
            hObject with
            ⟨named, -, rfl⟩
          rfl

/- A scalar that is read is a value at any depth. -/
theorem exists_value_of_scalar
    {α : Type}
    {expected : String}
    {convert : Json → Except Error α}
    (hConvert : ∀ v a, convert v = .ok a → v.isLeaf = true)
    (depth : Nat)
    {bytes rest : List UInt8}
    {a : α}
    (hRead : scalar expected convert bytes = .ok (a, rest)) :
    ∃ v, value depth bytes = .ok (v, rest) ∧ convert v = .ok a := by
  rcases bind_eq_ok_iff.mp hRead with ⟨⟨v, left⟩, hForm, hOk⟩
  rcases bind_eq_ok_iff.mp hOk with ⟨b, hb, hPure⟩
  cases hPure
  exact ⟨v,
    (anyForm_fail_iff_value (hConvert v _ hb) _ _ depth).mp hForm, hb⟩

/- A scalar is read if it is a leaf that can be converted. -/
theorem scalar_eq_ok_iff
    {α : Type}
    {expected : String}
    {convert : Json → Except Error α}
    (hConvert : ∀ v a, convert v = .ok a → v.isLeaf = true)
    {depth : Nat}
    {bytes after rest : List UInt8}
    {v : Json}
    {a : α}
    (hValue : value depth bytes = .ok (v, after)) :
    scalar expected convert bytes = .ok (a, rest) ↔
      rest = after ∧ convert v = .ok a := by
  constructor
  · intro hRead
    rcases exists_value_of_scalar hConvert depth hRead with
      ⟨w, hSame, ha⟩
    rw [hValue, Except.ok.injEq, Prod.mk.injEq] at hSame
    rcases hSame with ⟨rfl, rfl⟩
    exact ⟨rfl, ha⟩
  · rintro ⟨rfl, ha⟩
    exact bind_eq_ok_iff.mpr ⟨(v, rest),
      (anyForm_fail_iff_value (hConvert v a ha) _ _ depth).mpr hValue,
      bind_eq_ok_iff.mpr ⟨a, ha, rfl⟩⟩

/- Only leaves are values of a kind. -/
theorem Kind.isLeaf_of_ofJson
    (kind : Kind)
    (v : Json)
    (x : kind.Carrier)
    (hKind : kind.ofJson v = .ok x) :
    v.isLeaf = true := by
  cases v with
  | array items => cases kind <;> cases hKind
  | object members => cases kind <;> cases hKind
  | null => rfl
  | bool flag => rfl
  | number n => rfl
  | string text => rfl

/- Only an identifier is not read as a scalar. -/
theorem Kind.read_eq_scalar
    {kind : Kind}
    (hKind : kind ≠ .id)
    (depth : Nat) :
    kind.read depth = scalar kind.describe kind.ofJson := by
  cases kind with
  | id => exact absurd rfl hKind
  | text => rfl
  | optionalText => rfl
  | size => rfl
  | flag => rfl
  | score => rfl

/-
  A value of a kind is read straight if the generic value is
  one.
-/
theorem Kind.read_eq_ok_iff
    {kind : Kind}
    {depth depth' : Nat}
    (hDepth : depth' ≤ depth)
    {bytes after rest : List UInt8}
    {v : Json}
    {x : kind.Carrier}
    (hValue : value depth' bytes = .ok (v, after)) :
    kind.read depth bytes = .ok (x, rest) ↔
      rest = after ∧ kind.ofJson v = .ok x := by
  by_cases hId : kind = .id
  · subst hId
    have hRead : value depth bytes = .ok (v, after) := by
      rw [← Nat.add_sub_cancel' hDepth]
      exact value_add hValue _
    change (value depth bytes >>= _) = _ ↔ _
    rw [hRead]
    change (Kind.ofJson .id v >>= _) = _ ↔ _
    rw [bind_eq_ok_iff]
    constructor
    · rintro ⟨y, hy, hPure⟩
      cases hPure
      exact ⟨rfl, hy⟩
    · rintro ⟨rfl, hx⟩
      exact ⟨x, hx, rfl⟩
  · rw [Kind.read_eq_scalar hId]
    exact scalar_eq_ok_iff kind.isLeaf_of_ofJson hValue

end SiteSearch.Json

------------------------------------------------------------
-- Keys
------------------------------------------------------------

namespace SiteSearch.Json

/-
  The keys of the object at the front of some bytes, as they
  stand there.
-/
def keysOf
    (bytes : List UInt8) :
    List String :=
  match skipSpace bytes with
  | [] => []
  | b :: front =>
      if b = byte '{' then
        let step := fun keys => (keyed skip).map fun member =>
          member.1 :: keys
        match members dropped step [] front with
        | .ok (keys, _) => keys.reverse
        | .error _ => []
      else []

/- Members that can be read can be skipped, with the same keys. -/
theorem exists_skipped_of_named
    {depth : Nat}
    {front rest : List UInt8}
    {named : List (String × Json)}
    (hNamed : Listed (byte '}') (quoted (keyed (value depth))) true
      front named rest) :
    ∃ skipped,
      Listed (byte '}') (quoted (keyed skip)) true front skipped rest ∧
      skipped.map Prod.fst = named.map Prod.fst := by
  have hMatches : ∀ front after,
      Reader.Matches (fun _ _ => True) (value depth) skip front after :=
    fun _ _ _ hRead => ⟨(), skip_of_value hRead, trivial⟩
  rcases hNamed.exists_matching
      (framed_quoted (framed_keyed (framed_value depth))).shrinking
      (fun front after _ _ => quoted_keyed_matches
        fun tail _ => hMatches tail after) with
    ⟨skipped, hSkipped, hSame⟩
  refine ⟨skipped, hSkipped, ?_⟩
  clear hNamed hSkipped
  induction hSame with
  | nil => rfl
  | cons hPair hRest ih =>
      rw [List.map_cons, List.map_cons, ih, hPair.1]

/-
  Of members that are skipped the keys are left, the last
  one first.
-/
theorem members_keys_of_skipped
    {front rest : List UInt8}
    {skipped : List (String × Unit)}
    (hSkipped : Listed (byte '}') (quoted (keyed skip)) true
      front skipped rest) :
    members dropped
      (fun keys => (keyed skip).map fun member =>
        member.1 :: keys) [] front =
        .ok ((skipped.map Prod.fst).reverse, rest) := by
  have hStep : ∀ keys : List String,
      (quoted ((keyed skip).map
        fun member => member.1 :: keys)).Consuming :=
    fun keys =>
      consuming_quoted ((framed_keyed framed_skip).map _).shrinking
  have hQuoted :
      (fun keys : List String =>
        quoted ((keyed skip).map fun member => member.1 :: keys)) =
      fun keys => (quoted (keyed skip)).map fun member =>
        member.1 :: keys := by
    funext keys
    exact quoted_map _ _
  have hFold :
      (skipped.map Prod.fst).foldl (fun keys key => key :: keys) [] =
      (skipped.map Prod.fst).reverse := by
    rw [List.foldl_flip_cons_eq_append]
    simp
  rw [List.foldl_map] at hFold
  rw [members_eq_ok_iff hStep, hQuoted, folded_map_iff]
  exact ⟨skipped, hSkipped, hFold⟩

/- The keys are those of the members that can be read. -/
theorem keysOf_eq
    {depth : Nat}
    {bytes front rest : List UInt8}
    {named : List (String × Json)}
    (hBrace : skipSpace bytes = byte '{' :: front)
    (hNamed : Listed (byte '}') (quoted (keyed (value depth))) true
      front named rest) :
    keysOf bytes = named.map Prod.fst := by
  rcases exists_skipped_of_named hNamed with ⟨skipped, hSkipped, hKeys⟩
  unfold keysOf
  rw [hBrace]
  dsimp only
  rw [if_pos rfl, members_keys_of_skipped hSkipped, hKeys]
  exact List.reverse_reverse _

end SiteSearch.Json

------------------------------------------------------------
-- Members
------------------------------------------------------------

namespace SiteSearch.Json

/-
  Whether the field with a key, if there is one, was not met
  yet.
-/
def Unmet
    (key : String) :
    (fields : List Field) → Draft fields → Prop
  | [], _ => True
  | field :: fields, (met, draft) =>
      if key = field.name then met = none else Unmet key fields draft

/-
  Whether each field is met at most once, now or by a key to
  come.
-/
def Room
    (keys : List String) :
    (fields : List Field) → Draft fields → Prop
  | [], _ => True
  | field :: fields, (met, draft) =>
      keys.count field.name + met.isSome.toNat ≤ 1 ∧
        Room keys fields draft

theorem room_nil
    (fields : List Field)
    (draft : Draft fields) :
    Room [] fields draft := by
  induction fields with
  | nil => trivial
  | cons field fields ih =>
      rcases draft with ⟨met, draft⟩
      exact ⟨by cases met <;> simp, ih draft⟩

/- Before anything was met, no key may be there twice. -/
theorem room_emptyDraft_iff
    {keys : List String}
    {fields : List Field} :
    Room keys fields (emptyDraft fields) ↔
      ∀ field ∈ fields, keys.count field.name ≤ 1 := by
  induction fields with
  | nil => simp [Room]
  | cons field fields ih => simp [emptyDraft, Room, ih]

/- A key that no field has leaves room as it was. -/
theorem room_cons_iff_of_forall_ne
    {key : String}
    {keys : List String}
    {fields : List Field}
    (hOther : ∀ field ∈ fields, field.name ≠ key)
    {draft : Draft fields} :
    Room (key :: keys) fields draft ↔ Room keys fields draft := by
  induction fields with
  | nil => exact Iff.rfl
  | cons field fields ih =>
      rcases draft with ⟨met, draft⟩
      have hFirst := hOther field List.mem_cons_self
      rw [Room, Room, List.count_cons_of_ne hFirst.symm,
        ih fun other hField =>
          hOther other (List.mem_cons_of_mem _ hField)]

/- A key takes the room of its field. -/
theorem room_cons_iff
    {key : String}
    {v : Json}
    {keys : List String}
    {fields : List Field}
    (hNames : (fields.map Field.name).Nodup)
    {draft next : Draft fields}
    (hMember : draftMember key v fields draft = .ok next) :
    Room (key :: keys) fields draft ↔
      Unmet key fields draft ∧ Room keys fields next := by
  induction fields with
  | nil => simp [Room, Unmet]
  | cons field fields ih =>
      rcases draft with ⟨met, draft⟩
      rcases next with ⟨met', next⟩
      rw [draftMember] at hMember
      rw [Room, Unmet, Room]
      by_cases hKey : key = field.name
      · subst hKey
        rw [if_pos rfl] at hMember ⊢
        cases hKind : field.kind.ofJson v with
        | error e =>
            rw [hKind] at hMember
            cases hMember
        | ok x =>
            rw [hKind] at hMember
            simp only [Except.ok.injEq, Prod.mk.injEq] at hMember
            rcases hMember with ⟨rfl, rfl⟩
            rw [room_cons_iff_of_forall_ne (name_ne_of_nodup hNames),
              List.count_cons_self]
            cases met <;> simp
      · rw [if_neg hKey] at hMember ⊢
        cases hRest : draftMember key v fields draft with
        | error e =>
            rw [hRest] at hMember
            cases hMember
        | ok left =>
            rw [hRest] at hMember
            simp only [Except.ok.injEq, Prod.mk.injEq] at hMember
            rcases hMember with ⟨rfl, rfl⟩
            rw [List.count_cons_of_ne hKey,
              ih (List.nodup_cons.mp hNames).2 hRest]
            exact and_left_comm

/- The value of a key that no field has is skipped. -/
theorem readMember_nil
    (depth : Nat)
    (key : String) :
    readMember depth key [] () = colon.andThen fun _ => skip := by
  funext bytes
  simp only [readMember, Reader.andThen, bind, Except.bind]
  rcases colon bytes with e | ⟨done, front⟩
  · rfl
  dsimp only
  rcases skip front with e | ⟨done, rest⟩ <;> rfl

/- A field that was met is refused. -/
theorem readMember_cons_some
    (depth : Nat)
    {key : String}
    {field : Field}
    (hKey : key = field.name)
    (fields : List Field)
    (x : field.kind.Carrier)
    (draft : Draft fields) :
    readMember depth key (field :: fields) (some x, draft) =
      Reader.fail (.duplicateField field.name) := by
  funext bytes
  rw [readMember]
  exact if_pos hKey

/- A field that was not met is read behind the colon. -/
theorem readMember_cons_none
    (depth : Nat)
    {key : String}
    {field : Field}
    (hKey : key = field.name)
    (fields : List Field)
    (draft : Draft fields) :
    readMember depth key (field :: fields) (none, draft) =
      colon.andThen fun _ =>
        (field.kind.read depth).map fun x => (some x, draft) := by
  funext bytes
  simp only [readMember, Reader.andThen, Reader.map, if_pos hKey, bind,
    Except.bind]
  rcases colon bytes with e | ⟨done, front⟩
  · rfl
  dsimp only
  rcases field.kind.read depth front with e | ⟨x, rest⟩ <;> rfl

/- A field with another name is passed over. -/
theorem readMember_cons_of_ne
    (depth : Nat)
    {key : String}
    {field : Field}
    (hKey : key ≠ field.name)
    (fields : List Field)
    (met : Option field.kind.Carrier)
    (draft : Draft fields) :
    readMember depth key (field :: fields) (met, draft) =
      (readMember depth key fields draft).map (met, ·) := by
  funext bytes
  rw [readMember]
  simp only [Reader.map, if_neg hKey, bind, Except.bind]
  rcases readMember depth key fields draft bytes with
    e | ⟨next, rest⟩ <;> rfl

/-
  A reader whose values stand for what is read straight: fields
  take from the bytes what they take from such a value, and
  skipping leaves what it leaves.
-/
structure Reader.StandsFor
    (depth : Nat)
    (fields : List Field)
    (item : Reader Json) :
    Prop where
  read : ∀ field ∈ fields, ∀ ⦃front : List UInt8⦄ ⦃v : Json⦄
    ⦃after : List UInt8⦄, item front = .ok (v, after) →
      ∀ (x : field.kind.Carrier) (rest : List UInt8),
        field.kind.read depth front = .ok (x, rest) ↔
          rest = after ∧ field.kind.ofJson v = .ok x
  skip : ∀ ⦃front : List UInt8⦄ ⦃v : Json⦄ ⦃after : List UInt8⦄,
    item front = .ok (v, after) → Json.skip front = .ok ((), after)

/- What is read at no greater depth stands for it. -/
theorem standsFor_value
    {depth depth' : Nat}
    (hDepth : depth' ≤ depth)
    (fields : List Field) :
    (value depth').StandsFor depth fields where
  read := fun _ _ _ _ _ hValue _ _ => Kind.read_eq_ok_iff hDepth hValue
  skip := fun _ _ _ hValue => skip_of_value hValue

/-
  What stands for some fields stands for those behind the
  first.
-/
theorem Reader.StandsFor.of_cons
    {depth : Nat}
    {field : Field}
    {fields : List Field}
    {item : Reader Json}
    (hItem : item.StandsFor depth (field :: fields)) :
    item.StandsFor depth fields where
  read := fun other hOther =>
    hItem.read other (List.mem_cons_of_mem _ hOther)
  skip := hItem.skip

/-
  A member is read straight if its field was not met and what
  stands for its value is of its kind.
-/
theorem readMember_eq_ok_iff
    {depth : Nat}
    {item : Reader Json}
    {key : String}
    {behind front after rest : List UInt8}
    {v : Json}
    (hColon : colon behind = .ok ((), front))
    (hValue : item front = .ok (v, after))
    {fields : List Field}
    (hItem : item.StandsFor depth fields)
    {draft next : Draft fields} :
    readMember depth key fields draft behind = .ok (next, rest) ↔
      rest = after ∧ Unmet key fields draft ∧
        draftMember key v fields draft = .ok next := by
  induction fields with
  | nil =>
      rw [readMember_nil, Reader.andThen_of_eq_ok hColon,
        hItem.skip hValue]
      simp [Unmet, draftMember, eq_comm]
  | cons field fields ih =>
      rcases draft with ⟨met, draft⟩
      rcases next with ⟨met', next⟩
      rw [Unmet, draftMember]
      by_cases hKey : key = field.name
      · rw [if_pos hKey, if_pos hKey]
        cases met with
        | some x => simp [readMember_cons_some depth hKey, Reader.fail]
        | none =>
            rw [readMember_cons_none depth hKey,
              Reader.andThen_of_eq_ok hColon, Reader.map_eq_ok_iff]
            simp only [hItem.read field List.mem_cons_self hValue]
            cases field.kind.ofJson v with
            | error e => simp
            | ok x => simp [and_assoc]
      · rw [if_neg hKey, if_neg hKey, readMember_cons_of_ne depth hKey,
          Reader.map_eq_ok_iff]
        simp only [ih hItem.of_cons]
        cases draftMember key v fields draft with
        | error e => simp
        | ok left => simp [and_assoc]

/-
  A value of a kind takes the same bytes whatever stands
  behind them.
-/
theorem Kind.framed_read
    (kind : Kind)
    (depth : Nat) :
    (kind.read depth).Framed := by
  have hScalar : (scalar kind.describe kind.ofJson).Framed :=
    Reader.Framed.convert
      (framed_anyForm
        (framed_valueForms (Reader.framed_fail _) (Reader.framed_fail _))) _
  cases kind with
  | id => exact (framed_value depth).convert _
  | text => exact hScalar
  | optionalText => exact hScalar
  | size => exact hScalar
  | flag => exact hScalar
  | score => exact hScalar

theorem framed_readMember
    (depth : Nat)
    (key : String)
    {fields : List Field}
    (draft : Draft fields) :
    (readMember depth key fields draft).Framed := by
  induction fields with
  | nil =>
      rw [readMember_nil]
      exact framed_colon.andThen fun _ => framed_skip
  | cons field fields ih =>
      rcases draft with ⟨met, draft⟩
      by_cases hKey : key = field.name
      · cases met with
        | some x =>
            rw [readMember_cons_some depth hKey]
            exact Reader.framed_fail _
        | none =>
            rw [readMember_cons_none depth hKey]
            exact framed_colon.andThen fun _ =>
              (field.kind.framed_read depth).map _
      · rw [readMember_cons_of_ne depth hKey]
        exact (ih draft).map _

end SiteSearch.Json

------------------------------------------------------------
-- Objects
------------------------------------------------------------

namespace SiteSearch.Json

/-
  A member of an object whose fields are known, behind its
  first quote.
-/
def fieldStep
    (depth : Nat)
    (fields : List Field)
    (draft : Draft fields) :
    Reader (Draft fields) :=
  text.andThen fun key => readMember depth key fields draft

theorem framed_fieldStep
    (depth : Nat)
    {fields : List Field}
    (draft : Draft fields) :
    (fieldStep depth fields draft).Framed :=
  framed_text.andThen fun key => framed_readMember depth key draft

/-
  A member goes into a draft straight if what stands for it
  does.
-/
theorem fieldStep_eq_ok_iff
    {depth : Nat}
    {fields : List Field}
    {item : Reader Json}
    (hItem : item.StandsFor depth fields)
    {key : String}
    {v : Json}
    {bytes rest : List UInt8}
    (hMember : quoted (keyed item) bytes = .ok ((key, v), rest))
    {draft next : Draft fields}
    {left : List UInt8} :
    quoted (fieldStep depth fields draft) bytes = .ok (next, left) ↔
      left = rest ∧ Unmet key fields draft ∧
        draftMember key v fields draft = .ok next := by
  rcases quoted_eq_ok_iff.mp hMember with ⟨tail, rfl, hKeyed⟩
  rcases keyed_eq_ok_iff.mp hKeyed with
    ⟨behind, inner, hKey, hColon, hValue⟩
  rw [← readMember_eq_ok_iff hColon hValue hItem]
  change (text tail >>= _) = _ ↔ _
  rw [hKey]
  rfl

/-
  Members are folded into a draft straight if what stands for
  them is, and there is room for them.
-/
theorem folded_fieldStep_iff
    {depth : Nat}
    {fields : List Field}
    (hNames : (fields.map Field.name).Nodup)
    {item : Reader Json}
    (hItem : item.StandsFor depth fields)
    {isFirst : Bool}
    {bytes after rest : List UInt8}
    {named : List (String × Json)}
    (hNamed : Listed (byte '}') (quoted (keyed item)) isFirst
      bytes named after)
    {draft last : Draft fields} :
    Folded (byte '}')
        (fun draft => quoted (fieldStep depth fields draft))
        isFirst draft bytes last rest ↔
      rest = after ∧ Room (named.map Prod.fst) fields draft ∧
        draftMembers fields named draft = .ok last := by
  induction hNamed generalizing draft with
  | @close isFirst bytes after hClose =>
      constructor
      · intro hFolded
        cases hFolded with
        | close hClose' =>
            rw [hClose, List.cons.injEq] at hClose'
            exact ⟨hClose'.2.symm, room_nil fields _, rfl⟩
        | item hAhead hStep hMore =>
            exact absurd hClose (hAhead.not_close (by decide))
      · rintro ⟨rfl, -, hDraft⟩
        cases hDraft
        exact .close hClose
  | @item isFirst entry named bytes front between after hAhead
    hEntry hMore ih =>
      rcases entry with ⟨key, v⟩
      rw [List.map_cons, draftMembers_cons_eq_ok_iff]
      constructor
      · intro hFolded
        cases hFolded with
        | close hClose =>
            exact absurd hClose (hAhead.not_close (by decide))
        | item hAhead' hRead hMore' =>
            rw [← hAhead.unique hAhead'] at hRead
            rcases (fieldStep_eq_ok_iff hItem hEntry).mp hRead with
              ⟨rfl, hUnmet, hMember⟩
            rcases ih.mp hMore' with ⟨rfl, hRoom, hDraft⟩
            exact ⟨rfl,
              (room_cons_iff hNames hMember).mpr ⟨hUnmet, hRoom⟩, _,
              hMember, hDraft⟩
      · rintro ⟨rfl, hRoom, next, hMember, hDraft⟩
        rcases (room_cons_iff hNames hMember).mp hRoom with
          ⟨hUnmet, hRest⟩
        have hStep := (fieldStep_eq_ok_iff hItem hEntry).mpr
          ⟨rfl, hUnmet, hMember⟩
        exact .item hAhead hStep (ih.mpr ⟨rfl, hRest, hDraft⟩)

end SiteSearch.Json

namespace SiteSearch.Json

/-
  An object is read straight by folding its members into a
  draft.
-/
theorem readObject_iff_folded
    {depth : Nat}
    {schema : Schema}
    {bytes rest : List UInt8}
    {values : Values schema.fields} :
    schema.readObject depth bytes = .ok (values, rest) ↔
      ∃ draft,
        Folded (byte '}')
          (fun draft =>
            quoted (fieldStep depth schema.fields draft)) true
          (emptyDraft schema.fields) bytes draft rest ∧
        complete schema.fields draft = .ok values := by
  have hStep : ∀ draft,
      (quoted (fieldStep depth schema.fields draft)).Consuming :=
    fun draft =>
      consuming_quoted (framed_fieldStep depth draft).shrinking
  simp only [← @members_eq_ok_iff _ kept _ hStep]
  rw [Schema.readObject]
  change (members kept (fieldStep depth schema.fields)
    (emptyDraft schema.fields) bytes >>= _) = _ ↔ _
  rw [bind_eq_ok_iff]
  constructor
  · rintro ⟨⟨draft, left⟩, hRead, hOk⟩
    rcases bind_eq_ok_iff.mp hOk with ⟨_, hComplete, hPure⟩
    cases hPure
    exact ⟨draft, hRead, hComplete⟩
  · rintro ⟨draft, hRead, hComplete⟩
    exact ⟨(draft, rest), hRead,
      bind_eq_ok_iff.mpr ⟨values, hComplete, rfl⟩⟩

/-
  An object is read straight if what stands for its members
  holds the fields and names none of them twice.
-/
theorem readObject_eq_ok_iff
    {depth : Nat}
    {schema : Schema}
    (hNames : (schema.fields.map Field.name).Nodup)
    {item : Reader Json}
    (hItem : item.StandsFor depth schema.fields)
    {bytes after rest : List UInt8}
    {named : List (String × Json)}
    (hNamed : Listed (byte '}') (quoted (keyed item)) true
      bytes named after)
    {values : Values schema.fields} :
    schema.readObject depth bytes = .ok (values, rest) ↔
      rest = after ∧
        (∀ field ∈ schema.fields,
          (named.map Prod.fst).count field.name ≤ 1) ∧
        schema.ofJson (.object (membersOf named)) = .ok values := by
  have hDrafts : ∀ hOnce : ∀ field ∈ schema.fields,
      (named.map Prod.fst).count field.name ≤ 1,
      schema.ofJson (.object (membersOf named)) = .ok values ↔
        ∃ draft, draftMembers schema.fields named
            (emptyDraft schema.fields) = .ok draft ∧
          complete schema.fields draft = .ok values := by
    intro hOnce
    simp only [← draftMembers_membersOf hNames hOnce]
    exact Schema.ofJson_object_eq_ok_iff
  rw [readObject_iff_folded]
  simp only [folded_fieldStep_iff hNames hItem hNamed,
    room_emptyDraft_iff]
  constructor
  · rintro ⟨draft, ⟨rfl, hOnce, hDraft⟩, hComplete⟩
    exact ⟨rfl, hOnce, (hDrafts hOnce).mpr ⟨draft, hDraft, hComplete⟩⟩
  · rintro ⟨rfl, hOnce, hValues⟩
    rcases (hDrafts hOnce).mp hValues with ⟨draft, hDraft, hComplete⟩
    exact ⟨draft, ⟨rfl, hOnce, hDraft⟩, hComplete⟩

end SiteSearch.Json

------------------------------------------------------------
-- Arrays
------------------------------------------------------------

namespace SiteSearch.Json

/- At the bracket no element follows. -/
theorem another_of_close
    (isFirst : Bool)
    {bytes rest : List UInt8}
    (hClose : skipSpace bytes = byte ']' :: rest) :
    another isFirst bytes = .ok (false, byte ']' :: rest) := by
  rw [another, hClose]
  exact if_pos rfl

/- Where an item is ahead another element follows. -/
theorem another_of_ahead
    {isFirst : Bool}
    {bytes front : List UInt8}
    (hAhead : Ahead (byte ']') isFirst bytes front) :
    another isFirst bytes = .ok (true, front) := by
  cases hAhead with
  | first hFront hItem =>
      rw [another, hFront]
      dsimp only
      rw [if_neg hItem, if_pos rfl]
  | next hComma hFront hItem =>
      rw [another, hComma]
      dsimp only
      rw [if_neg (by decide), if_neg (by decide), if_pos rfl, hFront]
      exact if_neg hItem

/- There is nothing else to find. -/
theorem another_cases
    {isFirst follows : Bool}
    {bytes front : List UInt8}
    (hRead : another isFirst bytes = .ok (follows, front)) :
    (follows = true ∧ Ahead (byte ']') isFirst bytes front) ∨
      (follows = false ∧ skipSpace bytes = front ∧
        ∃ rest, front = byte ']' :: rest) := by
  unfold another at hRead
  cases hSkip : skipSpace bytes with
  | nil =>
      rw [hSkip] at hRead
      cases hRead
  | cons b behind =>
      rw [hSkip] at hRead
      dsimp only at hRead
      split_ifs at hRead with hClose hFirst hComma
      · cases hRead
        exact Or.inr ⟨rfl, rfl, behind, by rw [hClose]⟩
      · cases hRead
        rw [hFirst]
        exact Or.inl ⟨rfl, .first hSkip hClose⟩
      · rw [hComma] at hSkip
        rw [Bool.not_eq_true] at hFirst
        cases hFront : skipSpace behind with
        | nil =>
            rw [hFront] at hRead
            cases hRead
        | cons c left =>
            rw [hFront] at hRead
            dsimp only at hRead
            split_ifs at hRead with hEnd
            cases hRead
            rw [hFirst]
            exact Or.inl ⟨rfl, .next hSkip hFront hEnd⟩

/- An array is closed by its bracket alone. -/
theorem closing_eq_ok_iff
    {bytes rest : List UInt8} :
    closing bytes = .ok ((), rest) ↔
      skipSpace bytes = byte ']' :: rest := by
  unfold closing
  cases hSkip : skipSpace bytes with
  | nil => simp
  | cons b left =>
      by_cases hClose : b = byte ']'
      · simp [hClose]
      · dsimp only
        rw [if_neg hClose]
        constructor
        · intro hRead
          split_ifs at hRead
          cases hLeft : skipSpace left with
          | nil =>
              rw [hLeft] at hRead
              cases hRead
          | cons c more =>
              rw [hLeft] at hRead
              cases hRead
        · intro hSame
          rw [List.cons.injEq] at hSame
          exact absurd hSame.1 hClose

/-
  A field is read from the next element, or else takes its
  default.
-/
theorem readElements_cons_eq_ok_iff
    {depth : Nat}
    {tooShort : Nat → Error}
    {index : Nat}
    {field : Field}
    {fields : List Field}
    {bytes rest : List UInt8}
    {x : field.kind.Carrier}
    {values : Values fields} :
    readElements depth tooShort index (field :: fields) bytes =
        .ok ((x, values), rest) ↔
      ∃ follows front behind,
        another (index == 0) bytes = .ok (follows, front) ∧
          (if follows then field.kind.read depth front = .ok (x, behind)
            else field.default? = some x ∧ behind = front) ∧
          readElements depth tooShort (index + 1) fields behind =
            .ok (values, rest) := by
  rw [readElements, bind_eq_ok_iff]
  constructor
  · rintro ⟨⟨follows, front⟩, hAnother, hFirst⟩
    cases follows with
    | true =>
        rcases bind_eq_ok_iff.mp hFirst with ⟨⟨y, behind⟩, hKind, hRest⟩
        rcases bind_eq_ok_iff.mp hRest with
          ⟨⟨others, left⟩, hValues, hPure⟩
        cases hPure
        exact ⟨true, front, behind, hAnother, hKind, hValues⟩
    | false =>
        dsimp only at hFirst
        cases hDefault : field.default? with
        | none =>
            rw [hDefault] at hFirst
            cases hFirst
        | some y =>
            rw [hDefault] at hFirst
            rcases bind_eq_ok_iff.mp hFirst with
              ⟨⟨others, left⟩, hValues, hPure⟩
            cases hPure
            exact ⟨false, front, front, hAnother, ⟨rfl, rfl⟩, hValues⟩
  · rintro ⟨follows, front, behind, hAnother, hFirst, hValues⟩
    refine ⟨(follows, front), hAnother, ?_⟩
    cases follows with
    | true =>
        exact bind_eq_ok_iff.mpr ⟨(x, behind), hFirst,
          bind_eq_ok_iff.mpr ⟨(values, rest), hValues, rfl⟩⟩
    | false =>
        rcases hFirst with ⟨hDefault, rfl⟩
        dsimp only
        rw [hDefault]
        exact bind_eq_ok_iff.mpr ⟨(values, rest), hValues, rfl⟩

/-
  The first field takes the first element if this is of its
  kind.
-/
theorem elementsOf_cons_eq_ok_iff
    {tooShort : Nat → Error}
    {index : Nat}
    {field : Field}
    {fields : List Field}
    {item : Json}
    {items left : List Json}
    {x : field.kind.Carrier}
    {values : Values fields} :
    elementsOf tooShort index (field :: fields) (item :: items) =
        .ok ((x, values), left) ↔
      field.kind.ofJson item = .ok x ∧
        elementsOf tooShort (index + 1) fields items =
          .ok (values, left) := by
  rw [elementsOf]
  rcases field.kind.ofJson item with e | y
  · simp
  · rcases elementsOf tooShort (index + 1) fields items with
      e | ⟨values', left'⟩
    · simp
    · simp [and_assoc]

/- Where no element is left the first field takes its default. -/
theorem elementsOf_nil_eq_ok_iff
    {tooShort : Nat → Error}
    {index : Nat}
    {field : Field}
    {fields : List Field}
    {left : List Json}
    {x : field.kind.Carrier}
    {values : Values fields} :
    elementsOf tooShort index (field :: fields) [] =
      .ok ((x, values), left) ↔
      field.default? = some x ∧
        elementsOf tooShort (index + 1) fields [] =
          .ok (values, left) := by
  rw [elementsOf]
  rcases field.default? with _ | y
  · simp
  · rcases elementsOf tooShort (index + 1) fields [] with
      e | ⟨values', left'⟩
    · simp
    · simp [and_assoc]

/- Without fields there are no elements up to the bracket. -/
theorem readElements_nil_iff
    (depth : Nat)
    {depth' : Nat}
    {tooShort : Nat → Error}
    {index : Nat}
    {isFirst : Bool}
    {bytes after rest : List UInt8}
    {items : List Json}
    (hItems :
      Listed (byte ']') (value depth') isFirst bytes items after)
    {values : Values []} :
    (∃ left, readElements depth tooShort index [] bytes =
          .ok (values, left) ∧
        skipSpace left = byte ']' :: rest) ↔
      rest = after ∧
        elementsOf tooShort index [] items = .ok (values, []) := by
  have hBracket : (∃ left, readElements depth tooShort index [] bytes =
        .ok (values, left) ∧ skipSpace left = byte ']' :: rest) ↔
      skipSpace bytes = byte ']' :: rest := by
    simp [readElements]
  rw [hBracket, elementsOf]
  cases hItems with
  | close hClose => simp [hClose, eq_comm]
  | item hAhead hItem hMore =>
      constructor
      · intro hClose
        exact absurd hClose (hAhead.not_close (by decide))
      · rintro ⟨-, hNone⟩
        cases hNone

/-
  Elements are read straight up to the bracket if the generic
  values are those of the fields, and no more are there.
-/
theorem readElements_iff
    {depth depth' : Nat}
    (hDepth : depth' ≤ depth)
    {tooShort : Nat → Error}
    {fields : List Field}
    {index : Nat}
    {bytes after rest : List UInt8}
    {items : List Json}
    (hItems : Listed (byte ']') (value depth') (index == 0)
      bytes items after)
    {values : Values fields} :
    (∃ left, readElements depth tooShort index fields bytes =
          .ok (values, left) ∧
        skipSpace left = byte ']' :: rest) ↔
      rest = after ∧
        elementsOf tooShort index fields items = .ok (values, []) := by
  induction fields generalizing index bytes items with
  | nil => exact readElements_nil_iff depth hItems
  | cons field fields ih =>
      rcases values with ⟨x, values⟩
      -- Every later element stands behind a comma.
      have hLater : (index + 1 == 0) = false := by simp
      generalize hFirst : (index == 0) = isFirst at hItems
      cases hItems with
      | close hClose =>
          have hEnd : Listed (byte ']') (value depth') (index + 1 == 0)
              (byte ']' :: after) [] after := .close (by rfl)
          have hFound := another_of_close (index == 0) hClose
          rw [elementsOf_nil_eq_ok_iff, ← and_left_comm, ← ih hEnd]
          constructor
          · rintro ⟨left, hRead, hLeft⟩
            rcases readElements_cons_eq_ok_iff.mp hRead with
              ⟨_, _, _, hAnother, hTaken, hValues⟩
            cases hFound.symm.trans hAnother
            rcases hTaken with ⟨hDefault, rfl⟩
            exact ⟨hDefault, left, hValues, hLeft⟩
          · rintro ⟨hDefault, left, hValues, hLeft⟩
            exact ⟨left, readElements_cons_eq_ok_iff.mpr
              ⟨false, _, _, hFound, ⟨hDefault, rfl⟩, hValues⟩, hLeft⟩
      | item hAhead hItem hMore =>
          rw [← hLater] at hMore
          subst hFirst
          have hFound := another_of_ahead hAhead
          rw [elementsOf_cons_eq_ok_iff, ← and_left_comm, ← ih hMore]
          constructor
          · rintro ⟨left, hRead, hLeft⟩
            rcases readElements_cons_eq_ok_iff.mp hRead with
              ⟨_, _, _, hAnother, hTaken, hValues⟩
            cases hFound.symm.trans hAnother
            rcases (Kind.read_eq_ok_iff hDepth hItem).mp hTaken with
              ⟨rfl, hKind⟩
            exact ⟨hKind, left, hValues, hLeft⟩
          · rintro ⟨hKind, left, hValues, hLeft⟩
            have hTaken := (Kind.read_eq_ok_iff hDepth hItem).mpr
              ⟨rfl, hKind⟩
            exact ⟨left, readElements_cons_eq_ok_iff.mpr
              ⟨true, _, _, hFound, hTaken, hValues⟩, hLeft⟩

/-
  An array is read straight up to the bracket behind its
  elements.
-/
theorem readArray_iff_elements
    {depth : Nat}
    {schema : Schema}
    {bytes rest : List UInt8}
    {values : Values schema.fields} :
    schema.readArray depth bytes = .ok (values, rest) ↔
      ∃ left,
        readElements depth (.wrongLength · schema.describeArray) 0
          schema.fields bytes = .ok (values, left) ∧
        skipSpace left = byte ']' :: rest := by
  rw [Schema.readArray, bind_eq_ok_iff]
  constructor
  · rintro ⟨⟨values', left⟩, hRead, hOk⟩
    rcases bind_eq_ok_iff.mp hOk with ⟨⟨_, after⟩, hClose, hPure⟩
    cases hPure
    exact ⟨left, hRead, closing_eq_ok_iff.mp hClose⟩
  · rintro ⟨left, hRead, hClose⟩
    exact ⟨(values, left), hRead, bind_eq_ok_iff.mpr
      ⟨((), rest), closing_eq_ok_iff.mpr hClose, rfl⟩⟩

/-
  An array is read straight if its generic value holds the
  fields.
-/
theorem readArray_eq_ok_iff
    {depth depth' : Nat}
    (hDepth : depth' ≤ depth)
    (schema : Schema)
    {bytes after rest : List UInt8}
    {items : List Json}
    (hItems : Listed (byte ']') (value depth') true bytes items after)
    {values : Values schema.fields} :
    schema.readArray depth bytes = .ok (values, rest) ↔
      rest = after ∧ schema.ofJson (.array items) = .ok values := by
  have hFirst : Listed (byte ']') (value depth') ((0 : Nat) == 0) bytes
      items after := hItems
  rw [readArray_iff_elements, readElements_iff hDepth hFirst,
    Schema.ofJson_array_eq_ok_iff]

end SiteSearch.Json

------------------------------------------------------------
-- Schemas
------------------------------------------------------------

namespace SiteSearch.Json

/- Fields are read behind an opening bracket or brace. -/
theorem Schema.read_cases
    {schema : Schema}
    {bytes rest : List UInt8}
    {values : Values schema.fields}
    (hRead : schema.read bytes = .ok (values, rest)) :
    ∃ front,
      (skipSpace bytes = byte '[' :: front ∧
        schema.readArray (depthLimit - 1) front = .ok (values, rest)) ∨
      (skipSpace bytes = byte '{' :: front ∧
        schema.readObject (depthLimit - 1) front =
          .ok (values, rest)) := by
  unfold Schema.read at hRead
  cases hSkip : skipSpace bytes with
  | nil =>
      rw [hSkip] at hRead
      cases hRead
  | cons b front =>
      rw [hSkip] at hRead
      dsimp only at hRead
      split_ifs at hRead with hArray hObject
      · exact ⟨front, Or.inl ⟨by rw [hArray], hRead⟩⟩
      · exact ⟨front, Or.inr ⟨by rw [hObject], hRead⟩⟩
      · rcases bind_eq_ok_iff.mp hRead with ⟨result, -, hConvert⟩
        cases hConvert

/- Behind a bracket an array is read. -/
theorem Schema.read_of_bracket
    (schema : Schema)
    {bytes front : List UInt8}
    (hBracket : skipSpace bytes = byte '[' :: front) :
    schema.read bytes = schema.readArray (depthLimit - 1) front := by
  rw [Schema.read, hBracket]
  exact if_pos rfl

/- Behind a brace an object is read. -/
theorem Schema.read_of_brace
    (schema : Schema)
    {bytes front : List UInt8}
    (hBrace : skipSpace bytes = byte '{' :: front) :
    schema.read bytes = schema.readObject (depthLimit - 1) front := by
  rw [Schema.read, hBrace]
  dsimp only
  rw [if_neg (by decide), if_pos rfl]

/-
  The values of a schema are read straight from a text if its
  generic value holds them and the text is no object that
  names a field twice.
-/
theorem Schema.read_eq_ok_iff
    {schema : Schema}
    (hNames : (schema.fields.map Field.name).Nodup)
    {depth : Nat}
    (hDepth : depth ≤ depthLimit)
    {bytes after rest : List UInt8}
    {v : Json}
    (hValue : value depth bytes = .ok (v, after))
    {values : Values schema.fields} :
    schema.read bytes = .ok (values, rest) ↔
      rest = after ∧
        (∀ field ∈ schema.fields, (keysOf bytes).count field.name ≤ 1) ∧
        schema.ofJson v = .ok values := by
  rcases value_cases hValue with
    ⟨hLeaf, b, front, hSkip, hArray, hObject⟩
    | ⟨d, rfl, front, ⟨hSkip, items, hItems, rfl⟩
      | ⟨hSkip, named, hNamed, rfl⟩⟩
  · constructor
    · intro hRead
      rcases Schema.read_cases hRead with
        ⟨front', ⟨hSkip', -⟩ | ⟨hSkip', -⟩⟩
      · rw [hSkip, List.cons.injEq] at hSkip'
        exact absurd hSkip'.1 hArray
      · rw [hSkip, List.cons.injEq] at hSkip'
        exact absurd hSkip'.1 hObject
    · rintro ⟨-, -, hOk⟩
      cases v with
      | array items => cases hLeaf
      | object members => cases hLeaf
      | null => cases hOk
      | bool flag => cases hOk
      | number n => cases hOk
      | string text => cases hOk
  · have hKeys : keysOf bytes = [] := by
      unfold keysOf
      rw [hSkip]
      exact if_neg (by decide)
    rw [schema.read_of_bracket hSkip,
      readArray_eq_ok_iff (Nat.le_sub_one_of_lt hDepth) schema
        hItems, hKeys]
    simp
  · rw [schema.read_of_brace hSkip, keysOf_eq hSkip hNamed,
      readObject_eq_ok_iff hNames
        (standsFor_value (Nat.le_sub_one_of_lt hDepth) _) hNamed]

end SiteSearch.Json

------------------------------------------------------------
-- More Bytes Behind a Text
------------------------------------------------------------

namespace SiteSearch.Json

variable {more : List UInt8}

theorem indifferent_another
    (isFirst : Bool) :
    (another isFirst).Indifferent more := by
  intro bytes follows front hRead
  rcases another_cases hRead with
    ⟨rfl, hAhead⟩ | ⟨rfl, hClose, rest, rfl⟩
  · exact another_of_ahead (hAhead.append more)
  · exact another_of_close isFirst (skipSpace_append hClose more)

theorem indifferent_readElements
    (hMore : ∀ b ∈ more.head?, isNumeric b = false)
    (depth : Nat)
    (tooShort : Nat → Error)
    (index : Nat)
    (fields : List Field) :
    (readElements depth tooShort index fields).Indifferent more := by
  induction fields generalizing index with
  | nil =>
      intro bytes values rest hRead
      cases hRead
      rfl
  | cons field fields ih =>
      rintro bytes ⟨x, values⟩ rest hRead
      rcases readElements_cons_eq_ok_iff.mp hRead with
        ⟨follows, front, behind, hAnother, hFirst, hValues⟩
      refine readElements_cons_eq_ok_iff.mpr
        ⟨follows, front ++ more, behind ++ more,
          indifferent_another _ hAnother, ?_, ih (index + 1) hValues⟩
      cases follows with
      | true =>
          exact (field.kind.framed_read depth).indifferent hMore hFirst
      | false => exact ⟨hFirst.1, by rw [hFirst.2]⟩

/-
  A schema is read straight from a text alike with more bytes
  behind the text.
-/
theorem Schema.indifferent_read
    (hMore : ∀ b ∈ more.head?, isNumeric b = false)
    (schema : Schema) :
    schema.read.Indifferent more := by
  intro bytes values rest hRead
  rcases Schema.read_cases hRead with
    ⟨front, ⟨hSkip, hArray⟩ | ⟨hSkip, hObject⟩⟩
  · rcases readArray_iff_elements.mp hArray with
      ⟨left, hElements, hClose⟩
    rw [schema.read_of_bracket (skipSpace_append hSkip more)]
    exact readArray_iff_elements.mpr
      ⟨left ++ more, indifferent_readElements hMore _ _ _ _ hElements,
        skipSpace_append hClose more⟩
  · rcases readObject_iff_folded.mp hObject with
      ⟨draft, hFolded, hComplete⟩
    rw [schema.read_of_brace (skipSpace_append hSkip more)]
    refine readObject_iff_folded.mpr
      ⟨draft, hFolded.append fun draft => ?_, hComplete⟩
    exact (framed_quoted (framed_fieldStep _ draft)).indifferent hMore

end SiteSearch.Json

------------------------------------------------------------
-- Bytes That Are Taken
------------------------------------------------------------

namespace SiteSearch.Json

end SiteSearch.Json

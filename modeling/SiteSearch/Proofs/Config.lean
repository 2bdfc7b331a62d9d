import SiteSearch.Config
import SiteSearch.Proofs.Json.Members

/-
  Configuration files that are objects.

  The settings of a configuration are read member by member,
  in any order and among others.  A file is refused if it
  names a setting twice, writes one as something else than it
  is, or has a name that stands for no text.  Any other holds
  what it writes, and defaults for the rest.

  Main declarations:
    * `SiteSearch.Config.Holds`
    * `SiteSearch.Config.IsTyped`
    * `SiteSearch.Config.settings`
    * `SiteSearch.Config.ofContent_object_iff`
    * `SiteSearch.Config.loads_members_in_any_order`
-/

------------------------------------------------------------
-- What Is Written
------------------------------------------------------------

namespace SiteSearch.Config

open Json

/- The keys of the settings. -/
def keys : List String :=
  ["dataUrl", "inputId", "resultsId", "limit", "showParent"]

/- A setting is what is written for it, or else its default. -/
def IsSetting
    {α : Type}
    (isWritten : List Char → α → Prop)
    (default : α)
    (written : Option (List Char))
    (x : α) :
    Prop :=
  match written with
  | none => x = default
  | some chars => isWritten chars x

/- Some characters are the word for a flag. -/
def IsFlag
    (chars : List Char)
    (flag : Bool) :
    Prop :=
  chars = flagChars flag

/-
  A configuration that holds what is written, and defaults
  for the rest.
-/
structure Holds
    (written : String → Option (List Char))
    (config : Config) :
    Prop where
  dataUrl : IsSetting IsText "/en.search-data.min.json"
    (written "dataUrl") config.dataUrl
  inputId : IsSetting IsText "gdoc-search-input"
    (written "inputId") config.inputId
  resultsId : IsSetting IsText "gdoc-search-results"
    (written "resultsId") config.resultsId
  limit : IsSetting IsInteger 10 (written "limit") config.limit
  showParent :
    IsSetting IsFlag true (written "showParent") config.showParent

/- What is written for a setting is of its type. -/
structure IsTyped
    (written : String → Option (List Char)) :
    Prop where
  dataUrl : ∀ chars ∈ written "dataUrl", ∃ url, IsText chars url
  inputId : ∀ chars ∈ written "inputId", ∃ id, IsText chars id
  resultsId : ∀ chars ∈ written "resultsId", ∃ id, IsText chars id
  limit : ∀ chars ∈ written "limit", ∃ n, IsInteger chars n
  showParent : ∀ chars ∈ written "showParent", ∃ flag, IsFlag chars flag

/- A setting has a value if what is written for it has one. -/
theorem exists_isSetting_iff
    {α : Type}
    {isWritten : List Char → α → Prop}
    {default : α}
    {written : Option (List Char)} :
    (∃ x, IsSetting isWritten default written x) ↔
      ∀ chars ∈ written, ∃ x, isWritten chars x := by
  cases written <;> simp [IsSetting]

/-
  All settings have values if what is written is of their
  types.
-/
theorem exists_holds_iff_isTyped
    {written : String → Option (List Char)} :
    (∃ config, Holds written config) ↔ IsTyped written := by
  constructor
  · rintro ⟨config, hHolds⟩
    exact {
      dataUrl := exists_isSetting_iff.mp ⟨_, hHolds.dataUrl⟩
      inputId := exists_isSetting_iff.mp ⟨_, hHolds.inputId⟩
      resultsId := exists_isSetting_iff.mp ⟨_, hHolds.resultsId⟩
      limit := exists_isSetting_iff.mp ⟨_, hHolds.limit⟩
      showParent := exists_isSetting_iff.mp ⟨_, hHolds.showParent⟩
    }
  · intro hTyped
    rcases exists_isSetting_iff.mpr hTyped.dataUrl with
      ⟨dataUrl, hDataUrl⟩
    rcases exists_isSetting_iff.mpr hTyped.inputId with
      ⟨inputId, hInputId⟩
    rcases exists_isSetting_iff.mpr hTyped.resultsId with
      ⟨resultsId, hResultsId⟩
    rcases exists_isSetting_iff.mpr hTyped.limit with ⟨limit, hLimit⟩
    rcases exists_isSetting_iff.mpr hTyped.showParent with
      ⟨showParent, hShowParent⟩
    exact ⟨⟨dataUrl, inputId, resultsId, limit, showParent⟩,
      hDataUrl, hInputId, hResultsId, hLimit, hShowParent⟩

end SiteSearch.Config

------------------------------------------------------------
-- What Is Loaded
------------------------------------------------------------

namespace SiteSearch.Config

open Json

/- A field takes what its setting is. -/
theorem takes_iff_isSetting
    {field : Json.Field}
    {default : field.kind.Carrier}
    (hDefault : field.default? = some default)
    {isWritten : List Char → field.kind.Carrier → Prop}
    {written : Option (List Char)}
    (hWritten : ∀ chars ∈ written, ∀ x,
      field.kind.ofJson (standIn chars) = .ok x ↔ isWritten chars x)
    {x : field.kind.Carrier} :
    field.Takes (written.map standIn) x ↔
      IsSetting isWritten default written x := by
  cases written with
  | none => simp [Json.Field.Takes, IsSetting, hDefault, eq_comm]
  | some chars => exact hWritten chars rfl x

/- The fields of a configuration take what it holds. -/
theorem given_iff_holds
    {written : String → Option (List Char)}
    (hValues : ∀ name, ∀ chars ∈ written name, IsValue chars)
    {values : Values fields} :
    AreGiven (fun name => (written name).map standIn) fields values ↔
      Holds written (ofValues values) := by
  rcases values with
    ⟨dataUrl, inputId, resultsId, limit, showParent, done⟩
  have hText : ∀ name, ∀ chars ∈ written name, ∀ s,
      Kind.ofJson .text (standIn chars) = .ok s ↔ IsText chars s :=
    fun name chars hChars _ =>
      ofJson_text_standIn_iff (hValues name chars hChars)
  have hSize : ∀ chars ∈ written "limit", ∀ n,
      Kind.ofJson .size (standIn chars) = .ok n ↔ IsInteger chars n :=
    fun chars hChars _ =>
      ofJson_size_standIn_iff (hValues _ chars hChars)
  have hFlag : ∀ chars ∈ written "showParent", ∀ flag,
      Kind.ofJson .flag (standIn chars) = .ok flag ↔
        IsFlag chars flag :=
    fun chars hChars _ =>
      ofJson_flag_standIn_iff (hValues _ chars hChars)
  have hDataUrl := @takes_iff_isSetting
    ⟨"dataUrl", .text, some standard.dataUrl⟩ _ rfl _ _ (hText "dataUrl")
      dataUrl
  have hInputId := @takes_iff_isSetting
    ⟨"inputId", .text, some standard.inputId⟩ _ rfl _ _ (hText "inputId")
      inputId
  have hResultsId := @takes_iff_isSetting
    ⟨"resultsId", .text, some standard.resultsId⟩ _ rfl _ _
      (hText "resultsId") resultsId
  have hLimit := @takes_iff_isSetting
    ⟨"limit", .size, some standard.limit⟩ _ rfl _ _ hSize limit
  have hShowParent := @takes_iff_isSetting
    ⟨"showParent", .flag, some standard.showParent⟩ _ rfl _ _ hFlag
      showParent
  constructor
  · rintro ⟨hUrl, hInput, hResults, hCount, hShow, -⟩
    exact ⟨hDataUrl.mp hUrl, hInputId.mp hInput, hResultsId.mp hResults,
      hLimit.mp hCount, hShowParent.mp hShow⟩
  · rintro ⟨hUrl, hInput, hResults, hCount, hShow⟩
    exact ⟨hDataUrl.mpr hUrl, hInputId.mpr hInput,
      hResultsId.mpr hResults, hLimit.mpr hCount,
      hShowParent.mpr hShow, trivial⟩

/- The content of a file that is a text is parsed. -/
theorem ofContent_ofText
    (path text : String) :
    ofContent path (.ok (Bytes.ofText text)) =
      (parse (Bytes.ofText text)).mapError (.invalid path) := by
  unfold ofContent
  dsimp only
  rw [Bytes.text?_ofText]
  cases parse (Bytes.ofText text) <;> rfl

/-
  A file that is an object is loaded as what it holds, if all
  its names are texts and it names no setting twice.
-/
theorem ofContent_object_iff
    (path : String)
    {text : String}
    {named : List (Option String × Member)}
    (hObject : IsObject named text.toList)
    {config : Config} :
    ofContent path (.ok (Bytes.ofText text)) = .ok config ↔
      none ∉ named.map Prod.fst ∧
        (∀ key ∈ keys, (named.map Prod.fst).count (some key) ≤ 1) ∧
        Holds (find named) config := by
  have hParse := @Schema.parse_object_iff schema (by decide) (by decide)
    named text.toList hObject
  rw [← ofText_eq_charBytes] at hParse
  have hLoad : ofContent path (.ok (Bytes.ofText text)) = .ok config ↔
      ∃ values, schema.parse (Bytes.ofText text) = .ok values ∧
        ofValues values = config := by
    rw [ofContent_ofText, parse]
    cases schema.parse (Bytes.ofText text) with
    | error e => simp [Except.map, Except.mapError]
    | ok values => simp [Except.map, Except.mapError]
  have hOnce : (∀ field ∈ schema.fields,
        (named.map Prod.fst).count (some field.name) ≤ 1) ↔
      ∀ key ∈ keys, (named.map Prod.fst).count (some key) ≤ 1 := by
    simp [keys]
  have hGiven := fun values => @given_iff_holds (find named)
    (fun name chars hFind => hObject.isValue_of_find hFind) values
  rw [hLoad]
  simp only [hParse, hOnce, hGiven]
  constructor
  · rintro ⟨values, ⟨hTexts, hKeys, hHolds⟩, rfl⟩
    exact ⟨hTexts, hKeys, hHolds⟩
  · rintro ⟨hTexts, hKeys, hHolds⟩
    exact ⟨(config.dataUrl, config.inputId, config.resultsId, config.limit,
      config.showParent, ()), ⟨hTexts, hKeys, hHolds⟩, rfl⟩

/- A file that is a text and is not loaded is invalid. -/
theorem exists_invalid_of_forall_ne
    {path text : String}
    (hNone : ∀ config, ofContent path (.ok (Bytes.ofText text)) ≠
      .ok config) :
    ∃ cause, ofContent path (.ok (Bytes.ofText text)) =
      .error (.invalid path cause) := by
  rw [ofContent_ofText] at hNone ⊢
  cases hParse : parse (Bytes.ofText text) with
  | error cause => exact ⟨cause, rfl⟩
  | ok config =>
      rw [hParse] at hNone
      exact absurd rfl (hNone config)

end SiteSearch.Config

------------------------------------------------------------
-- Order and Other Members
------------------------------------------------------------

namespace SiteSearch.Config

open Json

/-
  The members that are settings: their keys and what is
  written for them.
-/
def settings
    (named : List (Option String × Member)) :
    List (String × List Char) :=
  named.filterMap fun entry =>
    (entry.1.filter (· ∈ keys)).map (·, entry.2.value.chars)

variable {named named' : List (Option String × Member)}
variable {key : String}

/- A member is a setting, or is passed over. -/
theorem settings_cons
    (name : Option String)
    (member : Member)
    (named : List (Option String × Member)) :
    (∃ other ∈ keys, name = some other ∧
      settings ((name, member) :: named) =
        (other, member.value.chars) :: settings named) ∨
    (∀ other ∈ keys, name ≠ some other) ∧
      settings ((name, member) :: named) = settings named := by
  cases name with
  | none => exact Or.inr ⟨nofun, rfl⟩
  | some other =>
      by_cases hOther : other ∈ keys
      · exact Or.inl ⟨other, hOther, rfl, by simp [settings, hOther]⟩
      · refine Or.inr ⟨?_, by simp [settings, hOther]⟩
        rintro _ hKey ⟨⟩
        exact hOther hKey

/-
  A setting is among the settings as often as among all
  members.
-/
theorem count_settings
    (hKey : key ∈ keys) :
    ((settings named).map Prod.fst).count key =
      (named.map Prod.fst).count (some key) := by
  induction named with
  | nil => rfl
  | cons entry named ih =>
      rcases entry with ⟨name, member⟩
      rw [List.map_cons, List.count_cons, ← ih]
      rcases settings_cons name member named with
        ⟨other, -, rfl, hSettings⟩ | ⟨hOther, hSettings⟩
      · rw [hSettings, List.map_cons, List.count_cons]
        simp
      · rw [hSettings]
        simp [hOther key hKey]

/- What is written for a setting is found among the settings. -/
theorem lookup_settings
    (hKey : key ∈ keys) :
    (settings named).lookup key = find named key := by
  induction named with
  | nil => rfl
  | cons entry named ih =>
      rcases entry with ⟨name, member⟩
      rw [find] at ih ⊢
      rw [List.lookup_cons]
      rcases settings_cons name member named with
        ⟨other, -, rfl, hSettings⟩ | ⟨hOther, hSettings⟩
      · rw [hSettings, lookup_cons_eq_ite, ih]
        by_cases hSame : key = other
        · simp [hSame]
        · simp [hSame, beq_eq_false_iff_ne.mpr hSame]
      · rw [hSettings, ih,
          beq_eq_false_iff_ne.mpr (hOther key hKey).symm]

/- Settings with different keys are found whatever their order. -/
theorem lookup_eq_of_perm
    {pairs pairs' : List (String × List Char)}
    (hPerm : pairs.Perm pairs')
    (hNodup : (pairs.map Prod.fst).Nodup)
    (key : String) :
    pairs.lookup key = pairs'.lookup key := by
  have hNodup' : (pairs'.map Prod.fst).Nodup :=
    (hPerm.map Prod.fst).nodup_iff.mp hNodup
  ext chars
  rw [lookup_eq_some_iff_mem hNodup, lookup_eq_some_iff_mem hNodup',
    hPerm.mem_iff]

/- Settings have the keys of settings. -/
theorem mem_keys_of_mem_settings
    {setting : String × List Char}
    (hSetting : setting ∈ settings named) :
    setting.1 ∈ keys := by
  rcases List.mem_filterMap.mp hSetting with ⟨entry, -, hSome⟩
  rcases Option.map_eq_some_iff.mp hSome with ⟨other, hOther, rfl⟩
  exact of_decide_eq_true (Option.filter_eq_some_iff.mp hOther).2

/- The keys of the settings are distinct if none occurs twice. -/
theorem nodup_settings
    (hOnce : ∀ key ∈ keys, (named.map Prod.fst).count (some key) ≤ 1) :
    ((settings named).map Prod.fst).Nodup := by
  rw [List.nodup_iff_count_le_one]
  intro key
  by_cases hMember : key ∈ (settings named).map Prod.fst
  · rcases List.mem_map.mp hMember with ⟨setting, hSetting, rfl⟩
    have hKey := mem_keys_of_mem_settings hSetting
    rw [count_settings hKey]
    exact hOnce _ hKey
  · rw [List.count_eq_zero_of_not_mem hMember]
    exact Nat.zero_le 1

/-
  The same settings in another order are held by the same
  configurations.
-/
theorem holds_of_perm
    (hPerm : (settings named).Perm (settings named'))
    (hOnce : ∀ key ∈ keys, (named.map Prod.fst).count (some key) ≤ 1)
    {config : Config}
    (hHolds : Holds (find named) config) :
    Holds (find named') config := by
  have hFind : ∀ key ∈ keys, find named key = find named' key := by
    intro key hKey
    rw [← lookup_settings hKey, ← lookup_settings hKey]
    exact lookup_eq_of_perm hPerm (nodup_settings hOnce) key
  rcases hHolds with ⟨hUrl, hInput, hResults, hCount, hShow⟩
  rw [hFind _ (by simp [keys])] at hUrl hInput hResults hCount hShow
  exact ⟨hUrl, hInput, hResults, hCount, hShow⟩

/-
  Two files with the same settings, in any order and among any
  other members, are loaded alike.
-/
theorem ofContent_of_perm
    (path : String)
    {text text' : String}
    (hObject : IsObject named text.toList)
    (hObject' : IsObject named' text'.toList)
    (hTexts : none ∈ named.map Prod.fst ↔ none ∈ named'.map Prod.fst)
    (hPerm : (settings named).Perm (settings named'))
    {config : Config}
    (hLoad : ofContent path (.ok (Bytes.ofText text)) = .ok config) :
    ofContent path (.ok (Bytes.ofText text')) = .ok config := by
  rw [ofContent_object_iff path hObject] at hLoad
  rw [ofContent_object_iff path hObject']
  rcases hLoad with ⟨hNames, hOnce, hHolds⟩
  refine ⟨hTexts.not.mp hNames, ?_, holds_of_perm hPerm hOnce hHolds⟩
  intro key hKey
  rw [← count_settings hKey, ← (hPerm.map Prod.fst).count_eq,
    count_settings hKey]
  exact hOnce key hKey

/-
  What is loaded from a file that is an object.  If all names
  are texts and no setting occurs twice, a configuration is
  loaded exactly if each setting that is written has its type,
  and it holds what is written and defaults for the rest.
  Otherwise the file is invalid.  Neither the order of the
  members matters nor which other members there are.
-/
theorem loads_members_in_any_order
    (path : String)
    {text : String}
    {named : List (Option String × Member)}
    (hObject : IsObject named text.toList) :
    (none ∉ named.map Prod.fst →
      (∀ key ∈ keys, (named.map Prod.fst).count (some key) ≤ 1) →
        ((∃ config, ofContent path (.ok (Bytes.ofText text)) =
            .ok config) ↔
          IsTyped (find named)) ∧
        ∀ config,
          ofContent path (.ok (Bytes.ofText text)) = .ok config ↔
          Holds (find named) config) ∧
    (none ∈ named.map Prod.fst ∨
        (∃ key ∈ keys, 1 < (named.map Prod.fst).count (some key)) ∨
        ¬ IsTyped (find named) →
      ∃ cause, ofContent path (.ok (Bytes.ofText text)) =
        .error (.invalid path cause)) ∧
    ∀ text' named', IsObject named' text'.toList →
      (none ∈ named.map Prod.fst ↔ none ∈ named'.map Prod.fst) →
      (settings named).Perm (settings named') →
        ∀ config,
          ofContent path (.ok (Bytes.ofText text)) = .ok config ↔
          ofContent path (.ok (Bytes.ofText text')) = .ok config := by
  refine ⟨?_, ?_, ?_⟩
  · intro hNames hOnce
    have hLoads : ∀ config,
        ofContent path (.ok (Bytes.ofText text)) = .ok config ↔
          Holds (find named) config := by
      intro config
      rw [ofContent_object_iff path hObject, and_iff_right hNames,
        and_iff_right hOnce]
    refine ⟨?_, hLoads⟩
    simp only [hLoads]
    exact exists_holds_iff_isTyped
  · intro hWrong
    refine exists_invalid_of_forall_ne fun config hLoad => ?_
    rcases (ofContent_object_iff path hObject).mp hLoad with
      ⟨hNames, hOnce, hHolds⟩
    rcases hWrong with hName | ⟨key, hKey, hTwice⟩ | hType
    · exact hNames hName
    · exact absurd (hOnce key hKey) (not_le.mpr hTwice)
    · exact hType (exists_holds_iff_isTyped.mp ⟨config, hHolds⟩)
  · intro text' named' hObject' hTexts hPerm config
    exact ⟨ofContent_of_perm path hObject hObject' hTexts hPerm,
      ofContent_of_perm path hObject' hObject hTexts.symm hPerm.symm⟩

/- A string that is half a pair of surrogates. -/
def brokenChars : List Char :=
  ['"', '\\', 'u', 'd', '8', '0', '0', '"']

theorem isBody_broken : IsBody ['\\', 'u', 'd', '8', '0', '0'] :=
  @IsBody.code ['d', '8', '0', '0'] [] 0xD800
    (@IsCode.mk _ _ _ _ 13 8 0 0 (by decide) (by decide) (by decide)
      (by decide)) .nil

/- Half a pair of surrogates stands for no text. -/
theorem isName_broken : IsName brokenChars none := by
  have hRead : text
      (charBytes ['\\', 'u', 'd', '8', '0', '0'] ++ [byte '"']) =
      .error .endOfHexEscape := rfl
  refine .broken ⟨_, rfl, isBody_broken⟩ ?_
  rintro name ⟨body, hSame, hSpells⟩
  have hChars : ['\\', 'u', 'd', '8', '0', '0'] = body :=
    List.append_cancel_right (List.cons.inj hSame).2
  rw [← hChars] at hSpells
  rw [(text_iff_spells isBody_broken).mpr ⟨hSpells, rfl⟩] at hRead
  cases hRead

/- An array with a string that stands for no text. -/
def innerChars : List Char :=
  '[' :: (joined [] [⟨[], brokenChars, []⟩] ++ [']'])

/- In an array, it and a number that is out of range. -/
def deepChars : List Char :=
  '[' :: (joined [] [⟨[], innerChars, []⟩,
    ⟨[], ['1', 'e', '9', '9', '9'], []⟩] ++ [']'])

theorem isValue_deep : IsValue deepChars := by
  have hNumber : IsValue ['1', 'e', '9', '9', '9'] :=
    .number (@IsNumber.mk [] ['1'] [] ['e', '9', '9', '9'] (Or.inl rfl)
      ⟨by simp, Or.inr ⟨'1', [], rfl, by decide⟩⟩ .absent
      (@IsPower.digits 'e' [] ['9', '9', '9'] (Or.inl rfl) (Or.inl rfl)
        ⟨by simp, by simp⟩))
  have hInner : IsValue innerChars := by
    refine .array isGap_nil ?_ ?_
    · exact List.forall_mem_singleton.mpr ⟨isGap_nil, isGap_nil⟩
    · exact List.forall_mem_singleton.mpr
        (.string ⟨_, rfl, isBody_broken⟩)
  refine .array isGap_nil ?_ ?_
  · exact List.forall_mem_cons.mpr ⟨⟨isGap_nil, isGap_nil⟩,
      List.forall_mem_singleton.mpr ⟨isGap_nil, isGap_nil⟩⟩
  · exact List.forall_mem_cons.mpr
      ⟨hInner, List.forall_mem_singleton.mpr hNumber⟩

/- A text between quotes. -/
def quotedChars
    (text : String) :
    List Char :=
  '"' :: (text.toList ++ ['"'])

/- A member with a key that needs no escape, without space. -/
def plainMember
    (key : String)
    (chars : List Char) :
    Option String × Member :=
  (some key, ⟨⟨[], quotedChars key, []⟩, ⟨[], chars, []⟩⟩)

/- An object of such members. -/
theorem isObject_of_members
    {text : String}
    {pairs : List (String × List Char)}
    (hText : text.toList =
      '{' :: (joined [] ((pairs.map fun pair =>
        plainMember pair.1 pair.2).map (·.2.padded)) ++ ['}']))
    (hPlain : ∀ pair ∈ pairs, ∀ c ∈ pair.1.toList,
      c ≠ '"' ∧ c ≠ '\\' ∧ ¬ c < ' ')
    (hValues : ∀ pair ∈ pairs, IsValue pair.2) :
    IsObject (pairs.map fun pair => plainMember pair.1 pair.2)
      text.toList := by
  rw [hText, ← List.nil_append ('{' :: _), ← List.append_nil ([] ++ _)]
  refine .mk isGap_nil isGap_nil isGap_nil ?_ ?_ ?_
  · rw [List.forall_mem_map]
    exact fun _ _ => ⟨⟨isGap_nil, isGap_nil⟩, ⟨isGap_nil, isGap_nil⟩⟩
  · rw [List.forall_mem_map]
    exact fun pair hPair =>
      .spelled ⟨_, rfl, spells_of_plain (hPlain pair hPair)⟩
  · rw [List.forall_mem_map]
    exact hValues

/- Two settings, behind a member that no configuration has. -/
def scrambled : List (String × List Char) :=
  [("note", deepChars), ("limit", ['0']), ("showParent", flagChars false)]

def scrambledText : String :=
  "\x7b\"note\":[[\"\\ud800\"],1e999],\"limit\":0,\"showParent\":false\x7d"

/- The settings alone, in another order. -/
def sorted : List (String × List Char) :=
  [("showParent", flagChars false), ("limit", ['0'])]

def sortedText : String :=
  "\x7b\"showParent\":false,\"limit\":0\x7d"

/- A setting that occurs twice. -/
def repeated : List (String × List Char) :=
  [("limit", ['0']), ("note", deepChars), ("limit", ['0'])]

def repeatedText : String :=
  "\x7b\"limit\":0,\"note\":[[\"\\ud800\"],1e999],\"limit\":0\x7d"

theorem loads_members_in_any_order_of_scrambled :
    ofContent "config.json" (.ok (Bytes.ofText scrambledText)) =
        .ok { standard with limit := 0, showParent := false } ∧
      ofContent "config.json" (.ok (Bytes.ofText sortedText)) =
        .ok { standard with limit := 0, showParent := false } ∧
      ∃ cause, ofContent "config.json" (.ok (Bytes.ofText repeatedText)) =
        .error (.invalid "config.json" cause) := by
  have hZero : IsValue ['0'] :=
    .number (@IsNumber.mk [] ['0'] [] [] (Or.inl rfl) areWhole_zero
      .absent .absent)
  have hScrambled := @isObject_of_members scrambledText scrambled
    (by decide) (by simp [scrambled])
    (by simp [scrambled, isValue_deep, hZero, IsValue.bool])
  have hSorted := @isObject_of_members sortedText sorted
    (by decide) (by simp [sorted])
    (by simp [sorted, hZero, IsValue.bool])
  have hRepeated := @isObject_of_members repeatedText repeated
    (by decide) (by simp [repeated])
    (by simp [repeated, isValue_deep, hZero])
  rcases loads_members_in_any_order "config.json" hScrambled with
    ⟨hLoads, -, hSame⟩
  rcases loads_members_in_any_order "config.json" hRepeated with
    ⟨-, hRefuses, -⟩
  have hHolds :
      Holds (find (scrambled.map fun pair => plainMember pair.1 pair.2))
        { standard with limit := 0, showParent := false } :=
    ⟨rfl, rfl, rfl, ⟨areWhole_zero, rfl⟩, rfl⟩
  have hLoad := ((hLoads (by decide) (by decide)).2 _).mpr hHolds
  refine ⟨hLoad, ?_, ?_⟩
  · exact (hSame _ _ hSorted (by decide) (by decide) _).mp hLoad
  · exact hRefuses (Or.inr (Or.inl ⟨"limit", by decide, by decide⟩))

/-
  Not every object that writes the settings well is loaded: a
  name of any other member may stand for no text.
-/
theorem not_loads_every_typed_object :
    ¬ ∀ (path text : String) (named : List (Option String × Member)),
      IsObject named text.toList →
        (∀ key ∈ keys, (named.map Prod.fst).count (some key) ≤ 1) →
        IsTyped (find named) →
        ∃ config, ofContent path (.ok (Bytes.ofText text)) =
          .ok config := by
  intro hEvery
  let named : List (Option String × Member) :=
    [(none, ⟨⟨[], brokenChars, []⟩, ⟨[], ['n', 'u', 'l', 'l'], []⟩⟩)]
  have hObject : IsObject named "\x7b\"\\ud800\":null\x7d".toList :=
    @IsObject.mk named [] [] [] isGap_nil isGap_nil isGap_nil
      (List.forall_mem_singleton.mpr
        ⟨⟨isGap_nil, isGap_nil⟩, ⟨isGap_nil, isGap_nil⟩⟩)
      (List.forall_mem_singleton.mpr isName_broken)
      (List.forall_mem_singleton.mpr .null)
  rcases hEvery "config.json" _ named hObject (by decide)
      ⟨nofun, nofun, nofun, nofun, nofun⟩ with ⟨config, hLoad⟩
  exact ((ofContent_object_iff "config.json" hObject).mp hLoad).1
    (by decide)

end SiteSearch.Config

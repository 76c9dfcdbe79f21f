import Requisite.Proofs.Options.Reading

/-!
# Options from values

Which values are refused, and what the others make of the options. Only two keys can be wrong.
What stands under the labels of the formats is kept as it is, and everything else is dropped.
-/

namespace Requisite

variable {fields others : List (String × Json)} {mismatch : Mismatch}

/-! ## Single entries -/

/-- Labels are strings, and null stands for none. -/
def Json.isLabel : Json → Bool
  | .null | .str _ => true
  | _ => false

theorem decodeBool_eq_error_iff (default : Bool) (value : Option Json) :
    decodeBool default value = .error mismatch ↔
      ∃ found, value = some found ∧ found.asBool? = none ∧ ⟨found, .boolean⟩ = mismatch := by
  rcases value with _ | found
  · simp [decodeBool]
  · cases found <;> simp [decodeBool, Json.asBool?]

theorem decodeLabel_eq_error_iff (value : Option Json) :
    decodeLabel value = .error mismatch ↔
      ∃ found, value = some found ∧ found.isLabel = false ∧ ⟨found, .string⟩ = mismatch := by
  rcases value with _ | found
  · simp [decodeLabel]
  · cases found <;> simp [decodeLabel, Json.isLabel]

theorem exists_decodeBool_eq_ok_iff (default : Bool) (value : Option Json) :
    (∃ flag, decodeBool default value = .ok flag) ↔
      ∀ found, value = some found → found.asBool? ≠ none := by
  rcases value with _ | found
  · simp [decodeBool]
  · cases found <;> simp [decodeBool, Json.asBool?]

theorem decodeBool_true_eq_ok_false_iff (value : Option Json) :
    decodeBool true value = .ok false ↔ value = some (.bool false) := by
  rcases value with _ | found
  · simp [decodeBool]
  · cases found <;> simp [decodeBool]

theorem decodeLabel_eq_ok_some_iff (value : Option Json) (label : String) :
    decodeLabel value = .ok (some label) ↔ value = some (.str label) := by
  rcases value with _ | found
  · simp [decodeLabel]
  · cases found <;> simp [decodeLabel]

/-! ## Order of entries -/

theorem Json.lookup_of_perm (h : others.Perm fields) (hkeys : (keysOf fields).Nodup)
    (key : String) : others.lookup key = fields.lookup key := by
  induction h with
  | nil => rfl
  | cons entry _ ih =>
    rw [keysOf, List.map_cons, List.nodup_cons] at hkeys
    rw [List.lookup_cons, List.lookup_cons, ih hkeys.2]
  | swap first second rest =>
    obtain ⟨name, value⟩ := first
    obtain ⟨other, old⟩ := second
    have hne : name ≠ other := by
      rintro rfl
      simp [keysOf] at hkeys
    by_cases hname : key = name
    · subst hname
      simp [List.lookup_cons, beq_false_of_ne hne]
    · simp [List.lookup_cons, beq_false_of_ne hname]
  | trans _ hsecond ihfirst ihsecond =>
    have hmiddle := (hsecond.map Prod.fst).nodup_iff.mpr hkeys
    exact (ihfirst hmiddle).trans (ihsecond hkeys)

theorem bind_eq_error_iff {ε α β : Type} (result : Except ε α) (next : α → Except ε β) (e : ε) :
    result >>= next = .error e ↔
      result = .error e ∨ ∃ a, result = .ok a ∧ next a = .error e := by
  cases result with
  | error other => simp [bind, Except.bind]
  | ok a => simp [bind, Except.bind]

theorem Options.ofFields_eq_error_iff :
    Options.ofFields fields = .error mismatch ↔
      decodeLabel (fields.lookup "type") = .error mismatch := by
  unfold Options.ofFields
  rw [bind_eq_error_iff]
  simp [pure, Except.pure]

namespace FileOptions

/-! ## Refused values -/

/-- What is wrong with a value that makes no options. If two keys are wrong, it is the flag. -/
inductive Refusal : Json → Mismatch → Prop where
  | shape {json : Json} (h : ∀ fields, json ≠ .object fields) : Refusal json ⟨json, .fileOptions⟩
  | includeCore {fields : List (String × Json)} {found : Json}
    (h : fields.lookup "includeCore" = some found) (hfound : found.asBool? = none) :
    Refusal (.object fields) ⟨found, .boolean⟩
  | label {fields : List (String × Json)} {found : Json}
    (hcore : ∀ flag, fields.lookup "includeCore" = some flag → flag.asBool? ≠ none)
    (h : fields.lookup "type" = some found) (hfound : found.isLabel = false) :
    Refusal (.object fields) ⟨found, .string⟩

theorem ofFields_eq_error_iff_decode :
    ofFields fields = .error mismatch ↔
      decodeBool true (fields.lookup "includeCore") = .error mismatch ∨
        (∃ flag, decodeBool true (fields.lookup "includeCore") = .ok flag) ∧
          decodeLabel (fields.lookup "type") = .error mismatch := by
  unfold ofFields
  simp only [bind_eq_error_iff, Options.ofFields_eq_error_iff]
  simp [pure, Except.pure]

theorem ofFields_eq_error_iff :
    ofFields fields = .error mismatch ↔ Refusal (.object fields) mismatch := by
  rw [ofFields_eq_error_iff_decode, exists_decodeBool_eq_ok_iff, decodeBool_eq_error_iff,
    decodeLabel_eq_error_iff]
  constructor
  · rintro (⟨found, h, hfound, rfl⟩ | ⟨hcore, found, h, hfound, rfl⟩)
    · exact .includeCore h hfound
    · exact .label hcore h hfound
  · rintro (h | ⟨h, hfound⟩ | ⟨hcore, h, hfound⟩)
    · exact absurd rfl (h fields)
    · exact .inl ⟨_, h, hfound, rfl⟩
    · exact .inr ⟨hcore, _, h, hfound, rfl⟩

theorem ofJson_eq_error_iff (json : Json) :
    ofJson json = .error mismatch ↔ Refusal json mismatch := by
  by_cases h : ∃ fields, json = .object fields
  · obtain ⟨fields, rfl⟩ := h
    exact ofFields_eq_error_iff
  · rw [not_exists] at h
    have hshape : ofJson json = .error ⟨json, .fileOptions⟩ := by
      cases json with
      | object fields => exact absurd rfl (h fields)
      | _ => rfl
    rw [hshape]
    constructor
    · rintro ⟨⟩
      exact .shape h
    · intro hrefusal
      cases hrefusal with
      | shape => rfl
      | includeCore | label => exact absurd rfl (h _)

/-! ## Options that are made -/

theorem ofFields_eq_ok_iff (fields : List (String × Json)) (options : FileOptions) :
    ofFields fields = .ok options ↔
      decodeBool true (fields.lookup "includeCore") = .ok options.includeCore ∧
      decodeLabel (fields.lookup "type") = .ok options.text.label ∧
      options.text.formats = FormatOptions.ofFields fields ∧ options.core = .node := by
  constructor
  · intro h
    obtain ⟨includeCore, hcore, h⟩ := exists_of_bind_eq_ok h
    obtain ⟨text, htext, h⟩ := exists_of_bind_eq_ok h
    obtain ⟨label, hlabel, htext⟩ := exists_of_bind_eq_ok htext
    cases htext
    cases h
    exact ⟨hcore, hlabel, rfl, rfl⟩
  · rintro ⟨hcore, hlabel, hformats, htable⟩
    obtain ⟨⟨label, formats⟩, includeCore, core⟩ := options
    simp only at hcore hlabel hformats htable
    unfold FileOptions.ofFields Options.ofFields
    rw [hcore, hlabel, hformats, htable]
    rfl

/-- What the entries of an object make of the options. -/
structure Decoded (fields : List (String × Json)) (options : FileOptions) : Prop where
  includeCore : options.includeCore = false ↔ fields.lookup "includeCore" = some (.bool false)
  label (name : String) : options.text.label = some name ↔ fields.lookup "type" = some (.str name)
  formats (format : Format) : options.text.formats.get? format =
    ((FormatOptions.entriesFor format fields).getLast?).map Prod.snd
  core : options.core = .node

theorem decoded_of_ofFields {options : FileOptions} (h : ofFields fields = .ok options) :
    Decoded fields options := by
  obtain ⟨hcore, hlabel, hformats, htable⟩ := (ofFields_eq_ok_iff fields options).mp h
  refine ⟨?_, ?_, ?_, htable⟩
  · rw [← decodeBool_true_eq_ok_false_iff, hcore, Except.ok.injEq]
  · intro name
    rw [← decodeLabel_eq_ok_some_iff, hlabel, Except.ok.injEq]
  · intro format
    rw [hformats, FormatOptions.get?_ofFields]

theorem text_of_ofFields {options : FileOptions} (h : ofFields fields = .ok options) :
    Options.ofFields fields = .ok options.text := by
  obtain ⟨-, hlabel, hformats, -⟩ := (ofFields_eq_ok_iff fields options).mp h
  unfold Options.ofFields
  rw [hlabel, ← hformats]
  rfl

theorem ofFields_congr (hcore : others.lookup "includeCore" = fields.lookup "includeCore")
    (hlabel : others.lookup "type" = fields.lookup "type")
    (hformats : FormatOptions.ofFields others = FormatOptions.ofFields fields) :
    ofFields others = ofFields fields := by
  unfold ofFields Options.ofFields
  rw [hcore, hlabel, hformats]

/-- A key that options have a place for. -/
def isOptionKey (key : String) : Bool :=
  key == "includeCore" || key == "type" || (Format.ofLabel? key).isSome

theorem ofFields_filter_isOptionKey (fields : List (String × Json)) :
    ofFields (fields.filter (isOptionKey ·.1)) = ofFields fields := by
  apply ofFields_congr
  · exact Json.lookup_filter_keys isOptionKey rfl fields
  · exact Json.lookup_filter_keys isOptionKey rfl fields
  · apply FormatOptions.ofFields_filter isOptionKey
    intro key format hlabel
    simp [isOptionKey, hlabel]

theorem ofFields_of_perm (h : others.Perm fields) (hkeys : (Json.keysOf fields).Nodup)
    (horder : ∀ format,
      FormatOptions.entriesFor format others = FormatOptions.entriesFor format fields) :
    ofFields others = ofFields fields := by
  apply ofFields_congr
  · exact Json.lookup_of_perm h hkeys "includeCore"
  · exact Json.lookup_of_perm h hkeys "type"
  · ext1
    funext format
    rw [FormatOptions.get?_ofFields, FormatOptions.get?_ofFields, horder]

theorem ofFields_setField_eq_error_iff {key : String} (hcore : key ≠ "includeCore")
    (hlabel : key ≠ "type") (fields : List (String × Json)) (value : Json) :
    ofFields (Json.setField fields key value) = .error mismatch ↔
      ofFields fields = .error mismatch := by
  rw [ofFields_eq_error_iff_decode, ofFields_eq_error_iff_decode,
    Json.lookup_setField_of_ne hcore.symm, Json.lookup_setField_of_ne hlabel.symm]

/-- Only the flag and the label can be refused, the flag first. What stands under the labels of
one format is kept as it is, from the last of them, so only their order among each other
matters, and what has no place is dropped. Options without the flag are made alike. -/
theorem ofJson_canonical (json : Json) :
    (∀ mismatch, ofJson json = .error mismatch ↔ Refusal json mismatch) ∧
    (∀ options, ofJson json = .ok options → Options.ofJson json = .ok options.text ∧
      ∃ fields, json = .object fields ∧ Decoded fields options) ∧
    ∀ fields, json = .object fields →
      (∀ key value mismatch, key ≠ "includeCore" → key ≠ "type" →
        (ofJson (.object (Json.setField fields key value)) = .error mismatch ↔
          ofJson json = .error mismatch)) ∧
      ofJson (.object (fields.filter (isOptionKey ·.1))) = ofJson json ∧
      Options.ofJson (.object (fields.filter (·.1 != "includeCore"))) = Options.ofJson json ∧
      ∀ others : List (String × Json), others.Perm fields → (Json.keysOf fields).Nodup →
        (∀ format, FormatOptions.entriesFor format others =
          FormatOptions.entriesFor format fields) →
        ofJson (.object others) = ofJson json := by
  refine ⟨fun mismatch => ofJson_eq_error_iff json, ?_, ?_⟩
  · intro options hoptions
    cases json with
    | object fields =>
      exact ⟨text_of_ofFields hoptions, fields, rfl, decoded_of_ofFields hoptions⟩
    | _ => cases hoptions
  · rintro fields rfl
    refine ⟨?_, ofFields_filter_isOptionKey fields, Options.ofFields_filter_includeCore fields, ?_⟩
    · intro key value mismatch hcore hlabel
      exact ofFields_setField_eq_error_iff hcore hlabel fields value
    · intro others hperm hkeys horder
      exact ofFields_of_perm hperm hkeys horder

/-- Two labels of one format that keep their order, and two keys that are both wrong. -/
theorem ofJson_canonical_synonyms :
    ofJson (.object [("type", .str "amd"), ("esm", .null), ("es6", .bool true)]) =
        ofJson (.object [("esm", .null), ("type", .str "amd"), ("es6", .bool true)]) ∧
      ofJson (.object [("type", .int 1), ("includeCore", .null)]) = .error ⟨.null, .boolean⟩ := by
  have horder (format : Format) :
      FormatOptions.entriesFor format
          [("type", .str "amd"), ("esm", .null), ("es6", .bool true)] =
        FormatOptions.entriesFor format
          [("esm", .null), ("type", .str "amd"), ("es6", .bool true)] := by
    cases format <;> rfl
  have hkeys :
      (Json.keysOf [("esm", .null), ("type", .str "amd"), ("es6", .bool true)]).Nodup := by
    decide
  exact ⟨((ofJson_canonical _).2.2 _ rfl).2.2.2 _ (List.Perm.swap _ _ _) hkeys horder,
    ((ofJson_canonical _).1 _).mpr (.includeCore rfl rfl)⟩

end FileOptions

end Requisite

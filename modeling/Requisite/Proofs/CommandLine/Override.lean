import Requisite.Proofs.CommandLine.Run
import Requisite.Proofs.Options.Decoding

/-!
# Flags as entries of a configuration

Each flag can be written into the configuration instead: an object with the flags written into
it makes the options that the object makes with the flags on top.
-/

namespace Requisite

/-! ## Entries -/

namespace CommandLine

/-- The keys that hold the flag for mixed imports. -/
def es6Keys : List String := ["es6", "esm", "mjs"]

theorem mem_es6Keys_iff (key : String) : key ∈ es6Keys ↔ Format.ofLabel? key = some .es6 := by
  unfold es6Keys Format.ofLabel?
  split <;> simp_all

/-- The value that counts of those keys, which is the last one. -/
def es6Value? (fields : List (String × Json)) : Option Json :=
  ((fields.filter (·.1 ∈ es6Keys)).getLast?).map Prod.snd

/-- One key in place of them all, with the flag set next to the other entries. -/
def withMixedKey (fields : List (String × Json)) : List (String × Json) :=
  fields.filter (·.1 ∉ es6Keys) ++
    [("es6", .object (Json.setField (Json.fieldsOf (es6Value? fields)) "mixedImports"
      (.bool true)))]

/-- Entries of different keys that make certain options. -/
structure Makes (fields : List (String × Json)) (options : FileOptions) : Prop where
  nodup : (Json.keysOf fields).Nodup
  decoded : FileOptions.ofFields fields = .ok options

namespace Makes

variable {fields : List (String × Json)} {options : FileOptions}

theorem withLabel (h : Makes fields options) (label : String) :
    Makes (Json.setField fields "type" (.str label)) (options.withLabel label) := by
  obtain ⟨hcore, -, hformats, htable⟩ := (FileOptions.ofFields_eq_ok_iff _ _).mp h.decoded
  refine ⟨Json.nodup_keysOf_setField h.nodup _ _, (FileOptions.ofFields_eq_ok_iff _ _).mpr ?_⟩
  refine ⟨?_, ?_, ?_, htable⟩
  · rw [Json.lookup_setField_of_ne (by decide)]
    exact hcore
  · rw [Json.lookup_setField_self]
    rfl
  · rw [FormatOptions.ofFields_setField rfl]
    exact hformats

theorem withoutCore (h : Makes fields options) :
    Makes (Json.setField fields "includeCore" (.bool false)) (options.withIncludeCore false) := by
  obtain ⟨-, hlabel, hformats, htable⟩ := (FileOptions.ofFields_eq_ok_iff _ _).mp h.decoded
  refine ⟨Json.nodup_keysOf_setField h.nodup _ _, (FileOptions.ofFields_eq_ok_iff _ _).mpr ?_⟩
  refine ⟨?_, ?_, ?_, htable⟩
  · rw [Json.lookup_setField_self]
    rfl
  · rw [Json.lookup_setField_of_ne (by decide)]
    exact hlabel
  · rw [FormatOptions.ofFields_setField rfl]
    exact hformats

end Makes

/-! ## The flag for mixed imports -/

theorem nodup_keysOf_withMixedKey {fields : List (String × Json)}
    (h : (Json.keysOf fields).Nodup) : (Json.keysOf (withMixedKey fields)).Nodup := by
  unfold withMixedKey
  rw [Json.keysOf, List.map_append, List.nodup_append]
  refine ⟨h.sublist (List.filter_sublist.map Prod.fst), List.pairwise_singleton _ _, ?_⟩
  rintro key hkey other hother rfl
  obtain ⟨entry, hentry, rfl⟩ := List.mem_map.mp hkey
  have hkept := (List.mem_filter.mp hentry).2
  simp only [List.map_cons, List.map_nil, List.mem_singleton] at hother
  rw [hother] at hkept
  simp [es6Keys] at hkept

theorem es6Value?_eq (fields : List (String × Json)) :
    es6Value? fields = (FormatOptions.ofFields fields).get? .es6 := by
  rw [FormatOptions.get?_ofFields, es6Value?, FormatOptions.entriesFor]
  simp only [mem_es6Keys_iff]

theorem lookup_withMixedKey {key : String} (h : key ∉ es6Keys)
    (fields : List (String × Json)) :
    (withMixedKey fields).lookup key = fields.lookup key := by
  have hes6 : (key == "es6") = false := by
    apply beq_false_of_ne
    rintro rfl
    exact h (by decide)
  unfold withMixedKey
  rw [List.lookup_append, List.lookup_cons, hes6,
    Json.lookup_filter_keys (fun key => decide (key ∉ es6Keys)) (decide_eq_true h)]
  exact Option.or_none

theorem ofFields_withMixedKey (fields : List (String × Json)) :
    FormatOptions.ofFields (withMixedKey fields) =
      (FormatOptions.ofFields fields).insert .es6
        (.object (Json.setField (Json.fieldsOf (es6Value? fields)) "mixedImports"
          (.bool true))) := by
  ext1
  funext format
  rw [FormatOptions.get?_ofFields, FormatOptions.entriesFor, withMixedKey, List.filter_append]
  by_cases hformat : format = .es6
  · subst hformat
    rw [FormatOptions.get?_insert_self]
    simp [Format.ofLabel?]
  · have hkept : (fields.filter (·.1 ∉ es6Keys)).filter (Format.ofLabel? ·.1 = some format) =
        fields.filter (Format.ofLabel? ·.1 = some format) := by
      rw [List.filter_filter]
      congr 1
      funext entry
      by_cases hlabel : Format.ofLabel? entry.1 = some format
      · simp [hlabel, mem_es6Keys_iff, hformat]
      · simp [hlabel]
    have hes6 : Format.ofLabel? "es6" ≠ some format := by
      rintro ⟨⟩
      exact hformat rfl
    rw [FormatOptions.get?_insert_of_ne hformat, FormatOptions.get?_ofFields,
      FormatOptions.entriesFor, hkept, List.filter_cons_of_neg (by simpa using hes6),
      List.filter_nil, List.append_nil]

theorem Makes.withMixedImports {fields : List (String × Json)} {options : FileOptions}
    (h : Makes fields options) :
    Makes (withMixedKey fields) (options.withMixedImports true) := by
  obtain ⟨hcore, hlabel, hformats, htable⟩ :=
    (FileOptions.ofFields_eq_ok_iff _ _).mp h.decoded
  refine ⟨nodup_keysOf_withMixedKey h.nodup, (FileOptions.ofFields_eq_ok_iff _ _).mpr ?_⟩
  refine ⟨?_, ?_, ?_, htable⟩
  · rw [lookup_withMixedKey (by decide)]
    exact hcore
  · rw [lookup_withMixedKey (by decide)]
    exact hlabel
  · rw [ofFields_withMixedKey, es6Value?_eq, ← hformats]
    rfl

/-! ## All flags -/

end CommandLine

end Requisite

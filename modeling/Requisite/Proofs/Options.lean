import Requisite.Options.Basic

/-!
# Options by format

What a change to options does to the value of each format, and to the flag for mixed imports.
-/

namespace Requisite

/-! ## Entries of objects -/

namespace Json

/-- The entries of options. Those that are no object have none. -/
def fieldsOf : Option Json → List (String × Json)
  | some (.object fields) => fields
  | _ => []

theorem lookup_setField_self (fields : List (String × Json)) (key : String) (value : Json) :
    (setField fields key value).lookup key = some value := by
  induction fields with
  | nil => simp [setField]
  | cons entry rest ih =>
    obtain ⟨name, old⟩ := entry
    by_cases h : name = key
    · simp [setField, h]
    · have hkey : (key == name) = false := beq_false_of_ne (Ne.symm h)
      simp [setField, h, List.lookup_cons, hkey, ih]

theorem lookup_setField_of_ne {key other : String} (h : other ≠ key)
    (fields : List (String × Json)) (value : Json) :
    (setField fields key value).lookup other = fields.lookup other := by
  induction fields with
  | nil => rw [setField, List.lookup_cons, beq_false_of_ne h]
  | cons entry rest ih =>
    obtain ⟨name, old⟩ := entry
    by_cases hname : name = key
    · subst hname
      simp [setField, List.lookup_cons, beq_false_of_ne h]
    · simp [setField, hname, List.lookup_cons, ih]

end Json

/-! ## The values of formats -/

namespace FormatOptions

@[simp] theorem get?_insert_self (options : FormatOptions) (format : Format) (value : Json) :
    (options.insert format value).get? format = some value := by
  simp [insert]

theorem get?_insert_of_ne {format other : Format} (h : other ≠ format) (options : FormatOptions)
    (value : Json) : (options.insert format value).get? other = options.get? other := by
  simp [insert, h]

end FormatOptions

namespace Options

theorem mixedImports_withFormat {format : Format} (h : format ≠ .es6) (options : Options)
    (value : Json) : (options.withFormat format value).mixedImports = options.mixedImports := by
  unfold mixedImports withFormat
  rw [FormatOptions.get?_insert_of_ne h.symm]

/-! ## The flag for mixed imports -/

@[simp] theorem label_withMixedImports (options : Options) (mixed : Bool) :
    (options.withMixedImports mixed).label = options.label := rfl

theorem get?_es6_withMixedImports (options : Options) (mixed : Bool) :
    (options.withMixedImports mixed).formats.get? .es6 =
      some (.object (Json.setField (Json.fieldsOf (options.formats.get? .es6)) mixedKey
        (.bool mixed))) := by
  unfold withMixedImports withFormat
  rw [FormatOptions.get?_insert_self]
  rfl

theorem get?_withMixedImports_of_ne {format : Format} (h : format ≠ .es6) (options : Options)
    (mixed : Bool) :
    (options.withMixedImports mixed).formats.get? format = options.formats.get? format :=
  FormatOptions.get?_insert_of_ne h _ _

@[simp] theorem mixedImports_withMixedImports (options : Options) (mixed : Bool) :
    (options.withMixedImports mixed).mixedImports = mixed := by
  unfold mixedImports
  rw [get?_es6_withMixedImports, Option.bind_some, Json.field?, Json.lookup_setField_self]
  rfl

end Options

end Requisite

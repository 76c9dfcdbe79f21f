import Requisite.Options.Decode
import Requisite.Proofs.Options

/-!
# Options by key

What the entries of an object make of options. Of the keys that name one format the last one
counts, and a key that names none makes no difference to any format.
-/

namespace Requisite

/-! ## Keys -/

namespace Json

def keysOf (fields : List (String × Json)) : List String := fields.map Prod.fst

theorem keysOf_setField (fields : List (String × Json)) (key : String) (value : Json) :
    keysOf (setField fields key value) =
      if key ∈ keysOf fields then keysOf fields else keysOf fields ++ [key] := by
  induction fields with
  | nil => rfl
  | cons entry rest ih =>
    obtain ⟨name, old⟩ := entry
    by_cases hname : name = key
    · simp [setField, keysOf, hname]
    · have hkey : key ≠ name := Ne.symm hname
      unfold keysOf at ih ⊢
      simp only [setField, hname, beq_iff_eq, if_false, List.map_cons, List.mem_cons, hkey,
        false_or, ih]
      split <;> rfl

theorem nodup_keysOf_setField {fields : List (String × Json)} (h : (keysOf fields).Nodup)
    (key : String) (value : Json) : (keysOf (setField fields key value)).Nodup := by
  rw [keysOf_setField]
  split
  · exact h
  · next hkey =>
    rw [List.nodup_append]
    refine ⟨h, List.pairwise_singleton _ key, ?_⟩
    intro name hname other hother
    rw [List.mem_singleton.mp hother]
    rintro rfl
    exact hkey hname

theorem lookup_filter_keys (keeps : String → Bool) {key : String} (h : keeps key = true)
    (fields : List (String × Json)) :
    (fields.filter (keeps ·.1)).lookup key = fields.lookup key := by
  induction fields with
  | nil => rfl
  | cons entry rest ih =>
    obtain ⟨name, value⟩ := entry
    by_cases hname : key = name
    · subst hname
      rw [List.filter_cons, if_pos h, List.lookup_cons_self, List.lookup_cons_self]
    · rw [List.lookup_cons, beq_false_of_ne hname, List.filter_cons, ← ih]
      split
      · rw [List.lookup_cons, beq_false_of_ne hname]
      · rfl

end Json

/-! ## Formats -/

namespace FormatOptions

theorem get?_insertLabel (options : FormatOptions) (label : String) (value : Json)
    (format : Format) :
    (options.insertLabel label value).get? format =
      if Format.ofLabel? label = some format then some value else options.get? format := by
  unfold insertLabel
  cases hlabel : Format.ofLabel? label with
  | none => rfl
  | some named =>
    by_cases hformat : named = format
    · subst hformat
      rw [get?_insert_self, if_pos rfl]
    · rw [get?_insert_of_ne (Ne.symm hformat), if_neg (by simpa using hformat)]

def entriesFor (format : Format) (fields : List (String × Json)) : List (String × Json) :=
  fields.filter (Format.ofLabel? ·.1 = some format)

theorem get?_ofFields (fields : List (String × Json)) (format : Format) :
    (ofFields fields).get? format = ((entriesFor format fields).getLast?).map Prod.snd := by
  have hfold (fields : List (String × Json)) (options : FormatOptions) :
      (fields.foldl (fun options entry => options.insertLabel entry.1 entry.2) options).get?
          format =
        (((entriesFor format fields).getLast?).map Prod.snd).or (options.get? format) := by
    unfold entriesFor
    induction fields generalizing options with
    | nil => rfl
    | cons entry fields ih =>
      rw [List.foldl_cons, ih, get?_insertLabel, List.filter_cons]
      by_cases hlabel : Format.ofLabel? entry.1 = some format
      · rw [if_pos hlabel, if_pos (decide_eq_true hlabel), List.getLast?_cons]
        cases (fields.filter (Format.ofLabel? ·.1 = some format)).getLast? <;> rfl
      · rw [if_neg hlabel, if_neg (by simpa using hlabel)]
  exact (hfold fields empty).trans Option.or_none

theorem entriesFor_setField {key : String} (h : Format.ofLabel? key = none) (format : Format)
    (fields : List (String × Json)) (value : Json) :
    entriesFor format (Json.setField fields key value) = entriesFor format fields := by
  unfold entriesFor
  induction fields with
  | nil => simp [Json.setField, h]
  | cons entry rest ih =>
    obtain ⟨name, old⟩ := entry
    by_cases hname : name = key
    · simp [Json.setField, hname, h]
    · simp [Json.setField, hname, List.filter_cons, ih]

theorem ofFields_setField {key : String} (h : Format.ofLabel? key = none)
    (fields : List (String × Json)) (value : Json) :
    ofFields (Json.setField fields key value) = ofFields fields := by
  ext1
  funext format
  rw [get?_ofFields, get?_ofFields, entriesFor_setField h]

theorem ofFields_filter (keeps : String → Bool)
    (h : ∀ key format, Format.ofLabel? key = some format → keeps key = true)
    (fields : List (String × Json)) :
    ofFields (fields.filter (keeps ·.1)) = ofFields fields := by
  ext1
  funext format
  rw [get?_ofFields, get?_ofFields, entriesFor, List.filter_filter, entriesFor]
  congr 3
  funext entry
  by_cases hlabel : Format.ofLabel? entry.1 = some format
  · simp [hlabel, h entry.1 format hlabel]
  · simp [hlabel]

end FormatOptions

end Requisite

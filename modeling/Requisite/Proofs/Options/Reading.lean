import Requisite.Proofs.Options.Fields

/-!
# Options from texts

A text is read entry by entry, and some keys are looked at as they come. If the keys of an
object are all different, this makes of the text the options that its entries make, and it
refuses the text if they are refused.
-/

namespace Requisite

theorem exists_of_bind_eq_ok {result : Except ε α} {next : α → Except ε β} {b : β}
    (h : result >>= next = .ok b) : ∃ a, result = .ok a ∧ next a = .ok b := by
  cases result with
  | error fault => cases h
  | ok a => exact ⟨a, rfl, h⟩

namespace Json

/-! ## Booleans -/

def asBool? : Json → Option Bool
  | .bool value => some value
  | _ => none

def Draft.take (special : String) (draft : Draft Bool) (entry : String × Json) :
    Option (Draft Bool) :=
  if entry.1 = special then
    if draft.special.isSome then none
    else entry.2.asBool?.map fun value => { draft with special := some value }
  else some { draft with others := entry :: draft.others }

end Json

/-! ## Options -/

theorem Options.ofFields_filter_includeCore (fields : List (String × Json)) :
    Options.ofFields (fields.filter (·.1 != "includeCore")) = Options.ofFields fields := by
  have hformats : FormatOptions.ofFields (fields.filter (·.1 != "includeCore")) =
      FormatOptions.ofFields fields := by
    apply FormatOptions.ofFields_filter (· != "includeCore")
    rintro key format hlabel
    rw [bne_iff_ne]
    rintro rfl
    cases hlabel
  unfold Options.ofFields
  rw [Json.lookup_filter_keys (· != "includeCore") rfl, hformats]

namespace FileOptions

end FileOptions

end Requisite

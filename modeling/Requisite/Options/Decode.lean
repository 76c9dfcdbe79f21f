import Requisite.Json.Reader
import Requisite.Options.Basic
import Requisite.Options.Mismatch

/-!
# Options from JSON

From a value, what is wrong with it is told. From a text, only where the text goes wrong: some
keys are looked at as they come, so that they are refused before anything wrong after them.
-/

namespace Requisite

/-! ## From values -/

/-- A key that may be missing but not be anything else than a boolean. -/
def decodeBool (default : Bool) : Option Json → Except Mismatch Bool
  | none => .ok default
  | some (.bool value) => .ok value
  | some found => .error ⟨found, .boolean⟩

/-- A label may be missing or null. -/
def decodeLabel : Option Json → Except Mismatch (Option String)
  | none | some .null => .ok none
  | some (.str label) => .ok (some label)
  | some found => .error ⟨found, .string⟩

namespace Options

def ofFields (fields : List (String × Json)) : Except Mismatch Options := do
  let label ← decodeLabel (fields.lookup "type")
  return { label, formats := .ofFields fields }

def ofJson : Json → Except Mismatch Options
  | .object fields => ofFields fields
  | found => .error ⟨found, .options⟩

end Options

namespace FileOptions

def ofFields (fields : List (String × Json)) : Except Mismatch FileOptions := do
  let includeCore ← decodeBool true (fields.lookup "includeCore")
  let text ← Options.ofFields fields
  return { text, includeCore }

def ofJson : Json → Except Mismatch FileOptions
  | .object fields => ofFields fields
  | found => .error ⟨found, .fileOptions⟩

end FileOptions

/-! ## From texts -/

namespace Json

/-- The entries of an object, whose `special` key is looked at as it comes and may come only
once. -/
structure Draft (α : Type) where
  special : Option α := none
  /-- The other entries, last one first. -/
  others : List (String × Json) := []

def Draft.entry (special : String) (decode : List Char → Except Fault (α × List Char))
    (draft : Draft α) (key : String) (text : List Char) :
    Except Fault (Draft α × List Char) :=
  if key == special then
    if draft.special.isSome then .error .shape
    else do
      let (value, rest) ← decode text
      return ({ draft with special := some value }, rest)
  else do
    let (value, rest) ← value (maxDepth - 1) text
    return ({ draft with others := (key, value) :: draft.others }, rest)

def draft (special : String) (decode : List Char → Except Fault (α × List Char))
    (text : List Char) : Except Fault (Draft α × List Char) :=
  match skipBlanks text with
  | '\x7b' :: cs => entries (Draft.entry special decode) (cs.length + 1) true {} cs
  | cs => refuse cs

def boolFrom (text : List Char) : Except Fault (Bool × List Char) :=
  match skipBlanks text with
  | 't' :: cs => do return (true, ← word ['r', 'u', 'e'] cs)
  | 'f' :: cs => do return (false, ← word ['a', 'l', 's', 'e'] cs)
  | cs => refuse cs

def labelFrom (text : List Char) : Except Fault (Option String × List Char) :=
  match skipBlanks text with
  | 'n' :: cs => do return (none, ← word ['u', 'l', 'l'] cs)
  | '"' :: cs => do
    let (label, rest) ← stringFrom [] 0 cs
    return (some label, rest)
  | cs => refuse cs

end Json

namespace Options

def parse (text : String) : Except Json.Fault Options := Json.finish do
  let (draft, rest) ← Json.draft "type" Json.labelFrom text.toList
  let formats := .ofFields (Json.ofEntries draft.others.reverse)
  return ({ label := draft.special.getD none, formats }, rest)

end Options

namespace FileOptions

def parse (text : String) : Except Json.Fault FileOptions := Json.finish do
  let (draft, rest) ← Json.draft "includeCore" Json.boolFrom text.toList
  let entries := draft.others.reverse
  -- The label is looked at only now, and it too may come only once.
  if 1 < (entries.filter (·.1 == "type")).length then .error .shape
  match Options.ofFields (Json.ofEntries entries) with
  | .ok text => return ({ text, includeCore := draft.special.getD true }, rest)
  | .error _ => .error .shape

end FileOptions

end Requisite

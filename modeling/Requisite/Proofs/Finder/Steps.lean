import Requisite.Finder
import Requisite.Proofs.Options

/-!
# Steps of finders

A finder looks at its flags, gets hold of a program, and lists what it finds there. It takes
its options unless one of its own flags in them is no boolean; it then names the first such
flag. Entries that are none of its flags make no difference.
-/

namespace Requisite

def Json.isBool : Json → Bool
  | .bool _ => true
  | _ => false

namespace Finder

/-! ## Bad flags -/

/-- An entry for one of the finder's own flags that is no boolean. -/
def isBad (finder : Finder) (entry : String × Json) : Bool :=
  finder.flags.contains entry.1 && !entry.2.isBool

/-- The first such entry, if the options are an object that has one. -/
def flaw? (finder : Finder) (options : Option Json) : Option (String × Json) :=
  (Json.fieldsOf options).find? finder.isBad

theorem badFlag?_eq_map_find? (finder : Finder) (fields : List (String × Json)) :
    badFlag? finder.flags fields = (fields.find? finder.isBad).map Prod.snd := by
  unfold badFlag?
  induction fields with
  | nil => rfl
  | cons entry rest ih =>
    obtain ⟨flag, value⟩ := entry
    rw [List.findSome?_cons, List.find?_cons, ih, isBad]
    by_cases hflag : flag ∈ finder.flags
    · cases value <;> simp [hflag, Json.isBool]
    · simp [hflag]

theorem fields_eq (finder : Finder) (options : Option Json) :
    finder.fields options =
      match finder.flaw? options with
      | some (_, found) => .error (.badOptions finder.format ⟨found, .boolean⟩)
      | none => .ok (Json.fieldsOf options) := by
  unfold flaw?
  match options with
  | some (.object entries) =>
    simp only [fields, badFlag?_eq_map_find?, Json.fieldsOf]
    cases entries.find? finder.isBad <;> rfl
  | none | some .null | some (.bool _) | some (.int _) | some (.float _) | some (.str _)
  | some (.array _) => rfl

theorem flaw?_of_flags_eq_nil {finder : Finder} (h : finder.flags = [])
    (options : Option Json) : finder.flaw? options = none := by
  simp [flaw?, isBad, h]

theorem flags_stylesheet_of_ne {dialect : Stylesheet.Dialect} (h : dialect ≠ .css) :
    (stylesheet dialect).flags = [] := by
  cases dialect with
  | css => exact absurd rfl h
  | scss | sass | less | stylus => rfl

/-! ## Flags of others -/

theorem find?_isBad_setField {finder : Finder} {key : String} (h : key ∉ finder.flags)
    (fields : List (String × Json)) (value : Json) :
    (Json.setField fields key value).find? finder.isBad = fields.find? finder.isBad := by
  have hkey (value : Json) : finder.isBad (key, value) = false := by simp [isBad, h]
  induction fields with
  | nil => simp [Json.setField, hkey]
  | cons entry rest ih =>
    obtain ⟨name, old⟩ := entry
    by_cases hname : name = key
    · simp [Json.setField, hname, hkey]
    · simp [Json.setField, hname, List.find?_cons, ih]

theorem isOn_setField_of_ne {key flag : String} (h : flag ≠ key)
    (fields : List (String × Json)) (value : Json) :
    isOn (Json.setField fields key value) flag = isOn fields flag := by
  unfold isOn
  rw [Json.lookup_setField_of_ne h]

/-! ## Finding in programs -/

open Script (parseSource?)

def isSingle : Finder → Bool
  | .commonJs | .es6 | .amd | .typed _ => true
  | .stylesheet _ | .mixed => false

def parse? : Finder → String → Option Script.Program
  | .typed markup => Script.parse? (if markup then .typedMarkup else .typed)
  | _ => parseSource?

def parsed? (finder : Finder) : Content → Option Script.Program
  | .program parsed => some parsed
  | .text source => finder.parse? source

theorem program_eq (finder : Finder) (content : Content) :
    finder.program finder.parse? content =
      match finder.parsed? content with
      | some parsed => .ok parsed
      | none => .error (.unparsed finder.format) := by
  cases content <;> rfl

def importRules (finder : Finder) (fields : List (String × Json)) : Script.ImportRules :=
  match finder with
  | .typed _ => {
      skipTypes := isOn fields "skipTypeImports"
      skipDynamic := isOn fields "skipAsyncImports"
      requires := isOn fields "mixedImports"
      typedForms := true }
  | _ => {
      skipTypes := isOn fields "skipTypeImports"
      skipDynamic := isOn fields "skipAsyncImports" }

def listed (finder : Finder) (fields : List (String × Json)) (program : Script.Program) :
    List String :=
  match finder with
  | .commonJs => program.required
  | .amd => program.defined (isOn fields "skipLazyLoaded")
  | .es6 | .typed _ => program.imported (finder.importRules fields)
  | .mixed => program.imported (finder.importRules fields) ++ program.required
  | .stylesheet _ => []

/-- The finders of one format look at their flags before they parse. -/
theorem find_of_isSingle {finder : Finder} (h : finder.isSingle = true) (content : Content)
    (options : Option Json) :
    finder.find content options =
      match finder.flaw? options, finder.parsed? content with
      | some (_, found), _ => .error (.badOptions finder.format ⟨found, .boolean⟩)
      | none, none => .error (.unparsed finder.format)
      | none, some parsed =>
        .ok ⟨finder.listed (Json.fieldsOf options) parsed, made content parsed⟩ := by
  have hsteps : finder.find content options = (do
      let fields ← finder.fields options
      let program ← finder.program finder.parse? content
      return ⟨finder.listed fields program, made content program⟩) := by
    cases finder with
    | commonJs =>
      rw [fields_eq, flaw?_of_flags_eq_nil rfl]
      rfl
    | es6 | amd | typed => rfl
    | stylesheet | mixed => simp [isSingle] at h
  rw [hsteps, fields_eq, program_eq]
  cases finder.flaw? options with
  | some entry => rfl
  | none => cases finder.parsed? content <;> rfl

theorem find_program_of_isSingle {finder : Finder} (h : finder.isSingle = true)
    (program : Script.Program) (options : Option Json) :
    finder.find (.program program) options =
      (finder.fields options).map fun fields =>
        { dependencies := finder.listed fields program } := by
  rw [find_of_isSingle h, fields_eq]
  cases finder.flaw? options <;> rfl

/-- With both ways of importing it is the other way round. -/
theorem find_mixed (content : Content) (options : Option Json) :
    Finder.mixed.find content options =
      match Finder.mixed.parsed? content, Finder.mixed.flaw? options with
      | none, _ => .error (.unparsed .es6)
      | some _, some (_, found) => .error (.badOptions .es6 ⟨found, .boolean⟩)
      | some parsed, none =>
        .ok ⟨Finder.mixed.listed (Json.fieldsOf options) parsed, made content parsed⟩ := by
  have hsteps : Finder.mixed.find content options = (do
      let program ← Finder.mixed.program Finder.mixed.parse? content
      let fields ← Finder.mixed.fields options
      return ⟨Finder.mixed.listed fields program, made content program⟩) := rfl
  rw [hsteps, fields_eq, program_eq]
  cases Finder.mixed.parsed? content with
  | none => rfl
  | some parsed => cases Finder.mixed.flaw? options <;> rfl

theorem find_stylesheet_text (dialect : Stylesheet.Dialect) (source : String)
    (options : Option Json) :
    (stylesheet dialect).find (.text source) options =
      match (stylesheet dialect).flaw? options with
      | some (_, found) => .error (.badOptions dialect.format ⟨found, .boolean⟩)
      | none =>
        let sheet := Stylesheet.ofText dialect source
        .ok ⟨sheet.imported ++
            if isOn (Json.fieldsOf options) "url" && dialect = .css then sheet.urls else [],
          some (.stylesheet sheet)⟩ := by
  rw [find, fields_eq]
  cases (stylesheet dialect).flaw? options <;> rfl

end Finder

end Requisite

import Requisite.CoreTable
import Requisite.Format
import Requisite.Json.Basic

/-!
# Options

Options name the format of a text, and hold for each format a value that only the finder of
that format looks into.
-/

namespace Requisite

/-! ## By format -/

@[ext]
structure FormatOptions where
  get? : Format → Option Json

namespace FormatOptions

def empty : FormatOptions := ⟨fun _ => none⟩

def insert (options : FormatOptions) (format : Format) (value : Json) : FormatOptions :=
  ⟨fun f => if f = format then some value else options.get? f⟩

def isEmpty (options : FormatOptions) : Bool := Format.all.all (options.get? · |>.isNone)

/-- Takes up the value of a key, unless the key is no label. -/
def insertLabel (options : FormatOptions) (label : String) (value : Json) : FormatOptions :=
  match Format.ofLabel? label with
  | some format => options.insert format value
  | none => options

/-- Of keys that name the same format, the last one counts. -/
def ofFields (fields : List (String × Json)) : FormatOptions :=
  fields.foldl (fun options (key, value) => options.insertLabel key value) empty

end FormatOptions

/-! ## Of a text -/

@[ext]
structure Options where
  label : Option String := none
  formats : FormatOptions := .empty

namespace Options

def ofLabel (label : String) : Options := { label := some label }

def withLabel (options : Options) (label : String) : Options :=
  { options with label := some label }

def withFormat (options : Options) (format : Format) (value : Json) : Options :=
  { options with formats := options.formats.insert format value }

/-- The flag that lets two ways of importing stand side by side. -/
def mixedKey : String := "mixedImports"

/-- Sets the flag, and keeps the other entries next to it. -/
def withMixedImports (options : Options) (mixed : Bool) : Options :=
  let fields := match options.formats.get? .es6 with
    | some (.object fields) => fields
    | _ => []
  options.withFormat .es6 (.object (Json.setField fields mixedKey (.bool mixed)))

def mixedImports (options : Options) : Bool :=
  ((options.formats.get? .es6).bind (·.field? mixedKey)).any Json.isTruthy

end Options

/-! ## Of a file -/

@[ext]
structure FileOptions where
  text : Options := {}
  includeCore : Bool := true
  core : CoreTable := .node

namespace FileOptions

def withLabel (options : FileOptions) (label : String) : FileOptions :=
  { options with text := options.text.withLabel label }

def withFormat (options : FileOptions) (format : Format) (value : Json) : FileOptions :=
  { options with text := options.text.withFormat format value }

def withMixedImports (options : FileOptions) (mixed : Bool) : FileOptions :=
  { options with text := options.text.withMixedImports mixed }

def withIncludeCore (options : FileOptions) (includeCore : Bool) : FileOptions :=
  { options with includeCore }

end FileOptions

/-! ## Changes -/

inductive OptionsStep where
  | label (name : String)
  | mixedImports (mixed : Bool)
  | includeCore (keep : Bool)
  | format (target : Format) (value : Json)
  /-- Forgets everything but the label. -/
  | onlyLabel (name : String)

def OptionsStep.apply (options : FileOptions) : OptionsStep → FileOptions
  | .label name => options.withLabel name
  | .mixedImports mixed => options.withMixedImports mixed
  | .includeCore keep => options.withIncludeCore keep
  | .format target value => options.withFormat target value
  | .onlyLabel name => { text := .ofLabel name }

end Requisite

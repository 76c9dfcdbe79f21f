import Requisite.Content
import Requisite.Error
import Requisite.Script.Define
import Requisite.Script.Import
import Requisite.Script.Parse
import Requisite.Script.Require
import Requisite.Stylesheet.Import

/-!
# Finders

A finder lists the dependencies of one format. It takes a program as it is, and parses a text
on its own.
-/

namespace Requisite

inductive Finder where
  | commonJs
  | es6
  | amd
  /-- Programs with types, with or without markup. -/
  | typed (markup : Bool)
  | stylesheet (dialect : Stylesheet.Dialect)
  /-- Both ways of importing side by side. -/
  | mixed
  deriving DecidableEq, Repr

/-- The finder of a format. With `mixed`, formats that can be mixed are searched for both. -/
def Format.finder (format : Format) (mixed : Bool) : Finder :=
  if mixed && format.isMixable then .mixed
  else
    match format with
    | .commonJs => .commonJs
    | .es6 => .es6
    | .amd => .amd
    | .typescript => .typed false
    | .tsx => .typed true
    | .css => .stylesheet .css
    | .sass => .stylesheet .sass
    | .scss => .stylesheet .scss
    | .less => .stylesheet .less
    | .stylus => .stylesheet .stylus

namespace Finder

def format : Finder → Format
  | .commonJs => .commonJs
  | .es6 | .mixed => .es6
  | .amd => .amd
  | .typed false => .typescript
  | .typed true => .tsx
  | .stylesheet dialect => dialect.format

/-! ## Flags -/

def flags : Finder → List String
  | .es6 | .mixed => ["skipTypeImports", "skipAsyncImports"]
  | .typed _ => ["skipTypeImports", "skipAsyncImports", "mixedImports"]
  | .amd => ["skipLazyLoaded"]
  | .stylesheet .css => ["url"]
  | .commonJs | .stylesheet _ => []

/-- The first entry of a flag that is no boolean. -/
def badFlag? (names : List String) (fields : List (String × Json)) : Option Json :=
  fields.findSome? fun (key, value) =>
    if names.contains key then
      match value with
      | .bool _ => none
      | value => some value
    else none

/-- The entries of a finder's options. Options that are no object count as none. -/
def fields (finder : Finder) (options : Option Json) : Except Error (List (String × Json)) :=
  match options with
  | some (.object fields) =>
    match badFlag? finder.flags fields with
    | some found => .error (.badOptions finder.format ⟨found, .boolean⟩)
    | none => .ok fields
  | _ => .ok []

def isOn (fields : List (String × Json)) (flag : String) : Bool :=
  match fields.lookup flag with
  | some (.bool value) => value
  | _ => false

/-! ## Finding -/

/-- What a finder found, and the tree if it made one itself. -/
structure Finding where
  dependencies : List String := []
  tree : Option Tree := none
  deriving Repr

/-- Parses a text; a program needs none. -/
def program (finder : Finder) (parse? : String → Option Script.Program) :
    Content → Except Error Script.Program
  | .program program => .ok program
  | .text text =>
    match parse? text with
    | some program => .ok program
    | none => .error (.unparsed finder.format)

/-- The tree that was made of a content, if it was not one before. -/
def made (content : Content) (program : Script.Program) : Option Tree :=
  match content with
  | .program _ => none
  | .text _ => some (.program program)

open Script (parse? parseSource?)

def find (finder : Finder) (content : Content) (options : Option Json) :
    Except Error Finding :=
  match finder with
  | .commonJs => do
    let program ← finder.program parseSource? content
    return ⟨program.required, made content program⟩
  | .es6 => do
    let fields ← finder.fields options
    let program ← finder.program parseSource? content
    return ⟨program.imported {
      skipTypes := isOn fields "skipTypeImports"
      skipDynamic := isOn fields "skipAsyncImports" }, made content program⟩
  | .amd => do
    let fields ← finder.fields options
    let program ← finder.program parseSource? content
    return ⟨program.defined (isOn fields "skipLazyLoaded"), made content program⟩
  | .typed markup => do
    let fields ← finder.fields options
    let program ← finder.program (parse? (if markup then .typedMarkup else .typed)) content
    return ⟨program.imported {
      skipTypes := isOn fields "skipTypeImports"
      skipDynamic := isOn fields "skipAsyncImports"
      requires := isOn fields "mixedImports"
      typedForms := true }, made content program⟩
  | .mixed => do
    -- Here the text is parsed before the flags are looked at.
    let program ← finder.program parseSource? content
    let fields ← finder.fields options
    let imported := program.imported {
      skipTypes := isOn fields "skipTypeImports"
      skipDynamic := isOn fields "skipAsyncImports" }
    return ⟨imported ++ program.required, made content program⟩
  | .stylesheet dialect =>
    match content with
    | .program _ => .error (.needsText dialect.format)
    | .text text => do
      let sheet := Stylesheet.ofText dialect text
      let fields ← finder.fields options
      let urls := if isOn fields "url" && dialect = .css then sheet.urls else []
      return ⟨sheet.imported ++ urls, some (.stylesheet sheet)⟩

end Finder

end Requisite

import Requisite.Finder
import Requisite.Options.Basic
import Requisite.Script.Evidence

/-!
# Extraction

The dependencies of a content. Without a label a text is parsed first, and the program tells
its format. The last tree that came up is remembered from one extraction to the next.
-/

namespace Requisite

/-- Steps that remember the last tree. -/
abbrev Session := StateM (Option Tree)

structure Extraction where
  dependencies : List String := []
  format : Option Format := none
  tree : Option Tree := none
  deriving Repr

/-- A content whose format has been decided, if there is one. -/
structure Subject where
  format : Option Format
  content : Content
  deriving Repr

open Script (parseSource?)

/-- The format of a program, by its label if it has one. -/
def formatOfProgram? (label : Option String) (program : Script.Program) : Option Format :=
  match label with
  | some label => Format.ofLabel? label
  | none => program.format?

namespace Content

/-- Decides the format of a content. A text without label that cannot be parsed is no
subject. -/
def subject? (content : Content) (label : Option String) : Option Subject :=
  match content, label with
  | .program parsed, label => some ⟨formatOfProgram? label parsed, content⟩
  | .text _, some label => some ⟨Format.ofLabel? label, content⟩
  | .text source, none =>
    (parseSource? source).map fun parsed => ⟨parsed.format?, .program parsed⟩

end Content

namespace Subject

def finder? (subject : Subject) (options : Options) : Option Finder :=
  subject.format.map (·.finder options.mixedImports)

/-- Runs the finder. A tree that it makes is remembered. -/
def find (subject : Subject) (options : Options) : Session (Except Error Finder.Finding) := do
  match subject.finder? options with
  | none => return .ok {}
  | some finder =>
    let result := finder.find subject.content (options.formats.get? finder.format)
    if let .ok ⟨_, some tree⟩ := result then set (some tree)
    return result

end Subject

def extract (content : Content) (options : Options) : Session (Except Error Extraction) := do
  let subject := content.subject? options.label
  set (subject.bind (·.content.tree?))
  match subject with
  | none => return .ok {}
  | some subject =>
    match ← subject.find options with
    | .error error => return .error error
    | .ok found =>
      return .ok ⟨found.dependencies, subject.format, found.tree <|> subject.content.tree?⟩

/-- The dependencies of a file. What its name says of its format wins over the options. -/
def extractFile (files : FileSystem) (path : String) (options : FileOptions) :
    Session (Except Error (List String)) := do
  match files.read path with
  | .error cause => return .error (.unreadable path cause)
  | .ok text =>
    let textOptions := match labelOfPath? path with
      | some label => options.text.withLabel label
      | none => options.text
    match ← extract (.text text) textOptions with
    | .error error => return .error error
    | .ok extraction =>
      return .ok (if options.includeCore then extraction.dependencies
        else options.core.withoutCore extraction.dependencies)

end Requisite

import Requisite.Extraction

/-!
# The outcome of an extraction

What an extraction answers and what it leaves behind, without the steps in between. Neither
depends on the tree that was remembered before.
-/

namespace Requisite

open Script (parseSource?)

/-! ## On a subject -/

namespace Subject

/-- What the finder of a subject answers. -/
def found (subject : Subject) (options : Options) : Except Error Finder.Finding :=
  match subject.finder? options with
  | none => .ok {}
  | some finder => finder.find subject.content (options.formats.get? finder.format)

def extraction (subject : Subject) (options : Options) : Except Error Extraction :=
  match subject.found options with
  | .error error => .error error
  | .ok found =>
    .ok ⟨found.dependencies, subject.format, found.tree <|> subject.content.tree?⟩

theorem run_find (subject : Subject) (options : Options) (slot : Option Tree) :
    (subject.find options).run slot =
      (subject.found options,
        match subject.found options with
        | .error _ => slot
        | .ok found => found.tree <|> slot) := by
  unfold find found
  cases subject.finder? options with
  | none => rfl
  | some finder =>
    simp only
    rcases finder.find subject.content (options.formats.get? finder.format) with
      error | ⟨dependencies, _ | tree⟩
    · rfl
    · rfl
    · rfl

end Subject

/-! ## On a content -/

namespace Content

/-- The program that was handed in, or that was parsed to find out the format. -/
def program? : Content → Option String → Option Script.Program
  | .program parsed, _ => some parsed
  | .text source, none => parseSource? source
  | .text _, some _ => none

def outcome (content : Content) (options : Options) : Except Error Extraction :=
  match content.subject? options.label with
  | none => .ok {}
  | some subject => subject.extraction options

/-- What an extraction with a certain answer leaves behind. -/
def leaves (content : Content) (options : Options) : Except Error Extraction → Option Tree
  | .ok extraction => extraction.tree
  | .error _ => (content.program? options.label).map .program

theorem bind_tree?_subject? (content : Content) (label : Option String) :
    (content.subject? label).bind (·.content.tree?) = (content.program? label).map .program := by
  cases content with
  | program parsed => rfl
  | text source =>
    cases label with
    | some label => rfl
    | none =>
      simp only [subject?, program?]
      cases parseSource? source <;> rfl

theorem run_extract (content : Content) (options : Options) (slot : Option Tree) :
    (extract content options).run slot =
      (content.outcome options, content.leaves options (content.outcome options)) := by
  have hslot := bind_tree?_subject? content options.label
  unfold extract outcome
  cases hsubject : content.subject? options.label with
  | none => rfl
  | some subject =>
    rw [hsubject] at hslot
    simp only [Option.bind_some] at hslot ⊢
    simp only [StateT.run_bind, StateT.run_set, Subject.run_find, Subject.extraction, hslot]
    -- The finder's own tree wins over the program in the slot, as it does in the answer.
    cases subject.found options <;> rfl

/-- The finder that an extraction runs, if there is a format to choose it by. -/
def finder? (content : Content) (options : Options) : Option Finder :=
  (content.subject? options.label).bind (·.finder? options)

/-- What the finder is given: a text without label goes as the program that it spells. -/
def given (content : Content) (label : Option String) : Content :=
  match content.program? label with
  | some parsed => .program parsed
  | none => content

theorem content_of_subject? {content : Content} {label : Option String} {subject : Subject}
    (h : content.subject? label = some subject) : subject.content = content.given label := by
  cases content with
  | program parsed =>
    cases h
    rfl
  | text source =>
    cases label with
    | some label =>
      cases h
      rfl
    | none =>
      obtain ⟨parsed, hparse, rfl⟩ := Option.map_eq_some_iff.mp h
      simp only [given, program?, hparse]

theorem outcome_eq_error_iff (content : Content) (options : Options) (error : Error) :
    content.outcome options = .error error ↔
      ∃ finder, content.finder? options = some finder ∧
        finder.find (content.given options.label) (options.formats.get? finder.format) =
          .error error := by
  unfold outcome finder?
  cases hsubject : content.subject? options.label with
  | none => simp
  | some subject =>
    rw [← content_of_subject? hsubject]
    simp only [Subject.extraction, Subject.found, Option.bind_some]
    cases subject.finder? options with
    | none => simp
    | some finder =>
      simp only [Option.some.injEq, exists_eq_left']
      cases finder.find subject.content (options.formats.get? finder.format) <;> simp

end Content

/-! ## On a file -/

/-- The options for the text of a file. -/
def FileOptions.textFor (options : FileOptions) (path : String) : Options :=
  match labelOfPath? path with
  | some label => options.text.withLabel label
  | none => options.text

theorem run_extractFile_of_error {files : FileSystem} {path : String} {cause : ReadError}
    (hread : files.read path = .error cause) (options : FileOptions) (slot : Option Tree) :
    (extractFile files path options).run slot = (.error (.unreadable path cause), slot) := by
  unfold extractFile
  rw [hread]
  rfl

theorem run_extractFile_of_ok {files : FileSystem} {path text : String}
    (hread : files.read path = .ok text) (options : FileOptions) (slot : Option Tree) :
    (extractFile files path options).run slot =
      ((Content.text text).outcome (options.textFor path) |>.map fun extraction =>
          if options.includeCore then extraction.dependencies
          else options.core.withoutCore extraction.dependencies,
        (Content.text text).leaves (options.textFor path)
          ((Content.text text).outcome (options.textFor path))) := by
  unfold extractFile
  rw [hread]
  change (extract (.text text) (options.textFor path) >>= _ : Session _).run slot = _
  rw [StateT.run_bind, Content.run_extract]
  cases (Content.text text).outcome (options.textFor path) <;> rfl

end Requisite

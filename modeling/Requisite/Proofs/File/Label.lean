import Requisite.Proofs.Extraction.Outcome

/-!
# The label of a file

The label of a path comes from the last name in it alone. Neither the directories before that
name nor slashes and dots behind it count, and the label wins over that of the options.
-/

namespace Requisite

/-! ## Pieces of paths -/

theorem segments_ne_nil (text : List Char) : segments text ≠ [] := by
  cases text with
  | nil => simp [segments]
  | cons c cs =>
    unfold segments
    split
    · simp
    · split <;> simp

theorem segments_append_slash (front rest : List Char) :
    segments (front ++ '/' :: rest) = segments front ++ segments rest := by
  induction front with
  | nil => simp [segments]
  | cons c front ih =>
    by_cases hc : c = '/'
    · simp [segments, hc, ih]
    · obtain ⟨piece, pieces, hfront⟩ := List.exists_cons_of_ne_nil (segments_ne_nil front)
      simp [segments, hc, ih, hfront]

theorem segments_of_notMem {text : List Char} (h : '/' ∉ text) : segments text = [text] := by
  induction text with
  | nil => rfl
  | cons c text ih =>
    rw [List.mem_cons, not_or] at h
    simp [segments, Ne.symm h.1, ih h.2]

/-! ## The last name -/

/-- A text that can stand before the last name of a path. -/
def IsDirectory (text : String) : Prop := text = "" ∨ ∃ front, text = front ++ "/"

structure IsFileName (name : String) : Prop where
  ne_empty : name ≠ ""
  ne_dot : name ≠ "."
  ne_dots : name ≠ ".."
  no_slash : '/' ∉ name.toList

/-- A text that can stand behind the last name of a path and adds no name to it. -/
def IsTail (text : String) : Prop :=
  ∃ pieces : List String, (∀ piece ∈ pieces, piece = "/" ∨ piece = "/.") ∧
    text = String.join pieces

theorem segments_append_tail {name : List Char} (hname : '/' ∉ name) {tail : String}
    (htail : IsTail tail) :
    ∃ others, segments (name ++ tail.toList) = name :: others ∧
      ∀ piece ∈ others, piece = [] ∨ piece = ['.'] := by
  obtain ⟨pieces, hpieces, rfl⟩ := htail
  rw [String.toList_join]
  -- Behind the slash of the first piece stands the rest of it, which is again no name.
  induction pieces generalizing name with
  | nil => exact ⟨[], by simp [segments_of_notMem hname], by simp⟩
  | cons piece pieces ih =>
    rw [List.forall_mem_cons] at hpieces
    obtain ⟨hpiece, hpieces⟩ := hpieces
    have hrest : ∃ rest, piece.toList = '/' :: rest ∧ (rest = [] ∨ rest = ['.']) := by
      rcases hpiece with rfl | rfl
      · exact ⟨[], by decide, .inl rfl⟩
      · exact ⟨['.'], by decide, .inr rfl⟩
    obtain ⟨rest, hslash, hrest⟩ := hrest
    have hnone : '/' ∉ rest := by
      rcases hrest with rfl | rfl <;> decide
    obtain ⟨others, hothers, hdots⟩ := ih hnone hpieces
    refine ⟨rest :: others, ?_, List.forall_mem_cons.mpr ⟨hrest, hdots⟩⟩
    rw [List.flatMap_cons, hslash, List.cons_append, segments_append_slash, hothers,
      segments_of_notMem hname, List.singleton_append]

theorem segments_path {directory name tail : String} (hdirectory : IsDirectory directory)
    (hname : IsFileName name) (htail : IsTail tail) :
    ∃ front others, segments (directory ++ name ++ tail).toList = front ++ name.toList :: others ∧
      ∀ piece ∈ others, piece = [] ∨ piece = ['.'] := by
  obtain ⟨others, hothers, hdots⟩ := segments_append_tail hname.no_slash htail
  rcases hdirectory with rfl | ⟨front, rfl⟩
  · exact ⟨[], others, by simpa using hothers, hdots⟩
  · refine ⟨segments front.toList, others, ?_, hdots⟩
    have hslash : (front ++ "/" ++ name ++ tail).toList =
        front.toList ++ '/' :: (name.toList ++ tail.toList) := by simp
    rw [hslash, segments_append_slash, hothers]

theorem fileName?_ofText {directory name tail : String} (hdirectory : IsDirectory directory)
    (hname : IsFileName name) (htail : IsTail tail) :
    (Path.ofText (directory ++ name ++ tail)).fileName? = some name.toList := by
  obtain ⟨front, others, hpieces, hdots⟩ := segments_path hdirectory hname htail
  have hempty : name.toList ≠ [] := by simpa using hname.ne_empty
  have hdot : name.toList ≠ ['.'] := fun h => hname.ne_dot (String.toList_inj.mp h)
  have htwo : name.toList ≠ ['.', '.'] := fun h => hname.ne_dots (String.toList_inj.mp h)
  have hothers : others.filter (fun piece => !piece.isEmpty && piece != ['.']) = [] := by
    rw [List.filter_eq_nil_iff]
    intro piece hpiece
    rcases hdots piece hpiece with rfl | rfl <;> simp
  have hnames : (segments (directory ++ name ++ tail).toList).filter
      (fun piece => !piece.isEmpty && piece != ['.']) =
        front.filter (fun piece => !piece.isEmpty && piece != ['.']) ++ [name.toList] := by
    rw [hpieces, List.filter_append, List.filter_cons_of_pos (by simp [hempty, hdot]), hothers]
  have hlast : (Path.ofText (directory ++ name ++ tail)).names.getLast? = some name.toList := by
    unfold Path.ofText
    simp only [hnames]
    split
    · rw [← List.cons_append, List.getLast?_concat]
    · rw [List.getLast?_concat]
  rw [Path.fileName?, hlast]
  simp [hdot, htwo]

/-! ## Extensions -/

namespace Path

theorem forall_ne_dot_of_notMem {text : List Char} (h : '.' ∉ text) :
    ∀ c ∈ text.reverse, (c != '.') = true := by
  intro c hc
  rw [bne_iff_ne]
  rintro rfl
  exact h (List.mem_reverse.mp hc)

theorem extension?_of_notMem {name : List Char} (h : '.' ∉ name.tail) :
    extension? name = none := by
  cases name with
  | nil => rfl
  | cons c cs =>
    have hdrop : (c :: cs).reverse.dropWhile (· != '.') = [c].dropWhile (· != '.') := by
      rw [List.reverse_cons]
      exact List.dropWhile_append_of_pos (forall_ne_dot_of_notMem h)
    unfold extension?
    simp only [hdrop]
    by_cases hc : c = '.' <;> simp [hc]

theorem extension?_append {stem extension : List Char} (hstem : stem ≠ [])
    (hextension : '.' ∉ extension) :
    extension? (stem ++ '.' :: extension) = some extension := by
  have hdots := forall_ne_dot_of_notMem hextension
  have hreverse :
      (stem ++ '.' :: extension).reverse = extension.reverse ++ '.' :: stem.reverse := by
    simp
  unfold extension?
  simp only [hreverse, List.dropWhile_append_of_pos hdots, List.takeWhile_append_of_pos hdots]
  obtain ⟨c, rest, hrest⟩ := List.exists_cons_of_ne_nil (List.reverse_ne_nil_iff.mpr hstem)
  simp [hrest]

theorem exists_last_dot {name : List Char} (h : '.' ∈ name.tail) :
    ∃ stem extension, name = stem ++ '.' :: extension ∧ stem ≠ [] ∧ '.' ∉ extension := by
  cases name with
  | nil => cases h
  | cons c cs =>
    obtain ⟨after, before, hcs, hafter⟩ :=
      List.eq_append_cons_of_mem (List.mem_reverse.mpr h)
    have hname : cs = before.reverse ++ '.' :: after.reverse := by
      rw [← List.reverse_inj, List.tail_cons] at *
      simpa using hcs
    exact ⟨c :: before.reverse, after.reverse, by simp [hname], by simp, by simpa using hafter⟩

end Path

/-! ## Labels -/

/-- The label that an extension stands for, if the content is not to be asked. -/
def labelOfExtension? (extension : String) : Option String :=
  match extension with
  | "styl" => some "stylus"
  | "cjs" => some "commonjs"
  | "mts" | "cts" => some "ts"
  | "js" | "jsx" => none
  | other => some other

theorem labelOfExtension?_eq (extension : String) :
    labelOfExtension? extension = (extensionLabels.lookup extension).or
      (if openExtensions.contains extension then none else some extension) := by
  unfold labelOfExtension?
  split
  case h_7 hstyl hcjs hmts hcts hjs hjsx =>
    have hlabels : extensionLabels.lookup extension = none := by
      rw [List.lookup_eq_none_iff]
      simpa [extensionLabels] using ⟨hstyl, hcjs, hmts, hcts⟩
    have hopen : openExtensions.contains extension = false := by
      simpa [openExtensions] using ⟨hjs, hjsx⟩
    rw [hlabels, hopen]
    rfl
  all_goals rfl

theorem labelOfPath?_of_fileName? {path : String} {name : List Char}
    (h : (Path.ofText path).fileName? = some name) :
    labelOfPath? path = (Path.extension? name).bind fun extension =>
      labelOfExtension? (String.ofList extension) := by
  unfold labelOfPath?
  simp only [h, Option.bind_eq_bind, Option.bind_some]
  congr 1
  funext extension
  rw [labelOfExtension?_eq]
  cases extensionLabels.lookup (String.ofList extension) <;> rfl

theorem ne_of_labelOfExtension? {extension label : String}
    (h : labelOfExtension? extension = some label) :
    label ∉ ["js", "jsx", "styl", "cjs", "mts", "cts"] := by
  unfold labelOfExtension? at h
  split at h
  case h_7 hstyl hcjs hmts hcts hjs hjsx =>
    cases h
    simpa using ⟨hjs, hjsx, hstyl, hcjs, hmts, hcts⟩
  case h_5 | h_6 => cases h
  all_goals
    cases h
    decide

/-! ## Extractions from a file -/

theorem run_extractFile_of_label {files : FileSystem} {path text label : String}
    (hread : files.read path = .ok text) (hlabel : labelOfPath? path = some label)
    (options : FileOptions) (slot : Option Tree) :
    let found := (extract (.text text) { options.text with label := some label }).run slot
    (extractFile files path options).run slot =
      (found.1.map fun extraction =>
          if options.includeCore then extraction.dependencies
          else options.core.withoutCore extraction.dependencies,
        found.2) := by
  have htext : options.textFor path = { options.text with label := some label } := by
    unfold FileOptions.textFor
    rw [hlabel]
    rfl
  intro found
  rw [run_extractFile_of_ok hread, htext]
  unfold found
  rw [Content.run_extract]

/-- The label of a path is decided by what stands behind the last dot of its last name. It is never
an extension that stands for another label or for none, and an extraction from a file with that
path takes it in place of the label in the options. -/
theorem labelOfPath?_of_name {directory name tail : String} (hdirectory : IsDirectory directory)
    (hname : IsFileName name) (htail : IsTail tail) :
    let path := directory ++ name ++ tail
    ('.' ∉ name.toList.tail → labelOfPath? path = none) ∧
      ('.' ∈ name.toList.tail →
        ∃ stem extension, name = stem ++ "." ++ extension ∧ stem ≠ "" ∧ '.' ∉ extension.toList ∧
          labelOfPath? path = labelOfExtension? extension) ∧
      labelOfPath? path = labelOfPath? name ∧
      ∀ label, labelOfPath? path = some label →
        label ∉ ["js", "jsx", "styl", "cjs", "mts", "cts"] ∧
        ∀ (files : FileSystem) (text : String) (options : FileOptions) (slot : Option Tree),
          files.read path = .ok text →
          let found := (extract (.text text) { options.text with label := some label }).run slot
          (extractFile files path options).run slot =
            (found.1.map fun extraction =>
                if options.includeCore then extraction.dependencies
                else options.core.withoutCore extraction.dependencies,
              found.2) := by
  intro path
  have hpath := labelOfPath?_of_fileName? (fileName?_ofText hdirectory hname htail)
  have hbare := labelOfPath?_of_fileName? (fileName?_ofText (.inl rfl) hname ⟨[], by simp, rfl⟩)
  refine ⟨?_, ?_, ?_, ?_⟩
  · intro hdot
    rw [hpath, Path.extension?_of_notMem hdot]
    rfl
  · intro hdot
    obtain ⟨stem, extension, hsplit, hstem, hextension⟩ := Path.exists_last_dot hdot
    refine ⟨String.ofList stem, String.ofList extension, ?_, by simpa using hstem,
      by simpa using hextension, ?_⟩
    · apply String.toList_inj.mp
      simpa using hsplit
    · rw [hpath, hsplit, Path.extension?_append hstem hextension]
      rfl
  · rw [hpath]
    simpa using hbare.symm
  · intro label hlabel
    refine ⟨?_, fun files text options slot hread =>
      run_extractFile_of_label hread hlabel options slot⟩
    rw [hpath] at hlabel
    obtain ⟨extension, -, hextension⟩ := Option.bind_eq_some_iff.mp hlabel
    exact ne_of_labelOfExtension? hextension

/-- Directories with extensions, a name with two dots, and slashes and dots behind it. -/
theorem labelOfPath?_of_name_dots :
    let path := "a.css/../.less//" ++ ".b.mts" ++ "//.//."
    let files := FileSystem.ofFiles [("a.css/../.less/.b.mts", "import './c';")] []
    let options : FileOptions := { text := .ofLabel "amd" }
    let found := (extract (.text "import './c';") { options.text with label := some "ts" }).run none
    IsDirectory "a.css/../.less//" ∧ IsFileName ".b.mts" ∧ IsTail "//.//." ∧
      '.' ∈ ".b.mts".toList.tail ∧ files.read path = .ok "import './c';" ∧
      labelOfPath? path = some "ts" ∧ labelOfPath? path = labelOfPath? ".b.mts" ∧
      (extractFile files path options).run none =
        (found.1.map fun extraction => extraction.dependencies, found.2) := by
  have hdirectory : IsDirectory "a.css/../.less//" := .inr ⟨"a.css/../.less/", rfl⟩
  have hname : IsFileName ".b.mts" := ⟨by decide, by decide, by decide, by decide⟩
  have htail : IsTail "//.//." := ⟨["/", "/.", "/", "/."], by simp, rfl⟩
  have hlabel : labelOfPath? ("a.css/../.less//" ++ ".b.mts" ++ "//.//.") = some "ts" := by
    decide +kernel
  have hsame : Path.ofText "a.css/../.less/.b.mts" =
      Path.ofText ("a.css/../.less//" ++ ".b.mts" ++ "//.//.") := by decide +kernel
  have hread : (FileSystem.ofFiles [("a.css/../.less/.b.mts", "import './c';")] []).read
      ("a.css/../.less//" ++ ".b.mts" ++ "//.//.") = .ok "import './c';" := by
    simp [FileSystem.ofFiles, hsame]
  obtain ⟨-, -, hbare, huse⟩ := labelOfPath?_of_name hdirectory hname htail
  exact ⟨hdirectory, hname, htail, by decide, hread, hlabel, hbare,
    (huse "ts" hlabel).2 _ _ { text := .ofLabel "amd" } none hread⟩

end Requisite

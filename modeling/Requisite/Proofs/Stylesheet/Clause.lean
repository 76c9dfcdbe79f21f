import Requisite.Proofs.Stylesheet.Rendering

/-!
# Clauses behind an import

What follows the quotes of an import up to the end of the statement: a media query, `as x`,
`hide a, b`. In a dialect without bare words a clause names no file. With bare words the clause
is cut at its commas first, and a piece after a comma is taken for a file.
-/

namespace Requisite.Stylesheet

open Text (isBlank trim trimStart trimEnd)

/-- A character that neither nests nor ends anything. -/
def isClauseChar (c : Char) : Bool :=
  !isQuote c && c != '\\' && c != '(' && c != ')' && c != '/' && c != ';' && c != '\x7b'
    && c != '\x7d' && c != '\n'

/-- A text that can follow the quotes of an import. -/
structure Clause where
  text : List Char
  isPlain : ∀ c ∈ text, isClauseChar c = true

/-- The first word of a text, where only blanks end a word. -/
def firstWord (text : List Char) : List Char := (trimStart text).takeWhile (!isBlank ·)

/-- The first words of what stands after each comma, up to the first comma that is followed by
none. -/
def wordsAfterCommas (text : List Char) : List String :=
  (((text.splitOn ',').tail.map firstWord).takeWhile (!·.isEmpty)).map String.ofList

/-- An import statement with a clause, without its end. -/
def Clause.render (clause : Clause) (name : String) (file : Quoted) : List Char :=
  '@' :: (name.toList ++ ' ' :: (file.render ++ clause.text))

/-- The files that the finder of a dialect lists for a text. -/
def Dialect.filesIn (dialect : Dialect) (text : String) : Except Error (List String) :=
  ((Finder.stylesheet dialect).find (.text text) none).map Finder.Finding.dependencies

theorem Dialect.filesIn_eq (dialect : Dialect) (text : String) :
    dialect.filesIn text = .ok (ofText dialect text).imported := by
  change Except.ok ((ofText dialect text).imported ++ []) = _
  rw [List.append_nil]

/-! ## Blanks -/

theorem exists_trimEnd_append (text : List Char) :
    ∃ blanks, (∀ c ∈ blanks, isBlank c = true) ∧ trimEnd text ++ blanks = text := by
  refine ⟨(text.reverse.takeWhile isBlank).reverse, ?_, ?_⟩
  · intro c hc
    exact List.all_eq_true.mp List.all_takeWhile c (List.mem_reverse.mp hc)
  · rw [trimEnd, ← List.reverse_append, List.takeWhile_append_dropWhile, List.reverse_reverse]

theorem trimEnd_append {c : Char} (hc : isBlank c = false) (before text : List Char) :
    trimEnd (before ++ c :: text) = before ++ c :: trimEnd text := by
  have hstop : (c :: before.reverse).dropWhile isBlank = c :: before.reverse := by simp [hc]
  have hreverse : (before ++ c :: text).reverse = text.reverse ++ c :: before.reverse := by simp
  rw [trimEnd, hreverse, List.dropWhile_append, hstop]
  split
  · next hblank => simp [trimEnd, List.isEmpty_iff.mp hblank]
  · simp [trimEnd]

theorem firstWord_eq_nil_iff (text : List Char) :
    firstWord text = [] ↔ ∀ c ∈ text, isBlank c = true := by
  induction text with
  | nil => simp [firstWord, trimStart]
  | cons c text ih =>
    by_cases hc : isBlank c = true
    · simpa [firstWord, trimStart, hc] using ih
    · simp [firstWord, trimStart, hc]

theorem firstWord_append_blanks {blanks : List Char} (h : ∀ c ∈ blanks, isBlank c = true)
    (text : List Char) : firstWord (text ++ blanks) = firstWord text := by
  have hdrop : blanks.dropWhile isBlank = [] := by
    have hall : (blanks ++ []).dropWhile isBlank = [] := List.dropWhile_append_of_pos h
    rwa [List.append_nil] at hall
  have htake : blanks.takeWhile (!isBlank ·) = [] := by
    cases blanks with
    | nil => rfl
    | cons c blanks => simp [h c (by simp)]
  rw [firstWord, firstWord, trimStart, trimStart, List.dropWhile_append, hdrop]
  split
  · next hblank => rw [List.isEmpty_iff.mp hblank]
  · rw [List.takeWhile_append, htake, List.append_nil]
    split
    · next hlength =>
      exact (List.IsPrefix.eq_of_length (List.takeWhile_prefix _) hlength).symm
    · rfl

/-! ## Pieces between commas -/

theorem splitOn_cons (c : Char) (text : List Char) :
    (c :: text).splitOn ',' =
      if c == ',' then [] :: text.splitOn ',' else (text.splitOn ',').modifyHead (c :: ·) :=
  List.splitOnP_cons_eq_if_modifyHead c text

theorem mem_of_mem_splitOn {text piece : List Char} (hpiece : piece ∈ text.splitOn ',')
    {c : Char} (hc : c ∈ piece) : c ∈ text ∧ c ≠ ',' := by
  induction text generalizing piece c with
  | nil => simp_all
  | cons d text ih =>
    obtain ⟨first, others, hsplit⟩ := List.exists_cons_of_ne_nil (List.splitOn_ne_nil ',' text)
    rw [hsplit] at ih
    rw [splitOn_cons, hsplit] at hpiece
    split at hpiece
    · rcases List.mem_cons.mp hpiece with rfl | hpiece
      · simp at hc
      · exact ⟨List.mem_cons_of_mem d (ih hpiece hc).1, (ih hpiece hc).2⟩
    · next hd =>
      rw [List.modifyHead_cons, List.mem_cons] at hpiece
      rcases hpiece with rfl | hpiece
      · rcases List.mem_cons.mp hc with rfl | hc
        · exact ⟨List.mem_cons_self, by simpa using hd⟩
        · have hfirst := ih List.mem_cons_self hc
          exact ⟨List.mem_cons_of_mem d hfirst.1, hfirst.2⟩
      · have hother := ih (List.mem_cons_of_mem first hpiece) hc
        exact ⟨List.mem_cons_of_mem d hother.1, hother.2⟩

theorem splitOn_append {after : List Char} (h : ',' ∉ after) (text : List Char) :
    ∃ pieces last, text.splitOn ',' = pieces ++ [last] ∧
      (text ++ after).splitOn ',' = pieces ++ [last ++ after] := by
  induction text with
  | nil =>
    refine ⟨[], [], List.splitOn_nil ',', List.splitOnP_eq_singleton fun c hc => ?_⟩
    rw [beq_eq_false_iff_ne]
    rintro rfl
    exact h hc
  | cons c text ih =>
    obtain ⟨pieces, last, htext, hboth⟩ := ih
    rw [List.cons_append, splitOn_cons, splitOn_cons, htext, hboth]
    split
    · exact ⟨[] :: pieces, last, rfl, rfl⟩
    · cases pieces with
      | nil => exact ⟨[], c :: last, rfl, rfl⟩
      | cons first pieces => exact ⟨(c :: first) :: pieces, last, rfl, rfl⟩

theorem wordsAfterCommas_append_blanks {blanks : List Char} (h : ∀ c ∈ blanks, isBlank c = true)
    (text : List Char) : wordsAfterCommas (text ++ blanks) = wordsAfterCommas text := by
  have hcomma : ',' ∉ blanks := fun hc => absurd (h ',' hc) (by decide)
  obtain ⟨pieces, last, htext, hboth⟩ := splitOn_append hcomma text
  rw [wordsAfterCommas, wordsAfterCommas, htext, hboth]
  cases pieces with
  | nil => rfl
  | cons first pieces => simp [firstWord_append_blanks h]

theorem wordsAfterCommas_trimEnd (text : List Char) :
    wordsAfterCommas (trimEnd text) = wordsAfterCommas text := by
  obtain ⟨blanks, hblanks, htext⟩ := exists_trimEnd_append text
  rw [← wordsAfterCommas_append_blanks hblanks (trimEnd text), htext]

theorem wordsAfterCommas_eq_nil_iff (text : List Char) :
    wordsAfterCommas text = [] ↔
      ∀ piece, (text.splitOn ',')[1]? = some piece → ∀ c ∈ piece, isBlank c = true := by
  match hsplit : text.splitOn ',' with
  | [] => simp [wordsAfterCommas, hsplit]
  | [first] => simp [wordsAfterCommas, hsplit]
  | first :: second :: pieces =>
    simp [wordsAfterCommas, hsplit, List.takeWhile_cons, ← firstWord_eq_nil_iff]

/-! ## Reading a clause -/

theorem ne_of_isClauseChar {c d : Char} (hc : isClauseChar c = true)
    (hd : isClauseChar d = false) : c ≠ d := by
  rintro rfl
  simp [hc] at hd

theorem isQuote_of_isClauseChar {c : Char} (h : isClauseChar c = true) : isQuote c = false := by
  simp only [isClauseChar, Bool.and_eq_true, Bool.not_eq_true'] at h
  simp only [h]

theorem endsPrelude_of_isClauseChar {c : Char} (h : isClauseChar c = true) (dialect : Dialect) :
    endsPrelude dialect c = false := by
  have hsemicolon : c ≠ ';' := ne_of_isClauseChar h (by decide)
  have hopen : c ≠ '\x7b' := ne_of_isClauseChar h (by decide)
  have hclose : c ≠ '\x7d' := ne_of_isClauseChar h (by decide)
  have hline : c ≠ '\n' := ne_of_isClauseChar h (by decide)
  simp [endsPrelude, hsemicolon, hopen, hclose, hline]

theorem prelude_plain {text : List Char} (h : ∀ c ∈ text, isClauseChar c = true)
    (dialect : Dialect) (rest : List Char) :
    prelude dialect 0 (text ++ rest) =
      (text.map (⟨[·], false⟩) ++ (prelude dialect 0 rest).1, (prelude dialect 0 rest).2) := by
  induction text with
  | nil => rfl
  | cons c text ih =>
    rw [List.forall_mem_cons] at h
    obtain ⟨hc, htext⟩ := h
    have hslash : c ≠ '/' := ne_of_isClauseChar hc (by decide)
    have hopen : c ≠ '(' := ne_of_isClauseChar hc (by decide)
    have hclose : c ≠ ')' := ne_of_isClauseChar hc (by decide)
    rw [List.cons_append, prelude_char (fun _ => comment?_eq_none hslash dialect _)
      (isQuote_of_isClauseChar hc) (fun _ => endsPrelude_of_isClauseChar hc dialect)]
    simp [hopen, hclose, ih htext]

theorem splitFrom_plain {text : List Char} (h : ∀ c ∈ text, isClauseChar c = true)
    (part : List Char) :
    splitFrom ',' {} part text = (text.splitOn ',').modifyHead (part.reverse ++ ·) := by
  induction text generalizing part with
  | nil => simp [splitFrom]
  | cons c text ih =>
    rw [List.forall_mem_cons] at h
    obtain ⟨hc, htext⟩ := h
    have hquote : isQuote c = false := isQuote_of_isClauseChar hc
    have hopen : c ≠ '(' := ne_of_isClauseChar hc (by decide)
    have hclose : c ≠ ')' := ne_of_isClauseChar hc (by decide)
    have hnext : Nesting.next {} c = {} := by simp [Nesting.next, hquote, hopen, hclose]
    have hcut : Nesting.cutsAt {} ',' c = (c == ',') := by
      simp [Nesting.cutsAt, hquote, bne_iff_ne.mpr hopen, bne_iff_ne.mpr hclose]
    obtain ⟨first, others, hsplit⟩ := List.exists_cons_of_ne_nil (List.splitOn_ne_nil ',' text)
    rw [splitFrom, hcut, hnext, splitOn_cons, ih htext, ih htext, hsplit]
    split <;> simp

theorem skipOptions_plain {text : List Char} (h : '(' ∉ text) : skipOptions text = text := by
  unfold skipOptions
  split
  · simp at h
  · rfl

theorem eq_paren_of_toLower {c : Char} (h : c.toLower = '(') : c = '(' := by
  unfold Char.toLower at h
  split at h
  · have hval : c.val + 32 = 40 := congrArg Char.val h
    grind
  · exact h

theorem startsUrl_plain {text : List Char} (h : '(' ∉ text) : startsUrl text = false := by
  rw [startsUrl, beq_eq_false_iff_ne]
  intro hstart
  have hlower : '(' ∈ (text.take 4).map Char.toLower := by simp [hstart]
  obtain ⟨c, hc, hparen⟩ := List.mem_map.mp hlower
  rw [eq_paren_of_toLower hparen] at hc
  exact h (List.mem_of_mem_take hc)

theorem takeWhile_endsWord {text : List Char} (h : ∀ c ∈ text, isClauseChar c = true ∧ c ≠ ',') :
    text.takeWhile (!endsWord ·) = text.takeWhile (!isBlank ·) := by
  induction text with
  | nil => rfl
  | cons c text ih =>
    rw [List.forall_mem_cons] at h
    obtain ⟨⟨hc, hcomma⟩, htext⟩ := h
    have hopen : c ≠ '(' := ne_of_isClauseChar hc (by decide)
    have hclose : c ≠ ')' := ne_of_isClauseChar hc (by decide)
    have hsemicolon : c ≠ ';' := ne_of_isClauseChar hc (by decide)
    have hbegin : c ≠ '\x7b' := ne_of_isClauseChar hc (by decide)
    have hend : c ≠ '\x7d' := ne_of_isClauseChar hc (by decide)
    have hword : endsWord c = isBlank c := by
      simp [endsWord, isQuote_of_isClauseChar hc, beq_false_of_ne, *]
    rw [List.takeWhile_cons, List.takeWhile_cons, hword, ih htext]

theorem specifier?_plain {piece : List Char} (h : ∀ c ∈ piece, isClauseChar c = true ∧ c ≠ ',')
    (allowsBare : Bool) :
    specifier? allowsBare piece =
      if allowsBare then (some (firstWord piece)).filter (!·.isEmpty) else none := by
  have htrim : ∀ c ∈ trimStart piece, isClauseChar c = true ∧ c ≠ ',' :=
    fun c hc => h c ((List.dropWhile_sublist _).mem hc)
  have hparen : '(' ∉ trimStart piece := fun hc => absurd (htrim _ hc).1 (by decide)
  simp only [specifier?, firstWord, skipOptions_plain hparen, startsUrl_plain hparen]
  rw [← takeWhile_endsWord htrim]
  cases hpiece : trimStart piece with
  | nil => cases allowsBare <;> rfl
  | cons c cs =>
    have hquote : isQuote c = false := isQuote_of_isClauseChar (htrim c (by simp [hpiece])).1
    cases allowsBare <;> simp [hquote]

theorem specifiers_false_plain {pieces : List (List Char)}
    (h : ∀ piece ∈ pieces, ∀ c ∈ piece, isClauseChar c = true ∧ c ≠ ',') :
    specifiers false pieces = [] := by
  cases pieces with
  | nil => rfl
  | cons piece pieces => simp [specifiers, specifier?_plain (h piece List.mem_cons_self)]

theorem specifiers_true_plain {pieces : List (List Char)}
    (h : ∀ piece ∈ pieces, ∀ c ∈ piece, isClauseChar c = true ∧ c ≠ ',') :
    specifiers true pieces =
      ((pieces.map firstWord).takeWhile (!·.isEmpty)).map String.ofList := by
  induction pieces with
  | nil => rfl
  | cons piece pieces ih =>
    rw [List.forall_mem_cons] at h
    obtain ⟨hpiece, hpieces⟩ := h
    rw [specifiers, specifier?_plain hpiece, if_pos rfl, ih hpieces, List.map_cons,
      List.takeWhile_cons]
    cases firstWord piece with
    | nil => rfl
    | cons c word => rfl

/-! ## Import statements with a clause -/

namespace Clause

/-- The file in quotes comes first, and the pieces after the commas of the clause follow. -/
theorem specifiers_splitTop (file : Quoted) {text : List Char}
    (h : ∀ c ∈ text, isClauseChar c = true) (allowsBare : Bool) :
    specifiers allowsBare (splitTop ',' (file.render ++ text)) =
      String.ofList file.text :: if allowsBare then wordsAfterCommas text else [] := by
  have hpieces : ∀ piece ∈ text.splitOn ',', ∀ c ∈ piece,
      isClauseChar c = true ∧ c ≠ ',' := by
    intro piece hpiece c hc
    obtain ⟨hmem, hcomma⟩ := mem_of_mem_splitOn hpiece hc
    exact ⟨h c hmem, hcomma⟩
  obtain ⟨first, others, hsplit⟩ := List.exists_cons_of_ne_nil (List.splitOn_ne_nil ',' text)
  rw [hsplit, List.forall_mem_cons] at hpieces
  have hquote : file.quote ∉ file.text := fun hc => (file.isPlain _ hc).1 rfl
  have hblanks : ∀ c ∈ ([] : List Char), isBlank c = true := by simp
  have hfirst : specifier? allowsBare (file.render ++ first) = some file.text := by
    rw [Quoted.render_append]
    exact specifier?_string file.isQuote_quote hblanks file.text_ne_nil hquote allowsBare first
  rw [splitTop, Quoted.splitFrom_render, splitFrom_plain h, hsplit, List.append_nil,
    List.reverse_reverse, List.modifyHead_cons, specifiers, hfirst]
  cases allowsBare with
  | false => simp [specifiers_false_plain hpieces.2]
  | true => simp [specifiers_true_plain hpieces.2, wordsAfterCommas, hsplit]

theorem trim_append (file : Quoted) (text : List Char) :
    trim (' ' :: (file.render ++ text)) = file.render ++ trimEnd text := by
  have hblank : isBlank file.quote = false := isBlank_of_isQuote file.isQuote_quote
  have hstart : trimStart (' ' :: (file.render ++ text)) = file.render ++ text := by
    rw [Quoted.render_append, trimStart, List.dropWhile_cons_of_pos (by decide),
      List.dropWhile_cons_of_neg (by simp [hblank])]
  rw [trim, hstart, Quoted.render_append, ← List.cons_append, trimEnd_append hblank]
  simp [Quoted.render]

theorem flatMap_text_plain (text : List Char) :
    ((text.map fun c => Part.mk [c] false).filter (!·.isComment)).flatMap Part.text = text := by
  induction text with
  | nil => rfl
  | cons c text ih => simpa using ih

/-- The pieces of the prelude of a statement. -/
def parts (clause : Clause) (file : Quoted) : List Part :=
  ⟨[' '], false⟩ :: ⟨file.render, false⟩ :: clause.text.map (⟨[·], false⟩)

theorem prelude_eq (clause : Clause) (file : Quoted) {dialect : Dialect} {ending : List Char}
    (hend : prelude dialect 0 ending = ([], ending)) :
    prelude dialect 0 (' ' :: (file.render ++ (clause.text ++ ending))) =
      (clause.parts file, ending) := by
  rw [Quoted.prelude_between (.inr rfl), Quoted.prelude_render, prelude_plain clause.isPlain, hend]
  simp [parts]

theorem preludeText_parts (clause : Clause) (file : Quoted) :
    preludeText (clause.parts file) = String.ofList (file.render ++ trimEnd clause.text) := by
  rw [← trim_append, preludeText]
  simp [parts, flatMap_text_plain]

theorem imported_render {dialect : Dialect} {name : String} (hname : name ∈ dialect.importRules)
    (clause : Clause) (file : Quoted) {ending : List Char}
    (hend : prelude dialect 0 ending = ([], ending)) (hline : (eat ';' ending).2 = ['\n']) :
    (ofText dialect (String.ofList (clause.render name file ++ ending))).imported =
      String.ofList file.text ::
        if dialect.allowsBare then wordsAfterCommas clause.text else [] := by
  obtain ⟨hne, hchars⟩ := isName_of_mem_importRules hname
  have hstop (c : Char)
      (hc : (' ' :: (file.render ++ (clause.text ++ ending))).head? = some c) :
      isNameChar c = false := by
    cases hc
    decide
  have hrender : clause.render name file ++ ending =
      '@' :: (name.toList ++ ' ' :: (file.render ++ (clause.text ++ ending))) := by
    simp [render]
  have hrule : dialect.importRules.contains (String.ofList name.toList) = true := by
    rw [String.ofList_toList]
    exact List.contains_iff_mem.mpr hname
  have hplain : ∀ c ∈ trimEnd clause.text, isClauseChar c = true := by
    obtain ⟨blanks, -, htext⟩ := exists_trimEnd_append clause.text
    intro c hc
    exact clause.isPlain c (htext ▸ List.mem_append_left blanks hc)
  rw [imported_ofText, String.toList_ofList, hrender, lexemes_cons,
    lexeme_name hne (List.all_eq_true.mp hchars) hstop, clause.prelude_eq file hend, hline,
    lexemes_newline, lexemes]
  simp only [List.flatMap_cons, List.flatMap_nil, Lexeme.imported, hrule, if_true,
    preludeText_parts, String.toList_ofList, specifiers_splitTop file hplain,
    wordsAfterCommas_trimEnd, List.append_nil]

end Clause

/-- Without bare words a statement with a clause imports the file in quotes and no other. With
bare words the pieces after the commas follow it, so the two dialects agree exactly if no more
than blanks stand between the first comma and the next. -/
theorem filesIn_clause {name : String} (hname : name ∈ ["import", "use", "forward"])
    (file : Quoted) (clause : Clause) :
    let scss := Dialect.scss.filesIn (String.ofList (clause.render name file ++ [';', '\n']))
    let sass := Dialect.sass.filesIn (String.ofList (clause.render name file ++ ['\n']))
    scss = .ok [String.ofList file.text] ∧
      sass = .ok (String.ofList file.text :: wordsAfterCommas clause.text) ∧
      (sass = scss ↔
        ∀ piece, (clause.text.splitOn ',')[1]? = some piece → ∀ c ∈ piece, isBlank c = true) := by
  intro scss sass
  have hscss : scss = .ok [String.ofList file.text] := by
    have hend : prelude .scss 0 [';', '\n'] = ([], [';', '\n']) := prelude_end (by decide) _
    exact (Dialect.filesIn_eq _ _).trans
      (congrArg Except.ok (clause.imported_render hname file hend rfl))
  have hsass : sass = .ok (String.ofList file.text :: wordsAfterCommas clause.text) := by
    have hend : prelude .sass 0 ['\n'] = ([], ['\n']) := prelude_end (by decide) _
    exact (Dialect.filesIn_eq _ _).trans
      (congrArg Except.ok (clause.imported_render hname file hend rfl))
  refine ⟨hscss, hsass, ?_⟩
  rw [hscss, hsass, ← wordsAfterCommas_eq_nil_iff]
  simp

/-- The second name to hide is taken for a file. -/
theorem filesIn_clause_hide :
    Dialect.scss.filesIn "@forward \"src/list\" hide list-reset, $gap;\n" = .ok ["src/list"] ∧
      Dialect.sass.filesIn "@forward \"src/list\" hide list-reset, $gap\n" =
        .ok ["src/list", "$gap"] := by
  let file : Quoted := ⟨'"', "src/list".toList, rfl, by decide +kernel, by simp⟩
  let clause : Clause :=
    ⟨" hide list-reset, $gap".toList, List.all_eq_true.mp (by decide +kernel)⟩
  obtain ⟨hscss, hsass, -⟩ :=
    filesIn_clause (show "forward" ∈ ["import", "use", "forward"] by decide) file clause
  have hclosed : String.ofList (clause.render "forward" file ++ [';', '\n']) =
      "@forward \"src/list\" hide list-reset, $gap;\n" := by decide +kernel
  have hopen : String.ofList (clause.render "forward" file ++ ['\n']) =
      "@forward \"src/list\" hide list-reset, $gap\n" := by decide +kernel
  have hfile : String.ofList file.text = "src/list" := String.ofList_toList
  have hwords : wordsAfterCommas clause.text = ["$gap"] := by decide +kernel
  rw [hclosed, hfile] at hscss
  rw [hopen, hfile, hwords] at hsass
  exact ⟨hscss, hsass⟩

end Requisite.Stylesheet

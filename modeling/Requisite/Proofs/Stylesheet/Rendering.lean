import Requisite.Finder
import Requisite.Proofs.Stylesheet.Import

/-!
# Rendered style sheets

Import statements, comments and declarations, written one after the other. A finder gets back
exactly the files of the import statements, whatever stands in the quotes and in the comments.
-/

namespace Requisite.Stylesheet

open Text (isBlank trim trimStart trimEnd)

/-! ## Texts in quotes -/

/-- A text that can stand in quotes as it is. -/
structure Quoted where
  quote : Char
  text : List Char
  isQuote_quote : isQuote quote = true
  text_ne_nil : text ≠ []
  isPlain : ∀ c ∈ text, c ≠ quote ∧ c ≠ '\\' ∧ c ≠ '\n'

namespace Quoted

def render (quoted : Quoted) : List Char := quoted.quote :: (quoted.text ++ [quoted.quote])

/-- One or more texts with commas between them. -/
def renderList (first : Quoted) (others : List Quoted) : List Char :=
  first.render ++ others.flatMap fun quoted => ',' :: ' ' :: quoted.render

/-- The pieces of a prelude that a list becomes. -/
def parts (first : Quoted) (others : List Quoted) : List Part :=
  ⟨first.render, false⟩ ::
    others.flatMap fun quoted => [⟨[','], false⟩, ⟨[' '], false⟩, ⟨quoted.render, false⟩]

theorem stringBody_render (quoted : Quoted) (rest : List Char) :
    stringBody quoted.quote (quoted.text ++ quoted.quote :: rest) =
      (quoted.text ++ [quoted.quote], rest) := by
  have hslash : quoted.quote ≠ '\\' := ne_of_isQuote quoted.isQuote_quote (by decide)
  exact stringBody_append_quote hslash (escaped_of_plain quoted.isPlain) rest

theorem render_append (quoted : Quoted) (rest : List Char) :
    quoted.render ++ rest = quoted.quote :: (quoted.text ++ quoted.quote :: rest) := by
  simp [render]

theorem renderList_cons (first second : Quoted) (others : List Quoted) :
    renderList first (second :: others) =
      first.render ++ ',' :: ' ' :: renderList second others := by
  simp [renderList]

theorem prelude_render (quoted : Quoted) (dialect : Dialect) (depth : Nat) (rest : List Char) :
    prelude dialect depth (quoted.render ++ rest) =
      (⟨quoted.render, false⟩ :: (prelude dialect depth rest).1,
        (prelude dialect depth rest).2) := by
  rw [render_append, prelude_string quoted.isQuote_quote, stringBody_render]
  rfl

theorem prelude_between {c : Char} (hc : c = ',' ∨ c = ' ') (dialect : Dialect)
    (rest : List Char) :
    prelude dialect 0 (c :: rest) =
      (⟨[c], false⟩ :: (prelude dialect 0 rest).1, (prelude dialect 0 rest).2) := by
  have hslash : c ≠ '/' := by rcases hc with rfl | rfl <;> decide
  have hquote : isQuote c = false := by rcases hc with rfl | rfl <;> decide
  have hend : endsPrelude dialect c = false := by
    rcases hc with rfl | rfl <;> cases dialect <;> decide
  rw [prelude_char (fun _ => comment?_eq_none hslash dialect rest) hquote (fun _ => hend)]
  rcases hc with rfl | rfl <;> rfl

theorem prelude_renderList (first : Quoted) (others : List Quoted) (dialect : Dialect)
    (rest : List Char) :
    prelude dialect 0 (renderList first others ++ ';' :: rest) =
      (parts first others, ';' :: rest) := by
  induction others generalizing first with
  | nil =>
    have hend : endsPrelude dialect ';' = true := by cases dialect <;> decide
    rw [renderList, List.flatMap_nil, List.append_nil, prelude_render, prelude_end hend]
    rfl
  | cons second others ih =>
    rw [renderList_cons, List.append_assoc, prelude_render, List.cons_append,
      prelude_between (.inl rfl), List.cons_append, prelude_between (.inr rfl), ih]
    rfl

/-! ### What the prelude says -/

theorem flatMap_text_parts (first : Quoted) (others : List Quoted) :
    ((parts first others).filter (!·.isComment)).flatMap Part.text = renderList first others := by
  induction others generalizing first with
  | nil => simp [parts, renderList]
  | cons second others ih =>
    rw [renderList_cons, ← ih second]
    simp [parts]

theorem renderList_ends (first : Quoted) (others : List Quoted) :
    ∃ body quote, isQuote quote = true ∧ renderList first others = body ++ [quote] := by
  induction others generalizing first with
  | nil =>
    refine ⟨first.quote :: first.text, first.quote, first.isQuote_quote, ?_⟩
    simp [renderList, render]
  | cons second others ih =>
    obtain ⟨body, quote, hquote, hbody⟩ := ih second
    refine ⟨first.render ++ ',' :: ' ' :: body, quote, hquote, ?_⟩
    rw [renderList_cons, hbody]
    simp

theorem trim_renderList (first : Quoted) (others : List Quoted) :
    trim (' ' :: renderList first others) = renderList first others := by
  have hstart : trimStart (' ' :: renderList first others) = renderList first others := by
    rw [renderList, render_append, trimStart, List.dropWhile_cons_of_pos (by decide),
      List.dropWhile_cons_of_neg (by simp [isBlank_of_isQuote first.isQuote_quote])]
  obtain ⟨body, quote, hquote, hbody⟩ := renderList_ends first others
  rw [trim, hstart, hbody]
  simp [trimEnd, isBlank_of_isQuote hquote]

theorem preludeText_parts (first : Quoted) (others : List Quoted) :
    preludeText (⟨[' '], false⟩ :: parts first others) =
      String.ofList (renderList first others) := by
  rw [preludeText, List.filter_cons_of_pos (by rfl), List.flatMap_cons, flatMap_text_parts]
  exact congrArg String.ofList (trim_renderList first others)

/-! ### What is read off it -/

theorem splitFrom_render (quoted : Quoted) (part rest : List Char) :
    splitFrom ',' {} part (quoted.render ++ rest) =
      splitFrom ',' {} (quoted.render.reverse ++ part) rest := by
  simpa [render] using
    splitFrom_string quoted.isQuote_quote (escaped_of_plain quoted.isPlain) ',' part rest

theorem splitFrom_renderList (first : Quoted) (others : List Quoted) (part : List Char) :
    splitFrom ',' {} part (renderList first others) =
      (part.reverse ++ first.render) :: others.map (' ' :: ·.render) := by
  induction others generalizing first part with
  | nil =>
    rw [renderList, splitFrom_render, List.flatMap_nil, splitFrom]
    simp
  | cons second others ih =>
    have hcut : Nesting.cutsAt {} ',' ',' = true := by decide
    have hblank : Nesting.cutsAt {} ',' ' ' = false := by decide
    have hnext : Nesting.next {} ' ' = {} := by decide
    rw [renderList_cons, splitFrom_render, splitFrom, if_pos hcut, splitFrom, hblank,
      if_neg (by decide), hnext, ih]
    simp

theorem specifier?_render (quoted : Quoted) (blanks : List Char)
    (hblanks : ∀ c ∈ blanks, isBlank c = true) (allowsBare : Bool) :
    specifier? allowsBare (blanks ++ quoted.render) = some quoted.text := by
  have hquote : quoted.quote ∉ quoted.text := fun h => (quoted.isPlain _ h).1 rfl
  exact specifier?_string quoted.isQuote_quote hblanks quoted.text_ne_nil hquote allowsBare []

theorem specifiers_render (quoteds : List Quoted) (allowsBare : Bool) :
    specifiers allowsBare (quoteds.map (' ' :: ·.render)) =
      quoteds.map (String.ofList ·.text) := by
  induction quoteds with
  | nil => rfl
  | cons quoted quoteds ih =>
    have hblank : ∀ c ∈ [' '], isBlank c = true := List.forall_mem_singleton.mpr (by decide)
    have hfirst := specifier?_render quoted [' '] hblank allowsBare
    rw [List.singleton_append] at hfirst
    rw [List.map_cons, List.map_cons, specifiers, hfirst, ih]

/-- The three scans agree on a list: each text in it is one specifier. -/
theorem specifiers_renderList (first : Quoted) (others : List Quoted) (allowsBare : Bool) :
    specifiers allowsBare (splitTop ',' (renderList first others)) =
      (first :: others).map (String.ofList ·.text) := by
  have hfirst := specifier?_render first [] (by simp) allowsBare
  rw [splitTop, splitFrom_renderList, List.reverse_nil, specifiers, hfirst, specifiers_render]
  rfl

end Quoted

/-! ## Items -/

/-- What stands before and after the value of a declaration. -/
def declarationStart : List Char := ['a', ' ', '\x7b', ' ', 'c', 'o', 'n', 't', 'e', 'n', 't', ':']

def declarationEnd : List Char := [';', ' ', '\x7d']

/-- A piece of a style sheet that can be written. -/
inductive Item (dialect : Dialect) where
  | imports (name : String) (isRule : name ∈ dialect.importRules) (first : Quoted)
      (others : List Quoted)
  | blockComment (text : List Char) (isOpen : ¬['*', '/'] <:+: text)
  | lineComment (text : List Char) (isAllowed : dialect ≠ .css) (isLine : '\n' ∉ text)
  | declaration (value : Quoted) (isDouble : value.quote = '"')

namespace Item

variable {dialect : Dialect}

/-- How an item is written, with the end of its line. A declaration is `a { content: "…"; }`. -/
def render : Item dialect → List Char
  | .imports name _ first others =>
    '@' :: name.toList ++ ' ' :: Quoted.renderList first others ++ [';', '\n']
  | .blockComment text _ => '/' :: '*' :: text ++ ['*', '/', '\n']
  | .lineComment text _ _ => '/' :: '/' :: text ++ ['\n']
  | .declaration value _ =>
    declarationStart ++ ' ' :: value.render ++ declarationEnd ++ ['\n']

def specifiers : Item dialect → List String
  | .imports _ _ first others => (first :: others).map (String.ofList ·.text)
  | .blockComment .. | .lineComment .. | .declaration .. => []

def lexemes : Item dialect → List Lexeme
  | .imports name _ first others =>
    [.rule name.toList (⟨[' '], false⟩ :: Quoted.parts first others) true, .char '\n']
  | .blockComment text _ => [.comment ('/' :: '*' :: text ++ ['*', '/']), .char '\n']
  | .lineComment text _ _ => [.comment ('/' :: '/' :: text), .char '\n']
  | .declaration value _ =>
    (declarationStart ++ [' ']).map .char ++
      .string value.render :: (declarationEnd ++ ['\n']).map .char

end Item

theorem isName_of_mem_importRules {dialect : Dialect} {name : String}
    (h : name ∈ dialect.importRules) :
    name.toList ≠ [] ∧ name.toList.all isNameChar = true := by
  revert name
  cases dialect <;> decide +kernel

theorem lexemes_newline (dialect : Dialect) (afterName : Bool) (rest : List Char) :
    lexemes dialect afterName ('\n' :: rest) = .char '\n' :: lexemes dialect false rest := by
  rw [lexemes_cons, lexeme_char (by decide)]
  rfl

theorem lexemes_lone {text : List Char} {c : Char} (htext : text.all isLone = true)
    (hc : isLone c = true) (dialect : Dialect) (afterName : Bool) (rest : List Char) :
    lexemes dialect afterName (text ++ c :: rest) =
      (text ++ [c]).map .char ++ lexemes dialect (isNameChar c) rest := by
  induction text generalizing afterName with
  | nil =>
    rw [List.nil_append, lexemes_cons, lexeme_char hc]
    simp [Lexeme.source]
  | cons d text ih =>
    rw [List.all_cons, Bool.and_eq_true] at htext
    rw [List.cons_append, lexemes_cons, lexeme_char htext.1, ih htext.2]
    rfl

namespace Item

variable {dialect : Dialect}

theorem lexemes_render (item : Item dialect) (afterName : Bool) (rest : List Char) :
    Stylesheet.lexemes dialect afterName (item.render ++ rest) =
      item.lexemes ++ Stylesheet.lexemes dialect false rest := by
  cases item with
  | imports name isRule first others =>
    obtain ⟨hname, hchars⟩ := isName_of_mem_importRules isRule
    have hprelude : prelude dialect 0
        (' ' :: (Quoted.renderList first others ++ ';' :: '\n' :: rest)) =
          (⟨[' '], false⟩ :: Quoted.parts first others, ';' :: '\n' :: rest) := by
      rw [Quoted.prelude_between (.inr rfl), Quoted.prelude_renderList]
    have hrender : (Item.imports name isRule first others).render ++ rest =
        '@' :: (name.toList ++
          ' ' :: (Quoted.renderList first others ++ ';' :: '\n' :: rest)) := by
      simp [render]
    rw [hrender, lexemes_cons, lexeme_rule hname (List.all_eq_true.mp hchars) rfl hprelude,
      lexemes_newline]
    rfl
  | blockComment text isOpen =>
    have hrender : (Item.blockComment text isOpen : Item dialect).render ++ rest =
        '/' :: '*' :: (text ++ '*' :: '/' :: '\n' :: rest) := by
      simp [render]
    rw [hrender, lexemes_cons, lexeme_comment (comment?_block isOpen dialect ('\n' :: rest)),
      lexemes_newline]
    rfl
  | lineComment text isAllowed isLine =>
    have hdialect : dialect.hasLineComments = true := by cases dialect <;> trivial
    have hrender : (Item.lineComment text isAllowed isLine).render ++ rest =
        '/' :: '/' :: (text ++ '\n' :: rest) := by
      simp [render]
    rw [hrender, lexemes_cons, lexeme_comment (comment?_line isLine hdialect rest),
      lexemes_newline]
    rfl
  | declaration value isDouble =>
    have hrender : (Item.declaration value isDouble : Item dialect).render ++ rest =
        declarationStart ++ ' ' :: (value.render ++ (declarationEnd ++ '\n' :: rest)) := by
      simp [render]
    rw [hrender, lexemes_lone (by decide) (by decide), Quoted.render_append, lexemes_cons,
      lexeme_string value.isQuote_quote, Quoted.stringBody_render,
      lexemes_lone (by decide) (by decide)]
    have hline : isNameChar '\n' = false := by decide
    simp [lexemes, Quoted.render, hline]

theorem flatMap_imported_lexemes (item : Item dialect) :
    item.lexemes.flatMap (Lexeme.imported dialect) = item.specifiers := by
  cases item with
  | imports name isRule first others =>
    have hrule : dialect.importRules.contains (String.ofList name.toList) = true := by
      rw [String.ofList_toList]
      exact List.contains_iff_mem.mpr isRule
    simp only [lexemes, List.flatMap_cons, List.flatMap_nil, Lexeme.imported, hrule, if_true,
      Quoted.preludeText_parts, String.toList_ofList, Quoted.specifiers_renderList,
      List.append_nil, specifiers]
  | blockComment | lineComment | declaration => rfl

theorem flatMap_imported_render (items : List (Item dialect)) (afterName : Bool) :
    (Stylesheet.lexemes dialect afterName (items.flatMap render)).flatMap
        (Lexeme.imported dialect) = items.flatMap specifiers := by
  -- every item ends its line, so the next one starts after no name
  induction items generalizing afterName with
  | nil =>
    rw [List.flatMap_nil, Stylesheet.lexemes]
    rfl
  | cons item items ih =>
    rw [List.flatMap_cons, List.flatMap_cons, lexemes_render, List.flatMap_append,
      flatMap_imported_lexemes, ih]

end Item

/-- The finder of a dialect gets back the files of the items, in order and with repetitions. -/
theorem find_render {dialect : Dialect} (items : List (Item dialect)) :
    (Finder.stylesheet dialect).find (.text (String.ofList (items.flatMap Item.render))) none =
      .ok ⟨items.flatMap Item.specifiers,
        some (.stylesheet (.ofText dialect (String.ofList (items.flatMap Item.render))))⟩ := by
  have himported : (ofText dialect (String.ofList (items.flatMap Item.render))).imported =
      items.flatMap Item.specifiers := by
    rw [imported_ofText, String.toList_ofList, Item.flatMap_imported_render]
  change Except.ok (Finder.Finding.mk
    ((ofText dialect (String.ofList (items.flatMap Item.render))).imported ++ []) _) = _
  rw [himported, List.append_nil]

/-- Quotes, comments and separators inside the texts, one item of each kind. -/
theorem find_render_scss :
    let text := "/*@use 'a';*/\n//@use 'b';\na \x7b content: \"@use 'c';\"; \x7d\n" ++
      "@use '/*,\"', \"(;//\";\n"
    (Finder.stylesheet .scss).find (.text text) none =
      .ok ⟨["/*,\"", "(;//"], some (.stylesheet (.ofText .scss text))⟩ := by
  intro text
  let items : List (Item .scss) :=
    [.blockComment "@use 'a';".toList (by decide +kernel),
      .lineComment "@use 'b';".toList (by decide) (by decide +kernel),
      .declaration ⟨'"', "@use 'c';".toList, rfl, by decide +kernel, by simp⟩ rfl,
      .imports "use" (by decide) ⟨'\'', ['/', '*', ',', '"'], rfl, by simp, by simp⟩
        [⟨'"', ['(', ';', '/', '/'], rfl, by simp, by simp⟩]]
  have htext : String.ofList (items.flatMap Item.render) = text := by decide +kernel
  have hspecifiers : items.flatMap Item.specifiers = ["/*,\"", "(;//"] := by decide +kernel
  rw [← htext, ← hspecifiers]
  exact find_render items

end Requisite.Stylesheet

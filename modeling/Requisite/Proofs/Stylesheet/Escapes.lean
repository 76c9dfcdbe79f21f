import Mathlib.Data.List.TakeWhile
import Requisite.Proofs.Stylesheet.Clause

/-!
# Escaped quotes

A scan and the splitting of a prelude pass over a quote that has a backslash before it. The reading
of a specifier does not: it takes what stands before the first quote, escaped or not.
-/

namespace Requisite.Stylesheet

open Text (isBlank trim trimStart)

variable {quote : Char} {body rest : List Char}

/-! ## Strings that end where they should -/

theorem Escaped.ne_quote (hquote : quote ≠ '\\') (h : Escaped quote body) {c : Char}
    (hc : body.head? = some c) : c ≠ quote := by
  cases h with
  | nil => cases hc
  | plain hplain =>
    cases hc
    exact hplain.1
  | escape =>
    cases hc
    exact hquote.symm

theorem stringBody_fst_ne_nil (quote : Char) (h : rest ≠ []) : (stringBody quote rest).1 ≠ [] := by
  fun_cases stringBody quote rest <;> simp at h ⊢

theorem stringBody_step (c : Char) (hrest : rest ≠ [])
    (h : stringBody quote (c :: (body ++ quote :: rest)) = (c :: (body ++ [quote]), rest)) :
    (c ≠ quote ∧ c ≠ '\\' ∧ c ≠ '\n' ∧
      stringBody quote (body ++ quote :: rest) = (body ++ [quote], rest)) ∨
    ∃ d tail, c = '\\' ∧ body = d :: tail ∧
      stringBody quote (tail ++ quote :: rest) = (tail ++ [quote], rest) := by
  by_cases hslash : c = '\\'
  · subst hslash
    right
    cases body with
    | nil =>
      -- the backslash takes the quote, and the scan goes on into what follows
      have hnone : (stringBody quote rest).1 = [] := by
        simpa [stringBody] using congrArg Prod.fst h
      exact absurd hnone (stringBody_fst_ne_nil quote hrest)
    | cons d tail =>
      refine ⟨d, tail, rfl, rfl, ?_⟩
      simpa [stringBody, Prod.ext_iff] using h
  · left
    rw [stringBody_cons hslash] at h
    split at h
    · have hsize := congrArg (List.length ∘ Prod.fst) h
      simp at hsize
    · next hc =>
      simp only [Bool.or_eq_true, beq_iff_eq, not_or] at hc
      refine ⟨hc.1, hslash, hc.2, ?_⟩
      simpa [Prod.ext_iff] using h

/-- If something follows, a scan stops behind the quote only where no backslash is left over. -/
theorem escaped_of_stringBody (hrest : rest ≠ []) :
    ∀ body, stringBody quote (body ++ quote :: rest) = (body ++ [quote], rest) → Escaped quote body
  | [], _ => .nil
  | c :: body, h => by
    rcases stringBody_step c hrest h with ⟨hc, hslash, hline, hbody⟩ | ⟨d, tail, rfl, rfl, htail⟩
    · exact .plain ⟨hc, hslash, hline⟩ (escaped_of_stringBody hrest body hbody)
    · exact .escape (escaped_of_stringBody hrest tail htail)
termination_by body => body.length

/-! ## Imports of such a string -/

theorem import_mem_importRules (dialect : Dialect) : "import" ∈ dialect.importRules := by
  cases dialect <;> decide

theorem trim_space_string (hquote : isQuote quote = true) (body : List Char) :
    trim (' ' :: quote :: (body ++ [quote])) = quote :: (body ++ [quote]) := by
  have hblank : isBlank quote = false := isBlank_of_isQuote hquote
  have hstart : trimStart (' ' :: quote :: (body ++ [quote])) = quote :: (body ++ [quote]) := by
    rw [trimStart, List.dropWhile_cons_of_pos (by decide),
      List.dropWhile_cons_of_neg (by simp [hblank])]
  rw [trim, hstart, ← List.cons_append, trimEnd_append hblank]
  rfl

theorem imported_string (hquote : isQuote quote = true) (h : Escaped quote body)
    (dialect : Dialect) :
    (ofText dialect ("@import " ++ String.ofList (quote :: (body ++ [quote, ';'])))).imported =
      specifiers dialect.allowsBare (splitTop ',' (quote :: (body ++ [quote]))) := by
  have hslash : quote ≠ '\\' := ne_of_isQuote hquote (by decide)
  obtain ⟨hne, hchars⟩ := isName_of_mem_importRules (import_mem_importRules dialect)
  have htext : ("@import " ++ String.ofList (quote :: (body ++ [quote, ';']))).toList =
      '@' :: ("import".toList ++ ' ' :: quote :: (body ++ [quote, ';'])) := by
    simp
  have hend : endsPrelude dialect ';' = true := by cases dialect <;> decide
  have hprelude : prelude dialect 0 (' ' :: quote :: (body ++ [quote, ';'])) =
      ([⟨[' '], false⟩, ⟨quote :: (body ++ [quote]), false⟩], [';']) := by
    rw [Quoted.prelude_between (.inr rfl), prelude_string hquote,
      stringBody_append_quote hslash h, prelude_end hend]
  have hsaid : preludeText [⟨[' '], false⟩, ⟨quote :: (body ++ [quote]), false⟩] =
      String.ofList (quote :: (body ++ [quote])) := by
    refine congrArg String.ofList (Eq.trans ?_ (trim_space_string hquote body))
    simp
  have hrule : dialect.importRules.contains (String.ofList "import".toList) = true := by
    rw [String.ofList_toList]
    exact List.contains_iff_mem.mpr (import_mem_importRules dialect)
  rw [imported_ofText, htext, lexemes_cons,
    lexeme_rule hne (List.all_eq_true.mp hchars) rfl hprelude, lexemes]
  simp only [List.flatMap_cons, List.flatMap_nil, Lexeme.imported, hrule, if_true, hsaid,
    String.toList_ofList, List.append_nil]

theorem splitTop_string (hquote : isQuote quote = true) (h : Escaped quote body)
    (separator : Char) :
    splitTop separator (quote :: (body ++ [quote])) = [quote :: (body ++ [quote])] := by
  have hsplit := splitFrom_string hquote h separator [] []
  rw [List.cons_append] at hsplit
  rw [splitTop, hsplit, splitFrom]
  simp

theorem exists_append_quote (quote : Char) (body : List Char) :
    ∃ after, body ++ [quote] = body.takeWhile (· != quote) ++ quote :: after := by
  induction body with
  | nil => exact ⟨[], rfl⟩
  | cons c body ih =>
    by_cases hc : c = quote
    · exact ⟨body ++ [quote], by simp [hc]⟩
    · obtain ⟨after, hafter⟩ := ih
      exact ⟨after, by simp [hc, hafter]⟩

theorem notMem_takeWhile_bne (quote : Char) (body : List Char) :
    quote ∉ body.takeWhile (· != quote) := by
  intro hc
  simpa using List.mem_takeWhile_imp hc

theorem specifier?_escaped (hquote : isQuote quote = true) (hne : body ≠ [])
    (h : Escaped quote body) (allowsBare : Bool) :
    specifier? allowsBare (quote :: (body ++ [quote])) = some (body.takeWhile (· != quote)) := by
  have hslash : quote ≠ '\\' := ne_of_isQuote hquote (by decide)
  have hfirst : body.takeWhile (· != quote) ≠ [] := by
    cases body with
    | nil => exact absurd rfl hne
    | cons c body =>
      have hc : (c != quote) = true := bne_iff_ne.mpr (h.ne_quote hslash rfl)
      simp [hc]
  have hblanks : ∀ c ∈ ([] : List Char), isBlank c = true := by simp
  obtain ⟨after, hafter⟩ := exists_append_quote quote body
  rw [hafter]
  exact specifier?_string hquote hblanks hfirst (notMem_takeWhile_bne quote body) allowsBare after

/-- An import of a string lists one file. It is what stands in the quotes exactly if no quote of
that kind is among it, since the file ends at the first of them although the string does not. -/
theorem filesIn_escaped (hquote : isQuote quote = true) (hne : body ≠ [])
    (hstring : stringBody quote (body ++ [quote, ';']) = (body ++ [quote], [';']))
    (dialect : Dialect) :
    let files := dialect.filesIn ("@import " ++ String.ofList (quote :: (body ++ [quote, ';'])))
    files = .ok [String.ofList (body.takeWhile (· != quote))] ∧
      (files = .ok [String.ofList body] ↔ quote ∉ body) := by
  intro files
  have hescaped : Escaped quote body := escaped_of_stringBody (by simp) body hstring
  have hfiles : files = .ok [String.ofList (body.takeWhile (· != quote))] := by
    have himported := imported_string hquote hescaped dialect
    rw [splitTop_string hquote hescaped, specifiers,
      specifier?_escaped hquote hne hescaped] at himported
    exact (Dialect.filesIn_eq _ _).trans (congrArg Except.ok himported)
  refine ⟨hfiles, ?_⟩
  rw [hfiles]
  constructor
  · intro heq
    have hname : String.ofList (body.takeWhile (· != quote)) = String.ofList body := by
      simpa using heq
    have hwhole : body.takeWhile (· != quote) = body := String.ofList_injective hname
    rw [← hwhole]
    exact notMem_takeWhile_bne quote body
  · intro hquote
    have hwhole : body.takeWhile (· != quote) = body := by
      rw [List.takeWhile_eq_self_iff]
      intro c hc
      rw [bne_iff_ne]
      rintro rfl
      exact hquote hc
    rw [hwhole]

/-- A backslash at the end of the file that is listed, and the rest of the string is lost. -/
theorem filesIn_escaped_cut :
    Dialect.scss.filesIn "@import 'it\\'s';" = .ok ["it\\"] ∧
      Dialect.scss.filesIn "@import 'it\\'s';" ≠ .ok ["it\\'s"] := by
  have hstring : stringBody '\'' (['i', 't', '\\', '\'', 's'] ++ ['\'', ';']) =
      (['i', 't', '\\', '\'', 's'] ++ ['\''], [';']) := by decide +kernel
  obtain ⟨hfiles, hwhole⟩ := filesIn_escaped (by decide) (by simp) hstring .scss
  have htext : "@import " ++ String.ofList ('\'' :: (['i', 't', '\\', '\'', 's'] ++ ['\'', ';'])) =
      "@import 'it\\'s';" := by decide +kernel
  rw [htext] at hfiles hwhole
  refine ⟨hfiles, ?_⟩
  intro heq
  exact hwhole.mp heq (by simp)

end Requisite.Stylesheet

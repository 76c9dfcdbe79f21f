import Requisite.Proofs.Stylesheet.CommentInsertion
import Requisite.Proofs.Stylesheet.Import
import Requisite.Proofs.Stylesheet.Positions

/-!
# Preludes read again

What is recorded of a rule, written down as a rule of its own, is the same rule. The comments of
its prelude are gone, and what stood around them does not make a new one. In the dialect without
line comments two slashes before a star can, so they are left out there.
-/

namespace Requisite.Stylesheet

open Text (isBlank trim trimStart trimEnd)

variable {dialect : Dialect} {depth : Nat} {cs text rest : List Char}

/-! ## Texts without comments -/

/-- A prelude reads this text to its end, and none of it is a comment. -/
inductive ReadsPlain (dialect : Dialect) : Nat → List Char → Prop where
  | nil (depth : Nat) : ReadsPlain dialect depth []
  | step {depth inner : Nat} {cs rest : List Char} {part : Part}
    (hstep : PreludeStep dialect depth cs part inner rest) (hpart : part.isComment = false)
    (hrest : ReadsPlain dialect inner rest) : ReadsPlain dialect depth cs

namespace ReadsPlain

theorem prelude_eq (h : ReadsPlain dialect depth text) :
    ∃ parts, prelude dialect depth text = (parts, []) ∧ said parts = text := by
  induction h with
  | nil => exact ⟨[], by simp [prelude], rfl⟩
  | @step _ _ _ _ part hstep hpart _ ih =>
    obtain ⟨parts, hprelude, hsaid⟩ := ih
    refine ⟨part :: parts, ?_, ?_⟩
    · rw [hstep.prelude_eq, hprelude]
    · rw [said_cons, hpart, hsaid]
      exact hstep.append

theorem of_isPrefix {before : List Char} (hbefore : before <+: text)
    (h : ReadsPlain dialect depth text) : ReadsPlain dialect depth before := by
  obtain ⟨after, rfl⟩ := hbefore
  generalize hjoin : before ++ after = text at h
  induction h generalizing before with
  | nil =>
    obtain ⟨rfl, -⟩ := List.append_eq_nil_iff.mp hjoin
    exact .nil _
  | step hstep hpart _ ih =>
    cases before with
    | nil => exact .nil _
    | cons c before =>
      cases hstep with
      | comment => cases hpart
      | @string depth d cs hquote =>
        obtain ⟨rfl, rfl⟩ := List.cons.inj hjoin
        by_cases hopen : (stringBody c before).2 = []
        · refine .step (.string hquote) rfl ?_
          rw [hopen]
          exact .nil _
        · have hreread := stringBody_reread hopen ((stringBody c before).2 ++ after)
          rw [← List.append_assoc, stringBody_append] at hreread
          exact .step (.string hquote) rfl (ih (congrArg Prod.snd hreread).symm)
      | char hcomment hquote hend =>
        obtain ⟨rfl, rfl⟩ := List.cons.inj hjoin
        have hlike : GoesOnLike before (before ++ after) := by
          simpa using (goesOnLike_nil after).append before
        refine .step (.char ?_ hquote hend) rfl (ih rfl)
        intro hdepth
        exact comment?_eq_none_of_like (hcomment hdepth) fun _ => hlike

theorem of_blank {c : Char} (hc : isBlank c = true) (h : ReadsPlain dialect 0 (c :: text)) :
    ReadsPlain dialect 0 text := by
  have hne {d : Char} (hd : isBlank d = false) : c ≠ d := by
    rintro rfl
    simp [hc] at hd
  cases h with
  | step hstep hpart hrest =>
    cases hstep with
    | comment => cases hpart
    | string hquote =>
      rw [isBlank_of_isQuote hquote] at hc
      cases hc
    | char =>
      have hopen : c ≠ '(' := hne (by decide)
      have hclose : c ≠ ')' := hne (by decide)
      simpa [hopen, hclose] using hrest

theorem trimStart (h : ReadsPlain dialect 0 text) : ReadsPlain dialect 0 (trimStart text) := by
  induction text with
  | nil => exact h
  | cons c text ih =>
    by_cases hc : isBlank c = true
    · rw [Text.trimStart, List.dropWhile_cons_of_pos hc]
      exact ih (h.of_blank hc)
    · rw [Text.trimStart, List.dropWhile_cons_of_neg hc]
      exact h

theorem trim (h : ReadsPlain dialect 0 text) : ReadsPlain dialect 0 (trim text) :=
  h.trimStart.of_isPrefix (trimEnd_isPrefix _)

end ReadsPlain

/-! ## Comments cut out -/

theorem PreludeStep.eq_slash {inner : Nat} {part : Part}
    (h : PreludeStep dialect depth cs part inner rest) (hpart : part.isComment = false)
    (hopen : part.isOpen = true) :
    cs = '/' :: rest ∧ inner = depth ∧ (depth = 0 → comment? dialect cs = none) := by
  cases h with
  | comment => cases hpart
  | string hquote =>
    simp only [Part.isOpen, Bool.false_eq_true, if_false, beq_iff_eq, List.cons.injEq] at hopen
    exact absurd hopen.1 (ne_of_isQuote hquote (by decide))
  | char hcomment =>
    simp only [Part.isOpen, Bool.false_eq_true, if_false, beq_iff_eq, List.cons.injEq] at hopen
    obtain ⟨rfl, -⟩ := hopen
    exact ⟨rfl, rfl, hcomment⟩

/-- A comment behind a lone slash is two slashes and a star, where there are no line comments. -/
theorem slashes_of_comment? {comment : List Char} (hlone : comment? dialect ('/' :: cs) = none)
    (hfound : comment? dialect cs = some (comment, rest)) :
    dialect = .css ∧ ['/', '/', '*'] <+: '/' :: cs := by
  unfold comment? at hfound
  split at hfound
  · refine ⟨?_, List.prefix_append ['/', '/', '*'] _⟩
    cases dialect <;> simp [comment?, Dialect.hasLineComments] at hlone ⊢
  · split at hfound
    · next hline => simp [comment?, hline] at hlone
    · cases hfound
  · cases hfound

theorem said_goesOnLike {inner : Nat} {part : Part} {parts : List Part}
    (hstep : PreludeStep dialect depth cs part inner text) (hpart : part.isComment = false)
    (hopen : part.isOpen = true) (hprelude : prelude dialect inner text = (parts, rest))
    (hslashes : dialect = .css → ¬['/', '/', '*'] <:+: cs) : GoesOnLike (said parts) text := by
  cases parts with
  | nil => exact goesOnLike_nil text
  | cons next parts =>
    obtain ⟨deep, mid, hnext, -⟩ := exists_preludeStep hprelude
    cases hcomment : next.isComment with
    | false =>
      rw [said_cons, hcomment, ← hnext.append]
      exact goesOnLike_append hnext.text_ne_nil _ _
    | true =>
      obtain ⟨rfl, rfl, hlone⟩ := hstep.eq_slash hpart hopen
      cases hnext with
      | comment hfound =>
        obtain ⟨hcss, hin⟩ := slashes_of_comment? (hlone rfl) hfound
        exact absurd hin.isInfix (hslashes hcss)
      | string | char => cases hcomment

/-- The pieces of a prelude that are no comments, put together, are read as before. -/
theorem readsPlain_said {parts : List Part} (h : prelude dialect depth cs = (parts, rest))
    (hslashes : dialect = .css → ¬['/', '/', '*'] <:+: cs) :
    ReadsPlain dialect depth (said parts) := by
  induction parts generalizing depth cs with
  | nil => exact .nil depth
  | cons part parts ih =>
    obtain ⟨inner, mid, hstep, hmid⟩ := exists_preludeStep h
    have hsuffix : mid <:+ cs := ⟨part.text, hstep.append⟩
    have hplain := ih hmid fun hcss hin => hslashes hcss (hin.trans hsuffix.isInfix)
    rw [said_cons]
    cases hpart : part.isComment with
    | true =>
      cases hstep with
      | comment => exact hplain
      | string | char => cases hpart
    | false =>
      by_cases hend : mid = []
      · -- the text ends with this piece
        subst hend
        obtain rfl : parts = [] := by simpa [prelude] using (congrArg Prod.fst hmid).symm
        have happend : part.text ++ said [] = cs := hstep.append
        rw [if_neg (by decide), happend]
        exact .step hstep hpart (.nil inner)
      · have hreread := hstep.reread hend fun hopen =>
          said_goesOnLike hstep hpart hopen hmid hslashes
        exact .step hreread hpart hplain

/-! ## Rules written down again -/

theorem trimStart_trim (text : List Char) : trimStart (trim text) = trim text := by
  obtain ⟨after, hafter⟩ := trimEnd_isPrefix (trimStart text)
  change trim text ++ after = trimStart text at hafter
  cases htrim : trim text with
  | nil => rfl
  | cons c cs =>
    have hhead := List.head?_dropWhile_not isBlank text
    rw [← trimStart, ← hafter, htrim] at hhead
    rw [trimStart, List.dropWhile_cons_of_neg (by simpa using hhead)]

theorem trim_space_trim (text : List Char) : trim (' ' :: trim text) = trim text := by
  have hspace : trimStart (' ' :: trim text) = trimStart (trim text) := rfl
  rw [trim, hspace, trimStart_trim]
  exact List.rdropWhile_idempotent isBlank (trimStart text)

theorem ofText_rule {name text : List Char} (hname : name ≠ [])
    (hchars : ∀ c ∈ name, isNameChar c = true) (h : ReadsPlain dialect 0 text) :
    ofText dialect ("@" ++ String.ofList name ++ " " ++ String.ofList text) =
      { dialect
        rules := [⟨String.ofList name, String.ofList (trim (' ' :: text)), 1⟩]
        urls := [] } := by
  have hspace : ReadsPlain dialect 0 (' ' :: text) :=
    .step (.char (fun _ => comment?_eq_none (by decide) dialect text) rfl fun _ => by
      cases dialect <;> rfl) rfl h
  obtain ⟨parts, hprelude, hsaid⟩ := hspace.prelude_eq
  have hstop (c : Char) (hc : (' ' :: text).head? = some c) : isNameChar c = false := by
    cases hc
    decide
  have hstep :
      LexemeStep dialect false ('@' :: (name ++ ' ' :: text)) (.rule name parts false) [] :=
    .rule hname hchars hstop hprelude rfl
  have hlexemes : lexemes dialect false ('@' :: (name ++ ' ' :: text)) =
      [.rule name parts false] := by
    rw [hstep.lexemes_eq, lexemes]
  have htext : ("@" ++ String.ofList name ++ " " ++ String.ofList text).toList =
      '@' :: (name ++ ' ' :: text) := by
    simp
  have hpart : preludeText parts = String.ofList (trim (' ' :: text)) := by
    rw [← hsaid]
    rfl
  rw [ofText, htext, hlexemes, ← hpart]
  rfl

/-- Each rule that is recorded of a text makes, with its name and its prelude alone, a style sheet
that holds this rule and nothing else. -/
theorem ofText_reread {text : String} {rule : AtRule}
    (hslashes : dialect = .css → ¬['/', '/', '*'] <:+: text.toList)
    (hrule : rule ∈ (ofText dialect text).rules) :
    ofText dialect ("@" ++ rule.name ++ " " ++ rule.prelude) =
      { dialect, rules := [{ rule with line := 1 }], urls := [] } := by
  rw [rules_ofText] at hrule
  obtain ⟨place, hplace, hrule⟩ := List.mem_filterMap.mp hrule
  obtain ⟨name, cs, parts, body, -, -, htext, hname, hchars, -, hprelude, rfl⟩ :=
    exists_rule_of_rule? hplace hrule
  have hsuffix : cs <:+ text.toList := by
    refine ⟨place.before ++ '@' :: name, ?_⟩
    rw [← htext]
    simp
  have hplain := readsPlain_said hprelude fun hcss hin =>
    hslashes hcss (hin.trans hsuffix.isInfix)
  have hagain := ofText_rule hname hchars hplain.trim
  rw [trim_space_trim] at hagain
  exact hagain

/-- A prelude with comments, one of them in parentheses, that ends in a broken string. -/
theorem ofText_reread_broken :
    let text := "a url(b) @media/**/(c /*d*/)/e /*\n*/ 'f\n  ;"
    let rule : AtRule := ⟨"media", "(c /*d*/)/e  'f", 1⟩
    ¬['/', '/', '*'] <:+: text.toList ∧ rule ∈ (ofText .css text).rules ∧
      ofText .css ("@" ++ rule.name ++ " " ++ rule.prelude) =
        { dialect := .css, rules := [rule], urls := [] } := by
  intro text rule
  have hslashes : ¬['/', '/', '*'] <:+: text.toList := by decide +kernel
  have hrule : rule ∈ (ofText .css text).rules := by decide +kernel
  exact ⟨hslashes, hrule, ofText_reread (fun _ => hslashes) hrule⟩

-- Behind two slashes the star of another comment can open one.
example : (ofText .css "@a b//**/*c").rules = [⟨"a", "b/*c", 1⟩] ∧
    (ofText .css "@a b/*c").rules = [⟨"a", "b", 1⟩] := by
  decide +kernel

end Requisite.Stylesheet

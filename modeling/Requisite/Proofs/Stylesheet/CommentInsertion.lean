import Requisite.Proofs.Stylesheet.Composition

/-!
# Comments put between lexemes

A block comment on one line can be put between two lexemes, or between two pieces of a prelude
outside parentheses, and the style sheet stays the same. It becomes a lexeme or a piece of its
own, or a part of the line comment before it.
-/

namespace Requisite.Stylesheet

variable {dialect : Dialect} {cs text rest after : List Char}

/-! ## Where a prelude stands -/

/-- A prelude comes from one depth and text to another, over these pieces. -/
inductive PreludeRun (dialect : Dialect) :
    Nat → List Char → List Part → Nat → List Char → Prop where
  | refl (depth : Nat) (cs : List Char) : PreludeRun dialect depth cs [] depth cs
  | step {depth inner last : Nat} {cs mid rest : List Char} {part : Part} {parts : List Part}
    (hstep : PreludeStep dialect depth cs part inner mid)
    (hrun : PreludeRun dialect inner mid parts last rest) :
    PreludeRun dialect depth cs (part :: parts) last rest

/-- The scan of two texts, one after the other, stands outside parentheses in the prelude of a
rule where the second text starts. -/
inductive StandsInPrelude (dialect : Dialect) : List Char → List Char → Prop where
  | intro {start name cs after : List Char} {read : List Part}
    (hstart : StandsBetween dialect start ('@' :: (name ++ cs))) (hname : name ≠ [])
    (hchars : ∀ c ∈ name, isNameChar c = true)
    (hstop : ∀ c, cs.head? = some c → isNameChar c = false)
    (hrun : PreludeRun dialect 0 cs read 0 after) :
    StandsInPrelude dialect (start ++ '@' :: (name ++ read.flatMap Part.text)) after

namespace PreludeRun

variable {depth last : Nat} {parts : List Part}

theorem append (h : PreludeRun dialect depth cs parts last rest) :
    parts.flatMap Part.text ++ rest = cs := by
  induction h with
  | refl => rfl
  | step hstep _ ih => rw [List.flatMap_cons, List.append_assoc, ih, hstep.append]

theorem prelude_eq (h : PreludeRun dialect depth cs parts last rest) :
    prelude dialect depth cs =
      (parts ++ (prelude dialect last rest).1, (prelude dialect last rest).2) := by
  induction h with
  | refl => rfl
  | step hstep _ ih => rw [hstep.prelude_eq, ih, List.cons_append]

theorem of_prelude (h : prelude dialect depth cs = (parts, rest)) (hrest : rest ≠ []) :
    PreludeRun dialect depth cs parts 0 rest := by
  induction parts generalizing depth cs with
  | nil =>
    obtain ⟨rfl, hend⟩ := prelude_eq_nil h
    obtain ⟨c, cs, rfl⟩ := List.exists_cons_of_ne_nil hrest
    obtain ⟨rfl, -⟩ := hend c rfl
    exact .refl 0 _
  | cons part parts ih =>
    obtain ⟨inner, mid, hstep, hmid⟩ := exists_preludeStep h
    exact .step hstep (ih hmid)

end PreludeRun

/-! ## A comment in a prelude -/

theorem getLast?_of_append {first second : List Char} {c : Char}
    (h : second.getLast? = some c) : (first ++ second).getLast? = some c := by
  rw [List.getLast?_append, h]
  rfl

/-- A text as a block comment. -/
def enclose (text : List Char) : List Char := '/' :: '*' :: (text ++ ['*', '/'])

theorem getLast?_enclose (text : List Char) : (enclose text).getLast? = some '/' := by
  unfold enclose
  rw [← List.cons_append, ← List.cons_append]
  exact getLast?_of_append rfl

/-- What pieces say, comments left out. -/
def said (parts : List Part) : List Char := (parts.filter (!·.isComment)).flatMap Part.text

theorem said_cons (part : Part) (parts : List Part) :
    said (part :: parts) = (if part.isComment then [] else part.text) ++ said parts := by
  unfold said
  cases hpart : part.isComment <;> simp [hpart]

theorem said_append (parts others : List Part) :
    said (parts ++ others) = said parts ++ said others := by
  simp [said]

theorem comment?_enclose (htext : ¬['*', '/'] <:+: text) (dialect : Dialect) (rest : List Char) :
    comment? dialect (enclose text ++ rest) = some (enclose text, rest) := by
  simpa [enclose] using comment?_block htext dialect rest

theorem newline_not_mem_enclose (hline : '\n' ∉ text) : '\n' ∉ enclose text := by
  simp [enclose, hline]

theorem PreludeStep.extend {depth inner : Nat} {part : Part} {more : List Char}
    (h : PreludeStep dialect depth cs part inner rest) (hopen : part.isOpen = true)
    (hslash : part.text.getLast? ≠ some '/') (hmore : '\n' ∉ more) :
    part.isComment = true ∧ PreludeStep dialect depth (part.text ++ (more ++ rest))
      ⟨part.text ++ more, true⟩ inner rest := by
  -- A lone slash is open too, but `hslash` excludes it: what is left are line comments.
  cases h with
  | comment h => exact ⟨rfl, .comment (comment?_extend h hopen hmore)⟩
  | string h =>
    simp only [Part.isOpen, Bool.false_eq_true, if_false, beq_iff_eq, List.cons.injEq] at hopen
    exact absurd hopen.1 (ne_of_isQuote h (by decide))
  | char =>
    simp only [Part.isOpen, Bool.false_eq_true, if_false, beq_iff_eq] at hopen
    simp [hopen] at hslash

/-- The comment becomes a piece of its own, or a part of the line comment before it. -/
theorem PreludeRun.insert {depth : Nat} {read : List Part}
    (h : PreludeRun dialect depth cs read 0 after) (hafter : after ≠ [])
    (hslash : (read.flatMap Part.text).getLast? ≠ some '/') (htext : ¬['*', '/'] <:+: text)
    (hline : '\n' ∉ text) :
    ∃ parts, PreludeRun dialect depth (read.flatMap Part.text ++ (enclose text ++ after)) parts 0
      after ∧ said parts = said read := by
  generalize hlast : 0 = last at h
  induction h with
  | refl depth cs =>
    subst hlast
    have hcomment := comment?_enclose htext dialect cs
    exact ⟨[⟨enclose text, true⟩], .step (.comment hcomment) (.refl 0 cs), rfl⟩
  | @step depth inner _ cs mid rest part read hstep hrun ih =>
    by_cases hend : read.flatMap Part.text = [] ∧ part.isOpen = true
    · obtain ⟨hnil, hopen⟩ := hend
      cases hrun with
      | step hnext _ => simp [hnext.text_ne_nil] at hnil
      | refl =>
        subst hlast
        have hpart : part.text.getLast? ≠ some '/' := by simpa using hslash
        obtain ⟨hcomment, hextend⟩ :=
          hstep.extend hopen hpart (newline_not_mem_enclose hline)
        refine ⟨[⟨part.text ++ enclose text, true⟩], ?_, ?_⟩
        · simpa using PreludeRun.step hextend (.refl 0 mid)
        · simp [said_cons, hcomment]
    · have hread : (read.flatMap Part.text).getLast? ≠ some '/' :=
        fun hc => hslash (getLast?_of_append hc)
      obtain ⟨parts, hparts, hsaid⟩ := ih hafter hread hlast
      have hmid := hrun.append
      have hlike (hopen : part.isOpen = true) :
          GoesOnLike (read.flatMap Part.text ++ (enclose text ++ rest)) mid := by
        rw [← hmid]
        exact goesOnLike_append (fun hnil => hend ⟨hnil, hopen⟩) _ _
      have hreread := hstep.reread (by simp [← hmid, hafter]) hlike
      rw [List.flatMap_cons, List.append_assoc]
      exact ⟨part :: parts, .step hreread hparts, by rw [said_cons, said_cons, hsaid]⟩

/-! ## Rows that make the same style sheet -/

/-- Lexemes that make the same style sheet wherever they stand. -/
structure SameSheet (found others : List Lexeme) : Prop where
  rules : ∀ line, rulesFrom line found = rulesFrom line others
  urls : found.filterMap Lexeme.url? = others.filterMap Lexeme.url?
  lines : (found.flatMap Lexeme.source).count '\n' = (others.flatMap Lexeme.source).count '\n'

namespace SameSheet

theorem refl (found : List Lexeme) : SameSheet found found := ⟨fun _ => rfl, rfl, rfl⟩

theorem append {first others second others' : List Lexeme} (h : SameSheet first others)
    (h' : SameSheet second others') : SameSheet (first ++ second) (others ++ others') where
  rules line := by rw [rulesFrom_append, rulesFrom_append, h.rules, h.lines, h'.rules]
  urls := by rw [List.filterMap_append, List.filterMap_append, h.urls, h'.urls]
  lines := by
    rw [List.flatMap_append, List.flatMap_append, List.count_append, List.count_append, h.lines,
      h'.lines]

theorem of_comment (h : '\n' ∉ text) : SameSheet [.comment text] [] where
  rules _ := rfl
  urls := rfl
  lines := by simp [Lexeme.source, List.count_eq_zero.mpr h]

theorem comment (text more : List Char) (hmore : '\n' ∉ more) :
    SameSheet [.comment (text ++ more)] [.comment text] where
  rules _ := rfl
  urls := rfl
  lines := by simp [Lexeme.source, List.count_eq_zero.mpr hmore]

theorem rule {name : List Char} {parts others : List Part} {closed : Bool}
    (hsaid : said parts = said others)
    (hlines : (parts.flatMap Part.text).count '\n' = (others.flatMap Part.text).count '\n') :
    SameSheet [.rule name parts closed] [.rule name others closed] where
  rules line := by
    have htext : preludeText parts = preludeText others :=
      congrArg (fun text => String.ofList (Text.trim text)) hsaid
    simp only [rulesFrom, htext]
  urls := rfl
  lines := by simp [Lexeme.source, hlines]

end SameSheet

/-! ## Inside a prelude -/

theorem endsPrelude_of_head? {depth : Nat} {parts : List Part} {c : Char}
    (h : prelude dialect depth cs = (parts, rest)) (hc : rest.head? = some c) :
    endsPrelude dialect c = true := by
  induction parts generalizing depth cs with
  | nil =>
    obtain ⟨rfl, hend⟩ := prelude_eq_nil h
    exact (hend c hc).2
  | cons part parts ih =>
    obtain ⟨inner, mid, -, hmid⟩ := exists_preludeStep h
    exact ih hmid

theorem not_startsUrl_of_endsPrelude {c : Char} (h : endsPrelude dialect c = true)
    (cs : List Char) : startsUrl (c :: cs) = false := by
  have hc : c.toLower ≠ 'u' := by
    simp only [endsPrelude, Bool.or_eq_true, Bool.and_eq_true, beq_iff_eq] at h
    rcases h with ((rfl | rfl) | rfl) | ⟨rfl, -⟩ <;> decide
  simp [startsUrl, hc]

theorem lexemes_after_rule {depth : Nat} {body : List Char} {read : List Part} {closed : Bool}
    (hprelude : prelude dialect depth cs = (read, body)) (heat : eat ';' body = (closed, rest))
    (name : List Char) (parts others : List Part) :
    lexemes dialect ((Lexeme.rule name parts closed).source.getLast?.any isNameChar) rest =
      lexemes dialect ((Lexeme.rule name others closed).source.getLast?.any isNameChar) rest := by
  cases closed with
  | true =>
    have hlast (parts : List Part) : (Lexeme.rule name parts true).source.getLast? = some ';' := by
      unfold Lexeme.source
      exact getLast?_of_append rfl
    rw [hlast, hlast]
  | false =>
    have hurl : startsUrl rest = false := by
      cases eat_eq heat
      cases rest with
      | nil => rfl
      | cons c rest => exact not_startsUrl_of_endsPrelude (endsPrelude_of_head? hprelude rfl) rest
    exact lexemes_of_not_startsUrl hurl _ _

theorem sameSheet_rule {name : List Char} {read : List Part} (hname : name ≠ [])
    (hchars : ∀ c ∈ name, isNameChar c = true)
    (hstop : ∀ c, cs.head? = some c → isNameChar c = false)
    (hrun : PreludeRun dialect 0 cs read 0 after) (hafter : after ≠ [])
    (hslash : (read.flatMap Part.text).getLast? ≠ some '/') (htext : ¬['*', '/'] <:+: text)
    (hline : '\n' ∉ text) (afterName : Bool) :
    SameSheet
      (lexemes dialect afterName
        ('@' :: (name ++ (read.flatMap Part.text ++ (enclose text ++ after)))))
      (lexemes dialect afterName ('@' :: (name ++ cs))) := by
  obtain ⟨parts, hparts, hsaid⟩ := hrun.insert hafter hslash htext hline
  rcases houter : prelude dialect 0 after with ⟨outer, body⟩
  rcases heat : eat ';' body with ⟨closed, rest⟩
  have hstop' (c : Char)
      (hc : (read.flatMap Part.text ++ (enclose text ++ after)).head? = some c) :
      isNameChar c = false := by
    by_cases hread : read.flatMap Part.text = []
    · rw [hread] at hc
      cases hc
      decide
    · refine hstop c ?_
      rw [← hrun.append]
      exact goesOnLike_append hread _ after c hc
  have hold : LexemeStep dialect afterName _ (.rule name (read ++ outer) closed) rest :=
    .rule hname hchars hstop (by rw [hrun.prelude_eq, houter]) heat
  have hnew : LexemeStep dialect afterName _ (.rule name (parts ++ outer) closed) rest :=
    .rule hname hchars hstop' (by rw [hparts.prelude_eq, houter]) heat
  have hlines : ((parts ++ outer).flatMap Part.text).count '\n' =
      ((read ++ outer).flatMap Part.text).count '\n' := by
    have hcount := congrArg (List.count '\n') hparts.append
    simp only [List.count_append, List.count_eq_zero.mpr (newline_not_mem_enclose hline)] at hcount
    simp only [List.flatMap_append, List.count_append]
    omega
  rw [hold.lexemes_eq, hnew.lexemes_eq,
    lexemes_after_rule houter heat name (parts ++ outer) (read ++ outer)]
  exact (SameSheet.rule (by rw [said_append, said_append, hsaid]) hlines).append (.refl _)

theorem goesOnLike_enclose (text rest : List Char) : GoesOnLike (enclose text ++ rest) ['/'] :=
  fun _ hc => hc

theorem sameSheet_of_standsInPrelude {before : List Char}
    (hstands : StandsInPrelude dialect before after) (hafter : after ≠ [])
    (hslash : before.getLast? ≠ some '/') (htext : ¬['*', '/'] <:+: text) (hline : '\n' ∉ text) :
    SameSheet (lexemes dialect false (before ++ (enclose text ++ after)))
      (lexemes dialect false (before ++ after)) := by
  obtain @⟨_, name, cs, _, read, ⟨passed, left, hlexemes, rfl⟩, hname, hchars, hstop, hrun⟩ :=
    hstands
  have hread : (read.flatMap Part.text).getLast? ≠ some '/' := by
    intro hlast
    rw [← List.cons_append, ← List.append_assoc] at hslash
    exact hslash (getLast?_of_append hlast)
  obtain ⟨_, hrest, hleft⟩ := lexemes_resume hlexemes
  cases List.append_cancel_left hrest
  have hrule := sameSheet_rule hname hchars hstop hrun hafter hread htext hline
    (endsName false (passed.flatMap Lexeme.source))
  have hjoin (tail : List Char) : '@' :: (name ++ (read.flatMap Part.text ++ tail)) =
      '@' :: (name ++ read.flatMap Part.text) ++ tail := by
    simp
  rw [← hrun.append, hjoin] at hlexemes hleft hrule
  rw [hjoin] at hrule
  have hseam := lexemes_seam hafter _ hlexemes (goesOnLike_enclose text after) nofun
  rw [List.append_assoc, List.append_assoc, hseam, hlexemes, hleft]
  exact (SameSheet.refl passed).append hrule

/-! ## Between lexemes -/

/-- A comment behind an open lexeme that starts the text. It goes into the line comment, or into
the prelude of the rule. -/
theorem LexemeStep.insert {afterName : Bool} {found : Lexeme}
    (h : LexemeStep dialect afterName cs found after) (hopen : found.isOpen = true)
    (hafter : after ≠ []) (hslash : found.source.getLast? ≠ some '/')
    (htext : ¬['*', '/'] <:+: text) (hline : '\n' ∉ text) :
    SameSheet (lexemes dialect afterName (found.source ++ (enclose text ++ after)))
      (lexemes dialect afterName cs) := by
  cases h with
  | @comment _ comment _ hcomment =>
    have hnew : LexemeStep dialect afterName (comment ++ (enclose text ++ after))
        (.comment (comment ++ enclose text)) after :=
      .comment (comment?_extend hcomment hopen (newline_not_mem_enclose hline))
    have hurl : startsUrl after = false := by
      obtain ⟨body, rfl⟩ := (isLineComment_iff comment).mp hopen
      obtain ⟨-, -, hstop⟩ := comment?_eq_line hcomment
      obtain ⟨c, after, rfl⟩ := List.exists_cons_of_ne_nil hafter
      simp [startsUrl, hstop c rfl]
    have hold : LexemeStep dialect afterName cs (.comment comment) after := .comment hcomment
    rw [Lexeme.source, hnew.lexemes_eq, hold.lexemes_eq,
      lexemes_of_not_startsUrl hurl _ ((Lexeme.comment comment).source.getLast?.any isNameChar)]
    have hsame := SameSheet.comment comment (enclose text) (newline_not_mem_enclose hline)
    exact hsame.append (.refl _)
  | string => cases hopen
  | url => cases hopen
  | char =>
    simp only [Lexeme.isOpen, beq_iff_eq] at hopen
    simp [Lexeme.source, hopen] at hslash
  | @rule name cs body _ parts closed hname hchars hstop hprelude heat =>
    obtain rfl : closed = false := by simpa [Lexeme.isOpen] using hopen
    cases eat_eq heat
    have hrun := PreludeRun.of_prelude hprelude hafter
    have hparts : (parts.flatMap Part.text).getLast? ≠ some '/' := by
      intro hlast
      rw [Lexeme.source, if_neg (by decide), List.append_nil] at hslash
      exact hslash (getLast?_of_append hlast)
    simpa [Lexeme.source] using
      sameSheet_rule hname hchars hstop hrun hafter hparts htext hline afterName

theorem sameSheet_of_standsBetween {before : List Char}
    (hstands : StandsBetween dialect before after)
    (hurl : before.getLast?.any isNameChar = false ∨ startsUrl after = false) (hafter : after ≠ [])
    (hslash : before.getLast? ≠ some '/') (htext : ¬['*', '/'] <:+: text) (hline : '\n' ∉ text) :
    SameSheet (lexemes dialect false (before ++ (enclose text ++ after)))
      (lexemes dialect false (before ++ after)) := by
  obtain ⟨passed, left, hlexemes, rfl⟩ := hstands
  by_cases hopen : ∃ found, passed.getLast? = some found ∧ found.isOpen = true
  · obtain ⟨found, hlast, hfound⟩ := hopen
    obtain ⟨earlier, rfl⟩ := List.getLast?_eq_some_iff.mp hlast
    simp only [List.flatMap_append, List.flatMap_singleton, List.append_assoc,
      List.singleton_append] at hlexemes hslash ⊢
    obtain ⟨_, hrest, hleft⟩ := lexemes_resume hlexemes
    cases List.append_cancel_left hrest
    obtain ⟨mid, hstep, -⟩ := exists_lexemeStep hleft.symm
    cases List.append_cancel_left hstep.append
    have hfoundSlash : found.source.getLast? ≠ some '/' :=
      fun hc => hslash (getLast?_of_append hc)
    have hseam := lexemes_seam hafter found.source hlexemes (goesOnLike_enclose text after)
      fun hnil => absurd hnil hstep.source_ne_nil
    rw [hseam, hlexemes, hleft]
    exact (SameSheet.refl earlier).append
      (hstep.insert hfound hafter hfoundSlash htext hline)
  · have hseam := lexemes_seam hafter [] hlexemes (goesOnLike_enclose text after)
      fun _ found hfound hisOpen => absurd ⟨found, hfound, hisOpen⟩ hopen
    have hstep (afterName : Bool) : LexemeStep dialect afterName (enclose text ++ after)
        (.comment (enclose text)) after :=
      .comment (comment?_enclose htext dialect after)
    have hname : (Lexeme.comment (enclose text)).source.getLast?.any isNameChar = false := by
      rw [Lexeme.source, getLast?_enclose]
      decide
    obtain ⟨_, hrest, hleft⟩ := lexemes_resume hlexemes
    cases List.append_cancel_left hrest
    rw [List.nil_append] at hseam
    rw [hseam, hlexemes, hleft, (hstep _).lexemes_eq, hname, lexemes_of_endsName hurl]
    exact (SameSheet.refl passed).append
      ((SameSheet.of_comment (newline_not_mem_enclose hline)).append (.refl _))

/-- A block comment on one line changes nothing if it is put between two lexemes, or into a
prelude outside parentheses. -/
theorem ofText_insert_comment {before after text : String} (hafter : after ≠ "")
    (htext : ¬['*', '/'] <:+: text.toList) (hline : '\n' ∉ text.toList)
    (hslash : before.toList.getLast? ≠ some '/')
    (hstands : StandsBetween dialect before.toList after.toList ∧
        (before.toList.getLast?.any isNameChar = false ∨ startsUrl after.toList = false) ∨
      StandsInPrelude dialect before.toList after.toList) :
    ofText dialect (before ++ "/*" ++ text ++ "*/" ++ after) =
      ofText dialect (before ++ after) := by
  have hafter : after.toList ≠ [] := by simpa using hafter
  have hsame : SameSheet
      (lexemes dialect false (before.toList ++ (enclose text.toList ++ after.toList)))
      (lexemes dialect false (before.toList ++ after.toList)) := by
    rcases hstands with ⟨hstands, hurl⟩ | hstands
    · exact sameSheet_of_standsBetween hstands hurl hafter hslash htext hline
    · exact sameSheet_of_standsInPrelude hstands hafter hslash htext hline
  have hchars : (before ++ "/*" ++ text ++ "*/" ++ after).toList =
      before.toList ++ (enclose text.toList ++ after.toList) := by
    simp [enclose]
  simp only [ofText, hchars, String.toList_append, hsame.rules 1, hsame.urls]

/-- Marks of all kinds in a comment behind a rule, and in one inside a prelude. -/
theorem ofText_insert_comment_use :
    let text := "\"(;@use 'c'\x7b//"
    let first := "@use 'a'"
    let second := " as b;\nurl(c)"
    StandsInPrelude .sass first.toList second.toList ∧
      StandsBetween .sass (first ++ " as b;").toList "\nurl(c)".toList ∧
      ofText .sass (first ++ "/*" ++ text ++ "*/" ++ second) = ofText .sass (first ++ second) ∧
      ofText .sass (first ++ " as b;" ++ "/*" ++ text ++ "*/" ++ "\nurl(c)") =
        ofText .sass (first ++ " as b;" ++ "\nurl(c)") := by
  intro text first second
  have htext : ¬['*', '/'] <:+: text.toList := by decide +kernel
  have hline : '\n' ∉ text.toList := by decide +kernel
  have hprelude : StandsInPrelude .sass first.toList second.toList := by
    let read : List Part := [⟨[' '], false⟩, ⟨['\'', 'a', '\''], false⟩]
    have hfirst : first.toList = [] ++ '@' :: (['u', 's', 'e'] ++ read.flatMap Part.text) := by
      decide +kernel
    have hrun : PreludeRun .sass 0 (' ' :: '\'' :: 'a' :: '\'' :: second.toList) read 0
        second.toList :=
      .step (.char (fun _ => rfl) rfl fun _ => rfl) (.step (.string rfl) (.refl 0 _))
    rw [hfirst]
    refine .intro ⟨[], _, rfl, rfl⟩ (by simp) (List.all_eq_true.mp (by decide)) ?_ hrun
    rintro c ⟨⟩
    decide
  have hbetween : StandsBetween .sass (first ++ " as b;").toList "\nurl(c)".toList := by
    refine ⟨_, _, (List.take_append_drop 1 _).symm, ?_⟩
    decide +kernel
  refine ⟨hprelude, hbetween, ?_, ?_⟩
  · exact ofText_insert_comment (by decide +kernel) htext hline (by decide +kernel) (.inr hprelude)
  · exact ofText_insert_comment (by decide +kernel) htext hline (by decide +kernel)
      (.inl ⟨hbetween, .inl (by decide +kernel)⟩)

end Requisite.Stylesheet

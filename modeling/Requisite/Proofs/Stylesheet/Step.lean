import Requisite.Proofs.Stylesheet.Lexeme

/-!
# Steps of a scan

What one step of a prelude and one step of a scan can do, each said once as a relation. A row of
pieces or lexemes is read step by step, so that it can be taken up again after any of them.
-/

namespace Requisite.Stylesheet

variable {dialect : Dialect} {cs text rest : List Char}

/-! ## Preludes -/

/-- One step of a prelude, from a depth and a text to the next ones, over a piece. -/
inductive PreludeStep (dialect : Dialect) : Nat → List Char → Part → Nat → List Char → Prop where
  | comment {cs text rest : List Char} (h : comment? dialect cs = some (text, rest)) :
    PreludeStep dialect 0 cs ⟨text, true⟩ 0 rest
  | string {depth : Nat} {c : Char} {cs : List Char} (h : isQuote c = true) :
    PreludeStep dialect depth (c :: cs) ⟨c :: (stringBody c cs).1, false⟩ depth (stringBody c cs).2
  | char {depth : Nat} {c : Char} {cs : List Char}
    (hcomment : depth = 0 → comment? dialect (c :: cs) = none) (hquote : isQuote c = false)
    (hend : depth = 0 → endsPrelude dialect c = false) :
    PreludeStep dialect depth (c :: cs) ⟨[c], false⟩
      (if c == '(' then depth + 1 else if c == ')' then depth - 1 else depth) cs

variable {depth inner : Nat} {part : Part} {parts : List Part}

theorem exists_preludeStep (h : prelude dialect depth cs = (part :: parts, rest)) :
    ∃ inner mid, PreludeStep dialect depth cs part inner mid ∧
      prelude dialect inner mid = (parts, rest) := by
  cases cs with
  | nil => simp [prelude] at h
  | cons c cs =>
    rw [prelude] at h
    split at h
    · next text mid hfound =>
      obtain ⟨hcons, rfl⟩ := Prod.mk.inj h
      obtain ⟨rfl, rfl⟩ := List.cons.inj hcons
      split at hfound
      · next hdepth =>
        subst hdepth
        exact ⟨0, mid, .comment hfound, rfl⟩
      · cases hfound
    · next hnone =>
      have hcomment (hdepth : depth = 0) : comment? dialect (c :: cs) = none := by
        simpa [hdepth] using hnone
      split at h
      · next hquote =>
        obtain ⟨hcons, rfl⟩ := Prod.mk.inj h
        obtain ⟨rfl, rfl⟩ := List.cons.inj hcons
        exact ⟨depth, (stringBody c cs).2, .string hquote, rfl⟩
      · next hquote =>
        split at h
        · cases h
        · next hend =>
          obtain ⟨hcons, rfl⟩ := Prod.mk.inj h
          obtain ⟨rfl, rfl⟩ := List.cons.inj hcons
          refine ⟨_, cs, .char hcomment (by simpa using hquote) ?_, rfl⟩
          simpa using hend

theorem prelude_eq_nil (h : prelude dialect depth cs = ([], rest)) :
    rest = cs ∧ ∀ c, cs.head? = some c → depth = 0 ∧ endsPrelude dialect c = true := by
  cases cs with
  | nil => simp_all [prelude]
  | cons c cs =>
    rw [prelude] at h
    split at h
    · cases h
    · split at h
      · cases h
      · split at h
        · next hend =>
          refine ⟨(congrArg Prod.snd h).symm, ?_⟩
          simpa using hend
        · cases h

theorem prelude_comment (h : comment? dialect cs = some (text, rest)) :
    prelude dialect 0 cs =
      (⟨text, true⟩ :: (prelude dialect 0 rest).1, (prelude dialect 0 rest).2) := by
  cases cs with
  | nil => cases h
  | cons c cs =>
    rw [prelude]
    split
    · next hfound =>
      cases hfound.symm.trans h
      rfl
    · next hnone => cases hnone.symm.trans h

namespace PreludeStep

theorem prelude_eq (h : PreludeStep dialect depth cs part inner rest) :
    prelude dialect depth cs =
      (part :: (prelude dialect inner rest).1, (prelude dialect inner rest).2) := by
  cases h with
  | comment h => exact prelude_comment h
  | string h => exact prelude_string h dialect depth _
  | char hcomment hquote hend => exact prelude_char hcomment hquote hend

theorem append (h : PreludeStep dialect depth cs part inner rest) : part.text ++ rest = cs := by
  cases h with
  | comment h => exact comment?_append h
  | string => simp [stringBody_append]
  | char => rfl

theorem text_ne_nil (h : PreludeStep dialect depth cs part inner rest) : part.text ≠ [] := by
  cases h with
  | comment h => exact comment?_ne_nil h
  | string | char => simp

end PreludeStep

/-! ## Lexemes -/

theorem eat_eq {c : Char} {closed : Bool} (h : eat c cs = (closed, rest)) :
    cs = (if closed then [c] else []) ++ rest := by
  have happend := eat_append c cs
  rw [h] at happend
  exact happend.symm

theorem lexeme_url {c : Char} {letters : List Char} (hc : c.toLower = 'u')
    (hletters : letters.map Char.toLower = ['r', 'l', '(']) (dialect : Dialect) (cs : List Char) :
    lexeme dialect false c (letters ++ cs) =
      (.url (c :: letters) (urlBody cs).1 (eat ')' (urlBody cs).2).1,
        (eat ')' (urlBody cs).2).2) := by
  have hne {d : Char} (hd : d.toLower ≠ 'u') : c ≠ d := by
    rintro rfl
    exact hd hc
  have hslash : c ≠ '/' := hne (by decide)
  have hat : c ≠ '@' := hne (by decide)
  have hdouble : c ≠ '"' := hne (by decide)
  have hsingle : c ≠ '\'' := hne (by decide)
  have hsize : letters.length = 3 := by simpa using congrArg List.length hletters
  have htake : (letters ++ cs).take 3 = letters := by simp [← hsize]
  have hdrop : (letters ++ cs).drop 3 = cs := by simp [← hsize]
  have hstart : startsUrl (c :: (letters ++ cs)) = true := by
    simp [startsUrl, htake, hc, hletters]
  simp [lexeme, comment?_eq_none hslash, isQuote, hdouble, hsingle, hat, hstart, htake, hdrop]

/-- One step of a scan, from a text to the next one, over a lexeme. -/
inductive LexemeStep (dialect : Dialect) (afterName : Bool) :
    List Char → Lexeme → List Char → Prop where
  | comment {cs text rest : List Char} (h : comment? dialect cs = some (text, rest)) :
    LexemeStep dialect afterName cs (.comment text) rest
  | string {c : Char} {cs : List Char} (h : isQuote c = true) :
    LexemeStep dialect afterName (c :: cs) (.string (c :: (stringBody c cs).1)) (stringBody c cs).2
  | rule {name cs body rest : List Char} {parts : List Part} {closed : Bool} (hname : name ≠ [])
    (hchars : ∀ c ∈ name, isNameChar c = true)
    (hstop : ∀ c, cs.head? = some c → isNameChar c = false)
    (hprelude : prelude dialect 0 cs = (parts, body)) (heat : eat ';' body = (closed, rest)) :
    LexemeStep dialect afterName ('@' :: (name ++ cs)) (.rule name parts closed) rest
  | url {opening cs body tail rest : List Char} {closed : Bool} (hname : afterName = false)
    (hopening : opening.map Char.toLower = ['u', 'r', 'l', '('])
    (hbody : urlBody cs = (body, tail)) (heat : eat ')' tail = (closed, rest)) :
    LexemeStep dialect afterName (opening ++ cs) (.url opening body closed) rest
  | char {c : Char} {cs : List Char} (hcomment : comment? dialect (c :: cs) = none)
    (hquote : isQuote c = false) (hrule : c = '@' → cs.head?.any isNameChar = false)
    (hurl : afterName = false → startsUrl (c :: cs) = false) :
    LexemeStep dialect afterName (c :: cs) (.char c) cs

variable {afterName : Bool} {found : Lexeme}

theorem LexemeStep.rule_of_head (hhead : cs.head?.any isNameChar = true) :
    LexemeStep dialect afterName ('@' :: cs)
      (.rule (cs.takeWhile isNameChar) (prelude dialect 0 (cs.dropWhile isNameChar)).1
        (eat ';' (prelude dialect 0 (cs.dropWhile isNameChar)).2).1)
      (eat ';' (prelude dialect 0 (cs.dropWhile isNameChar)).2).2 := by
  have hname : cs.takeWhile isNameChar ≠ [] := by
    cases cs with
    | nil => cases hhead
    | cons c cs =>
      rw [List.takeWhile_cons_of_pos (show isNameChar c = true from hhead)]
      simp
  have hstop (c : Char) (hc : (cs.dropWhile isNameChar).head? = some c) :
      isNameChar c = false := by
    have hnot := List.head?_dropWhile_not isNameChar cs
    rwa [hc] at hnot
  have hstep : LexemeStep dialect afterName
      ('@' :: (cs.takeWhile isNameChar ++ cs.dropWhile isNameChar)) _ _ :=
    .rule hname (List.all_eq_true.mp List.all_takeWhile) hstop rfl rfl
  rwa [List.takeWhile_append_dropWhile] at hstep

theorem LexemeStep.url_of_startsUrl {c : Char} (h : startsUrl (c :: cs) = true) :
    LexemeStep dialect false (c :: cs)
      (.url (c :: cs.take 3) (urlBody (cs.drop 3)).1 (eat ')' (urlBody (cs.drop 3)).2).1)
      (eat ')' (urlBody (cs.drop 3)).2).2 := by
  have hopening : (c :: cs.take 3).map Char.toLower = ['u', 'r', 'l', '('] := by
    simpa [startsUrl] using h
  have hstep : LexemeStep dialect false (c :: cs.take 3 ++ cs.drop 3) _ _ :=
    .url rfl hopening rfl rfl
  rwa [List.cons_append, List.take_append_drop] at hstep

theorem lexemeStep_lexeme (dialect : Dialect) (afterName : Bool) (c : Char) (cs : List Char) :
    LexemeStep dialect afterName (c :: cs) (lexeme dialect afterName c cs).1
      (lexeme dialect afterName c cs).2 := by
  unfold lexeme
  split
  · next hcomment => exact .comment hcomment
  · next hcomment =>
    split
    · next hquote => exact .string hquote
    · next hquote =>
      split
      · next hrule =>
        simp only [Bool.and_eq_true, beq_iff_eq] at hrule
        obtain ⟨rfl, hhead⟩ := hrule
        exact .rule_of_head hhead
      · next hrule =>
        split
        · next hurl =>
          simp only [Bool.and_eq_true, Bool.not_eq_true'] at hurl
          obtain ⟨rfl, hstarts⟩ := hurl
          exact .url_of_startsUrl hstarts
        · next hurl =>
          refine .char hcomment (by simpa using hquote) ?_ ?_
          · rintro rfl
            simpa using hrule
          · rintro rfl
            simpa using hurl

namespace LexemeStep

theorem append (h : LexemeStep dialect afterName cs found rest) : found.source ++ rest = cs := by
  cases h with
  | comment h => exact comment?_append h
  | string => simp [Lexeme.source, stringBody_append]
  | @rule name cs _ _ _ _ _ _ _ hprelude heat =>
    have happend := prelude_append dialect 0 cs
    rw [hprelude] at happend
    simp only [Lexeme.source, List.cons_append, List.append_assoc, ← eat_eq heat, happend]
  | @url _ cs _ _ _ _ _ _ hbody heat =>
    have happend := urlBody_append cs
    rw [hbody] at happend
    simp only [Lexeme.source, List.append_assoc, ← eat_eq heat, happend]
  | char => rfl

theorem source_ne_nil (h : LexemeStep dialect afterName cs found rest) : found.source ≠ [] := by
  cases h with
  | comment h => exact comment?_ne_nil h
  | string | rule | char => simp [Lexeme.source]
  | url _ hopening =>
    intro hnil
    simp only [Lexeme.source, List.append_eq_nil_iff] at hnil
    simp [hnil.1.1] at hopening

theorem lexemes_eq (h : LexemeStep dialect afterName cs found rest) :
    lexemes dialect afterName cs =
      found :: lexemes dialect (found.source.getLast?.any isNameChar) rest := by
  cases h with
  | @comment cs _ _ h =>
    cases cs with
    | nil => cases h
    | cons c cs => rw [lexemes_cons, lexeme_comment h]
  | string h => rw [lexemes_cons, lexeme_string h]
  | rule hname hchars hstop hprelude heat =>
    rw [lexemes_cons, lexeme_name hname hchars hstop, hprelude, heat]
  | url hname hopening hbody heat =>
    obtain ⟨c, opening, rfl, hc, hletters⟩ := List.map_eq_cons_iff.mp hopening
    rw [List.cons_append, lexemes_cons, hname, lexeme_url hc hletters, hbody, heat]
  | @char c _ hcomment hquote hrule hurl =>
    have hrule : (c == '@' && rest.head?.any isNameChar) = false := by
      by_cases hc : c = '@' <;> simp_all
    have hurl : (!afterName && startsUrl (c :: rest)) = false := by
      cases afterName <;> simp_all
    have hchar : lexeme dialect afterName c rest = (.char c, rest) := by
      simp only [lexeme, hcomment, hquote, hrule, hurl]
      rfl
    rw [lexemes_cons, hchar]

end LexemeStep

/-! ## Rows of lexemes -/

theorem exists_lexemeStep {left : List Lexeme}
    (h : lexemes dialect afterName cs = found :: left) :
    ∃ rest, LexemeStep dialect afterName cs found rest ∧
      left = lexemes dialect (found.source.getLast?.any isNameChar) rest := by
  cases cs with
  | nil => simp [lexemes] at h
  | cons c cs =>
    rw [lexemes_cons] at h
    obtain ⟨rfl, rfl⟩ := List.cons.inj h
    exact ⟨_, lexemeStep_lexeme dialect afterName c cs, rfl⟩

/-- Whether a name character stands where a text ends, if `afterName` says so of its start. -/
def endsName (afterName : Bool) (text : List Char) : Bool :=
  text.getLast?.elim afterName isNameChar

theorem endsName_append (afterName : Bool) (h : text ≠ []) (rest : List Char) :
    endsName afterName (text ++ rest) = endsName (text.getLast?.any isNameChar) rest := by
  unfold endsName
  rw [List.getLast?_append]
  cases rest.getLast? with
  | some c => rfl
  | none =>
    cases hlast : text.getLast? with
    | some c => rfl
    | none => exact absurd (List.getLast?_eq_none_iff.mp hlast) h

theorem lexemes_resume {passed left : List Lexeme}
    (h : lexemes dialect afterName cs = passed ++ left) :
    ∃ rest, passed.flatMap Lexeme.source ++ rest = cs ∧
      left = lexemes dialect (endsName afterName (passed.flatMap Lexeme.source)) rest := by
  induction passed generalizing afterName cs with
  | nil => exact ⟨cs, rfl, h.symm⟩
  | cons found passed ih =>
    obtain ⟨mid, hstep, hmid⟩ := exists_lexemeStep h
    obtain ⟨rest, happend, hleft⟩ := ih hmid.symm
    refine ⟨rest, ?_, ?_⟩
    · rw [List.flatMap_cons, List.append_assoc, happend, hstep.append]
    · rw [List.flatMap_cons, endsName_append afterName hstep.source_ne_nil, hleft]

end Requisite.Stylesheet

import Requisite.Proofs.Stylesheet.Step

/-!
# Seams

What a scan has read is read again if the text goes on differently behind it. Strings, block
comments and urls are closed by their own end. A line comment, a prelude and a slash are open:
there the text has to end, or to go on with the same character as before.
-/

namespace Requisite.Stylesheet

variable {dialect : Dialect} {cs text rest after other : List Char}

/-- A text that ends, or starts with the same character as another. -/
def GoesOnLike (other rest : List Char) : Prop := ∀ c, other.head? = some c → rest.head? = some c

theorem goesOnLike_nil (rest : List Char) : GoesOnLike [] rest := by
  intro c h
  cases h

theorem GoesOnLike.append (h : GoesOnLike other rest) (cs : List Char) :
    GoesOnLike (cs ++ other) (cs ++ rest) := by
  cases cs with
  | nil => exact h
  | cons c cs => exact fun d hd => hd

theorem goesOnLike_append (h : cs ≠ []) (other rest : List Char) :
    GoesOnLike (cs ++ other) (cs ++ rest) := by
  cases cs with
  | nil => exact absurd rfl h
  | cons c cs => exact fun d hd => hd

/-! ## Comments and strings -/

theorem blockComment_fst_ne_nil (h : cs ≠ []) : (blockComment cs).1 ≠ [] := by
  unfold blockComment
  split <;> simp_all

theorem blockComment_reread (h : (blockComment cs).2 ≠ []) (other : List Char) :
    blockComment ((blockComment cs).1 ++ other) = ((blockComment cs).1, other) := by
  fun_induction blockComment cs with
  | case1 => exact absurd rfl h
  | case2 cs => rfl
  | case3 c cs hopen tail ih =>
    have hcs : cs ≠ [] := by
      rintro rfl
      exact h rfl
    have happend : tail.1 ++ tail.2 = cs := blockComment_append cs
    obtain ⟨d, ds, htail⟩ := List.exists_cons_of_ne_nil (blockComment_fst_ne_nil hcs)
    have hclose : ¬(c = '*' ∧ (tail.1 ++ other).head? = some '/') := by
      rintro ⟨rfl, hhead⟩
      simp only [tail, htail, List.cons_append, List.head?_cons, Option.some.injEq] at happend hhead
      exact hopen _ rfl (hhead ▸ happend.symm)
    rw [List.cons_append, blockComment_cons hclose, ih h]

theorem ne_backslash {c : Char} (hlast : c = '\\' → cs = [] → False)
    (hnext : ∀ d ds, c = '\\' → cs = d :: ds → False) : c ≠ '\\' := by
  rintro rfl
  cases cs with
  | nil => exact hlast rfl rfl
  | cons d ds => exact hnext d ds rfl rfl

theorem stringBody_reread {quote : Char} (h : (stringBody quote cs).2 ≠ []) (other : List Char) :
    stringBody quote ((stringBody quote cs).1 ++ other) = ((stringBody quote cs).1, other) := by
  fun_induction stringBody quote cs with
  | case1 | case2 => exact absurd rfl h
  | case3 c cs tail ih => simp [stringBody, tail, ih h]
  | case4 c cs hlast hnext hend =>
    rw [List.singleton_append, stringBody_cons (ne_backslash hlast hnext), if_pos hend]
  | case5 c cs hlast hnext hend tail ih =>
    rw [List.cons_append, stringBody_cons (ne_backslash hlast hnext), if_neg hend, ih h]

/-- Comments that end with their line. -/
def isLineComment : List Char → Bool
  | '/' :: '/' :: _ => true
  | _ => false

theorem isLineComment_iff (text : List Char) :
    isLineComment text = true ↔ ∃ body, text = '/' :: '/' :: body := by
  unfold isLineComment
  split <;> simp_all

theorem comment?_eq_line {body : List Char}
    (h : comment? dialect cs = some ('/' :: '/' :: body, rest)) :
    '\n' ∉ body ∧ dialect.hasLineComments = true ∧ ∀ c, rest.head? = some c → c = '\n' := by
  unfold comment? at h
  split at h
  · simp at h
  · next line =>
    split at h
    · next hdialect =>
      cases h
      refine ⟨?_, hdialect, ?_⟩
      · intro hmem
        have hall := List.all_eq_true.mp (List.all_takeWhile (p := (· != '\n')) (l := line)) _ hmem
        simp at hall
      · intro c hc
        have hhead := List.head?_dropWhile_not (· != '\n') line
        rw [hc] at hhead
        simpa using hhead
    · cases h
  · cases h

theorem comment?_reread (h : comment? dialect cs = some (text, rest)) (hrest : rest ≠ [])
    (hopen : isLineComment text = true → GoesOnLike other rest) :
    comment? dialect (text ++ other) = some (text, other) := by
  by_cases hline : isLineComment text = true
  · obtain ⟨body, rfl⟩ := (isLineComment_iff text).mp hline
    obtain ⟨hbody, hdialect, hstop⟩ := comment?_eq_line h
    exact comment?_line_of_stop hbody hdialect fun c hc => hstop c (hopen hline c hc)
  · unfold comment? at h
    split at h
    · cases h
      simp [comment?, blockComment_reread hrest]
    · split at h
      · cases h
        exact absurd rfl hline
      · cases h
    · cases h

theorem comment?_extend {more : List Char} (h : comment? dialect cs = some (text, rest))
    (hline : isLineComment text = true) (hmore : '\n' ∉ more) :
    comment? dialect (text ++ (more ++ rest)) = some (text ++ more, rest) := by
  obtain ⟨body, rfl⟩ := (isLineComment_iff text).mp hline
  obtain ⟨hbody, hdialect, hstop⟩ := comment?_eq_line h
  have hboth : '\n' ∉ body ++ more := by simp [hbody, hmore]
  simpa using comment?_line_of_stop hboth hdialect hstop

theorem comment?_eq_none_of_like {c : Char} (h : comment? dialect (c :: rest) = none)
    (hlike : c = '/' → GoesOnLike other rest) : comment? dialect (c :: other) = none := by
  by_cases hc : c = '/'
  · subst hc
    cases other with
    | nil => rfl
    | cons d other =>
      obtain ⟨tail, rfl⟩ := List.head?_eq_some_iff.mp (hlike rfl d rfl)
      by_cases hstar : d = '*'
      · simp [comment?, hstar] at h
      · by_cases hslash : d = '/'
        · simpa [comment?, hslash] using h
        · simp [comment?, hstar, hslash]
  · exact comment?_eq_none hc dialect other

/-! ## Preludes -/

variable {depth inner : Nat} {part : Part} {parts : List Part}

/-- Pieces that can go on at their end. -/
def Part.isOpen (part : Part) : Bool :=
  if part.isComment then isLineComment part.text else part.text == ['/']

theorem PreludeStep.reread (h : PreludeStep dialect depth cs part inner rest) (hrest : rest ≠ [])
    (hopen : part.isOpen = true → GoesOnLike other rest) :
    PreludeStep dialect depth (part.text ++ other) part inner other := by
  cases h with
  | comment h => exact .comment (comment?_reread h hrest hopen)
  | @string _ c cs h =>
    have hstring : PreludeStep dialect depth (c :: ((stringBody c cs).1 ++ other)) _ depth _ :=
      .string h
    rwa [stringBody_reread hrest] at hstring
  | char hcomment hquote hend =>
    refine .char (fun hdepth => comment?_eq_none_of_like (hcomment hdepth) ?_) hquote hend
    rintro rfl
    exact hopen rfl

theorem prelude_reread (h : prelude dialect depth cs = (parts, rest)) (hrest : rest ≠ [])
    (hlike : GoesOnLike other rest) :
    prelude dialect depth (parts.flatMap Part.text ++ other) = (parts, other) := by
  induction parts generalizing depth cs with
  | nil =>
    obtain ⟨rfl, hend⟩ := prelude_eq_nil h
    cases other with
    | nil => simp [prelude]
    | cons c other =>
      obtain ⟨rfl, hc⟩ := hend c (hlike c rfl)
      exact prelude_end hc other
  | cons part parts ih =>
    obtain ⟨inner, mid, hstep, hmid⟩ := exists_preludeStep h
    have happend : parts.flatMap Part.text ++ rest = mid := by
      have happend := prelude_append dialect inner mid
      rwa [hmid] at happend
    subst happend
    have hreread := hstep.reread (by simp [hrest]) fun _ => hlike.append (parts.flatMap Part.text)
    rw [List.flatMap_cons, List.append_assoc, hreread.prelude_eq, ih hmid]

/-! ## Urls -/

theorem urlBody_string {c : Char} (h : isQuote c = true) (cs : List Char) :
    urlBody (c :: cs) =
      (c :: (stringBody c cs).1 ++ (urlBody (stringBody c cs).2).1,
        (urlBody (stringBody c cs).2).2) := by
  rw [urlBody, if_pos h]

theorem urlBody_close (cs : List Char) : urlBody (')' :: cs) = ([], ')' :: cs) := by
  rw [urlBody]
  rfl

theorem head?_urlBody {c : Char} (h : (urlBody cs).2.head? = some c) : c = ')' := by
  fun_induction urlBody cs with
  | case1 => cases h
  | case2 d cs hquote string tail ih => exact ih h
  | case3 d cs hquote hclose =>
    cases h
    simpa using hclose
  | case4 d cs hquote hclose tail ih => exact ih h

theorem urlBody_reread (h : (urlBody cs).2 ≠ []) (other : List Char) :
    urlBody ((urlBody cs).1 ++ ')' :: other) = ((urlBody cs).1, ')' :: other) := by
  fun_induction urlBody cs with
  | case1 => exact absurd rfl h
  | case2 c cs hquote string tail ih =>
    have hstring : (stringBody c cs).2 ≠ [] := by
      intro hnil
      have htail : tail.2 = [] := by simp [tail, string, hnil, urlBody]
      exact h htail
    rw [List.append_assoc, List.cons_append, urlBody_string hquote, stringBody_reread hstring,
      ih h]
  | case3 c cs hquote hclose => exact urlBody_close other
  | case4 c cs hquote hclose tail ih =>
    rw [List.cons_append, urlBody, if_neg hquote, if_neg hclose, ih h]

/-! ## Lexemes -/

theorem eat_reread {c : Char} {closed : Bool} (h : eat c cs = (closed, rest))
    (hlike : closed = false → GoesOnLike other rest) :
    eat c ((if closed then [c] else []) ++ other) = (closed, other) := by
  cases closed with
  | true => simp [eat]
  | false =>
    cases other with
    | nil => rfl
    | cons d other =>
      obtain ⟨tail, rfl⟩ := List.head?_eq_some_iff.mp (hlike rfl d rfl)
      cases eat_eq h
      by_cases hd : d = c
      · simp [eat, hd] at h
      · simp [eat, hd]

variable {afterName : Bool} {found : Lexeme}

/-- Lexemes that can go on at their end, as nothing closed them. -/
def Lexeme.isOpen : Lexeme → Bool
  | .comment text => isLineComment text
  | .rule _ _ closed => !closed
  | .char c => c == '/'
  | .string _ | .url .. => false

theorem startsUrl_of_append (hslash : GoesOnLike other ['/'])
    (h : startsUrl (cs ++ other) = true) : startsUrl cs = true := by
  cases other with
  | nil => simpa using h
  | cons c other =>
    cases hslash c rfl
    rw [startsUrl, beq_iff_eq] at h
    -- With fewer than four characters a slash would have to be one of `url(`.
    rcases cs with _ | ⟨c₁, _ | ⟨c₂, _ | ⟨c₃, _ | ⟨c₄, cs⟩⟩⟩⟩
    all_goals simp_all [startsUrl]

theorem startsUrl_append (h : startsUrl cs = true) (after : List Char) :
    startsUrl (cs ++ after) = true := by
  rw [startsUrl, beq_iff_eq] at h ⊢
  have hsize := congrArg List.length h
  simp only [List.length_map, List.length_take, List.length_cons, List.length_nil] at hsize
  rwa [List.take_append_of_le_length (by omega)]

theorem rule_reread {name body : List Char} {closed : Bool} (hname : name ≠ [])
    (hchars : ∀ c ∈ name, isNameChar c = true)
    (hstop : ∀ c, cs.head? = some c → isNameChar c = false)
    (hprelude : prelude dialect 0 cs = (parts, body)) (heat : eat ';' body = (closed, rest))
    (hrest : rest ≠ []) (hlike : closed = false → GoesOnLike other rest) (afterName : Bool) :
    LexemeStep dialect afterName ((Lexeme.rule name parts closed).source ++ other)
      (.rule name parts closed) other := by
  have hbody := eat_eq heat
  have hends : GoesOnLike ((if closed then [';'] else []) ++ other) body := by
    rw [hbody]
    cases closed with
    | true => exact goesOnLike_append (by simp) other rest
    | false => exact (hlike rfl).append []
  have hreread := prelude_reread hprelude (by simp [hbody, hrest]) hends
  have hstop' (c : Char)
      (hc : (parts.flatMap Part.text ++ ((if closed then [';'] else []) ++ other)).head? = some c) :
      isNameChar c = false := by
    have happend := prelude_append dialect 0 cs
    rw [hprelude] at happend
    refine hstop c ?_
    rw [← happend]
    exact hends.append _ c hc
  have hstep : LexemeStep dialect afterName _ (.rule name parts closed) other :=
    .rule hname hchars hstop' hreread (eat_reread heat hlike)
  simpa [Lexeme.source] using hstep

theorem url_reread {opening body tail : List Char} {closed : Bool}
    (hopening : opening.map Char.toLower = ['u', 'r', 'l', '('])
    (hbody : urlBody cs = (body, tail)) (heat : eat ')' tail = (closed, rest))
    (hrest : rest ≠ []) (other : List Char) :
    LexemeStep dialect false ((Lexeme.url opening body closed).source ++ other)
      (.url opening body closed) other := by
  have htail : (urlBody cs).2 ≠ [] := by
    intro hnil
    rw [hbody] at hnil
    subst hnil
    cases heat
    exact hrest rfl
  have hreread := urlBody_reread htail other
  obtain ⟨c, tail', hcons⟩ := List.exists_cons_of_ne_nil htail
  cases head?_urlBody (congrArg List.head? hcons)
  rw [hbody] at hreread hcons
  cases hcons
  cases heat
  have hstep : LexemeStep dialect false _ (.url opening body true) other :=
    .url rfl hopening hreread rfl
  simpa [Lexeme.source] using hstep

/-- What a lexeme has read is read again before a seam, where a slash may follow instead of the
text that was there. -/
theorem LexemeStep.seam (hafter : after ≠ [])
    (h : LexemeStep dialect afterName cs found (rest ++ after))
    (hslash : GoesOnLike other ['/'])
    (hopen : rest = [] → found.isOpen = true → GoesOnLike other after) :
    LexemeStep dialect afterName (found.source ++ (rest ++ other)) found (rest ++ other) := by
  have hrest : rest ++ after ≠ [] := by simp [hafter]
  have hlike (hfound : found.isOpen = true) : GoesOnLike (rest ++ other) (rest ++ after) := by
    by_cases hnil : rest = []
    · exact (hopen hnil hfound).append rest
    · exact goesOnLike_append hnil other after
  generalize hmid : rest ++ after = mid at h
  cases h with
  | comment h => exact .comment (comment?_reread h (hmid ▸ hrest) (hmid ▸ hlike))
  | @string c cs h =>
    have hstring : LexemeStep dialect afterName
        (c :: ((stringBody c cs).1 ++ (rest ++ other))) _ _ := .string h
    rwa [stringBody_reread (hmid ▸ hrest)] at hstring
  | rule hname hchars hstop hprelude heat =>
    refine rule_reread hname hchars hstop hprelude heat (hmid ▸ hrest) ?_ afterName
    rintro rfl
    exact hmid ▸ hlike rfl
  | url hname hopening hbody heat =>
    subst hname
    exact url_reread hopening hbody heat (hmid ▸ hrest) (rest ++ other)
  | @char c _ hcomment hquote hrule hurl =>
    subst hmid
    refine .char (comment?_eq_none_of_like hcomment ?_) hquote ?_ ?_
    · rintro rfl
      exact hlike rfl
    · intro hat
      cases rest with
      | cons d rest => exact hrule hat
      | nil =>
        have hname : isNameChar '/' = false := by decide
        cases hother : other.head? with
        | none => simp [hother]
        | some d =>
          cases hslash d hother
          simp [hother, hname]
    · intro hname
      rw [Bool.eq_false_iff]
      intro hstarts
      have hbefore : startsUrl (c :: rest) = true := startsUrl_of_append hslash hstarts
      have hboth := startsUrl_append hbefore after
      simp [hurl hname] at hboth

/-! ## Rows of lexemes -/

theorem lexemes_seam {passed left : List Lexeme} (hafter : after ≠ []) (rest : List Char)
    (h : lexemes dialect afterName (passed.flatMap Lexeme.source ++ (rest ++ after)) =
      passed ++ left)
    (hslash : GoesOnLike other ['/'])
    (hopen : rest = [] → ∀ found, passed.getLast? = some found → found.isOpen = true →
      GoesOnLike other after) :
    lexemes dialect afterName (passed.flatMap Lexeme.source ++ (rest ++ other)) =
      passed ++ lexemes dialect (endsName afterName (passed.flatMap Lexeme.source))
        (rest ++ other) := by
  induction passed generalizing afterName with
  | nil => rfl
  | cons found passed ih =>
    obtain ⟨mid, hstep, hmid⟩ := exists_lexemeStep h
    have hrest : mid = (passed.flatMap Lexeme.source ++ rest) ++ after := by
      have happend := hstep.append
      rw [List.flatMap_cons, List.append_assoc] at happend
      rw [List.append_cancel_left happend, List.append_assoc]
    subst hrest
    have hopen' (hnil : passed.flatMap Lexeme.source ++ rest = []) (hfound : found.isOpen = true) :
        GoesOnLike other after := by
      obtain ⟨hpassed, hrest⟩ := List.append_eq_nil_iff.mp hnil
      cases passed with
      | nil => exact hopen hrest found rfl hfound
      | cons next passed =>
        -- a lexeme is never empty, so nothing else can stand before the seam
        obtain ⟨_, hnext, -⟩ := exists_lexemeStep hmid.symm
        simp [hnext.source_ne_nil] at hpassed
    have hseam := hstep.seam hafter hslash hopen'
    rw [List.append_assoc] at hmid hseam
    have hlast (hrest : rest = []) (next : Lexeme) (hnext : passed.getLast? = some next) :=
      hopen hrest next (by rw [List.getLast?_cons, hnext]; rfl)
    rw [List.flatMap_cons, List.append_assoc, hseam.lexemes_eq, ih hmid.symm hlast,
      endsName_append afterName hstep.source_ne_nil]
    rfl

end Requisite.Stylesheet

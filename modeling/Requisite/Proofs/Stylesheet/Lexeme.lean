import Requisite.Stylesheet.Lexeme

/-!
# Where lexemes end

One lemma for each way in which a scan goes on or stops. Each says what stands before the rest
of the text and leaves the rest open.
-/

namespace Requisite.Stylesheet

/-! ## Characters and words -/

theorem ne_of_isQuote {c d : Char} (hc : isQuote c = true) (hd : isQuote d = false) : c ≠ d := by
  rintro rfl
  simp [hc] at hd

theorem span_append {p : Char → Bool} {cs rest : List Char} (hword : ∀ c ∈ cs, p c = true)
    (hstop : ∀ c, rest.head? = some c → p c = false) :
    (cs ++ rest).takeWhile p = cs ∧ (cs ++ rest).dropWhile p = rest := by
  rw [List.takeWhile_append_of_pos hword, List.dropWhile_append_of_pos hword]
  cases rest with
  | nil => simp
  | cons c rest => simp [hstop c rfl]

/-! ## Strings -/

theorem stringBody_cons {c : Char} (hc : c ≠ '\\') (quote : Char) (cs : List Char) :
    stringBody quote (c :: cs) =
      if c == quote || c == '\n' then ([c], cs)
      else (c :: (stringBody quote cs).1, (stringBody quote cs).2) :=
  stringBody.eq_4 quote c cs (fun h _ => hc h) (fun _ _ h => absurd h hc)

/-- A text that stands between two quotes as one string: a quote of that kind in it has a backslash
before it, and so has the end of a line. -/
inductive Escaped (quote : Char) : List Char → Prop where
  | nil : Escaped quote []
  | plain {c : Char} {cs : List Char} (hc : c ≠ quote ∧ c ≠ '\\' ∧ c ≠ '\n')
    (h : Escaped quote cs) : Escaped quote (c :: cs)
  | escape {c : Char} {cs : List Char} (h : Escaped quote cs) : Escaped quote ('\\' :: c :: cs)

theorem escaped_of_plain {quote : Char} {text : List Char}
    (h : ∀ c ∈ text, c ≠ quote ∧ c ≠ '\\' ∧ c ≠ '\n') : Escaped quote text := by
  induction text with
  | nil => exact .nil
  | cons c text ih =>
    rw [List.forall_mem_cons] at h
    exact .plain h.1 (ih h.2)

theorem stringBody_append_quote {quote : Char} {text : List Char} (hquote : quote ≠ '\\')
    (h : Escaped quote text) (rest : List Char) :
    stringBody quote (text ++ quote :: rest) = (text ++ [quote], rest) := by
  induction h with
  | nil => simp [stringBody_cons hquote]
  | plain hc _ ih =>
    rw [List.cons_append, stringBody_cons hc.2.1, ih]
    simp [hc]
  | escape _ ih => simp [stringBody, ih]

/-! ## Comments -/

theorem blockComment_cons {c : Char} {cs : List Char} (h : ¬(c = '*' ∧ cs.head? = some '/')) :
    blockComment (c :: cs) = (c :: (blockComment cs).1, (blockComment cs).2) := by
  apply blockComment.eq_3
  rintro rest rfl rfl
  exact h ⟨rfl, rfl⟩

theorem blockComment_append_close {text : List Char} (h : ¬['*', '/'] <:+: text)
    (rest : List Char) :
    blockComment (text ++ '*' :: '/' :: rest) = (text ++ ['*', '/'], rest) := by
  induction text with
  | nil => rfl
  | cons c text ih =>
    -- a star at the very end of the text is followed by the star of the close, not its slash
    have hopen : ¬(c = '*' ∧ (text ++ '*' :: '/' :: rest).head? = some '/') := by
      rintro ⟨rfl, hhead⟩
      cases text with
      | nil => simp at hhead
      | cons d text =>
        simp only [List.cons_append, List.head?_cons, Option.some.injEq] at hhead
        exact h ⟨[], text, by simp [hhead]⟩
    have htext : ¬['*', '/'] <:+: text :=
      fun hin => h (hin.trans (List.suffix_cons c text).isInfix)
    rw [List.cons_append, blockComment_cons hopen, ih htext]
    rfl

theorem comment?_eq_none {c : Char} (hc : c ≠ '/') (dialect : Dialect) (cs : List Char) :
    comment? dialect (c :: cs) = none := by
  unfold comment?
  split <;> simp_all

theorem comment?_block {text : List Char} (h : ¬['*', '/'] <:+: text) (dialect : Dialect)
    (rest : List Char) :
    comment? dialect ('/' :: '*' :: (text ++ '*' :: '/' :: rest)) =
      some ('/' :: '*' :: (text ++ ['*', '/']), rest) := by
  simp [comment?, blockComment_append_close h]

theorem comment?_line_of_stop {text rest : List Char} (h : '\n' ∉ text) {dialect : Dialect}
    (hdialect : dialect.hasLineComments = true) (hstop : ∀ c, rest.head? = some c → c = '\n') :
    comment? dialect ('/' :: '/' :: (text ++ rest)) = some ('/' :: '/' :: text, rest) := by
  have hword : ∀ c ∈ text, (c != '\n') = true := by
    intro c hc
    rw [bne_iff_ne]
    rintro rfl
    exact h hc
  have hrest (c : Char) (hc : rest.head? = some c) : (c != '\n') = false := by simp [hstop c hc]
  obtain ⟨htake, hdrop⟩ := span_append hword hrest
  simp [comment?, hdialect, htake, hdrop]

theorem comment?_line {text : List Char} (h : '\n' ∉ text) {dialect : Dialect}
    (hdialect : dialect.hasLineComments = true) (rest : List Char) :
    comment? dialect ('/' :: '/' :: (text ++ '\n' :: rest)) =
      some ('/' :: '/' :: text, '\n' :: rest) :=
  comment?_line_of_stop h hdialect (by simp)

/-! ## Preludes -/

theorem prelude_string {c : Char} (h : isQuote c = true) (dialect : Dialect) (depth : Nat)
    (cs : List Char) :
    prelude dialect depth (c :: cs) =
      (⟨c :: (stringBody c cs).1, false⟩ :: (prelude dialect depth (stringBody c cs).2).1,
        (prelude dialect depth (stringBody c cs).2).2) := by
  have hc : c ≠ '/' := ne_of_isQuote h (by decide)
  rw [prelude]
  split
  · next hcomment => simp [comment?_eq_none hc] at hcomment
  · rw [if_pos h]

theorem prelude_end {c : Char} {dialect : Dialect} (h : endsPrelude dialect c = true)
    (cs : List Char) : prelude dialect 0 (c :: cs) = ([], c :: cs) := by
  have hc : c ≠ '/' ∧ isQuote c = false := by
    simp only [endsPrelude, Bool.or_eq_true, Bool.and_eq_true, beq_iff_eq] at h
    rcases h with ((rfl | rfl) | rfl) | ⟨rfl, -⟩ <;> decide
  rw [prelude]
  split
  · next hcomment => simp [comment?_eq_none hc.1] at hcomment
  · simp [hc.2, h]

theorem prelude_char {c : Char} {dialect : Dialect} {depth : Nat} {cs : List Char}
    (hcomment : depth = 0 → comment? dialect (c :: cs) = none) (hquote : isQuote c = false)
    (hend : depth = 0 → endsPrelude dialect c = false) :
    prelude dialect depth (c :: cs) =
      (⟨[c], false⟩ :: (prelude dialect
          (if c == '(' then depth + 1 else if c == ')' then depth - 1 else depth) cs).1,
        (prelude dialect
          (if c == '(' then depth + 1 else if c == ')' then depth - 1 else depth) cs).2) := by
  rw [prelude]
  split
  · next hfound =>
    split at hfound
    · next hdepth => simp [hcomment hdepth] at hfound
    · cases hfound
  · rw [if_neg (by simp [hquote]), if_neg]
    simpa using hend

/-! ## Lexemes -/

theorem lexemes_cons (dialect : Dialect) (afterName : Bool) (c : Char) (cs : List Char) :
    lexemes dialect afterName (c :: cs) =
      (lexeme dialect afterName c cs).1 ::
        lexemes dialect ((lexeme dialect afterName c cs).1.source.getLast?.any isNameChar)
          (lexeme dialect afterName c cs).2 := by
  rw [lexemes]

theorem lexeme_comment {dialect : Dialect} {c : Char} {cs text rest : List Char}
    (h : comment? dialect (c :: cs) = some (text, rest)) (afterName : Bool) :
    lexeme dialect afterName c cs = (.comment text, rest) := by
  simp only [lexeme, h]

theorem lexeme_string {c : Char} (h : isQuote c = true) (dialect : Dialect) (afterName : Bool)
    (cs : List Char) :
    lexeme dialect afterName c cs =
      (.string (c :: (stringBody c cs).1), (stringBody c cs).2) := by
  have hc : c ≠ '/' := ne_of_isQuote h (by decide)
  simp only [lexeme, comment?_eq_none hc, h, if_true]

theorem lexeme_name {dialect : Dialect} {name : List Char} (hname : name ≠ [])
    (hchars : ∀ c ∈ name, isNameChar c = true) {cs : List Char}
    (hstop : ∀ c, cs.head? = some c → isNameChar c = false) (afterName : Bool) :
    lexeme dialect afterName '@' (name ++ cs) =
      (.rule name (prelude dialect 0 cs).1 (eat ';' (prelude dialect 0 cs).2).1,
        (eat ';' (prelude dialect 0 cs).2).2) := by
  obtain ⟨htake, hdrop⟩ := span_append hchars hstop
  have hhead : (name ++ cs).head?.any isNameChar = true := by
    cases name with
    | nil => exact absurd rfl hname
    | cons c name => simpa using hchars c (by simp)
  simp only [lexeme, comment?_eq_none (show '@' ≠ '/' by decide), hhead, htake, hdrop]
  simp [isQuote]

theorem lexeme_rule {dialect : Dialect} {name cs rest : List Char} {parts : List Part}
    (hname : name ≠ []) (hchars : ∀ c ∈ name, isNameChar c = true)
    (hstop : cs.head?.all (!isNameChar ·) = true)
    (hprelude : prelude dialect 0 cs = (parts, ';' :: rest)) (afterName : Bool) :
    lexeme dialect afterName '@' (name ++ cs) = (.rule name parts true, rest) := by
  have hstop (c : Char) (hc : cs.head? = some c) : isNameChar c = false := by
    simpa [hc] using hstop
  rw [lexeme_name hname hchars hstop, hprelude]
  rfl

/-- A character that starts no other lexeme. -/
def isLone (c : Char) : Bool := c != '/' && !isQuote c && c != '@' && c.toLower != 'u'

theorem lexeme_char {c : Char} (h : isLone c = true) (dialect : Dialect) (afterName : Bool)
    (cs : List Char) : lexeme dialect afterName c cs = (.char c, cs) := by
  simp only [isLone, Bool.and_eq_true, bne_iff_ne, Bool.not_eq_true'] at h
  obtain ⟨⟨⟨hslash, hquote⟩, hat⟩, hurl⟩ := h
  have hstart : startsUrl (c :: cs) = false := by simp [startsUrl, hurl]
  simp only [lexeme, comment?_eq_none hslash, hquote, hstart]
  simp [hat]

end Requisite.Stylesheet

import Requisite.Proofs.Stylesheet.Seam

/-!
# Loops of a scan

A scan taken apart into its loops. One turn of a loop takes some characters and says which loops
run in its place: none if the loop is left, itself if it goes on, others before it if it has to
wait for them. What a loop leaves of a text is what the loops in its place leave.
-/

namespace Requisite.Stylesheet

inductive Loop where
  /-- The loop over the whole text. -/
  | sheet
  | blockComment
  | lineComment
  | string (quote : Char)
  | name
  | prelude (depth : Nat)
  | url
  deriving DecidableEq, Repr

structure Turn where
  /-- How many characters are taken, if there are as many. -/
  taken : Nat
  /-- What runs in place of the loop. -/
  loops : List Loop
  deriving DecidableEq, Repr

/-- The loop over a comment, where one starts. -/
def commentLoop? (dialect : Dialect) : List Char → Option Loop
  | '/' :: '*' :: _ => some .blockComment
  | '/' :: '/' :: _ => if dialect.hasLineComments then some .lineComment else none
  | _ => none

/-- The number of open parentheses behind a character of a prelude. -/
def depthAfter (depth : Nat) (c : Char) : Nat :=
  if c == '(' then depth + 1 else if c == ')' then depth - 1 else depth

namespace Loop

/-- One turn of a loop at the front of a text. -/
def turn (dialect : Dialect) (afterName : Bool) : Loop → List Char → Turn
  | _, [] => ⟨0, []⟩
  | .sheet, c :: cs =>
    match commentLoop? dialect (c :: cs) with
    | some comment => ⟨2, [comment, .sheet]⟩
    | none =>
      if isQuote c then ⟨1, [.string c, .sheet]⟩
      else if c == '@' && cs.head?.any isNameChar then ⟨1, [.name, .prelude 0, .sheet]⟩
      else if !afterName && startsUrl (c :: cs) then ⟨4, [.url, .sheet]⟩
      else ⟨1, [.sheet]⟩
  | .blockComment, c :: cs =>
    if c = '*' ∧ cs.head? = some '/' then ⟨2, []⟩ else ⟨1, [.blockComment]⟩
  | .lineComment, c :: _ => if c == '\n' then ⟨0, []⟩ else ⟨1, [.lineComment]⟩
  | .string quote, c :: _ =>
    if c = '\\' then ⟨2, [.string quote]⟩
    else if c == quote || c == '\n' then ⟨1, []⟩
    else ⟨1, [.string quote]⟩
  | .name, c :: _ => if isNameChar c then ⟨1, [.name]⟩ else ⟨0, []⟩
  | .prelude depth, c :: cs =>
    match if depth = 0 then commentLoop? dialect (c :: cs) else none with
    | some comment => ⟨2, [comment, .prelude depth]⟩
    | none =>
      if isQuote c then ⟨1, [.string c, .prelude depth]⟩
      else if depth = 0 && endsPrelude dialect c then ⟨if c == ';' then 1 else 0, []⟩
      else ⟨1, [.prelude (depthAfter depth c)]⟩
  | .url, c :: _ =>
    if isQuote c then ⟨1, [.string c, .url]⟩
    else if c == ')' then ⟨1, []⟩
    else ⟨1, [.url]⟩

def rest (dialect : Dialect) : Loop → List Char → List Char
  | .sheet, _ => []
  | .blockComment, cs => (Stylesheet.blockComment cs).2
  | .lineComment, cs => cs.dropWhile (· != '\n')
  | .string quote, cs => (stringBody quote cs).2
  | .name, cs => cs.dropWhile isNameChar
  | .prelude depth, cs => (eat ';' (Stylesheet.prelude dialect depth cs).2).2
  | .url, cs => (eat ')' (urlBody cs).2).2

end Loop

/-- What loops leave of a text that run one after the other. -/
def restAfter (dialect : Dialect) (loops : List Loop) (cs : List Char) : List Char :=
  loops.foldl (fun cs loop => loop.rest dialect cs) cs

/-- What a turn leaves of a text once the loops in place of its own are through. -/
def Turn.rest (dialect : Dialect) (turn : Turn) (cs : List Char) : List Char :=
  restAfter dialect turn.loops (cs.drop turn.taken)

theorem restAfter_append (dialect : Dialect) (inner outer : List Loop) (cs : List Char) :
    restAfter dialect (inner ++ outer) cs =
      restAfter dialect outer (restAfter dialect inner cs) := by
  simp [restAfter]

variable {dialect : Dialect} {afterName : Bool} {c : Char} {cs : List Char}

/-! ## Comments -/

theorem comment?_of_commentLoop? {comment : Loop} (h : commentLoop? dialect cs = some comment) :
    ∃ text, comment? dialect cs = some (text, comment.rest dialect (cs.drop 2)) := by
  unfold commentLoop? at h
  split at h
  · cases h
    exact ⟨_, rfl⟩
  · next cs =>
    split at h
    · next hdialect =>
      cases h
      exact ⟨'/' :: '/' :: cs.takeWhile (· != '\n'), by simp [comment?, hdialect, Loop.rest]⟩
    · cases h
  · cases h

theorem comment?_eq_none_of_commentLoop? (h : commentLoop? dialect cs = none) :
    comment? dialect cs = none := by
  unfold commentLoop? at h
  split at h
  · cases h
  · split at h
    · cases h
    · next hdialect => simp [comment?, hdialect]
  · next hblock hline =>
    unfold comment?
    split
    · exact absurd rfl (hblock _)
    · exact absurd rfl (hline _)
    · rfl

/-! ## What one turn leaves -/

namespace Loop

theorem rest_blockComment (c : Char) (cs : List Char) :
    rest dialect .blockComment (c :: cs) =
      (turn dialect afterName .blockComment (c :: cs)).rest dialect (c :: cs) := by
  by_cases h : c = '*' ∧ cs.head? = some '/'
  · obtain ⟨rfl, hhead⟩ := h
    obtain ⟨cs, rfl⟩ := List.head?_eq_some_iff.mp hhead
    rfl
  · simp only [turn, if_neg h, rest, blockComment_cons h]
    rfl

theorem rest_lineComment (c : Char) (cs : List Char) :
    rest dialect .lineComment (c :: cs) =
      (turn dialect afterName .lineComment (c :: cs)).rest dialect (c :: cs) := by
  by_cases h : c = '\n' <;> simp [turn, rest, Turn.rest, restAfter, h]

theorem rest_string (quote c : Char) (cs : List Char) :
    rest dialect (.string quote) (c :: cs) =
      (turn dialect afterName (.string quote) (c :: cs)).rest dialect (c :: cs) := by
  by_cases hc : c = '\\'
  · subst hc
    cases cs <;> rfl
  · simp only [turn, if_neg hc, rest, stringBody_cons hc]
    split <;> rfl

theorem rest_name (c : Char) (cs : List Char) :
    rest dialect .name (c :: cs) =
      (turn dialect afterName .name (c :: cs)).rest dialect (c :: cs) := by
  by_cases h : isNameChar c = true <;> simp [turn, rest, Turn.rest, restAfter, h]

theorem rest_url (c : Char) (cs : List Char) :
    rest dialect .url (c :: cs) =
      (turn dialect afterName .url (c :: cs)).rest dialect (c :: cs) := by
  by_cases hquote : isQuote c = true
  · simp only [turn, if_pos hquote, rest, urlBody_string hquote]
    rfl
  · by_cases hclose : (c == ')') = true
    · cases beq_iff_eq.mp hclose
      simp only [rest, urlBody_close]
      rfl
    · rw [rest, urlBody, if_neg hquote, if_neg hclose]
      simp only [turn, if_neg hquote, if_neg hclose]
      rfl

theorem rest_prelude (depth : Nat) (c : Char) (cs : List Char) :
    rest dialect (.prelude depth) (c :: cs) =
      (turn dialect afterName (.prelude depth) (c :: cs)).rest dialect (c :: cs) := by
  rw [turn]
  split
  · next comment hfound =>
    split at hfound
    · next hdepth =>
      obtain ⟨text, hcomment⟩ := comment?_of_commentLoop? hfound
      rw [hdepth, rest, prelude_comment hcomment]
      rfl
    · cases hfound
  · next hnone =>
    have hcomment (hdepth : depth = 0) : comment? dialect (c :: cs) = none := by
      rw [if_pos hdepth] at hnone
      exact comment?_eq_none_of_commentLoop? hnone
    split
    · next hquote =>
      rw [rest, prelude_string hquote]
      rfl
    · next hquote =>
      split
      · next hend =>
        simp only [Bool.and_eq_true, decide_eq_true_eq] at hend
        rw [hend.1, rest, prelude_end hend.2]
        by_cases hc : c = ';' <;> simp [hc, eat, Turn.rest, restAfter]
      · next hend =>
        have hstays (hdepth : depth = 0) : endsPrelude dialect c = false := by
          simpa [hdepth] using hend
        rw [rest, prelude_char hcomment (by simpa using hquote) hstays]
        rfl

/-- The loop over the whole text waits for the loops of one lexeme, and they leave what the lexeme
leaves. -/
theorem exists_turn_sheet (dialect : Dialect) (afterName : Bool) (c : Char) (cs : List Char) :
    ∃ taken inner, turn dialect afterName .sheet (c :: cs) = ⟨taken, inner ++ [.sheet]⟩ ∧
      restAfter dialect inner ((c :: cs).drop taken) = (lexeme dialect afterName c cs).2 := by
  rw [turn]
  split
  · next comment hfound =>
    obtain ⟨text, hcomment⟩ := comment?_of_commentLoop? hfound
    rw [lexeme_comment hcomment]
    exact ⟨2, [comment], rfl, rfl⟩
  · next hnone =>
    have hcomment := comment?_eq_none_of_commentLoop? hnone
    unfold lexeme
    rw [hcomment]
    split
    · exact ⟨1, [.string c], rfl, rfl⟩
    · split
      · exact ⟨1, [.name, .prelude 0], rfl, rfl⟩
      · split
        · exact ⟨4, [.url], rfl, rfl⟩
        · exact ⟨1, [], rfl, rfl⟩

theorem rest_sheet (c : Char) (cs : List Char) :
    rest dialect .sheet (c :: cs) =
      (turn dialect afterName .sheet (c :: cs)).rest dialect (c :: cs) := by
  obtain ⟨taken, inner, hturn, -⟩ := exists_turn_sheet dialect afterName c cs
  rw [hturn, Turn.rest, restAfter_append]
  rfl

theorem rest_eq_turn_rest (dialect : Dialect) (afterName : Bool) (loop : Loop) (cs : List Char) :
    loop.rest dialect cs = (loop.turn dialect afterName cs).rest dialect cs := by
  cases cs with
  | nil => cases loop <;> simp [rest, turn, Turn.rest, restAfter, Stylesheet.blockComment,
      stringBody, Stylesheet.prelude, urlBody, eat]
  | cons c cs =>
    cases loop with
    | sheet => exact rest_sheet c cs
    | blockComment => exact rest_blockComment c cs
    | lineComment => exact rest_lineComment c cs
    | string quote => exact rest_string quote c cs
    | name => exact rest_name c cs
    | prelude depth => exact rest_prelude depth c cs
    | url => exact rest_url c cs

/-! ## What one turn does -/

/-- A turn leaves its loop, or takes a character. -/
theorem turn_progress (dialect : Dialect) (afterName : Bool) (loop : Loop) (cs : List Char) :
    (loop.turn dialect afterName cs).loops = [] ∨
      cs ≠ [] ∧ 0 < (loop.turn dialect afterName cs).taken ∧
        (loop.turn dialect afterName cs).loops.length ≤ 3 := by
  cases cs with
  | nil => exact .inl rfl
  | cons c cs =>
    cases loop <;> rw [turn] <;> repeat' split
    all_goals simp

theorem depthAfter_le (depth : Nat) (c : Char) : depthAfter depth c ≤ depth + [c].count '(' := by
  unfold depthAfter
  by_cases hopen : c = '('
  · simp [hopen]
  · simp only [beq_iff_eq, if_neg hopen]
    split <;> omega

theorem depthAfter_close (depth : Nat) :
    depth = depthAfter depth ')' + 1 ∨ depth = 0 ∧ depthAfter depth ')' = 0 := by
  have hclose : depthAfter depth ')' = depth - 1 := rfl
  omega

theorem ne_prelude_of_commentLoop? {comment : Loop} (h : commentLoop? dialect cs = some comment)
    (depth : Nat) : comment ≠ .prelude depth := by
  unfold commentLoop? at h
  split at h
  · cases h
    simp
  · split at h
    · cases h
      simp
    · cases h
  · cases h

theorem turn_prelude_cases (dialect : Dialect) (afterName : Bool) (depth : Nat) (c : Char)
    (cs : List Char) :
    (turn dialect afterName (.prelude depth) (c :: cs)).loops = [] ∨
      (∃ inner, (∀ depth, inner ≠ .prelude depth) ∧
        (turn dialect afterName (.prelude depth) (c :: cs)).loops = [inner, .prelude depth]) ∨
      turn dialect afterName (.prelude depth) (c :: cs) = ⟨1, [.prelude (depthAfter depth c)]⟩ := by
  rw [turn]
  split
  · next comment hfound =>
    split at hfound
    · exact .inr (.inl ⟨comment, ne_prelude_of_commentLoop? hfound, rfl⟩)
    · cases hfound
  · split
    · exact .inr (.inl ⟨.string c, by simp, rfl⟩)
    · split
      · exact .inl rfl
      · exact .inr (.inr rfl)

theorem turn_prelude_close (dialect : Dialect) (afterName : Bool) (depth : Nat) (cs : List Char) :
    turn dialect afterName (.prelude depth) (')' :: cs) =
      ⟨1, [.prelude (depthAfter depth ')')]⟩ := by
  have hcomment : (if depth = 0 then commentLoop? dialect (')' :: cs) else none) = none := by
    split <;> rfl
  rw [turn, hcomment]
  simp [isQuote, endsPrelude]

theorem depth_le_of_mem_turn {loop : Loop} {inner : Nat}
    (h : .prelude inner ∈ (loop.turn dialect afterName cs).loops) :
    inner = 0 ∨ ∃ depth, loop = .prelude depth ∧
      inner ≤ depth + (cs.take (loop.turn dialect afterName cs).taken).count '(' := by
  cases cs with
  | nil => cases h
  | cons c cs =>
    cases loop with
    | prelude depth =>
      refine .inr ⟨depth, rfl, ?_⟩
      rcases turn_prelude_cases dialect afterName depth c cs with
        hleft | ⟨other, hne, hwait⟩ | hturn
      · rw [hleft] at h
        cases h
      · rw [hwait] at h
        simp only [List.mem_cons, (hne inner).symm, prelude.injEq, List.not_mem_nil, or_false,
          false_or] at h
        omega
      · rw [hturn] at h ⊢
        simp only [List.mem_singleton, prelude.injEq] at h
        rw [h]
        exact depthAfter_le depth c
    | sheet =>
      left
      rw [turn] at h
      split at h
      · next comment hfound =>
        have hne := ne_prelude_of_commentLoop? hfound inner
        simp [hne.symm] at h
      · repeat' split at h
        all_goals simp at h
        exact h
    | _ =>
      rw [turn] at h
      repeat' split at h
      all_goals simp at h

end Loop

end Requisite.Stylesheet

import Requisite.Stylesheet.Split

/-!
# Splitting loses nothing

The parts of a text, joined with the separator, are the text, and none of them can be split again.
Where a scan of a text ends decides whether a separator behind it cuts.
-/

namespace Requisite.Stylesheet

variable {separator c : Char} {nesting : Nesting} {text part : List Char}

/-! ## Scans -/

namespace Nesting

/-- Where a scan stands after a text. -/
def after (nesting : Nesting) (text : List Char) : Nesting := text.foldl next nesting

/-- Outside strings and parentheses. -/
def IsTop (nesting : Nesting) : Prop := nesting.quote = none ∧ nesting.depth = 0

/-- A backslash counts only inside a string. -/
def IsReachable (nesting : Nesting) : Prop := nesting.quote = none → nesting.escaped = false

instance (nesting : Nesting) : Decidable nesting.IsTop :=
  inferInstanceAs (Decidable (nesting.quote = none ∧ nesting.depth = 0))

theorem after_append (nesting : Nesting) (text rest : List Char) :
    nesting.after (text ++ rest) = (nesting.after text).after rest := by
  simp [after]

theorem isReachable_next (h : nesting.IsReachable) (c : Char) : (nesting.next c).IsReachable := by
  obtain ⟨depth, quote, escaped⟩ := nesting
  unfold IsReachable next at *
  cases quote with
  | none => grind
  | some quote => grind

theorem isReachable_after (h : nesting.IsReachable) (text : List Char) :
    (nesting.after text).IsReachable := by
  induction text generalizing nesting with
  | nil => exact h
  | cons c text ih => exact ih (isReachable_next h c)

theorem eq_empty_of_isTop (h : nesting.IsReachable) (htop : nesting.IsTop) : nesting = {} := by
  obtain ⟨depth, quote, escaped⟩ := nesting
  obtain ⟨hquote, hdepth⟩ := htop
  have hescaped : escaped = false := h hquote
  simp_all

theorem cutsAt_iff (nesting : Nesting) (separator c : Char) :
    nesting.cutsAt separator c = true ↔
      nesting.IsTop ∧ c = separator ∧ isQuote c = false ∧ c ≠ '(' ∧ c ≠ ')' := by
  unfold cutsAt IsTop
  simp [and_assoc]

theorem next_of_cutsAt (h : nesting.cutsAt separator c = true) : nesting.next c = nesting := by
  obtain ⟨⟨hquote, -⟩, -, hplain, hopen, hclose⟩ := (cutsAt_iff nesting separator c).mp h
  simp [next, hquote, hplain, hopen, hclose]

end Nesting

open Nesting (after_append)

/-! ## Parts -/

theorem exists_splitFrom_eq (separator : Char) (nesting : Nesting) (part text : List Char) :
    ∃ first others, splitFrom separator nesting part text = (part.reverse ++ first) :: others := by
  induction text generalizing nesting part with
  | nil => exact ⟨[], [], by simp [splitFrom]⟩
  | cons c text ih =>
    unfold splitFrom
    split
    · exact ⟨[], splitFrom separator nesting [] text, by simp⟩
    · obtain ⟨first, others, hsplit⟩ := ih (nesting.next c) (c :: part)
      exact ⟨c :: first, others, by simp [hsplit]⟩

theorem intercalate_splitFrom (separator : Char) (nesting : Nesting) (part text : List Char) :
    [separator].intercalate (splitFrom separator nesting part text) = part.reverse ++ text := by
  induction text generalizing nesting part with
  | nil => simp [splitFrom]
  | cons c text ih =>
    unfold splitFrom
    split
    · next hcut =>
      obtain ⟨-, rfl, -⟩ := (Nesting.cutsAt_iff nesting separator c).mp hcut
      obtain ⟨first, others, hsplit⟩ := exists_splitFrom_eq c nesting [] text
      have hne : splitFrom c nesting [] text ≠ [] := by simp [hsplit]
      rw [List.intercalate_cons_of_ne_nil hne, ih]
      simp
    · rw [ih]
      simp

theorem splitFrom_append (separator : Char) (nesting : Nesting) (part text : List Char) :
    ∃ front last, splitFrom separator nesting part text = front ++ [last] ∧
      ∀ rest, splitFrom separator nesting part (text ++ rest) =
        front ++ splitFrom separator (nesting.after text) last.reverse rest := by
  induction text generalizing nesting part with
  | nil => exact ⟨[], part.reverse, by simp [splitFrom], by simp [Nesting.after]⟩
  | cons c text ih =>
    by_cases hcut : nesting.cutsAt separator c = true
    · obtain ⟨front, last, htext, hrest⟩ := ih nesting []
      refine ⟨part.reverse :: front, last, ?_, ?_⟩
      · rw [splitFrom, if_pos hcut, htext, List.cons_append]
      · intro rest
        have hafter : nesting.after (c :: text) = nesting.after text := by
          rw [Nesting.after, List.foldl_cons, Nesting.next_of_cutsAt hcut, Nesting.after]
        rw [List.cons_append, splitFrom, if_pos hcut, hrest, hafter, List.cons_append]
    · obtain ⟨front, last, htext, hrest⟩ := ih (nesting.next c) (c :: part)
      refine ⟨front, last, ?_, ?_⟩
      · rw [splitFrom, if_neg hcut, htext]
      · intro rest
        rw [List.cons_append, splitFrom, if_neg hcut, hrest]
        rfl

/-! ## Parts that cannot be split -/

/-- A scan of this text makes no cut. -/
def Uncut (separator : Char) : Nesting → List Char → Prop
  | _, [] => True
  | nesting, c :: text =>
    nesting.cutsAt separator c = false ∧ Uncut separator (nesting.next c) text

theorem uncut_append (nesting : Nesting) (text rest : List Char) :
    Uncut separator nesting (text ++ rest) ↔
      Uncut separator nesting text ∧ Uncut separator (nesting.after text) rest := by
  induction text generalizing nesting with
  | nil => simp [Uncut, Nesting.after]
  | cons c text ih => simp [Uncut, ih, Nesting.after, and_assoc]

theorem splitFrom_of_uncut (h : Uncut separator nesting text) (part : List Char) :
    splitFrom separator nesting part text = [part.reverse ++ text] := by
  induction text generalizing nesting part with
  | nil => simp [splitFrom]
  | cons c text ih =>
    obtain ⟨hcut, htext⟩ := h
    rw [splitFrom, hcut, if_neg (by decide), ih htext]
    simp

/-- Every part starts outside strings and parentheses, as the text does. The part that is still
open has been scanned so far without a cut. -/
theorem uncut_of_mem_splitFrom (hpart : Uncut separator {} part.reverse)
    (hnesting : Nesting.after {} part.reverse = nesting) {piece : List Char}
    (hpiece : piece ∈ splitFrom separator nesting part text) : Uncut separator {} piece := by
  induction text generalizing nesting part with
  | nil =>
    rw [splitFrom, List.mem_singleton] at hpiece
    exact hpiece ▸ hpart
  | cons c text ih =>
    unfold splitFrom at hpiece
    split at hpiece
    · next hcut =>
      rcases List.mem_cons.mp hpiece with rfl | hpiece
      · exact hpart
      · have hreach : nesting.IsReachable :=
          hnesting ▸ Nesting.isReachable_after (fun _ => rfl) part.reverse
        have htop := ((Nesting.cutsAt_iff nesting separator c).mp hcut).1
        have hstart : Uncut separator {} ([] : List Char).reverse := trivial
        exact ih hstart (Nesting.eq_empty_of_isTop hreach htop).symm hpiece
    · next hcut =>
      refine ih ?_ ?_ hpiece
      · rw [List.reverse_cons, uncut_append, hnesting]
        exact ⟨hpart, by simpa using hcut, trivial⟩
      · rw [List.reverse_cons, after_append, hnesting]
        rfl

theorem splitTop_of_mem_splitTop (h : part ∈ splitTop separator text) :
    splitTop separator part = [part] := by
  have hstart : Uncut separator {} ([] : List Char).reverse := trivial
  exact splitFrom_of_uncut (uncut_of_mem_splitFrom hstart rfl h) []

/-! ## Separators -/

theorem splitTop_append_cut {before : List Char} (hquote : isQuote separator = false)
    (hopen : separator ≠ '(') (hclose : separator ≠ ')')
    (htop : (Nesting.after {} before).IsTop) (after : List Char) :
    splitTop separator (before ++ separator :: after) =
      splitTop separator before ++ splitTop separator after := by
  have hreach := Nesting.isReachable_after (fun _ => rfl : Nesting.IsReachable {}) before
  have hcut : Nesting.cutsAt {} separator separator = true := by
    rw [Nesting.cutsAt_iff]
    exact ⟨⟨rfl, rfl⟩, rfl, hquote, hopen, hclose⟩
  obtain ⟨front, last, hbefore, hrest⟩ := splitFrom_append separator {} [] before
  rw [splitTop, hrest, Nesting.eq_empty_of_isTop hreach htop, splitFrom, if_pos hcut, splitTop,
    hbefore, List.reverse_reverse]
  simp [splitTop]

theorem splitTop_append_uncut {before : List Char}
    (htop : ¬(Nesting.after {} before).IsTop) (after : List Char) :
    ∃ front last first others, splitTop separator before = front ++ [last] ∧
      splitTop separator (before ++ separator :: after) =
        front ++ (last ++ separator :: first) :: others := by
  obtain ⟨front, last, hbefore, hrest⟩ := splitFrom_append separator {} [] before
  have hcut : ¬(Nesting.after {} before).cutsAt separator separator = true := by
    rw [Nesting.cutsAt_iff]
    exact fun h => htop h.1
  obtain ⟨first, others, hsplit⟩ := exists_splitFrom_eq separator
    ((Nesting.after {} before).next separator) (separator :: last.reverse) after
  refine ⟨front, last, first, others, hbefore, ?_⟩
  rw [splitTop, hrest, splitFrom, if_neg hcut, hsplit]
  simp

/-- The parts hold the whole text and cannot be split again. A separator behind the text starts a
new part if the text ends outside strings and parentheses, and stays inside a part if not. -/
theorem splitTop_lossless (separator : Char) (text : List Char) :
    [separator].intercalate (splitTop separator text) = text ∧
      (∀ part ∈ splitTop separator text, splitTop separator part = [part]) ∧
      ∀ rest,
        (isQuote separator = false → separator ≠ '(' → separator ≠ ')' →
          (Nesting.after {} text).IsTop →
          splitTop separator (text ++ separator :: rest) =
            splitTop separator text ++ splitTop separator rest) ∧
        (¬(Nesting.after {} text).IsTop →
          ∃ front last first others, splitTop separator text = front ++ [last] ∧
            splitTop separator (text ++ separator :: rest) =
              front ++ (last ++ separator :: first) :: others) := by
  refine ⟨intercalate_splitFrom separator {} [] text, fun part => splitTop_of_mem_splitTop, ?_⟩
  intro rest
  constructor
  · intro hquote hopen hclose htop
    exact splitTop_append_cut hquote hopen hclose htop rest
  · intro htop
    exact splitTop_append_uncut htop rest

/-- An escaped quote and a comma in a string in parentheses, and a text that leaves both open. -/
theorem splitTop_lossless_nested :
    let closed := "é('\\',)'),b".toList
    let unclosed := "a,('\\\\b".toList
    (Nesting.after {} closed).IsTop ∧ ¬(Nesting.after {} unclosed).IsTop ∧
      splitTop ',' (closed ++ ',' :: unclosed) = splitTop ',' closed ++ splitTop ',' unclosed ∧
      ∃ front last first others, splitTop ',' unclosed = front ++ [last] ∧
        splitTop ',' (unclosed ++ ',' :: closed) = front ++ (last ++ ',' :: first) :: others := by
  intro closed unclosed
  have hclosed : (Nesting.after {} closed).IsTop := by decide +kernel
  have hunclosed : ¬(Nesting.after {} unclosed).IsTop := by decide +kernel
  refine ⟨hclosed, hunclosed, ?_, ?_⟩
  · exact ((splitTop_lossless ',' closed).2.2 unclosed).1 rfl (by decide) (by decide) hclosed
  · exact ((splitTop_lossless ',' unclosed).2.2 closed).2 hunclosed

end Requisite.Stylesheet

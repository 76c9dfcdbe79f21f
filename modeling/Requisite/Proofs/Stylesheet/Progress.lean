import Mathlib.Data.List.Chain
import Requisite.Proofs.Stylesheet.Loops
import Requisite.Proofs.Stylesheet.Positions
import Requisite.Proofs.Stylesheet.Splitting

/-!
# Progress of a scan

A scan by positions: it counts characters and lines, and keeps the loops that are open. It stops
at the end of the text, since a turn of a loop either leaves the loop or takes a character, and the
loop over the whole text comes round once for each lexeme.
-/

namespace Requisite.Stylesheet

/-! ## Lexemes and their places -/

theorem Place.line_eq_of_rule? {place : Place} {rule : AtRule} (h : place.rule? = some rule) :
    rule.line = 1 + place.before.count '\n' := by
  unfold rule? at h
  split at h
  · cases h
    rfl
  · cases h

theorem lines_rules_sublist (found : List Place) :
    ((found.filterMap Place.rule?).map AtRule.line).Sublist
      (found.map fun place => 1 + place.before.count '\n') := by
  induction found with
  | nil => exact .slnil
  | cons place found ih =>
    rw [List.map_cons, List.filterMap_cons]
    split
    · exact ih.cons _
    · next rule hrule =>
      rw [List.map_cons, Place.line_eq_of_rule? hrule]
      exact ih.cons_cons _

theorem length_lexemes_le (dialect : Dialect) (afterName : Bool) (cs : List Char) :
    (lexemes dialect afterName cs).length ≤ cs.length := by
  fun_induction lexemes dialect afterName cs with
  | case1 => exact Nat.le_refl _
  | case2 afterName c cs cut ih =>
    have hless : cut.2.length < (c :: cs).length := length_lexeme_lt dialect afterName c cs
    rw [List.length_cons]
    omega

theorem length_placesFrom (before : List Char) (found : List Lexeme) :
    (placesFrom before found).length = found.length := by
  induction found generalizing before with
  | nil => rfl
  | cons next found ih => simp [placesFrom, ih]

/-! ## Steps -/

/-- Where a scan of a text stands. -/
structure Scan where
  position : Nat
  line : Nat
  /-- The loops that are open, the innermost first. -/
  loops : List Loop
  deriving DecidableEq, Repr

namespace Scan

def start : Scan := ⟨0, 1, [.sheet]⟩

/-- Takes a character, unless the text is at its end. -/
def bump (text : List Char) (scan : Scan) : Scan :=
  match text[scan.position]? with
  | some c =>
    { scan with
      position := scan.position + 1
      line := if c == '\n' then scan.line + 1 else scan.line }
  | none => scan

def advance (text : List Char) : Nat → Scan → Scan
  | 0, scan => scan
  | n + 1, scan => advance text n (scan.bump text)

/-- One turn of the innermost loop, unless all loops are left. -/
def next? (dialect : Dialect) (text : List Char) (scan : Scan) : Option Scan :=
  match scan.loops with
  | [] => none
  | loop :: outer =>
    let turn := loop.turn dialect ((text.take scan.position).getLast?.any isNameChar)
      (text.drop scan.position)
    some { advance text turn.taken scan with loops := turn.loops ++ outer }

variable {dialect : Dialect} {text : List Char} {scan next : Scan} {position : Nat}
  {loops outer : List Loop}

theorem next?_cons (h : scan.loops = loop :: outer) :
    scan.next? dialect text =
      let turn := loop.turn dialect ((text.take scan.position).getLast?.any isNameChar)
        (text.drop scan.position)
      some { advance text turn.taken scan with loops := turn.loops ++ outer } := by
  unfold next?
  rw [h]

theorem position_bump (text : List Char) (scan : Scan) :
    (scan.bump text).position =
      if scan.position < text.length then scan.position + 1 else scan.position := by
  unfold bump
  split
  · next h => rw [if_pos (List.getElem?_eq_some_iff.mp h).1]
  · next h => rw [if_neg (Nat.not_lt.mpr (List.getElem?_eq_none_iff.mp h))]

theorem le_position_advance (text : List Char) (n : Nat) (scan : Scan) :
    scan.position ≤ (advance text n scan).position := by
  induction n generalizing scan with
  | zero => exact Nat.le_refl _
  | succ n ih =>
    have hbump := position_bump text scan
    have hrest := ih (scan.bump text)
    rw [advance]
    split at hbump <;> omega

theorem position_lt_advance (h : scan.position < text.length) {n : Nat} (hn : 0 < n) :
    scan.position < (advance text n scan).position := by
  obtain ⟨n, rfl⟩ := Nat.exists_eq_succ_of_ne_zero (Nat.ne_of_gt hn)
  have hbump := position_bump text scan
  have hrest := le_position_advance text n (scan.bump text)
  rw [if_pos h] at hbump
  rw [advance]
  omega

theorem next?_progress (h : scan.next? dialect text = some next) :
    scan.position ≤ next.position ∧
      ((∃ loop, scan.loops = loop :: next.loops) ∨
        scan.position < text.length ∧ scan.position < next.position ∧
          next.loops.length ≤ scan.loops.length + 2) := by
  cases hloops : scan.loops with
  | nil => simp [next?, hloops] at h
  | cons loop outer =>
    rw [next?_cons hloops] at h
    cases h
    refine ⟨le_position_advance text _ scan, ?_⟩
    rcases loop.turn_progress dialect ((text.take scan.position).getLast?.any isNameChar)
      (text.drop scan.position) with hleft | ⟨hrest, htaken, hsize⟩
    · exact .inl ⟨loop, by rw [hleft, List.nil_append]⟩
    · right
      have hlt : scan.position < text.length := by simpa using hrest
      refine ⟨hlt, position_lt_advance hlt htaken, ?_⟩
      rw [List.length_append, List.length_cons]
      omega

/-! ## Runs -/

/-- A turn that takes a character opens two more loops at most. -/
def work (text : List Char) (scan : Scan) : Nat :=
  3 * (text.length - scan.position) + scan.loops.length

theorem work_lt_of_next? (h : scan.next? dialect text = some next) :
    next.work text < scan.work text := by
  unfold work
  obtain ⟨hle, ⟨loop, hleft⟩ | ⟨hlt, hmoved, hsize⟩⟩ := next?_progress h
  · rw [hleft, List.length_cons]
    omega
  · omega

/-- The states of a scan from this one on. -/
def run (dialect : Dialect) (text : List Char) (scan : Scan) : List Scan :=
  match _h : scan.next? dialect text with
  | some next => scan :: run dialect text next
  | none => [scan]
termination_by scan.work text
decreasing_by exact work_lt_of_next? ‹_›

theorem run_of_next? (h : scan.next? dialect text = some next) :
    run dialect text scan = scan :: run dialect text next := by
  rw [run]
  split
  · next other hother =>
    cases hother.symm.trans h
    rfl
  · next hnone => cases hnone.symm.trans h

theorem run_of_none (h : scan.next? dialect text = none) : run dialect text scan = [scan] := by
  rw [run]
  split
  · next hsome => cases hsome.symm.trans h
  · rfl

theorem run_of_loops_nil (h : scan.loops = []) : run dialect text scan = [scan] :=
  run_of_none (by simp [next?, h])

theorem forall_mem_run {p : Scan → Prop}
    (hstep : ∀ scan next, p scan → scan.next? dialect text = some next → p next) (h : p scan) :
    ∀ later ∈ run dialect text scan, p later := by
  fun_induction run dialect text scan with
  | case1 scan next hnext ih =>
    rw [List.forall_mem_cons]
    exact ⟨h, ih (hstep scan next h hnext)⟩
  | case2 scan hnone =>
    rw [List.forall_mem_singleton]
    exact h

theorem run_suffix_of_mem {later : Scan} (h : later ∈ run dialect text scan) :
    run dialect text later <:+ run dialect text scan := by
  fun_induction run dialect text scan with
  | case1 scan next hnext ih =>
    rcases List.mem_cons.mp h with rfl | h
    · exact ⟨[], run_of_next? hnext⟩
    · exact (ih h).trans (List.suffix_cons scan _)
  | case2 scan hnone =>
    cases List.mem_singleton.mp h
    exact ⟨[], run_of_none hnone⟩

theorem head?_run (dialect : Dialect) (text : List Char) (scan : Scan) :
    (run dialect text scan).head? = some scan := by
  rw [run]
  split <;> rfl

theorem isChain_run (dialect : Dialect) (text : List Char) (scan : Scan) :
    (run dialect text scan).IsChain fun scan next => scan.next? dialect text = some next := by
  fun_induction run dialect text scan with
  | case1 scan next hnext ih =>
    refine ih.cons ?_
    intro other hother
    rw [head?_run] at hother
    cases hother
    exact hnext
  | case2 scan hnone => exact .singleton _

/-! ## Order -/

/-- Later in a run: behind the position, or at it with fewer loops open. -/
def Before (scan later : Scan) : Prop :=
  scan.position < later.position ∨
    scan.position ≤ later.position ∧ later.loops.length < scan.loops.length

instance : Trans Before Before Before where
  trans := by
    intro first second third hfirst hsecond
    unfold Before at *
    omega

theorem before_of_next? (h : scan.next? dialect text = some next) : scan.Before next := by
  obtain ⟨hle, ⟨loop, hleft⟩ | ⟨-, hmoved, -⟩⟩ := next?_progress h
  · refine .inr ⟨hle, ?_⟩
    rw [hleft, List.length_cons]
    exact Nat.lt_succ_self _
  · exact .inl hmoved

theorem pairwise_before_run (dialect : Dialect) (text : List Char) (scan : Scan) :
    (run dialect text scan).Pairwise Before :=
  List.isChain_iff_pairwise.mp ((isChain_run dialect text scan).imp fun _ _ => before_of_next?)

/-! ## Positions and lines -/

/-- The state at a position, with the line that belongs to it. -/
def ofPosition (text : List Char) (position : Nat) (loops : List Loop) : Scan :=
  ⟨position, 1 + (text.take position).count '\n', loops⟩

theorem bump_ofPosition (h : position ≤ text.length) (loops : List Loop) :
    (ofPosition text position loops).bump text =
      ofPosition text (min (position + 1) text.length) loops := by
  unfold bump ofPosition
  simp only
  split
  · next c hc =>
    have hlt := (List.getElem?_eq_some_iff.mp hc).1
    have hcount : (text.take (position + 1)).count '\n' =
        (text.take position).count '\n' + [c].count '\n' := by
      rw [List.take_add_one, hc, Option.toList_some, List.count_append]
    rw [Nat.min_eq_left hlt, hcount]
    by_cases hnewline : c = '\n' <;> simp [hnewline, Nat.add_assoc]
  · next hnone =>
    have hend : position = text.length := Nat.le_antisymm h (List.getElem?_eq_none_iff.mp hnone)
    simp [hend]

theorem advance_ofPosition (h : position ≤ text.length) (n : Nat) (loops : List Loop) :
    advance text n (ofPosition text position loops) =
      ofPosition text (min (position + n) text.length) loops := by
  induction n generalizing position with
  | zero => simp [advance, Nat.min_eq_left h]
  | succ n ih =>
    rw [advance, bump_ofPosition h, ih (Nat.min_le_right _ _)]
    congr 1
    omega

theorem next?_ofPosition (dialect : Dialect) (h : position ≤ text.length) (loop : Loop)
    (outer : List Loop) :
    let turn := loop.turn dialect ((text.take position).getLast?.any isNameChar)
      (text.drop position)
    (ofPosition text position (loop :: outer)).next? dialect text =
      some (ofPosition text (min (position + turn.taken) text.length) (turn.loops ++ outer)) := by
  intro turn
  rw [next?_cons rfl]
  simp only [advance_ofPosition h]
  rfl

theorem drop_min_length (text : List Char) (n : Nat) :
    text.drop (min n text.length) = text.drop n := by
  rcases Nat.le_total n text.length with h | h
  · rw [Nat.min_eq_left h]
  · rw [Nat.min_eq_right h, List.drop_length, List.drop_eq_nil_of_le h]

/-! ## Loops one after the other -/

/-- Loops that are open are left one after the other, while those below them wait. They are through
where the text goes on that they leave. -/
theorem exists_run_eq (dialect : Dialect) (h : position ≤ text.length) (loops outer : List Loop) :
    ∃ inner stop, stop ≤ text.length ∧
      text.drop stop = restAfter dialect loops (text.drop position) ∧
      run dialect text (ofPosition text position (loops ++ outer)) =
        inner ++ run dialect text (ofPosition text stop outer) ∧
      ∀ scan ∈ inner, outer.length < scan.loops.length := by
  induction hwork : (ofPosition text position loops).work text using Nat.strongRecOn
    generalizing position loops with
  | ind n ih =>
    cases loops with
    | nil => exact ⟨[], position, h, rfl, rfl, by simp⟩
    | cons loop loops =>
      have hturn := loop.rest_eq_turn_rest dialect
        ((text.take position).getLast?.any isNameChar) (text.drop position)
      have hless := work_lt_of_next? (next?_ofPosition dialect h loop loops)
      have hrun := run_of_next? (next?_ofPosition dialect h loop (loops ++ outer))
      generalize loop.turn dialect ((text.take position).getLast?.any isNameChar)
        (text.drop position) = turn at hturn hless hrun
      rw [hwork] at hless
      obtain ⟨inner, stop, hstop, hdrop, hinner, hdeep⟩ :=
        ih _ hless (Nat.min_le_right _ _) (turn.loops ++ loops) rfl
      refine ⟨ofPosition text position (loop :: loops ++ outer) :: inner, stop, hstop, ?_, ?_, ?_⟩
      · rw [hdrop, drop_min_length, ← List.drop_drop, restAfter_append]
        exact congrArg (restAfter dialect loops) hturn.symm
      · rw [List.cons_append, hrun, ← List.append_assoc, hinner, List.cons_append]
      · rw [List.forall_mem_cons]
        refine ⟨?_, hdeep⟩
        simp only [ofPosition, List.cons_append, List.length_cons, List.length_append]
        omega

/-! ## The loop over the whole text -/

def atSheet (scan : Scan) : Bool := scan.loops == [.sheet]

theorem filter_atSheet_eq_nil {inner : List Scan} (h : ∀ scan ∈ inner, 1 < scan.loops.length) :
    inner.filter atSheet = [] := by
  rw [List.filter_eq_nil_iff]
  intro scan hscan hsheet
  have hsize := h scan hscan
  rw [atSheet, beq_iff_eq] at hsheet
  simp [hsheet] at hsize

theorem getLast?_run (dialect : Dialect) (h : position ≤ text.length) :
    (run dialect text (ofPosition text position [.sheet])).getLast? =
      some (ofPosition text text.length []) := by
  obtain ⟨inner, stop, hstop, hdrop, hrun, -⟩ := exists_run_eq dialect h [.sheet] []
  have hend : stop = text.length := Nat.le_antisymm hstop (List.drop_eq_nil_iff.mp hdrop)
  rw [List.append_nil] at hrun
  rw [hrun, run_of_loops_nil rfl, List.getLast?_concat, hend]

theorem filter_atSheet_run_end (dialect : Dialect) (text : List Char) :
    (run dialect text (ofPosition text text.length [.sheet])).filter atSheet =
      [ofPosition text text.length [.sheet]] := by
  have hnext := next?_ofPosition dialect (Nat.le_refl text.length) .sheet []
  rw [List.drop_length] at hnext
  rw [run_of_next? hnext, run_of_loops_nil rfl]
  rfl

theorem filter_atSheet_run_cons (dialect : Dialect) {before cs : List Char} {c : Char}
    (h : before ++ c :: cs = text) :
    let cut := lexeme dialect (before.getLast?.any isNameChar) c cs
    (run dialect text (ofPosition text before.length [.sheet])).filter atSheet =
      ofPosition text before.length [.sheet] ::
        (run dialect text (ofPosition text (before ++ cut.1.source).length [.sheet])).filter
          atSheet := by
  intro cut
  have hlength : before.length ≤ text.length := by simp [← h]
  have htake : text.take before.length = before := by simp [← h]
  have hdrop : text.drop before.length = c :: cs := by simp [← h]
  obtain ⟨taken, inner, hturn, hrest⟩ :=
    Loop.exists_turn_sheet dialect (before.getLast?.any isNameChar) c cs
  have hnext := next?_ofPosition dialect hlength .sheet []
  rw [htake, hdrop, hturn] at hnext
  simp only [List.append_nil] at hnext
  obtain ⟨states, stop, hstop, hleft, hrun, hdeep⟩ := exists_run_eq dialect
    (Nat.min_le_right (before.length + taken) text.length) inner [.sheet]
  rw [drop_min_length, ← List.drop_drop, hdrop, hrest] at hleft
  -- The loops of the lexeme leave as much of the text as the lexeme does.
  have hend : stop = (before ++ cut.1.source).length := by
    have hcut : before ++ cut.1.source ++ cut.2 = text := by
      rw [List.append_assoc, lexeme_append, h]
    have hwhole := congrArg List.length hcut
    have hsuffix : text.length - stop = cut.2.length := by rw [← List.length_drop, hleft]
    rw [List.length_append] at hwhole
    omega
  rw [run_of_next? hnext, hrun, List.filter_cons_of_pos (by rfl), List.filter_append,
    filter_atSheet_eq_nil hdeep, hend, List.nil_append]

/-- The loop over the whole text comes round where a lexeme starts, and at the end of the text. -/
theorem filter_atSheet_run (dialect : Dialect) (afterName : Bool) (after : List Char) :
    ∀ before : List Char, before.getLast?.any isNameChar = afterName → before ++ after = text →
      (run dialect text (ofPosition text before.length [.sheet])).filter atSheet =
        (placesFrom before (lexemes dialect afterName after)).map
            (fun place => ofPosition text place.start [.sheet]) ++
          [ofPosition text text.length [.sheet]] := by
  fun_induction lexemes dialect afterName after with
  | case1 =>
    intro before _ h
    rw [List.append_nil] at h
    rw [h, filter_atSheet_run_end]
    rfl
  | case2 afterName c cs cut ih =>
    intro before hname h
    have hne : cut.1.source ≠ [] := source_lexeme_ne_nil dialect afterName c cs
    have hlast : (before ++ cut.1.source).getLast?.any isNameChar =
        cut.1.source.getLast?.any isNameChar := by
      rw [List.getLast?_append_of_ne_nil _ hne]
    have happend : before ++ cut.1.source ++ cut.2 = text := by
      rw [List.append_assoc, lexeme_append, h]
    rw [filter_atSheet_run_cons dialect h, hname, ih _ hlast happend]
    rfl

/-! ## States that a scan can be in -/

/-- A state within a text, on the line of its position. No counter of parentheses has passed below
zero, where it would be larger than any number of them. -/
structure Good (text : List Char) (scan : Scan) : Prop where
  position_le : scan.position ≤ text.length
  line_eq : scan.line = 1 + (text.take scan.position).count '\n'
  depth_le : ∀ depth, .prelude depth ∈ scan.loops → depth ≤ (text.take scan.position).count '('

theorem good_start (text : List Char) : start.Good text where
  position_le := Nat.zero_le _
  line_eq := by simp [start]
  depth_le := by simp [start]

theorem Good.eq_ofPosition (h : scan.Good text) :
    scan = ofPosition text scan.position scan.loops := by
  obtain ⟨position, line, loops⟩ := scan
  have hline : line = 1 + (text.take position).count '\n' := h.line_eq
  rw [hline]
  rfl

theorem count_take_advance (text : List Char) (position taken : Nat) (c : Char) :
    (text.take (min (position + taken) text.length)).count c =
      (text.take position).count c + ((text.drop position).take taken).count c := by
  rw [← List.take_take, List.take_length, List.take_add, List.count_append]

theorem Good.exists_left {loop : Loop} (h : scan.Good text) (hloops : scan.loops = loop :: outer) :
    ∃ later ∈ run dialect text scan, later.loops = outer ∧
      text.drop later.position = loop.rest dialect (text.drop scan.position) := by
  obtain ⟨inner, stop, -, hdrop, hrun, -⟩ := exists_run_eq dialect h.position_le [loop] outer
  have hscan : scan = ofPosition text scan.position ([loop] ++ outer) := by
    rw [List.singleton_append, ← hloops]
    exact h.eq_ofPosition
  refine ⟨ofPosition text stop outer, ?_, rfl, hdrop⟩
  rw [hscan, hrun]
  exact List.mem_append_right _ (List.mem_of_head? (head?_run dialect text _))

theorem Good.next? (h : scan.Good text) (hnext : scan.next? dialect text = some next) :
    next.Good text := by
  have hscan := h.eq_ofPosition
  obtain ⟨position, line, loops⟩ := scan
  cases loops with
  | nil => cases hnext
  | cons loop outer =>
    rw [hscan] at hnext
    have hposition : position ≤ text.length := h.position_le
    have hturn := next?_ofPosition dialect hposition loop outer
    cases hturn.symm.trans hnext
    refine ⟨Nat.min_le_right _ _, rfl, ?_⟩
    intro inner hinner
    simp only [ofPosition, count_take_advance] at hinner ⊢
    rcases List.mem_append.mp hinner with hinner | hinner
    · rcases Loop.depth_le_of_mem_turn hinner with rfl | ⟨depth, rfl, hle⟩
      · exact Nat.zero_le _
      · have hdepth : depth ≤ (text.take position).count '(' := h.depth_le depth (.head _)
        omega
    · have hdepth : inner ≤ (text.take position).count '(' := h.depth_le inner (.tail _ hinner)
      omega

theorem next?_close {depth : Nat} (hloops : scan.loops = .prelude depth :: outer)
    (hclose : text[scan.position]? = some ')') :
    scan.next? dialect text =
      some ⟨scan.position + 1, scan.line, .prelude (depthAfter depth ')') :: outer⟩ := by
  obtain ⟨hlt, hchar⟩ := List.getElem?_eq_some_iff.mp hclose
  have hdrop : text.drop scan.position = ')' :: text.drop (scan.position + 1) := by
    rw [List.drop_eq_getElem_cons hlt, hchar]
  rw [next?_cons hloops]
  simp only [hdrop, Loop.turn_prelude_close]
  simp [advance, bump, hclose]

end Scan

/-! ## Splitting -/

namespace Nesting

theorem depth_next_le (nesting : Nesting) (c : Char) :
    (nesting.next c).depth ≤ nesting.depth + [c].count '(' := by
  have hcount : [c].count '(' = if c = '(' then 1 else 0 := by
    by_cases hopen : c = '(' <;> simp [hopen]
  rw [hcount]
  unfold next
  cases nesting.quote with
  | none => grind
  | some quote => grind

theorem depth_after_le (nesting : Nesting) (text : List Char) :
    (nesting.after text).depth ≤ nesting.depth + text.count '(' := by
  induction text generalizing nesting with
  | nil => exact Nat.le_refl _
  | cons c text ih =>
    have hnext := depth_next_le nesting c
    have hrest := ih (nesting.next c)
    rw [← List.singleton_append, List.count_append, after_append]
    exact Nat.le_trans hrest (by omega)

theorem depth_next_close {nesting : Nesting} (h : nesting.quote = none) :
    nesting.depth = (nesting.next ')').depth + 1 ∨
      nesting.depth = 0 ∧ (nesting.next ')').depth = 0 := by
  have hclose : (nesting.next ')').depth = nesting.depth - 1 := by
    unfold next
    rw [h]
    rfl
  omega

end Nesting

/-! ## The whole scan -/

namespace Scan

theorem start_eq_ofPosition (text : List Char) : start = ofPosition text 0 [.sheet] := by
  simp [start, ofPosition]

theorem filter_atSheet_run_start (dialect : Dialect) (text : List Char) :
    (run dialect text start).filter atSheet =
      (places dialect text).map (fun place => ofPosition text place.start [.sheet]) ++
        [ofPosition text text.length [.sheet]] := by
  rw [start_eq_ofPosition text]
  exact filter_atSheet_run dialect false text [] rfl (List.nil_append text)

theorem lines_ofText_sublist (dialect : Dialect) (text : String) :
    ((ofText dialect text).rules.map AtRule.line).Sublist
      (((run dialect text.toList start).filter atSheet).map line) := by
  have hlines : ((places dialect text.toList).map fun place =>
        (ofPosition text.toList place.start [.sheet]).line) =
      (places dialect text.toList).map fun place => 1 + place.before.count '\n' := by
    apply List.map_congr_left
    intro place hplace
    obtain ⟨cs, -, hbefore, -⟩ := exists_lexemeStep_of_mem_places hplace
    simp [ofPosition, Place.start, ← hbefore]
  rw [filter_atSheet_run_start, rules_ofText, List.map_append, List.map_map]
  refine (lines_rules_sublist _).trans ?_
  rw [← hlines]
  exact List.sublist_append_left _ _

/-- A scan makes progress with each turn of each of its loops and ends at the end of the text. It
never leaves the text and knows its line throughout. The loop over the whole text comes round once
for each character at most, and once more at the end of the text, where it is left. -/
theorem run_makes_progress (dialect : Dialect) (text : String) :
    let scans := run dialect text.toList start
    let visits := scans.filter atSheet
    (∀ scan ∈ scans, scan.Good text.toList) ∧
      scans.IsChain (fun scan next => scan.position < next.position ∨
        ∃ loop, scan.loops = loop :: next.loops) ∧
      scans.Pairwise (fun scan later => scan.loops.length ≤ later.loops.length →
        scan.position < later.position) ∧
      (∀ scan ∈ scans, ∀ loop outer, scan.loops = loop :: outer →
        ∃ later ∈ scans, later.loops = outer ∧
          text.toList.drop later.position = loop.rest dialect (text.toList.drop scan.position)) ∧
      scans.getLast? = some (ofPosition text.toList text.length []) ∧
      visits.map position = (places dialect text.toList).map Place.start ++ [text.length] ∧
      visits.length ≤ text.length + 1 ∧
      ((ofText dialect text).rules.map AtRule.line).Sublist (visits.map line) ∧
      (∀ scan ∈ scans, ∀ depth outer, scan.loops = .prelude depth :: outer →
        text.toList[scan.position]? = some ')' →
        ∃ inner, (depth = inner + 1 ∨ depth = 0 ∧ inner = 0) ∧
          scan.next? dialect text.toList =
            some ⟨scan.position + 1, scan.line, .prelude inner :: outer⟩) ∧
      ∀ (piece : List Char),
        let nesting := Nesting.after {} piece
        nesting.depth ≤ piece.count '(' ∧
          (nesting.quote = none → nesting.depth = (nesting.next ')').depth + 1 ∨
            nesting.depth = 0 ∧ (nesting.next ')').depth = 0) := by
  intro scans visits
  have hvisits := filter_atSheet_run_start dialect text.toList
  have hgood : ∀ scan ∈ scans, scan.Good text.toList :=
    forall_mem_run (fun _ _ hscan => hscan.next?) (good_start _)
  refine ⟨hgood, ?_, ?_, ?_, ?_, ?_, ?_, lines_ofText_sublist dialect text, ?_, ?_⟩
  · refine (isChain_run dialect text.toList start).imp ?_
    intro scan next hnext
    obtain ⟨-, hleft | ⟨-, hmoved, -⟩⟩ := next?_progress hnext
    · exact .inr hleft
    · exact .inl hmoved
  · refine (pairwise_before_run dialect text.toList start).imp ?_
    intro scan later hbefore hsize
    unfold Before at hbefore
    omega
  · intro scan hscan loop outer hloops
    obtain ⟨later, hlater, hleft⟩ := (hgood scan hscan).exists_left hloops
    exact ⟨later, (run_suffix_of_mem hscan).subset hlater, hleft⟩
  · rw [← String.length_toList]
    unfold scans
    rw [start_eq_ofPosition text.toList]
    exact getLast?_run dialect (Nat.zero_le _)
  · unfold visits scans
    rw [hvisits, List.map_append, List.map_map, ← String.length_toList]
    rfl
  · have hsize := length_lexemes_le dialect false text.toList
    unfold visits scans
    rw [hvisits, List.length_append, List.length_map, places, length_placesFrom,
      ← String.length_toList]
    exact Nat.add_le_add_right hsize 1
  · intro scan _ depth outer hloops hclose
    exact ⟨_, Loop.depthAfter_close depth, next?_close hloops hclose⟩
  · intro piece nesting
    refine ⟨?_, Nesting.depth_next_close⟩
    have hle := Nesting.depth_after_le {} piece
    exact Nat.le_trans hle (by simp)

/-- Two parentheses that close nothing, and one that is never closed. -/
theorem run_makes_progress_unbalanced :
    let scans := run .scss "@a ))(".toList start
    let scan : Scan := ⟨3, 1, [.prelude 0, .sheet]⟩
    scan ∈ scans ∧ "@a ))(".toList[scan.position]? = some ')' ∧
      scan.next? .scss "@a ))(".toList = some ⟨4, 1, [.prelude 0, .sheet]⟩ ∧
      ∃ later ∈ scans, later.loops = [.sheet] ∧ "@a ))(".toList.drop later.position = [] := by
  have hscan : (⟨3, 1, [.prelude 0, .sheet]⟩ : Scan) ∈ run .scss "@a ))(".toList start := by
    decide +kernel
  have hrest : Loop.rest .scss (.prelude 0) ("@a ))(".toList.drop 3) = [] := by decide +kernel
  obtain ⟨-, -, -, hleft, -, -, -, -, hclose, -⟩ := run_makes_progress .scss "@a ))("
  obtain ⟨later, hlater, hloops, hdrop⟩ := hleft _ hscan _ _ rfl
  obtain ⟨inner, hinner, hnext⟩ := hclose _ hscan _ _ rfl (by decide)
  have hzero : inner = 0 := by omega
  subst hzero
  exact ⟨hscan, by decide, hnext, later, hlater, hloops, hdrop.trans hrest⟩

end Scan

end Requisite.Stylesheet

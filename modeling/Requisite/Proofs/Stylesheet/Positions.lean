import Mathlib.Data.List.DropRight
import Mathlib.Data.List.Flatten
import Requisite.Proofs.Stylesheet.Composition

/-!
# Positions

Where in a text its rules and urls stand. Each lexeme starts where the one before it ends, so
that what is recorded of a text comes from pieces of it that follow one another.
-/

namespace Requisite.Stylesheet

open Text (isBlank trim trimStart trimEnd)

variable {dialect : Dialect}

/-! ## Lexemes in their places -/

/-- A lexeme with the text before it. -/
structure Place where
  before : List Char
  found : Lexeme

namespace Place

def start (place : Place) : Nat := place.before.length

def stop (place : Place) : Nat := place.start + place.found.source.length

def rule? (place : Place) : Option AtRule :=
  match place.found with
  | .rule name parts _ =>
    some ⟨String.ofList name, preludeText parts, 1 + place.before.count '\n'⟩
  | _ => none

end Place

/-- The places of lexemes of which the first stands after this text. -/
def placesFrom (before : List Char) : List Lexeme → List Place
  | [] => []
  | found :: left => ⟨before, found⟩ :: placesFrom (before ++ found.source) left

def places (dialect : Dialect) (text : List Char) : List Place :=
  placesFrom [] (lexemes dialect false text)

theorem rulesFrom_eq_filterMap (before : List Char) (found : List Lexeme) :
    rulesFrom (1 + before.count '\n') found = (placesFrom before found).filterMap Place.rule? := by
  induction found generalizing before with
  | nil => rfl
  | cons next found ih =>
    have hnext := ih (before ++ next.source)
    rw [List.count_append, ← Nat.add_assoc] at hnext
    cases next with
    | rule name parts closed => exact congrArg (_ :: ·) hnext
    | _ => exact hnext

theorem filterMap_url?_eq (before : List Char) (found : List Lexeme) :
    found.filterMap Lexeme.url? = (placesFrom before found).filterMap (·.found.url?) := by
  induction found generalizing before with
  | nil => rfl
  | cons next found ih => simp only [placesFrom, List.filterMap_cons, ← ih]

theorem rules_ofText (dialect : Dialect) (text : String) :
    (ofText dialect text).rules = (places dialect text.toList).filterMap Place.rule? :=
  rulesFrom_eq_filterMap [] _

theorem urls_ofText (dialect : Dialect) (text : String) :
    (ofText dialect text).urls = (places dialect text.toList).filterMap (·.found.url?) :=
  filterMap_url?_eq [] _

theorem exists_split_of_mem_placesFrom {before : List Char} {found : List Lexeme} {place : Place}
    (h : place ∈ placesFrom before found) :
    ∃ passed left, found = passed ++ place.found :: left ∧
      place.before = before ++ passed.flatMap Lexeme.source := by
  induction found generalizing before with
  | nil => cases h
  | cons next found ih =>
    rcases List.mem_cons.mp h with rfl | h
    · exact ⟨[], found, rfl, by simp⟩
    · obtain ⟨passed, left, rfl, hbefore⟩ := ih h
      exact ⟨next :: passed, left, rfl, by simp [hbefore]⟩

theorem exists_lexemeStep_of_mem_places {text : List Char} {place : Place}
    (h : place ∈ places dialect text) :
    ∃ cs rest, place.before ++ cs = text ∧
      LexemeStep dialect (place.before.getLast?.any isNameChar) cs place.found rest := by
  obtain ⟨passed, left, hlexemes, hbefore⟩ := exists_split_of_mem_placesFrom h
  obtain ⟨cs, happend, hleft⟩ := lexemes_resume hlexemes
  obtain ⟨rest, hstep, -⟩ := exists_lexemeStep hleft.symm
  rw [List.nil_append] at hbefore
  have hname : endsName false place.before = place.before.getLast?.any isNameChar := by
    unfold endsName
    cases place.before.getLast? <;> rfl
  rw [← hbefore] at happend hstep
  rw [hname] at hstep
  exact ⟨cs, rest, happend, hstep⟩

/-! ## Places follow one another -/

theorem length_le_start {before : List Char} {found : List Lexeme} {place : Place}
    (h : place ∈ placesFrom before found) : before.length ≤ place.start := by
  obtain ⟨passed, -, -, hbefore⟩ := exists_split_of_mem_placesFrom h
  rw [Place.start, hbefore, List.length_append]
  omega

theorem pairwise_placesFrom (before : List Char) (found : List Lexeme) :
    (placesFrom before found).Pairwise fun first second => first.stop ≤ second.start := by
  induction found generalizing before with
  | nil => exact .nil
  | cons next found ih =>
    refine .cons ?_ (ih _)
    intro second hsecond
    have hstart := length_le_start hsecond
    rwa [List.length_append] at hstart

theorem start_lt_stop {text : List Char} {place : Place} (h : place ∈ places dialect text) :
    place.start < place.stop := by
  obtain ⟨_, _, -, hstep⟩ := exists_lexemeStep_of_mem_places h
  have hpos := List.length_pos_iff.mpr hstep.source_ne_nil
  unfold Place.stop
  omega

theorem stop_le_length {text : List Char} {place : Place} (h : place ∈ places dialect text) :
    place.stop ≤ text.length := by
  obtain ⟨cs, rest, rfl, hstep⟩ := exists_lexemeStep_of_mem_places h
  rw [← hstep.append]
  simp only [Place.stop, Place.start, List.length_append]
  omega

theorem pairwise_start (text : List Char) :
    (places dialect text).Pairwise fun first second => first.start < second.start := by
  refine (pairwise_placesFrom [] _).imp_of_mem ?_
  intro first second hfirst _ hstop
  exact Nat.lt_of_lt_of_le (start_lt_stop hfirst) hstop

theorem stop_le_start_of_lt {text : List Char} {first second : Place}
    (hfirst : first ∈ places dialect text) (hsecond : second ∈ places dialect text)
    (h : first.start < second.start) : first.stop ≤ second.start := by
  have hpairs : (places dialect text).Pairwise (·.stop ≤ ·.start) := pairwise_placesFrom [] _
  rw [List.pairwise_iff_getElem] at hpairs
  obtain ⟨i, hi, rfl⟩ := List.getElem_of_mem hfirst
  obtain ⟨j, hj, rfl⟩ := List.getElem_of_mem hsecond
  rcases Nat.lt_trichotomy i j with hij | rfl | hij
  · exact hpairs i j hi hj hij
  · exact absurd h (Nat.lt_irrefl _)
  · have hstop := hpairs j i hj hi hij
    have hpos := start_lt_stop hsecond
    omega

/-! ## What is recorded at a place -/

/-- The places where something is recorded, with what it is. -/
def recorded (record? : Place → Option α) (places : List Place) : List (Nat × α) :=
  places.filterMap fun place => (record? place).map (place.start, ·)

theorem map_snd_recorded (record? : Place → Option α) (places : List Place) :
    (recorded record? places).map Prod.snd = places.filterMap record? := by
  simp [recorded, List.map_filterMap, Function.comp_def]

theorem mem_recorded {record? : Place → Option α} {places : List Place} {entry : Nat × α}
    (h : entry ∈ recorded record? places) :
    ∃ place ∈ places, entry.1 = place.start ∧ record? place = some entry.2 := by
  obtain ⟨place, hplace, hentry⟩ := List.mem_filterMap.mp h
  obtain ⟨record, hrecord, rfl⟩ := Option.map_eq_some_iff.mp hentry
  exact ⟨place, hplace, rfl, hrecord⟩

theorem pairwise_recorded (dialect : Dialect) (record? : Place → Option α) (text : List Char) :
    (recorded record? (places dialect text)).Pairwise fun first second => first.1 < second.1 := by
  rw [recorded, List.pairwise_filterMap]
  refine (pairwise_start text).imp ?_
  rintro first second hlt _ hfirst _ hsecond
  obtain ⟨_, -, rfl⟩ := Option.map_eq_some_iff.mp hfirst
  obtain ⟨_, -, rfl⟩ := Option.map_eq_some_iff.mp hsecond
  exact hlt

theorem stop_le_of_mem_recorded {record? : Place → Option α} {text : List Char} {place : Place}
    {entry : Nat × α} (hplace : place ∈ places dialect text)
    (hentry : entry ∈ recorded record? (places dialect text)) (hlt : place.start < entry.1) :
    place.stop ≤ entry.1 := by
  obtain ⟨later, hlater, hstart, -⟩ := mem_recorded hentry
  rw [hstart] at hlt ⊢
  exact stop_le_start_of_lt hplace hlater hlt

/-- The positions where something is recorded, and the end of the text. -/
def marks (dialect : Dialect) (text : List Char) : List Nat :=
  (recorded Place.rule? (places dialect text)).map Prod.fst ++
    (recorded (·.found.url?) (places dialect text)).map Prod.fst ++ [text.length]

theorem stop_le_of_mem_marks {text : List Char} {place : Place} {mark : Nat}
    (hplace : place ∈ places dialect text) (hmark : mark ∈ marks dialect text)
    (hlt : place.start < mark) : place.stop ≤ mark := by
  simp only [marks, List.mem_append, List.mem_map, List.mem_singleton] at hmark
  rcases hmark with (⟨entry, hentry, rfl⟩ | ⟨entry, hentry, rfl⟩) | rfl
  · exact stop_le_of_mem_recorded hplace hentry hlt
  · exact stop_le_of_mem_recorded hplace hentry hlt
  · exact stop_le_length hplace

/-- A rule that starts at a position, and has ended at every mark behind it. -/
structure AtRule.Anchored (text : List Char) (marks : List Nat) (start : Nat) (rule : AtRule) :
    Prop where
  sign : text[start]? = some '@'
  name_ne : rule.name ≠ ""
  name : (text.drop (start + 1)).takeWhile isNameChar = rule.name.toList
  line : rule.line = 1 + (text.take start).count '\n'
  name_le : ∀ mark ∈ marks, start < mark → start + 1 + rule.name.length ≤ mark
  prelude : ∀ mark ∈ marks, start < mark →
    rule.prelude.toList.Sublist ((text.take mark).drop (start + 1 + rule.name.length))

/-- An address in a `url(` that starts at a position, and has ended at every mark behind it. -/
structure UrlAnchored (text : List Char) (marks : List Nat) (start : Nat) (url : String) :
    Prop where
  before : (text.take start).getLast?.any isNameChar = false
  opening : ((text.drop start).take 4).map Char.toLower = ['u', 'r', 'l', '(']
  ne : url ≠ ""
  piece : ∃ first, start + 4 ≤ first ∧ (text.drop first).take url.length = url.toList ∧
    ∀ mark ∈ marks, start < mark → first + url.length ≤ mark

/-! ## Trimmed texts -/

theorem trimEnd_isPrefix (text : List Char) : trimEnd text <+: text :=
  List.rdropWhile_prefix isBlank text

theorem trim_isInfix (text : List Char) : trim text <:+: text :=
  (trimEnd_isPrefix _).isInfix.trans (List.dropWhile_suffix isBlank).isInfix

theorem unquote_isInfix (text : List Char) : unquote text <:+: text := by
  cases text with
  | nil => exact List.infix_rfl
  | cons quote cs =>
    simp only [unquote]
    split
    · exact (List.dropLast_prefix cs).isInfix.trans (List.suffix_cons quote cs).isInfix
    · exact List.infix_rfl

theorem preludeText_sublist (parts : List Part) :
    (preludeText parts).toList.Sublist (parts.flatMap Part.text) := by
  rw [preludeText, String.toList_ofList]
  exact (trim_isInfix _).sublist.trans (List.filter_sublist.flatMap Part.text)

/-! ## Rules and urls are anchored -/

theorem exists_rule_of_rule? {text : List Char} {place : Place} {rule : AtRule}
    (hplace : place ∈ places dialect text) (hrule : place.rule? = some rule) :
    ∃ name cs parts body closed, place.found = .rule name parts closed ∧
      place.before ++ '@' :: (name ++ cs) = text ∧ name ≠ [] ∧
      (∀ c ∈ name, isNameChar c = true) ∧ (∀ c, cs.head? = some c → isNameChar c = false) ∧
      prelude dialect 0 cs = (parts, body) ∧
      rule = ⟨String.ofList name, preludeText parts, 1 + place.before.count '\n'⟩ := by
  obtain ⟨cs, rest, happend, hstep⟩ := exists_lexemeStep_of_mem_places hplace
  obtain ⟨before, found⟩ := place
  cases hstep with
  | rule hname hchars hstop hprelude heat =>
    cases hrule
    exact ⟨_, _, _, _, _, rfl, happend, hname, hchars, hstop, hprelude, rfl⟩
  | _ => cases hrule

theorem anchored_of_rule? {text : List Char} {place : Place} {rule : AtRule}
    (hplace : place ∈ places dialect text) (hrule : place.rule? = some rule) :
    rule.Anchored text (marks dialect text) place.start := by
  obtain ⟨name, cs, parts, body, closed, hfound, rfl, hname, hchars, hstop, hprelude, rfl⟩ :=
    exists_rule_of_rule? hplace hrule
  have hcs : parts.flatMap Part.text ++ body = cs := by
    have happend := prelude_append dialect 0 cs
    rwa [hprelude] at happend
  have hend : place.start + 1 + name.length + (parts.flatMap Part.text).length ≤ place.stop := by
    simp only [Place.stop, hfound, Lexeme.source, List.length_cons, List.length_append]
    omega
  have hdrop : (place.before ++ '@' :: (name ++ cs)).drop (place.start + 1 + name.length) = cs := by
    rw [← List.cons_append, ← List.append_assoc]
    apply List.drop_left'
    simp only [Place.start, List.length_append, List.length_cons]
    omega
  constructor
  case sign => simp [Place.start]
  case name_ne => simpa using hname
  case name => simpa [Place.start] using (span_append hchars hstop).1
  case line => simp [Place.start]
  case name_le =>
    intro mark hmark hlt
    have hle := stop_le_of_mem_marks hplace hmark hlt
    simp only [String.length_ofList]
    omega
  case prelude =>
    intro mark hmark hlt
    have hle := stop_le_of_mem_marks hplace hmark hlt
    simp only [String.length_ofList]
    refine (preludeText_sublist parts).trans ?_
    rw [List.drop_take, hdrop, ← hcs, List.take_append,
      List.take_of_length_le (show (parts.flatMap Part.text).length ≤ _ by omega)]
    exact List.sublist_append_left _ _

theorem isInfix_of_url? {opening body : List Char} {closed : Bool} {url : String}
    (h : (Lexeme.url opening body closed).url? = some url) : url ≠ "" ∧ url.toList <:+: body := by
  simp only [Lexeme.url?] at h
  split at h
  · cases h
  · next hne =>
    cases h
    rw [String.toList_ofList]
    refine ⟨?_, (unquote_isInfix _).trans (trim_isInfix body)⟩
    simpa using hne

theorem anchored_of_url? {text : List Char} {place : Place} {url : String}
    (hplace : place ∈ places dialect text) (hurl : place.found.url? = some url) :
    UrlAnchored text (marks dialect text) place.start url := by
  have hmarks (mark : Nat) (hmark : mark ∈ marks dialect text) (hlt : place.start < mark) :=
    stop_le_of_mem_marks hplace hmark hlt
  obtain ⟨cs, rest, rfl, hstep⟩ := exists_lexemeStep_of_mem_places hplace
  obtain ⟨before, found⟩ := place
  simp only [Place.stop, Place.start] at hmarks hstep hurl ⊢
  cases hstep with
  | @url opening cs body tail rest closed hname hopening hbody heat =>
    obtain ⟨hne, left, right, hpiece⟩ := isInfix_of_url? hurl
    have hcs : body ++ tail = cs := by
      have happend := urlBody_append cs
      rwa [hbody] at happend
    have hfour : opening.length = 4 := by simpa using congrArg List.length hopening
    have hdrop : (before ++ (opening ++ cs)).drop (before.length + 4 + left.length) =
        url.toList ++ (right ++ tail) := by
      rw [← hcs, ← hpiece]
      simp only [← List.append_assoc]
      rw [List.append_assoc _ url.toList, List.append_assoc _ (url.toList ++ right),
        List.append_assoc url.toList]
      apply List.drop_left'
      simp only [List.length_append, hfour]
    refine ⟨by simpa using hname, ?_, hne, before.length + 4 + left.length, by omega, ?_, ?_⟩
    · rw [List.drop_left, List.take_left' hfour, hopening]
    · rw [hdrop]
      exact List.take_left' String.length_toList
    · intro mark hmark hlt
      have hle := hmarks mark hmark hlt
      have hlength := congrArg List.length hpiece
      simp only [Lexeme.source, List.length_append, String.length_toList] at hle hlength
      omega
  | _ => cases hurl

/-- Everything that is recorded of a text stands in it: rules and urls have positions that
increase, and each has ended where the next one starts. -/
theorem ofText_anchored (dialect : Dialect) (text : String) :
    ∃ (rulesAt : List (Nat × AtRule)) (urlsAt : List (Nat × String)),
      rulesAt.map Prod.snd = (ofText dialect text).rules ∧
      urlsAt.map Prod.snd = (ofText dialect text).urls ∧
      rulesAt.Pairwise (fun first second => first.1 < second.1) ∧
      urlsAt.Pairwise (fun first second => first.1 < second.1) ∧
      (let marks := rulesAt.map Prod.fst ++ urlsAt.map Prod.fst ++ [text.toList.length]
      (∀ entry ∈ rulesAt, entry.2.Anchored text.toList marks entry.1) ∧
      ∀ entry ∈ urlsAt, UrlAnchored text.toList marks entry.1 entry.2) ∧
      (ofText dialect text).rules.Pairwise (·.line ≤ ·.line) := by
  have hrules : (recorded Place.rule? (places dialect text.toList)).map Prod.snd =
      (ofText dialect text).rules := by
    rw [map_snd_recorded, rules_ofText]
  have hurls : (recorded (·.found.url?) (places dialect text.toList)).map Prod.snd =
      (ofText dialect text).urls := by
    rw [map_snd_recorded, urls_ofText]
  have hsorted := pairwise_recorded dialect Place.rule? text.toList
  have hanchored (entry : Nat × AtRule)
      (hentry : entry ∈ recorded Place.rule? (places dialect text.toList)) :
      entry.2.Anchored text.toList (marks dialect text.toList) entry.1 := by
    obtain ⟨place, hplace, hstart, hrule⟩ := mem_recorded hentry
    rw [hstart]
    exact anchored_of_rule? hplace hrule
  refine ⟨_, _, hrules, hurls, hsorted, pairwise_recorded _ _ _, ⟨hanchored, ?_⟩, ?_⟩
  · intro entry hentry
    obtain ⟨place, hplace, hstart, hurl⟩ := mem_recorded hentry
    rw [hstart]
    exact anchored_of_url? hplace hurl
  · rw [← hrules, List.pairwise_map]
    refine hsorted.imp_of_mem ?_
    intro first second hfirst hsecond hlt
    -- the text before a later position has at least as many ends of lines
    have hcount := (List.take_sublist_take_left (l := text.toList) hlt.le).count_le '\n'
    rw [(hanchored first hfirst).line, (hanchored second hsecond).line]
    omega

end Requisite.Stylesheet

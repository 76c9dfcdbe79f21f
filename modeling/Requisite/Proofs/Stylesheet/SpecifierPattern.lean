import Requisite.Proofs.Stylesheet.Specifier
import Requisite.Proofs.Text.Pattern

/-!
# Specifiers as a pattern

The grammar of specifiers as one pattern with a group for each form of name. Reading an item is
deterministic and never goes back. It finds what a search for the pattern finds that does, so no
choice it commits to is one that the search would have to undo.
-/

namespace Requisite.Stylesheet

open Text (isBlank trimStart Pattern Reading)
open Text.Pattern

/-- The forms in which an item can give a name. -/
inductive Group where
  | double
  | single
  | urlDouble
  | urlSingle
  | urlBare
  | bare
  deriving DecidableEq

def charPattern (c : Char) : Pattern Group := .one (· == c)

def letterPattern (c : Char) : Pattern Group := .one (·.toLower == c)

def blankPattern : Pattern Group := .many isBlank

def optionsPattern : Pattern Group :=
  charPattern '(' ++ (.many (· != ')') ++ (charPattern ')' ++ blankPattern))

def quotedPattern (quote : Char) (name : Group) : Pattern Group :=
  charPattern quote ++ (.group name (.many (· != quote)) ++ charPattern quote)

def addressPattern : Pattern Group :=
  .alt (quotedPattern '"' .urlDouble)
    (.alt (quotedPattern '\'' .urlSingle) (.group .urlBare (.many isAddressChar)))

def closePattern : Pattern Group := blankPattern ++ charPattern ')'

def urlPattern : Pattern Group :=
  letterPattern 'u' ++ (letterPattern 'r' ++ (letterPattern 'l' ++ (charPattern '(' ++
    (blankPattern ++ (addressPattern ++ closePattern)))))

def barePattern : Pattern Group := .group .bare (.one (!endsWord ·) ++ .many (!endsWord ·))

def namePattern : Pattern Group :=
  .alt (quotedPattern '"' .double)
    (.alt (quotedPattern '\'' .single) (.alt urlPattern barePattern))

/-- Blanks, options that may be missing, and then a name, whatever follows. -/
def specifierPattern : Pattern Group :=
  .start ++ (blankPattern ++ (.opt optionsPattern ++ namePattern))

/-- The name in quotes or in `url(…)` that a match has found. -/
def quoted? (r : Reading Group) : Option (List Char) :=
  [.double, .single, .urlDouble, .urlSingle, .urlBare].findSome? (r.groups.lookup ·)

/-- The name that a match has found. A bare word counts only where it is allowed. -/
def captured? (allowsBare : Bool) (r : Reading Group) : Option (List Char) :=
  (quoted? r).or (if allowsBare then r.groups.lookup .bare else none)

theorem quoted?_of_ne {name : Group} (h : name ≠ .bare) (rest found : List Char) :
    quoted? ⟨rest, [(name, found)]⟩ = some found := by
  cases name with
  | bare => exact absurd rfl h
  | _ => rfl

variable {α : Type} {text cs : List Char} {groups : List (Group × List Char)}
  {next? : Reading Group → Option α}

/-! ## The parts of the pattern -/

theorem andThen_char (d c : Char) (cs : List Char) :
    (charPattern d).andThen text next? ⟨c :: cs, groups⟩ =
      if c = d then next? ⟨cs, groups⟩ else none := by
  unfold charPattern
  simp [andThen_one]

theorem andThen_quoted (quote : Char) (name : Group) (c : Char) (cs : List Char) :
    (quotedPattern quote name).andThen text next? ⟨c :: cs, groups⟩ =
      if c = quote then
        (quotedBy? quote cs).bind fun found => next? ⟨found.2, (name, found.1) :: groups⟩
      else none := by
  unfold quotedPattern
  rw [andThen_seq, andThen_char]
  congr 1
  rw [andThen_seq, andThen_group_many]
  · unfold quotedBy?
    split
    · next d after hdrop =>
      have hhead : (cs.dropWhile (· != quote)).head? = some d := by rw [hdrop, List.head?_cons]
      have hd : d = quote := by simpa using head?_dropWhile hhead
      rw [hdrop, andThen_char, if_pos hd, Option.bind_some]
    · next hdrop =>
      rw [hdrop]
      rfl
  · intro d rest kept others hd _
    rw [andThen_char, if_neg (by simpa using hd)]

theorem andThen_either_quoted (forDouble forSingle : Group) (other : Pattern Group) (c : Char)
    (cs : List Char) :
    (alt (quotedPattern '"' forDouble) (alt (quotedPattern '\'' forSingle) other)).andThen text
        next? ⟨c :: cs, groups⟩ =
      if isQuote c then
        ((quotedBy? c cs).bind fun found =>
          next? ⟨found.2, (if c = '"' then forDouble else forSingle, found.1) :: groups⟩).or
            (other.andThen text next? ⟨c :: cs, groups⟩)
      else other.andThen text next? ⟨c :: cs, groups⟩ := by
  rw [andThen_alt, andThen_alt, andThen_quoted, andThen_quoted]
  by_cases hdouble : c = '"'
  · subst hdouble
    simp [isQuote]
  · by_cases hsingle : c = '\''
    · subst hsingle
      simp [isQuote]
    · simp [isQuote, hdouble, hsingle]

theorem andThen_close (cs : List Char) :
    closePattern.andThen text next? ⟨cs, groups⟩ =
      if closes cs then next? ⟨(trimStart cs).tail, groups⟩ else none := by
  unfold closePattern blankPattern
  rw [andThen_seq, andThen_many]
  · unfold closes
    rw [← trimStart]
    cases trimStart cs with
    | nil => rfl
    | cons c rest =>
      rw [andThen_char]
      simp
  · intro c rest hc _
    rw [andThen_char, if_neg]
    rintro rfl
    exact absurd hc (by decide)

theorem andThen_bare (c : Char) (cs : List Char) :
    barePattern.andThen text some ⟨c :: cs, []⟩ =
      if endsWord c then none
      else some ⟨(c :: cs).dropWhile (!endsWord ·),
        [(.bare, (c :: cs).takeWhile (!endsWord ·))]⟩ := by
  unfold barePattern
  rw [andThen_group, andThen_seq, andThen_one, andThen_many [] (by simp)]
  cases hc : endsWord c with
  | true => rfl
  | false =>
    have hdrop : (c :: cs).dropWhile (!endsWord ·) = cs.dropWhile (!endsWord ·) := by simp [hc]
    rw [← hdrop, take_length_sub_dropWhile]
    rfl

/-! ## Addresses -/

/-- The match that ends with a closing parenthesis behind a name. -/
def closed? (name : Group) (found rest : List Char) : Option (Reading Group) :=
  if closes rest then some ⟨(trimStart rest).tail, [(name, found)]⟩ else none

theorem map_quoted?_closed? {name : Group} (h : name ≠ .bare) (found rest : List Char) :
    (closed? name found rest).map quoted? = if closes rest then some (some found) else none := by
  unfold closed?
  split
  · rw [Option.map_some, quoted?_of_ne h]
  · rfl

theorem isAddressChar_of_closes (h : closes cs = true) {c : Char} (hc : cs.head? = some c) :
    isAddressChar c = false := by
  obtain ⟨more, rest, hmore, rfl⟩ := (closes_iff cs).mp h
  exact not_isAddressChar_of_head? hmore hc

theorem closes_cons_of_isBlank {c : Char} (hc : isBlank c = true) (cs : List Char) :
    closes (c :: cs) = closes cs := by
  simp [closes, trimStart, hc]

theorem andThen_plain_address (cs : List Char) :
    (group .urlBare (many isAddressChar)).andThen text (closePattern.andThen text some) ⟨cs, []⟩ =
      closed? .urlBare (cs.takeWhile isAddressChar) (cs.dropWhile isAddressChar) := by
  rw [andThen_group_many, andThen_close, closed?]
  intro c rest kept others hc _
  rw [andThen_close, if_neg]
  intro hcloses
  rw [isAddressChar_of_closes hcloses rfl] at hc
  cases hc

theorem andThen_address (c : Char) (cs : List Char) :
    (addressPattern ++ closePattern).andThen text some ⟨c :: cs, []⟩ =
      if isQuote c then
        ((quotedBy? c cs).bind fun found =>
          closed? (if c = '"' then .urlDouble else .urlSingle) found.1 found.2).or
            (closed? .urlBare ((c :: cs).takeWhile isAddressChar)
              ((c :: cs).dropWhile isAddressChar))
      else
        closed? .urlBare ((c :: cs).takeWhile isAddressChar)
          ((c :: cs).dropWhile isAddressChar) := by
  unfold addressPattern
  rw [andThen_seq, andThen_either_quoted, andThen_plain_address]
  simp only [andThen_close]
  rfl

theorem map_quoted?_address (cs : List Char) :
    ((addressPattern ++ closePattern).andThen text some ⟨trimStart cs, []⟩).map quoted? =
      (address? cs).map some := by
  unfold address?
  simp only [List.span_eq_takeWhile_dropWhile]
  cases trimStart cs with
  | nil => rfl
  | cons c cs =>
    have hbare (found rest : List Char) :
        (closed? .urlBare found rest).map quoted? =
          (if closes rest then some found else none).map some := by
      rw [map_quoted?_closed? (by decide)]
      split <;> rfl
    rw [andThen_address]
    dsimp only
    split
    · cases quotedBy? c cs with
      | none => exact hbare _ _
      | some found =>
        obtain ⟨inner, rest⟩ := found
        have hquoted := map_quoted?_closed?
          (show (if c = '"' then Group.urlDouble else .urlSingle) ≠ .bare by split <;> decide)
          inner rest
        rw [Option.bind_some, Option.map_or, hquoted, hbare]
        dsimp only
        split <;> rfl
    · exact hbare _ _

theorem isAddressChar_of_isQuote {c : Char} (h : isQuote c = true) : isAddressChar c = true := by
  have hparen : c ≠ ')' := ne_of_isQuote h (by decide)
  simp [isAddressChar, hparen, isBlank_of_isQuote h]

theorem andThen_address_of_stop {c : Char} (hc : isAddressChar c = false) (cs : List Char) :
    (addressPattern ++ closePattern).andThen text some ⟨c :: cs, []⟩ =
      closed? .urlBare [] (c :: cs) := by
  have hquote : ¬isQuote c = true := by
    intro hquote
    rw [isAddressChar_of_isQuote hquote] at hc
    cases hc
  rw [andThen_address, if_neg hquote]
  simp [hc]

/-- A blank that is given back does not make an address of what was none. -/
theorem andThen_address_blank {c : Char} (hc : isBlank c = true) (cs : List Char)
    (h : (addressPattern ++ closePattern).andThen text some ⟨cs, []⟩ = none) :
    (addressPattern ++ closePattern).andThen text some ⟨c :: cs, []⟩ = none := by
  have hopen : ¬closes cs = true := by
    intro hcloses
    cases cs with
    | nil => cases hcloses
    | cons d ds =>
      have hd : isAddressChar d = false := isAddressChar_of_closes hcloses rfl
      rw [andThen_address_of_stop hd, closed?, if_pos hcloses] at h
      cases h
  have hstop : isAddressChar c = false := by simp [isAddressChar, hc]
  rw [andThen_address_of_stop hstop, closed?, closes_cons_of_isBlank hc, if_neg hopen]

theorem toLower_eq_paren_iff (c : Char) : c.toLower = '(' ↔ c = '(' := by
  constructor
  · exact eq_paren_of_toLower
  · rintro rfl
    rfl

theorem andThen_letter (d c : Char) (cs : List Char) :
    (letterPattern d).andThen text next? ⟨c :: cs, groups⟩ =
      if c.toLower = d then next? ⟨cs, groups⟩ else none := by
  unfold letterPattern
  simp [andThen_one]

theorem andThen_opening (body : Pattern Group) (cs : List Char) :
    (letterPattern 'u' ++ (letterPattern 'r' ++ (letterPattern 'l' ++
        (charPattern '(' ++ body)))).andThen text next? ⟨cs, groups⟩ =
      if startsUrl cs then body.andThen text next? ⟨cs.drop 4, groups⟩ else none := by
  have hend (d : Char) (next? : Reading Group → Option α) :
      (letterPattern d).andThen text next? ⟨[], groups⟩ = none ∧
        (charPattern d).andThen text next? ⟨[], groups⟩ = none :=
    ⟨andThen_one_nil _ groups, andThen_one_nil _ groups⟩
  unfold startsUrl
  rcases cs with _ | ⟨c, _ | ⟨d, _ | ⟨e, _ | ⟨f, rest⟩⟩⟩⟩
  · rfl
  · simp [andThen_seq, andThen_letter, hend]
  · simp [andThen_seq, andThen_letter, hend]
  · simp [andThen_seq, andThen_letter, hend]
  · simp [andThen_seq, andThen_letter, andThen_char, toLower_eq_paren_iff, ite_and]

theorem andThen_url (cs : List Char) :
    urlPattern.andThen text some ⟨cs, []⟩ =
      if startsUrl cs then
        (addressPattern ++ closePattern).andThen text some ⟨trimStart (cs.drop 4), []⟩
      else none := by
  unfold urlPattern blankPattern
  rw [andThen_opening, andThen_seq, andThen_many [] fun _ cs hc => andThen_address_blank hc cs,
    trimStart]

theorem map_quoted?_url (cs : List Char) :
    (urlPattern.andThen text some ⟨cs, []⟩).map quoted? = (url? cs).map some := by
  rw [andThen_url, url?]
  split
  · exact map_quoted?_address _
  · rfl

/-! ## Names -/

theorem eq_of_toLower_u {c : Char} (h : c.toLower = 'u') : c = 'u' ∨ c = 'U' := by
  unfold Char.toLower at h
  split at h
  · have hval : c.val + 32 = 117 := congrArg Char.val h
    have hupper : c.val = 85 := by grind
    exact .inr (Char.ext hupper)
  · exact .inl h

theorem andThen_word_of_endsWord {c : Char} (hc : endsWord c = true) (cs : List Char) :
    (alt urlPattern barePattern).andThen text some ⟨c :: cs, []⟩ = none := by
  have hletter : c.toLower ≠ 'u' := by
    intro hlower
    rcases eq_of_toLower_u hlower with rfl | rfl <;> exact absurd hc (by decide)
  have hurl : startsUrl (c :: cs) = false := by simp [startsUrl, hletter]
  rw [andThen_alt, andThen_url, hurl, andThen_bare, hc]
  rfl

theorem endsWord_of_isQuote {c : Char} (h : isQuote c = true) : endsWord c = true := by
  simp [endsWord, h]

theorem captured?_of_quoted? {r : Reading Group} {name : List Char} (h : quoted? r = some name)
    (allowsBare : Bool) : captured? allowsBare r = some name := by
  rw [captured?, h, Option.some_or]

theorem captured?_name (allowsBare : Bool) (cs : List Char) :
    ((namePattern.andThen text some ⟨cs, []⟩).bind (captured? allowsBare)).filter (!·.isEmpty) =
      (name? allowsBare cs).filter (!·.isEmpty) := by
  cases cs with
  | nil => rfl
  | cons c cs =>
    unfold namePattern
    rw [andThen_either_quoted, name?]
    split
    · next hquote =>
      rw [andThen_word_of_endsWord (endsWord_of_isQuote hquote), Option.or_none]
      cases quotedBy? c cs with
      | none => rfl
      | some found =>
        have hname : (if c = '"' then Group.double else .single) ≠ .bare := by split <;> decide
        rw [Option.bind_some, Option.bind_some, Option.map_some,
          captured?_of_quoted? (quoted?_of_ne hname _ _)]
    · have hfound : (urlPattern.andThen text some ⟨c :: cs, []⟩).map quoted? =
          (url? (c :: cs)).map some := map_quoted?_url (c :: cs)
      rw [andThen_alt]
      cases hurl : url? (c :: cs) with
      | some name =>
        rw [hurl, Option.map_some, Option.map_eq_some_iff] at hfound
        obtain ⟨r, hr, hquoted⟩ := hfound
        rw [hr, Option.some_or, Option.bind_some, captured?_of_quoted? hquoted, Option.some_or]
      | none =>
        rw [hurl, Option.map_none, Option.map_eq_none_iff] at hfound
        rw [hfound, Option.none_or, Option.none_or, andThen_bare]
        cases hword : endsWord c with
        | true =>
          have htake : (c :: cs).takeWhile (!endsWord ·) = [] := by simp [hword]
          rw [htake]
          cases allowsBare <;> rfl
        | false => cases allowsBare <;> rfl

/-! ## Items -/

theorem andThen_name_of_endsWord {c : Char} (hc : endsWord c = true) (hquote : isQuote c = false)
    (cs : List Char) : namePattern.andThen text some ⟨c :: cs, []⟩ = none := by
  unfold namePattern
  rw [andThen_either_quoted, hquote, andThen_word_of_endsWord hc]
  rfl

theorem andThen_name_blank {c : Char} (hc : isBlank c = true) (cs : List Char) :
    namePattern.andThen text some ⟨c :: cs, []⟩ = none := by
  have hquote : isQuote c = false := by
    cases hquote : isQuote c with
    | false => rfl
    | true =>
      rw [isBlank_of_isQuote hquote] at hc
      cases hc
  have hword : endsWord c = true := by simp [endsWord, hc]
  exact andThen_name_of_endsWord hword hquote cs

theorem andThen_options (cs : List Char) :
    optionsPattern.andThen text next? ⟨'(' :: cs, []⟩ =
      (charPattern ')' ++ blankPattern).andThen text next? ⟨cs.dropWhile (· != ')'), []⟩ := by
  unfold optionsPattern
  rw [andThen_seq, andThen_char, if_pos rfl, andThen_seq, andThen_many]
  intro c rest hc _
  rw [andThen_seq, andThen_char, if_neg (by simpa using hc)]

theorem andThen_item (cs : List Char) :
    (.opt optionsPattern ++ namePattern).andThen text some ⟨cs, []⟩ =
      namePattern.andThen text some ⟨skipOptions cs, []⟩ := by
  rw [andThen_seq, andThen_opt]
  by_cases hhead : cs.head? = some '('
  · obtain ⟨cs, rfl⟩ := List.head?_eq_some_iff.mp hhead
    rw [andThen_options, andThen_name_of_endsWord (by decide) (by decide), Option.or_none]
    by_cases hclose : ')' ∈ cs
    · obtain ⟨inner, rest, rfl, hinner⟩ := List.eq_append_cons_of_mem hclose
      unfold blankPattern
      rw [dropWhile_bne_append hinner, skipOptions_closed hinner, andThen_seq, andThen_char,
        if_pos rfl, andThen_many [] fun _ cs hc _ => andThen_name_blank hc cs, trimStart]
    · -- without an end the parenthesis stays, and no name starts with it
      rw [dropWhile_bne_of_notMem hclose, skipOptions_unclosed hclose,
        andThen_name_of_endsWord (by decide) (by decide)]
      rfl
  · have hoptions :
        optionsPattern.andThen text (namePattern.andThen text some) ⟨cs, []⟩ = none := by
      cases cs with
      | nil => rfl
      | cons c cs =>
        unfold optionsPattern
        rw [andThen_seq, andThen_char, if_neg (by simpa using hhead)]
    rw [skipOptions_of_ne hhead, hoptions, Option.none_or]

theorem search?_specifierPattern (item : List Char) :
    specifierPattern.search? item =
      namePattern.andThen item some ⟨skipOptions (trimStart item), []⟩ := by
  unfold specifierPattern blankPattern
  rw [search?_start, andThen_seq, andThen_many, andThen_item, trimStart]
  intro c cs hc _
  rw [andThen_item, skipOptions_of_ne, andThen_name_blank hc]
  rintro ⟨⟩
  cases hc

theorem specifier?_eq_captured? (allowsBare : Bool) (item : List Char) :
    specifier? allowsBare item =
      ((specifierPattern.search? item).bind (captured? allowsBare)).filter (!·.isEmpty) := by
  rw [specifier?_eq_name?, search?_specifierPattern, captured?_name]

/-- Reading an item accepts what the match of the pattern has found, which is what the grammar
allows. An empty name in quotes or in `url(…)` is none, and no bare word takes its place. -/
theorem specifier?_accepts_grammar (allowsBare : Bool) (item : List Char) :
    (∀ name, specifier? allowsBare item = some name ↔
      name ≠ [] ∧ ∃ r, specifierPattern.search? item = some r ∧
        captured? allowsBare r = some name) ∧
    (∀ name, specifier? allowsBare item = some name ↔
      name ≠ [] ∧ ∃ text, AfterOptions item text ∧ Names allowsBare text name) ∧
    ∀ text, AfterOptions item text → Names allowsBare text [] →
      specifier? allowsBare item = none := by
  refine ⟨fun name => ?_, fun name => specifier?_eq_some_iff, fun text htext hempty => ?_⟩
  · rw [specifier?_eq_captured?, Option.filter_eq_some_iff, Option.bind_eq_some_iff, and_comm]
    simp
  · rw [specifier?_eq_name?, afterOptions_iff.mp htext, name?_of_names hempty]
    rfl

/-- What is left of a `url(…)` that is none is a word, and of an empty one nothing is. -/
theorem specifier?_accepts_grammar_url :
    (∃ text, AfterOptions "(less) url(a b)".toList text ∧ Names true text "url".toList) ∧
      specifier? true "url( )".toList = none := by
  have hword : specifier? true "(less) url(a b)".toList = some "url".toList := by decide +kernel
  have hurl : url? "url( )".toList = some [] := by decide +kernel
  have hskip : skipOptions (trimStart "url( )".toList) = "url( )".toList := by decide +kernel
  exact ⟨(((specifier?_accepts_grammar true _).2.1 _).mp hword).2,
    (specifier?_accepts_grammar true _).2.2 _ (afterOptions_iff.mpr hskip)
      (.url (url?_eq_some_iff.mp hurl))⟩

end Requisite.Stylesheet

import Mathlib.Data.List.TakeDrop
import Mathlib.Data.List.TakeWhile
import Requisite.Proofs.Stylesheet.Clause

/-!
# The grammar of specifiers

What an item of an import may look like, said by how its text is put together, and the name that
it gives. Reading an item accepts exactly that.
-/

namespace Requisite.Stylesheet

open Text (isBlank trimStart)

variable {allowsBare : Bool} {quote : Char} {item text name inner rest : List Char}

def IsBlankText (text : List Char) : Prop := ∀ c ∈ text, isBlank c = true

/-- What is left of an item behind blanks and at most one pair of parentheses. -/
inductive AfterOptions : List Char → List Char → Prop where
  | plain {blanks text : List Char} (hblanks : IsBlankText blanks)
    (hstart : ∀ c, text.head? = some c → isBlank c = false)
    (hopen : text.head? = some '(' → ')' ∉ text) : AfterOptions (blanks ++ text) text
  | options {blanks inner more text : List Char} (hblanks : IsBlankText blanks)
    (hinner : ')' ∉ inner) (hmore : IsBlankText more)
    (hstart : ∀ c, text.head? = some c → isBlank c = false) :
    AfterOptions (blanks ++ '(' :: (inner ++ ')' :: (more ++ text))) text

/-- A text in quotes behind `url(`, with only blanks around it. -/
def QuotedAddress (text name : List Char) : Prop :=
  ∃ blanks quote more rest, IsBlankText blanks ∧ isQuote quote = true ∧ quote ∉ name ∧
    IsBlankText more ∧ text = blanks ++ quote :: (name ++ quote :: (more ++ ')' :: rest))

/-- A run behind `url(`, with only blanks around it. It may be empty and may hold quotes. -/
def BareAddress (text name : List Char) : Prop :=
  ∃ blanks more rest, IsBlankText blanks ∧ (∀ c ∈ name, c ≠ ')' ∧ isBlank c = false) ∧
    IsBlankText more ∧ text = blanks ++ (name ++ (more ++ ')' :: rest))

/-- Quotes around the whole address are not part of it. -/
def Address (text name : List Char) : Prop :=
  QuotedAddress text name ∨ (∀ other, ¬QuotedAddress text other) ∧ BareAddress text name

def Url (text name : List Char) : Prop :=
  ∃ word body, word.map Char.toLower = ['u', 'r', 'l', '('] ∧ text = word ++ body ∧
    Address body name

/-- The name that a text gives, whatever follows it. -/
inductive Names (allowsBare : Bool) : List Char → List Char → Prop where
  | quoted {quote : Char} {name rest : List Char} (hquote : isQuote quote = true)
    (hname : quote ∉ name) : Names allowsBare (quote :: (name ++ quote :: rest)) name
  | url {text name : List Char} (h : Url text name) : Names allowsBare text name
  | bare {name rest : List Char} (hbare : allowsBare = true) (hne : name ≠ [])
    (hname : ∀ c ∈ name, endsWord c = false) (hstop : ∀ c, rest.head? = some c → endsWord c = true)
    (hurl : ∀ other, ¬Url (name ++ rest) other) : Names allowsBare (name ++ rest) name

/-! ## Blanks and parentheses -/

theorem isBlankText_takeWhile (text : List Char) : IsBlankText (text.takeWhile isBlank) :=
  fun _ hc => List.mem_takeWhile_imp hc

theorem trimStart_append {blanks : List Char} (hblanks : IsBlankText blanks)
    (hstart : ∀ c, text.head? = some c → isBlank c = false) : trimStart (blanks ++ text) = text :=
  (span_append hblanks hstart).2

theorem head?_dropWhile {p : Char → Bool} {c : Char} (h : (text.dropWhile p).head? = some c) :
    p c = false := by
  have hhead := List.head?_dropWhile_not p text
  rw [h] at hhead
  exact hhead

theorem head?_trimStart {c : Char} (h : (trimStart text).head? = some c) : isBlank c = false :=
  head?_dropWhile h

theorem exists_trimStart_eq (text : List Char) :
    ∃ blanks, IsBlankText blanks ∧ text = blanks ++ trimStart text :=
  ⟨text.takeWhile isBlank, isBlankText_takeWhile text, List.takeWhile_append_dropWhile.symm⟩

theorem closes_iff (text : List Char) :
    closes text = true ↔ ∃ more rest, IsBlankText more ∧ text = more ++ ')' :: rest := by
  unfold closes
  rw [beq_iff_eq]
  constructor
  · intro h
    obtain ⟨more, hmore, htext⟩ := exists_trimStart_eq text
    obtain ⟨rest, hrest⟩ := List.head?_eq_some_iff.mp h
    exact ⟨more, rest, hmore, hrest ▸ htext⟩
  · rintro ⟨more, rest, hmore, rfl⟩
    have hstart (c : Char) (hc : (')' :: rest).head? = some c) : isBlank c = false := by
      cases hc
      decide
    rw [trimStart_append hmore hstart]
    rfl

theorem quotedBy?_eq_some_iff :
    quotedBy? quote text = some (inner, rest) ↔ quote ∉ inner ∧ text = inner ++ quote :: rest := by
  constructor
  · intro h
    unfold quotedBy? at h
    split at h
    · next c after hdrop =>
      obtain ⟨rfl, rfl⟩ := Prod.mk.inj (Option.some.inj h)
      have hhead : (text.dropWhile (· != quote)).head? = some c := by rw [hdrop, List.head?_cons]
      obtain rfl : c = quote := by simpa using head?_dropWhile hhead
      refine ⟨fun hmem => by simpa using List.mem_takeWhile_imp hmem, ?_⟩
      rw [← hdrop, List.takeWhile_append_dropWhile]
    · cases h
  · rintro ⟨hquote, rfl⟩
    exact quotedBy?_append_quote hquote rest

theorem skipOptions_of_ne (h : text.head? ≠ some '(') : skipOptions text = text := by
  unfold skipOptions
  split
  · simp at h
  · rfl

theorem dropWhile_bne_of_notMem {d : Char} (h : d ∉ text) : text.dropWhile (· != d) = [] := by
  rw [List.dropWhile_eq_nil_iff]
  intro c hc
  rw [bne_iff_ne]
  rintro rfl
  exact h hc

theorem dropWhile_bne_append {d : Char} (h : d ∉ inner) (rest : List Char) :
    (inner ++ d :: rest).dropWhile (· != d) = d :: rest := by
  rw [List.dropWhile_append, dropWhile_bne_of_notMem h]
  simp

theorem skipOptions_unclosed {cs : List Char} (h : ')' ∉ cs) :
    skipOptions ('(' :: cs) = '(' :: cs := by
  simp [skipOptions, dropWhile_bne_of_notMem h]

theorem skipOptions_closed (h : ')' ∉ inner) (rest : List Char) :
    skipOptions ('(' :: (inner ++ ')' :: rest)) = trimStart rest := by
  simp [skipOptions, dropWhile_bne_append h]

theorem afterOptions_iff : AfterOptions item text ↔ skipOptions (trimStart item) = text := by
  constructor
  · intro h
    cases h with
    | plain hblanks hstart hopen =>
      rw [trimStart_append hblanks hstart]
      by_cases hhead : text.head? = some '('
      · obtain ⟨cs, rfl⟩ := List.head?_eq_some_iff.mp hhead
        exact skipOptions_unclosed fun hc => hopen rfl (List.mem_cons_of_mem _ hc)
      · exact skipOptions_of_ne hhead
    | @options blanks inner more _ hblanks hinner hmore hstart =>
      have hparen (c : Char) (hc : ('(' :: (inner ++ ')' :: (more ++ text))).head? = some c) :
          isBlank c = false := by
        cases hc
        decide
      rw [trimStart_append hblanks hparen, skipOptions_closed hinner,
        trimStart_append hmore hstart]
  · rintro rfl
    obtain ⟨blanks, hblanks, hitem⟩ := exists_trimStart_eq item
    have hstart (c : Char) (hc : (trimStart item).head? = some c) : isBlank c = false :=
      head?_trimStart hc
    generalize trimStart item = text at *
    subst hitem
    by_cases hhead : text.head? = some '('
    · obtain ⟨cs, rfl⟩ := List.head?_eq_some_iff.mp hhead
      by_cases hclose : ')' ∈ cs
      · obtain ⟨inner, rest, rfl, hinner⟩ := List.eq_append_cons_of_mem hclose
        obtain ⟨more, hmore, hrest⟩ := exists_trimStart_eq rest
        have hafter : AfterOptions (blanks ++ '(' :: (inner ++ ')' :: (more ++ trimStart rest)))
            (trimStart rest) := .options hblanks hinner hmore fun c hc => head?_trimStart hc
        rw [← hrest] at hafter
        rwa [skipOptions_closed hinner]
      · rw [skipOptions_unclosed hclose]
        refine .plain hblanks hstart fun _ => ?_
        simpa using hclose
    · rw [skipOptions_of_ne hhead]
      exact .plain hblanks hstart fun hopen => absurd hopen hhead

/-! ## Addresses -/

/-- A character of an address without quotes around it. -/
def isAddressChar (c : Char) : Bool := c != ')' && !isBlank c

theorem startsUrl_iff (text : List Char) :
    startsUrl text = true ↔
      ∃ word, word.map Char.toLower = ['u', 'r', 'l', '('] ∧ text = word ++ text.drop 4 := by
  unfold startsUrl
  rw [beq_iff_eq]
  constructor
  · intro h
    exact ⟨text.take 4, h, (List.take_append_drop 4 text).symm⟩
  · rintro ⟨word, hword, htext⟩
    have hsize : word.length = 4 := by simpa using congrArg List.length hword
    rw [htext, List.take_left' hsize, hword]

theorem quotedAddress_iff :
    QuotedAddress text name ↔
      ∃ quote rest more, isQuote quote = true ∧ trimStart text = quote :: rest ∧
        quotedBy? quote rest = some (name, more) ∧ closes more = true := by
  constructor
  · rintro ⟨blanks, quote, more, rest, hblanks, hquote, hname, hmore, rfl⟩
    refine ⟨quote, name ++ quote :: (more ++ ')' :: rest), more ++ ')' :: rest, hquote, ?_, ?_, ?_⟩
    · refine trimStart_append hblanks fun c hc => ?_
      cases hc
      exact isBlank_of_isQuote hquote
    · exact quotedBy?_append_quote hname _
    · exact (closes_iff _).mpr ⟨more, rest, hmore, rfl⟩
  · rintro ⟨quote, rest, after, hquote, hstart, hquoted, hcloses⟩
    obtain ⟨hname, rfl⟩ := quotedBy?_eq_some_iff.mp hquoted
    obtain ⟨more, rest, hmore, rfl⟩ := (closes_iff after).mp hcloses
    obtain ⟨blanks, hblanks, htext⟩ := exists_trimStart_eq text
    rw [hstart] at htext
    exact ⟨blanks, quote, more, rest, hblanks, hquote, hname, hmore, htext⟩

theorem not_isAddressChar_of_head? {more : List Char} (hmore : IsBlankText more) {c : Char}
    (hc : (more ++ ')' :: rest).head? = some c) : isAddressChar c = false := by
  cases more with
  | nil =>
    cases hc
    rfl
  | cons d more =>
    cases hc
    simp [isAddressChar, hmore c List.mem_cons_self]

theorem bareAddress_iff :
    BareAddress text name ↔
      closes ((trimStart text).dropWhile isAddressChar) = true ∧
        (trimStart text).takeWhile isAddressChar = name := by
  constructor
  · rintro ⟨blanks, more, rest, hblanks, hname, hmore, rfl⟩
    have hchars : ∀ c ∈ name, isAddressChar c = true := by
      intro c hc
      simpa [isAddressChar] using hname c hc
    cases name with
    | nil =>
      -- all blanks are read at once
      have hall : IsBlankText (blanks ++ more) := by
        intro c hc
        rcases List.mem_append.mp hc with hc | hc
        · exact hblanks c hc
        · exact hmore c hc
      have hparen (c : Char) (hc : (')' :: rest).head? = some c) : isBlank c = false := by
        cases hc
        decide
      rw [List.nil_append, ← List.append_assoc, trimStart_append hall hparen]
      exact ⟨rfl, rfl⟩
    | cons d name =>
      have hstart (c : Char) (hc : (d :: name ++ (more ++ ')' :: rest)).head? = some c) :
          isBlank c = false := by
        cases hc
        exact (hname d List.mem_cons_self).2
      obtain ⟨htake, hdrop⟩ := span_append hchars fun c hc => not_isAddressChar_of_head? hmore hc
      rw [trimStart_append hblanks hstart, htake, hdrop]
      exact ⟨(closes_iff _).mpr ⟨more, rest, hmore, rfl⟩, rfl⟩
  · rintro ⟨hcloses, rfl⟩
    obtain ⟨blanks, hblanks, htext⟩ := exists_trimStart_eq text
    obtain ⟨more, rest, hmore, hrest⟩ := (closes_iff _).mp hcloses
    refine ⟨blanks, more, rest, hblanks, ?_, hmore, ?_⟩
    · intro c hc
      have hchar := List.mem_takeWhile_imp hc
      simpa [isAddressChar] using hchar
    · rw [← hrest, List.takeWhile_append_dropWhile, ← htext]

theorem address?_of_quoted (h : QuotedAddress text name) : address? text = some name := by
  obtain ⟨quote, rest, more, hquote, hstart, hquoted, hcloses⟩ := quotedAddress_iff.mp h
  simp only [address?, hstart, hquote, hquoted, hcloses, if_true]

theorem address?_of_not_quoted (h : ∀ other, ¬QuotedAddress text other) :
    address? text =
      if closes ((trimStart text).dropWhile isAddressChar) then
        some ((trimStart text).takeWhile isAddressChar)
      else none := by
  unfold address?
  simp only [List.span_eq_takeWhile_dropWhile]
  split
  · next quote cs hstart =>
    split
    · next hquote =>
      split
      · next inner more hquoted =>
        have hopen : ¬closes more = true := fun hcloses =>
          h inner (quotedAddress_iff.mpr ⟨quote, cs, more, hquote, hstart, hquoted, hcloses⟩)
        rw [if_neg hopen, hstart]
        rfl
      · rw [hstart]
        rfl
    · rw [hstart]
      rfl
  · next hstart =>
    rw [hstart]
    rfl

theorem address?_eq_some_iff : address? text = some name ↔ Address text name := by
  by_cases h : ∃ other, QuotedAddress text other
  · obtain ⟨other, hother⟩ := h
    have hsome := address?_of_quoted hother
    constructor
    · intro hname
      obtain rfl : other = name := Option.some.inj (hsome.symm.trans hname)
      exact .inl hother
    · rintro (hname | ⟨hnone, -⟩)
      · exact address?_of_quoted hname
      · exact absurd hother (hnone other)
  · rw [not_exists] at h
    rw [address?_of_not_quoted h]
    constructor
    · intro hname
      split at hname
      · next hcloses => exact .inr ⟨h, bareAddress_iff.mpr ⟨hcloses, Option.some.inj hname⟩⟩
      · cases hname
    · rintro (hname | ⟨-, hname⟩)
      · exact absurd hname (h name)
      · obtain ⟨hcloses, rfl⟩ := bareAddress_iff.mp hname
        rw [if_pos hcloses]

/-! ## Names -/

/-- The address of a text that is a `url(…)`. -/
def url? (text : List Char) : Option (List Char) :=
  if startsUrl text then address? (text.drop 4) else none

theorem url?_eq_some_iff : url? text = some name ↔ Url text name := by
  unfold url?
  constructor
  · intro h
    split at h
    · next hstarts =>
      obtain ⟨word, hword, htext⟩ := (startsUrl_iff text).mp hstarts
      exact ⟨word, text.drop 4, hword, htext, address?_eq_some_iff.mp h⟩
    · cases h
  · rintro ⟨word, body, hword, rfl, haddress⟩
    have hsize : word.length = 4 := by simpa using congrArg List.length hword
    have hdrop : (word ++ body).drop 4 = body := List.drop_left' hsize
    have hstarts : startsUrl (word ++ body) = true :=
      (startsUrl_iff _).mpr ⟨word, hword, by rw [hdrop]⟩
    rw [if_pos hstarts, hdrop]
    exact address?_eq_some_iff.mpr haddress

/-- The name at the front of a text, which may be empty. -/
def name? (allowsBare : Bool) : List Char → Option (List Char)
  | [] => none
  | c :: cs =>
    if isQuote c then (quotedBy? c cs).map Prod.fst
    else (url? (c :: cs)).or (if allowsBare then some ((c :: cs).takeWhile (!endsWord ·)) else none)

theorem specifier?_eq_name? (allowsBare : Bool) (item : List Char) :
    specifier? allowsBare item =
      (name? allowsBare (skipOptions (trimStart item))).filter (!·.isEmpty) := by
  unfold specifier?
  generalize skipOptions (trimStart item) = text
  cases text with
  | nil => rfl
  | cons c cs =>
    simp only [name?, url?]
    split
    · rfl
    · cases (if startsUrl (c :: cs) then address? ((c :: cs).drop 4) else none) <;> simp

theorem isQuote_of_url (h : Url text name) {c : Char} (hc : text.head? = some c) :
    isQuote c = false := by
  obtain ⟨word, body, hword, rfl, -⟩ := h
  cases word with
  | nil => cases hword
  | cons d word =>
    cases hc
    have hlower : c.toLower = 'u' := (List.cons.inj hword).1
    cases hquote : isQuote c with
    | false => rfl
    | true =>
      simp only [isQuote, Bool.or_eq_true, beq_iff_eq] at hquote
      rcases hquote with rfl | rfl <;> exact absurd hlower (by decide)

theorem url?_eq_none (h : ∀ other, ¬Url text other) : url? text = none := by
  rw [Option.eq_none_iff_forall_ne_some]
  intro other hother
  exact h other (url?_eq_some_iff.mp hother)

theorem names_word (hbare : allowsBare = true) (hne : text.takeWhile (!endsWord ·) ≠ [])
    (hurl : url? text = none) : Names allowsBare text (text.takeWhile (!endsWord ·)) := by
  have htext : text.takeWhile (!endsWord ·) ++ text.dropWhile (!endsWord ·) = text :=
    List.takeWhile_append_dropWhile
  have hname : ∀ c ∈ text.takeWhile (!endsWord ·), endsWord c = false := by
    intro c hc
    simpa using List.mem_takeWhile_imp hc
  have hstop (c : Char) (hc : (text.dropWhile (!endsWord ·)).head? = some c) :
      endsWord c = true := by
    simpa using head?_dropWhile hc
  have hnames := Names.bare hbare hne hname hstop
  rw [htext] at hnames
  refine hnames fun other hother => ?_
  rw [url?_eq_some_iff.mpr hother] at hurl
  cases hurl

theorem names_of_name? (hname : name ≠ []) (h : name? allowsBare text = some name) :
    Names allowsBare text name := by
  cases text with
  | nil => cases h
  | cons c cs =>
    rw [name?] at h
    split at h
    · next hquote =>
      obtain ⟨⟨inner, rest⟩, hquoted, rfl⟩ := Option.map_eq_some_iff.mp h
      obtain ⟨hinner, rfl⟩ := quotedBy?_eq_some_iff.mp hquoted
      exact .quoted hquote hinner
    · rcases Option.or_eq_some_iff.mp h with hurl | ⟨hurl, hword⟩
      · exact .url (url?_eq_some_iff.mp hurl)
      · split at hword
        · next hbare =>
          obtain rfl := Option.some.inj hword
          exact names_word hbare hname hurl
        · cases hword

theorem name?_of_names (h : Names allowsBare text name) : name? allowsBare text = some name := by
  cases h with
  | quoted hquote hname =>
    simp [name?, hquote, quotedBy?_append_quote hname]
  | url h =>
    cases text with
    | nil =>
      obtain ⟨word, body, hword, htext, -⟩ := h
      simp_all
    | cons c cs => simp [name?, isQuote_of_url h rfl, url?_eq_some_iff.mpr h]
  | @bare _ rest hbare hne hname hstop hurl =>
    have htake : (name ++ rest).takeWhile (!endsWord ·) = name :=
      (span_append (fun c hc => by simp [hname c hc]) fun c hc => by simp [hstop c hc]).1
    cases name with
    | nil => exact absurd rfl hne
    | cons c name =>
      have hquote : isQuote c = false := by
        have hword := hname c List.mem_cons_self
        simp only [endsWord, Bool.or_eq_false_iff] at hword
        simp [hword]
      rw [List.cons_append] at htake hurl ⊢
      simp [name?, hquote, url?_eq_none hurl, hbare, htake]

theorem specifier?_eq_some_iff :
    specifier? allowsBare item = some name ↔
      name ≠ [] ∧ ∃ text, AfterOptions item text ∧ Names allowsBare text name := by
  rw [specifier?_eq_name?, Option.filter_eq_some_iff]
  constructor
  · rintro ⟨hname, hne⟩
    have hne : name ≠ [] := by simpa using hne
    exact ⟨hne, _, afterOptions_iff.mpr rfl, names_of_name? hne hname⟩
  · rintro ⟨hne, text, htext, hnames⟩
    rw [afterOptions_iff.mp htext]
    exact ⟨name?_of_names hnames, by simpa using hne⟩

end Requisite.Stylesheet

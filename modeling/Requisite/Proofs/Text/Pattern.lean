import Mathlib.Data.List.Infix

/-!
# Patterns with groups

What a pattern can read of a text, in the order in which a search that goes back on its choices
tries it: a run is rather long than short, an option rather taken than left, and the first of two
alternatives comes before the second. The match of a text is the first way at the leftmost place
that has one.
-/

namespace Requisite.Text

inductive Pattern (γ : Type) where
  /-- Nothing, at the start of the text only. -/
  | start
  | one (p : Char → Bool)
  | many (p : Char → Bool)
  | seq (first second : Pattern γ)
  | alt (first second : Pattern γ)
  | opt (pattern : Pattern γ)
  /-- Keeps what the pattern has read under a name. -/
  | group (name : γ) (pattern : Pattern γ)

/-- What is left of a text, and the groups so far, last one first. -/
structure Reading (γ : Type) where
  rest : List Char
  groups : List (γ × List Char) := []

namespace Pattern

variable {γ α : Type} {text cs : List Char} {p : Char → Bool}

instance : Append (Pattern γ) := ⟨seq⟩

/-- What a run can leave of a text. -/
def runs (p : Char → Bool) : List Char → List (List Char)
  | [] => [[]]
  | c :: cs => if p c then runs p cs ++ [c :: cs] else [c :: cs]

/-- The ways to read a pattern, the preferred ones first. -/
def ways (text : List Char) : Pattern γ → Reading γ → List (Reading γ)
  | start, r => if r.rest = text then [r] else []
  | one p, r =>
    match r.rest with
    | [] => []
    | c :: cs => if p c then [{ r with rest := cs }] else []
  | many p, r => (runs p r.rest).map fun rest => { r with rest }
  | seq first second, r => (ways text first r).flatMap (ways text second)
  | alt first second, r => ways text first r ++ ways text second r
  | opt pattern, r => ways text pattern r ++ [r]
  | group name pattern, r =>
    (ways text pattern r).map fun after => ⟨after.rest,
      (name, r.rest.take (r.rest.length - after.rest.length)) :: after.groups⟩

/-- The leftmost match of a text, and of those at one place the preferred one. -/
def search? (pattern : Pattern γ) (text : List Char) : Option (Reading γ) :=
  text.tails.findSome? fun rest => (pattern.ways text { rest }).head?

/-! ## What comes next

A way counts only if what comes next can go on from it. -/

/-- The result of the first way from which it is possible to go on. -/
def andThen (pattern : Pattern γ) (text : List Char) (next? : Reading γ → Option α)
    (r : Reading γ) : Option α :=
  (pattern.ways text r).findSome? next?

variable {next? : Reading γ → Option α} {r : Reading γ}

theorem andThen_seq (first second : Pattern γ) :
    (first ++ second).andThen text next? r = first.andThen text (second.andThen text next?) r := by
  have hflat (found : List (Reading γ)) :
      (found.flatMap (second.ways text)).findSome? next? =
        found.findSome? (second.andThen text next?) := by
    induction found with
    | nil => rfl
    | cons r found ih =>
      rw [List.flatMap_cons, List.findSome?_append, ih, List.findSome?_cons, andThen]
      cases (second.ways text r).findSome? next? <;> rfl
  exact hflat (first.ways text r)

theorem andThen_alt (first second : Pattern γ) :
    (alt first second).andThen text next? r =
      (first.andThen text next? r).or (second.andThen text next? r) := by
  rw [andThen, ways, List.findSome?_append, andThen, andThen]

theorem andThen_opt (pattern : Pattern γ) :
    (opt pattern).andThen text next? r = (pattern.andThen text next? r).or (next? r) := by
  rw [andThen, ways, List.findSome?_append, List.findSome?_singleton, andThen]

theorem andThen_start (r : Reading γ) :
    start.andThen text next? r = if r.rest = text then next? r else none := by
  unfold andThen ways
  split
  · exact List.findSome?_singleton
  · rfl

theorem andThen_one (p : Char → Bool) (c : Char) (cs : List Char) (groups : List (γ × List Char)) :
    (one p).andThen text next? ⟨c :: cs, groups⟩ = if p c then next? ⟨cs, groups⟩ else none := by
  unfold andThen ways
  cases hc : p c with
  | false => simp [hc]
  | true => simp [hc, List.findSome?_singleton]

theorem andThen_one_nil (p : Char → Bool) (groups : List (γ × List Char)) :
    (one p).andThen text next? ⟨[], groups⟩ = none := rfl

theorem andThen_group (name : γ) (pattern : Pattern γ) :
    (group name pattern).andThen text next? r =
      pattern.andThen text (fun after => next? ⟨after.rest,
        (name, r.rest.take (r.rest.length - after.rest.length)) :: after.groups⟩) r := by
  rw [andThen, ways, List.findSome?_map]
  rfl

/-! ## Runs -/

/-- If giving a character back never helps, a run takes all it can. -/
theorem findSome?_runs {next? : List Char → Option α}
    (h : ∀ c cs, p c = true → next? cs = none → next? (c :: cs) = none) (cs : List Char) :
    (runs p cs).findSome? next? = next? (cs.dropWhile p) := by
  induction cs with
  | nil =>
    rw [runs, List.dropWhile_nil, List.findSome?_singleton]
  | cons c cs ih =>
    cases hc : p c with
    | false =>
      rw [runs, hc, if_neg (by decide), List.dropWhile_cons_of_neg (by simp [hc]),
        List.findSome?_singleton]
    | true =>
      rw [runs, hc, if_pos rfl, List.dropWhile_cons_of_pos hc, List.findSome?_append, ih]
      -- where all of the rest fails, so does the whole, one character at a time
      cases hlong : next? (cs.dropWhile p) with
      | some result => rfl
      | none =>
        have hfail : ∀ rest ∈ runs p cs, next? rest = none := by
          rw [← List.findSome?_eq_none_iff, ih, hlong]
        have hself : cs ∈ runs p cs := by
          cases cs with
          | nil => simp [runs]
          | cons d cs =>
            unfold runs
            split <;> simp
        simp [h c cs hc (hfail cs hself)]

theorem andThen_many (groups : List (γ × List Char))
    (h : ∀ c cs, p c = true → next? ⟨cs, groups⟩ = none → next? ⟨c :: cs, groups⟩ = none)
    (cs : List Char) :
    (many p).andThen text next? ⟨cs, groups⟩ = next? ⟨cs.dropWhile p, groups⟩ := by
  rw [andThen, ways, List.findSome?_map]
  exact findSome?_runs h cs

theorem take_length_sub_dropWhile (p : Char → Bool) (cs : List Char) :
    cs.take (cs.length - (cs.dropWhile p).length) = cs.takeWhile p := by
  have hsplit := congrArg List.length (List.takeWhile_append_dropWhile (p := p) (l := cs))
  rw [List.length_append] at hsplit
  have hsize : cs.length - (cs.dropWhile p).length = (cs.takeWhile p).length := by omega
  rw [hsize]
  exact (List.prefix_iff_eq_take.mp (List.takeWhile_prefix p)).symm

theorem andThen_group_many (name : γ) (groups : List (γ × List Char))
    (h : ∀ c cs kept others, p c = true → next? ⟨cs, (name, kept) :: groups⟩ = none →
      next? ⟨c :: cs, (name, others) :: groups⟩ = none) (cs : List Char) :
    (group name (many p)).andThen text next? ⟨cs, groups⟩ =
      next? ⟨cs.dropWhile p, (name, cs.takeWhile p) :: groups⟩ := by
  rw [andThen_group, andThen_many groups (fun c rest hc => h c rest _ _ hc),
    take_length_sub_dropWhile]

/-- A pattern that is tied to the start has no match elsewhere. -/
theorem search?_start (pattern : Pattern γ) (text : List Char) :
    (start ++ pattern).search? text = pattern.andThen text some { rest := text } := by
  have hhead (rest : List Char) : ((start ++ pattern).ways text { rest }).head? =
      if rest = text then pattern.andThen text some { rest } else none := by
    rw [← andThen_start { rest }, ← andThen_seq, andThen]
    cases (start ++ pattern).ways text { rest } <;> rfl
  unfold search?
  simp only [hhead]
  cases text with
  | nil => simp
  | cons c text =>
    have helse : text.tails.findSome? (fun rest =>
        if rest = c :: text then pattern.andThen (c :: text) some { rest } else none) = none := by
      rw [List.findSome?_eq_none_iff]
      intro rest hrest
      have hsize := ((List.mem_tails rest text).mp hrest).length_le
      rw [if_neg]
      rintro rfl
      rw [List.length_cons] at hsize
      omega
    rw [List.tails_cons, List.findSome?_cons, if_pos rfl, helse]
    cases pattern.andThen (c :: text) some { rest := c :: text } <;> rfl

end Pattern

end Requisite.Text

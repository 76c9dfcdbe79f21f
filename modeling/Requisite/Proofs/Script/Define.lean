import Requisite.Proofs.Finder.Steps
import Requisite.Proofs.Script.Occurrence

/-!
# Outermost forms

What a program defines is said by its outermost forms: the calls that list modules in an array
or have nothing but a factory, and that stand in no other such call. The modules of these, in
the order of the program, are the dependencies, each at its first place.
-/

namespace Requisite.Script

/-! ## Forms -/

namespace Node

def callsOneOf (names : List String) : Node → Bool
  | .call (.ident name) _ _ => names.contains name
  | _ => false

def arguments : Node → List Node
  | .call _ arguments _ => arguments
  | _ => []

def isArray : Node → Bool
  | .array _ => true
  | _ => false

/-- A function as an argument, be it spread or not. -/
def isFactory : Node → Bool
  | .spread node => node.isFunction
  | node => node.isFunction

/-- The first array among the arguments. -/
def array? (node : Node) : Option Node := node.arguments.find? isArray

/-- The last argument, if it is a function. -/
def lastFactory? (node : Node) : Option Node := node.arguments.getLast?.filter isFactory

def isListedForm (node : Node) : Bool :=
  node.callsOneOf ["define", "require", "requirejs"] && node.array?.isSome

def isLooseForm (node : Node) : Bool :=
  node.callsOneOf ["define"] && node.array?.isNone && node.lastFactory?.isSome

def isForm (node : Node) : Bool := node.isListedForm || node.isLooseForm

theorem firstArray?_eq (arguments : List Node) :
    firstArray? arguments = (arguments.find? isArray).map children := by
  unfold firstArray?
  induction arguments with
  | nil => rfl
  | cons argument arguments ih =>
    rw [List.findSome?_cons, List.find?_cons, ih]
    cases argument <;> rfl

theorem isLoader_eq (callee : Node) (arguments types : List Node) :
    callee.isLoader = (call callee arguments types).callsOneOf ["require", "requirejs"] := by
  cases callee with
  | ident name =>
    simp only [isLoader, callsOneOf, List.contains_cons, List.contains_nil, Bool.or_false]
  | _ => rfl

theorem isDefine_eq (callee : Node) (arguments types : List Node) :
    callee.isDefine = (call callee arguments types).callsOneOf ["define"] := by
  cases callee with
  | ident name =>
    simp only [isDefine, callsOneOf, List.contains_cons, List.contains_nil, Bool.or_false]
  | _ => rfl

theorem callsOneOf_append (names names' : List String) (node : Node) :
    node.callsOneOf (names ++ names') = (node.callsOneOf names || node.callsOneOf names') := by
  unfold callsOneOf
  split
  · exact List.contains_append
  · rfl

theorem form?_eq (node : Node) :
    node.form? =
      if node.callsOneOf ["define", "require", "requirejs"] then
        match node.array? with
        | some list => some (.listed list.children node.lastFactory?)
        | none => if node.callsOneOf ["define"] then node.lastFactory?.map .loose else none
      else none := by
  cases node with
  | call callee arguments types =>
    have harray : (call callee arguments types).array? = arguments.find? isArray := rfl
    have hlast : (call callee arguments types).lastFactory? = factory? arguments := rfl
    rw [form?, firstArray?_eq, isLoader_eq callee arguments types,
      isDefine_eq callee arguments types, ← callsOneOf_append, harray, hlast]
    cases arguments.find? isArray <;> rfl
  | _ => rfl

theorem isNone_form? (node : Node) : node.form?.isNone = !node.isForm := by
  have hnames := callsOneOf_append ["define"] ["require", "requirejs"] node
  rw [form?_eq, isForm, isListedForm, isLooseForm]
  cases node.array? with
  | some list => cases node.callsOneOf ["define", "require", "requirejs"] <;> simp
  | none =>
    cases hdefine : node.callsOneOf ["define"] with
    | true =>
      rw [hdefine, Bool.true_or, List.singleton_append] at hnames
      simp [hnames]
    | false => simp

/-! ## What forms name -/

def arrayTexts (node : Node) : List String :=
  node.array?.toList.flatMap (·.children.filterMap text?)

/-- What a call loads: the texts of its array if it has one, else its first argument. -/
def loadTexts (node : Node) : List String :=
  if node.callsOneOf ["require", "requirejs"] then
    if node.array?.isSome then node.arrayTexts else (node.arguments.head?.bind text?).toList
  else []

def innerTexts (node : Node) : List String := (node.occurrences []).flatMap (·.node.loadTexts)

def factoryTexts (node : Node) : List String := node.lastFactory?.toList.flatMap innerTexts

def formTexts (skipLazy : Bool) (node : Node) : List String :=
  if node.isListedForm then node.arrayTexts ++ if skipLazy then [] else node.factoryTexts
  else node.factoryTexts

theorem loaded_eq (node : Node) : node.loaded = node.loadTexts := by
  cases node with
  | call callee arguments types =>
    rw [loaded, loadTexts, firstArray?_eq, isLoader_eq callee arguments types]
    unfold arrayTexts array?
    cases harray : arguments.find? isArray with
    | none => simp [Node.arguments, harray, firstText?]
    | some list => simp [Node.arguments, harray, texts]
  | _ => rfl

theorem lazyTexts_eq (factory : Node) : factory.lazyTexts = factory.innerTexts := by
  unfold lazyTexts innerTexts
  rw [collect_eq_flatMap, reached_eq_map [], List.flatMap_map]
  exact List.flatMap_congr fun occurrence _ => loaded_eq occurrence.node

theorem texts_form? (skipLazy : Bool) (node : Node) :
    (node.form?.map (Form.texts skipLazy)).getD [] =
      if node.isForm then node.formTexts skipLazy else [] := by
  have hnames := callsOneOf_append ["define"] ["require", "requirejs"] node
  rw [List.singleton_append] at hnames
  rw [form?_eq]
  unfold isForm formTexts factoryTexts arrayTexts isListedForm isLooseForm
  cases node.array? with
  | some list =>
    cases node.callsOneOf ["define", "require", "requirejs"] with
    | false => simp
    | true =>
      cases node.lastFactory? with
      | none => simp [Form.texts, texts]
      | some factory => simp [Form.texts, texts, lazyTexts_eq]
  | none =>
    cases hdefine : node.callsOneOf ["define"] with
    | false => simp
    | true =>
      rw [hdefine, Bool.true_or] at hnames
      cases node.lastFactory? with
      | none => simp [hnames]
      | some factory => simp [hnames, Form.texts, lazyTexts_eq]

theorem formTexts_subset (skipLazy : Bool) (node : Node) :
    node.formTexts skipLazy ⊆ node.formTexts false := by
  unfold formTexts
  split
  · apply List.append_subset.mpr
    refine ⟨List.subset_append_left _ _, ?_⟩
    cases skipLazy with
    | true => exact List.nil_subset _
    | false => exact List.subset_append_right _ _
  · exact List.Subset.refl _

end Node

/-! ## Each at its first place -/

theorem pairwise_idxOf_eraseDups (test : String → Bool) (found : List String) :
    (found.filter test).eraseDups.Pairwise fun a b => found.idxOf a < found.idxOf b := by
  induction found generalizing test with
  | nil => simp
  | cons first found ih =>
    -- What is not the first member comes one place later than without it.
    have hlater {test : String → Bool} (h : ∀ text, test text = true → text ≠ first) :
        (found.filter test).eraseDups.Pairwise fun a b =>
          (first :: found).idxOf a < (first :: found).idxOf b := by
      refine (ih test).imp_of_mem ?_
      intro a b ha hb hab
      have ha' : test a = true := (List.mem_filter.mp (List.mem_eraseDups.mp ha)).2
      have hb' : test b = true := (List.mem_filter.mp (List.mem_eraseDups.mp hb)).2
      rw [List.idxOf_cons_ne _ (h a ha').symm, List.idxOf_cons_ne _ (h b hb').symm]
      omega
    cases hfirst : test first with
    | true =>
      have hother (text : String) (h : (!(text == first) && test text) = true) :
          text ≠ first := by
        rintro rfl
        simp at h
      rw [List.filter_cons_of_pos hfirst, List.eraseDups_cons, List.filter_filter,
        List.pairwise_cons]
      constructor
      · intro text htext
        have hne := hother text (List.mem_filter.mp (List.mem_eraseDups.mp htext)).2
        rw [List.idxOf_cons_self, List.idxOf_cons_ne _ hne.symm]
        omega
      · exact hlater hother
    | false =>
      rw [List.filter_cons_of_neg (by simp [hfirst])]
      apply hlater
      rintro text htext rfl
      rw [hfirst] at htext
      cases htext

/-! ## Programs -/

namespace Program

/-- The forms that stand in no other form. -/
def outermostForms (program : Program) : List Node :=
  (program.occurrences.filter fun occurrence =>
    occurrence.node.isForm && !occurrence.above.any Node.isForm).map Occurrence.node

def formTexts (program : Program) (skipLazy : Bool) : List String :=
  program.outermostForms.flatMap (Node.formTexts skipLazy)

theorem outermostForms_eq (program : Program) :
    program.outermostForms = (program.reached (!·.isForm)).filter Node.isForm := by
  rw [reached_eq_filter, List.filter_map, List.filter_filter]
  unfold outermostForms
  congr 2
  funext occurrence
  rw [List.not_any_eq_all_not]
  rfl

theorem flatMap_form?_eq (skipLazy : Bool) (nodes : List Node) :
    nodes.flatMap (fun node => (node.form?.map (Form.texts skipLazy)).getD []) =
      (nodes.filter Node.isForm).flatMap (Node.formTexts skipLazy) := by
  induction nodes with
  | nil => rfl
  | cons node nodes ih =>
    rw [List.flatMap_cons, ih, Node.texts_form?, List.filter_cons]
    cases node.isForm <;> rfl

theorem defined_eq (program : Program) (skipLazy : Bool) :
    program.defined skipLazy =
      ((program.formTexts skipLazy).filter (!pseudoModules.contains ·)).eraseDups := by
  have henters : (fun node : Node => node.form?.isNone) = (!·.isForm) :=
    funext Node.isNone_form?
  unfold defined formTexts
  rw [henters, collect_eq_flatMap, flatMap_form?_eq, outermostForms_eq]

theorem mem_defined_iff (program : Program) (skipLazy : Bool) (text : String) :
    text ∈ program.defined skipLazy ↔
      text ∈ program.formTexts skipLazy ∧ text ∉ pseudoModules := by
  rw [defined_eq, List.mem_eraseDups, List.mem_filter]
  simp

theorem defined_subset (program : Program) (skipLazy : Bool) :
    program.defined skipLazy ⊆ program.defined false := by
  intro text htext
  rw [mem_defined_iff, formTexts, List.mem_flatMap] at htext ⊢
  obtain ⟨⟨form, hform, htext⟩, hpseudo⟩ := htext
  exact ⟨⟨form, hform, form.formTexts_subset skipLazy htext⟩, hpseudo⟩

end Program

/-! ## The finder -/

/-- The dependencies are the texts that the outermost forms name, in the order in which each
comes first, but for the names of the module system itself. -/
theorem find_amd_eq_formTexts {options : Option Json} {fields : List (String × Json)}
    (hfields : Finder.amd.fields options = .ok fields) (program : Program) :
    let found := program.formTexts (Finder.isOn fields "skipLazyLoaded")
    ∃ dependencies, Finder.amd.find (.program program) options = .ok { dependencies } ∧
      (∀ text, text ∈ dependencies ↔
        text ∈ found ∧ text ∉ ["require", "exports", "module"]) ∧
      dependencies.Pairwise (fun a b => found.idxOf a < found.idxOf b) ∧
      dependencies.Nodup ∧
      ∃ all, Finder.amd.find (.program program) none = .ok { dependencies := all } ∧
        dependencies ⊆ all := by
  intro found
  have horder : (program.defined (Finder.isOn fields "skipLazyLoaded")).Pairwise
      fun a b => found.idxOf a < found.idxOf b := by
    rw [Program.defined_eq]
    exact pairwise_idxOf_eraseDups _ found
  refine ⟨program.defined (Finder.isOn fields "skipLazyLoaded"), ?_,
    program.mem_defined_iff _, horder, ?_, program.defined false, rfl,
    program.defined_subset _⟩
  · rw [Finder.find_program_of_isSingle rfl, hfields]
    rfl
  · refine horder.imp ?_
    rintro a b hab rfl
    omega

/-- A module that a factory loads before a later form lists it. -/
theorem find_amd_eq_formTexts_loaded_first :
    let found := ["./a", "require", "./c", "./a", "./d", "./b", "./c"]
    Finder.amd.fields none = .ok [] ∧
    ∃ program, parseSource? "define(['./a', 'require'], function (a, require) \x7b
        require(['./c', './a'], () => define(['./e'])); require('./d'); \x7d);
        load(define('b', ['./b', './c']));" = some program ∧
      program.formTexts false = found ∧
      ∃ dependencies, Finder.amd.find (.program program) none = .ok { dependencies } ∧
        (∀ text, text ∈ dependencies ↔
          text ∈ found ∧ text ∉ ["require", "exports", "module"]) ∧
        dependencies.Pairwise (fun a b => found.idxOf a < found.idxOf b) := by
  intro found
  have hfields : Finder.amd.fields none = .ok [] := rfl
  have hsome : (parseSource? "define(['./a', 'require'], function (a, require) \x7b
        require(['./c', './a'], () => define(['./e'])); require('./d'); \x7d);
        load(define('b', ['./b', './c']));").map (·.formTexts false) = some found := by
    decide +kernel
  obtain ⟨program, hparse, hfound⟩ := Option.map_eq_some_iff.mp hsome
  obtain ⟨dependencies, hfind, hmem, horder, -⟩ := find_amd_eq_formTexts hfields program
  have hflag : Finder.isOn [] "skipLazyLoaded" = false := rfl
  rw [hflag, hfound] at hmem horder
  exact ⟨hfields, program, hparse, hfound, dependencies, hfind, hmem, horder⟩

end Requisite.Script

import Requisite.Proofs.Script.Define

/-!
# Callbacks

A program of one call, which lists modules and has a callback among its arguments. What the
callback loads is found if it is the last argument. If anything follows it, nothing is found
but the modules of the list.
-/

namespace Requisite.Script

/-! ## Calls -/

namespace Node

/-- The last function among the arguments. -/
def callback? (node : Node) : Option Node := (node.arguments.filter isFactory).getLast?

/-- A call `require(text)`, which has no array among its arguments. -/
def Requires (node : Node) (text : String) : Prop :=
  node.callsOneOf ["require"] = true ∧ node.array? = none ∧
    node.arguments.head?.bind text? = some text

theorem mem_loadTexts_of_requires {node : Node} {text : String} (h : node.Requires text) :
    text ∈ node.loadTexts := by
  obtain ⟨hname, harray, htext⟩ := h
  have hloader : node.callsOneOf ["require", "requirejs"] = true := by
    have hnames := callsOneOf_append ["require"] ["requirejs"] node
    rwa [hname, Bool.true_or] at hnames
  rw [loadTexts, if_pos hloader, harray, htext]
  exact List.mem_singleton_self text

/-- A factory is a callback that nothing follows. -/
theorem lastFactory?_of_callback? {node callback : Node} (h : node.callback? = some callback) :
    (node.arguments.getLast? = some callback ∧ node.lastFactory? = some callback) ∨
      (node.arguments.getLast? ≠ some callback ∧ node.lastFactory? = none) := by
  have hcallback : callback.isFactory = true :=
    (List.mem_filter.mp (List.mem_of_getLast? h)).2
  unfold callback? at h
  unfold lastFactory?
  cases hlast : node.arguments.getLast? with
  | none =>
    rw [List.getLast?_eq_none_iff.mp hlast] at h
    cases h
  | some last =>
    obtain ⟨before, harguments⟩ := List.getLast?_eq_some_iff.mp hlast
    cases hfactory : last.isFactory with
    | true =>
      rw [harguments, List.filter_append, List.filter_cons_of_pos hfactory,
        List.filter_nil, List.getLast?_concat] at h
      left
      exact ⟨h, by rw [Option.filter_some_pos hfactory, h]⟩
    | false =>
      right
      refine ⟨?_, by rw [Option.filter_some_neg (by simp [hfactory])]⟩
      rintro ⟨rfl⟩
      rw [hcallback] at hfactory
      cases hfactory

end Node

/-! ## Programs of one call -/

namespace Program

def ofCall (goal : Goal) (call : Node) : Program := ⟨goal, [.group .expressionStatement [call]]⟩

theorem outermostForms_ofCall {call : Node} (h : call.isForm = true) (goal : Goal) :
    (ofCall goal call).outermostForms = [call] := by
  have hstatement : (Node.group .expressionStatement [call]).isForm = false := rfl
  have hcall : call.reached (!·.isForm) = [call] := by
    rw [Node.reached_eq]
    simp [h]
  rw [outermostForms_eq]
  unfold reached ofCall
  simp [Node.reached_eq _ (.group _ _), hstatement, Node.children, hcall, h]

theorem mem_formTexts_ofCall {call callback : Node} (hlisted : call.isListedForm = true)
    (hcallback : call.callback? = some callback) (goal : Goal) (text : String) :
    text ∈ (ofCall goal call).formTexts false ↔
      text ∈ call.arrayTexts ∨
        call.arguments.getLast? = some callback ∧ text ∈ callback.innerTexts := by
  have hform : call.isForm = true := by rw [Node.isForm, hlisted, Bool.true_or]
  rw [formTexts, outermostForms_ofCall hform, List.flatMap_singleton, Node.formTexts,
    if_pos hlisted, List.mem_append, Node.factoryTexts]
  rcases Node.lastFactory?_of_callback? hcallback with ⟨hlast, hfactory⟩ | ⟨hlast, hfactory⟩
  · simp [hlast, hfactory]
  · simp [hlast, hfactory]

end Program

/-! ## The finder -/

/-- With nothing skipped, the modules of the list are found, and next to them what the callback
loads if it is the last argument, but nothing of it otherwise. In particular whatever a callback
without successors requires is found. -/
theorem find_amd_callback {options : Option Json} {fields : List (String × Json)}
    (hfields : Finder.amd.fields options = .ok fields)
    (hflag : Finder.isOn fields "skipLazyLoaded" = false) {call callback : Node}
    (hlisted : call.isListedForm = true) (hcallback : call.callback? = some callback)
    (goal : Goal) :
    ∃ dependencies,
      Finder.amd.find (.program (.ofCall goal call)) options = .ok { dependencies } ∧
      (∀ text, text ∈ dependencies ↔
        (text ∈ call.arrayTexts ∨
          call.arguments.getLast? = some callback ∧ text ∈ callback.innerTexts) ∧
        text ∉ ["require", "exports", "module"]) ∧
      (call.arguments.getLast? = some callback →
        ∀ occurrence ∈ callback.occurrences [], ∀ text, occurrence.node.Requires text →
          text ∉ ["require", "exports", "module"] → text ∈ dependencies) := by
  have hmem (text : String) :
      text ∈ (Program.ofCall goal call).defined false ↔
        (text ∈ call.arrayTexts ∨
          call.arguments.getLast? = some callback ∧ text ∈ callback.innerTexts) ∧
        text ∉ ["require", "exports", "module"] := by
    rw [Program.mem_defined_iff, Program.mem_formTexts_ofCall hlisted hcallback]
    rfl
  refine ⟨(Program.ofCall goal call).defined false, ?_, hmem, ?_⟩
  · rw [Finder.find_program_of_isSingle rfl, hfields, ← hflag]
    rfl
  · intro hlast occurrence hoccurrence text hrequires hpseudo
    have hinner : text ∈ callback.innerTexts :=
      List.mem_flatMap.mpr ⟨occurrence, hoccurrence, Node.mem_loadTexts_of_requires hrequires⟩
    exact (hmem text).mpr ⟨.inr ⟨hlast, hinner⟩, hpseudo⟩

/-- The name of an error handler after the callback hides what the callback requires. -/
theorem find_amd_callback_followed :
    let required := Node.call (.ident "require") [.str (some "./b")] []
    let callback := Node.func [.group .block [.group .expressionStatement [required]]]
    let call := Node.call (.ident "require")
      [.array [.str (some "./a")], callback, .ident "onError"] []
    call.isListedForm = true ∧ call.callback? = some callback ∧
      callback.innerTexts = ["./b"] ∧
      ∃ dependencies,
        Finder.amd.find (.program (.ofCall .script call)) none = .ok { dependencies } ∧
          "./a" ∈ dependencies ∧ "./b" ∉ dependencies := by
  intro required callback call
  have hlisted : call.isListedForm = true := by decide
  have hcallback : call.callback? = some callback := rfl
  obtain ⟨dependencies, hfind, hmem, -⟩ :=
    @find_amd_callback none [] rfl rfl call callback hlisted hcallback .script
  have htexts : call.arrayTexts = ["./a"] := rfl
  have hlast : call.arguments.getLast? = some (.ident "onError") := rfl
  refine ⟨hlisted, hcallback, by decide +kernel, dependencies, hfind, ?_, ?_⟩
  · exact (hmem _).mpr ⟨.inl (by simp [htexts]), by decide⟩
  · rw [hmem, htexts, hlast]
    simp [callback]

end Requisite.Script

import GoMocks.Proofs.MockFile.Build
import GoMocks.Template.Expr

/-!
# Mock files — their lines

The source of a mock file, line by line, without a template: a header, one line for each import, and
for each interface its types, its constructor and the functions of its methods.

* `MockFile.lines`: the lines of a mock file with some groups of imports.
* `tidy_lines`: blank lines stand alone, and none is at the end.
* `Aligned`: columns that the declarations of a mock stand in; `aligned_of_mockFile`: they do, if
  the file was built.
-/

namespace GoMocks

open Resolver (run_bind)
open Template (Expr)

/-- An import as templates see it. -/
structure ImportView where
  path  : String
  name  : String
  localName : Option String
  spec  : String

/-- An import, as a mock file shows it. -/
def Import.view (i : Import) : ImportView :=
  ⟨i.path, i.name, i.localName, i.spec⟩

/-- Is the column that the handler types are filled to within the limit? Without methods there is
no such column. -/
def MockInterface.FitsWidth (i : MockInterface) : Prop :=
  i.methods ≠ [] → i.alignment ≤ Expr.widthLimit

instance (i : MockInterface) : Decidable i.FitsWidth :=
  inferInstanceAs (Decidable (i.methods ≠ [] → i.alignment ≤ Expr.widthLimit))

namespace MockFile

/-! ### The lines of a mock file -/

/-- The lines up to the package clause. -/
def headerLines (file : MockFile) : List String :=
  ["// Code generated by " ++ file.tool ++ " " ++ file.version ++ ", DO NOT EDIT.",
    "//",
    "// Command:",
    "// $ " ++ file.command,
    "",
    "package " ++ file.name]

/-- The lines of a group of imports. -/
def specLines (group : List ImportView) : List String :=
  group.map fun i => "\t" ++ i.spec

/-- One line for each import, with a blank line between groups. -/
def importLines (groups : List (List ImportView)) : List String :=
  ["", "import ("] ++ [""].intercalate (groups.map specLines) ++ [")"]

/-- The declaration of a handler type up to the place where its definition begins. -/
def handlerFront (i : MockInterface) (m : MockMethod) : String :=
  "\t" ++ Expr.filled m.funcTypeDecl i.alignment

/-- The handler types, below a blank line. -/
def handlerLines (i : MockInterface) : List String :=
  if i.methods.isEmpty then []
  else "" :: i.methods.map fun m => handlerFront i m ++ " func" ++ m.signature

/-- The lines that open the types of a mock, with its struct. -/
def structLines (file : MockFile) (i : MockInterface) : List String :=
  ["",
    "type (",
    "\t// " ++ i.name ++ " is a mock of the " ++ i.sourceRef ++ " interface.",
    "\t" ++ i.name ++ i.typeParams ++ " struct \x7b",
    "\t\tm *" ++ file.mockIdent ++ ".Mock",
    "\t\tt *" ++ file.testingIdent ++ ".T",
    "\t\x7d"]

/-- The lines that declare the types of a mock. -/
def typeLines (file : MockFile) (i : MockInterface) : List String :=
  structLines file i ++ handlerLines i ++ [")"]

/-- The variables of a constructor up to their values. -/
def mockFront (i : MockInterface) : String :=
  "\t\tm" ++ i.varPadding

/-- What stands in front of the check that the mock is what it mocks. -/
def blankFront (i : MockInterface) : String :=
  "\t\t_ " ++ i.sourceRef

/-- The lines of the constructor. -/
def constructorLines (file : MockFile) (i : MockInterface) : List String :=
  ["",
    "// " ++ i.constructor ++ " returns a new mock of the " ++ i.sourceRef ++ " interface.",
    "func " ++ i.constructor ++ i.typeParams ++ "(t *" ++ file.testingIdent ++ ".T) *" ++
      i.typeRef ++ " \x7b",
    "\tvar (",
    mockFront i ++ " = " ++ i.newValue,
    blankFront i ++ " = m",
    "\t)",
    "\treturn m",
    "\x7d"]

/-- The lines of the function that adds a handler. -/
def adderLines (i : MockInterface) (m : MockMethod) : List String :=
  ["",
    "// " ++ m.adder ++ " adds f to the mocked call sequence.",
    "func (m *" ++ i.typeRef ++ ") " ++ m.adder ++ "(f " ++ m.funcTypeRef ++ ") \x7b",
    "\tm.m.Add(\"" ++ m.name ++ "\", f)",
    "\x7d"]

/-- The lines of the function that sets a handler. -/
def setterLines (i : MockInterface) (m : MockMethod) : List String :=
  ["",
    "// " ++ m.setter ++ " sets f for all calls to the mocked method.",
    "func (m *" ++ i.typeRef ++ ") " ++ m.setter ++ "(f " ++ m.funcTypeRef ++ ") \x7b",
    "\tm.m.Set(\"" ++ m.name ++ "\", f)",
    "\x7d"]

/-- The call of the next handler, whose results are returned if there are any. -/
def callLines (m : MockMethod) : List String :=
  let call := "f.(" ++ m.funcTypeRef ++ ")(" ++ m.callArgs ++ ")"
  if m.hasResults then ["\t\treturn " ++ call] else ["\t\t" ++ call, "\t\treturn"]

/-- The return at the end of a method that has results. -/
def returnLines (m : MockMethod) : List String :=
  if m.hasResults then ["\treturn " ++ m.zeroResults] else []

/-- The lines of a mocked method. -/
def methodLines (i : MockInterface) (m : MockMethod) : List String :=
  ["",
    "// " ++ m.name ++ " implements the " ++ i.sourceRef ++ " interface.",
    "func (m *" ++ i.typeRef ++ ") " ++ m.name ++ m.signature ++ " \x7b",
    "\tif f := m.m.Next(\"" ++ m.name ++ "\"); f != nil \x7b"] ++
    callLines m ++
  ["\t\x7d",
    "\tm.t.Helper()",
    "\tm.t.Error(\"unexpected " ++ m.name ++ " call\")"] ++
    returnLines m ++
  ["\x7d"]

/-- The lines of the function that tells whether more calls are expected. -/
def hasMoreLines (i : MockInterface) : List String :=
  ["",
    "// HasMore returns true if the mock has more expected calls.",
    "func (m *" ++ i.typeRef ++ ") HasMore() bool \x7b",
    "\treturn m.m.HasMore()",
    "\x7d"]

/-- The mock of an interface: its types and its constructor, three functions for each method, and
one more. -/
def interfaceLines (file : MockFile) (i : MockInterface) : List String :=
  typeLines file i ++ constructorLines file i ++
    i.methods.flatMap (fun m => adderLines i m ++ setterLines i m ++ methodLines i m) ++
    hasMoreLines i

/-- Are the columns that handler types are filled to within the limit? -/
def FitsWidth (file : MockFile) : Prop :=
  ∀ i ∈ file.interfaces, i.FitsWidth

instance (file : MockFile) : Decidable file.FitsWidth :=
  inferInstanceAs (Decidable (∀ i ∈ file.interfaces, i.FitsWidth))

/-- The lines of a mock file with some groups of imports. -/
def lines (file : MockFile) (groups : List (List ImportView)) : List String :=
  headerLines file ++ importLines groups ++ file.interfaces.flatMap (interfaceLines file)

/-! ### Blank lines -/

/-- No blank line is at the end or next to another one. -/
def Tidy (lines : List String) : Prop :=
  lines.IsChain (fun a b => a ≠ "" ∨ b ≠ "") ∧ lines.getLast? ≠ some ""

variable {ls ks : List String}

theorem Tidy.nil : Tidy [] := ⟨.nil, nofun⟩

theorem Tidy.append (h : Tidy ls) (h' : Tidy ks) : Tidy (ls ++ ks) := by
  obtain ⟨hls, hend⟩ := h
  obtain ⟨hks, hend'⟩ := h'
  refine ⟨List.isChain_append.mpr ⟨hls, hks, fun a ha b hb => .inl ?_⟩, ?_⟩
  · rintro rfl
    exact hend ha
  · rw [List.getLast?_append]
    cases hk : ks.getLast? with
    | none => simpa using hend
    | some k => simpa [hk] using hend'

theorem Tidy.flatMap {α : Type} {xs : List α} {f : α → List String} (h : ∀ x ∈ xs, Tidy (f x)) :
    Tidy (xs.flatMap f) := by
  induction xs with
  | nil => exact .nil
  | cons x xs ih =>
    obtain ⟨hx, hxs⟩ := List.forall_mem_cons.mp h
    exact hx.append (ih hxs)

/-- Lines are tidy where none is blank. -/
theorem Tidy.of_forall (h : ∀ l ∈ ls, l ≠ "") : Tidy ls := by
  have htidy : Tidy (ls.flatMap fun l => [l]) :=
    .flatMap fun l hl => ⟨.singleton l, by simpa using h l hl⟩
  rwa [← List.map_eq_flatMap, List.map_id'] at htidy

/-- A blank line may stand above lines that are not blank. -/
theorem Tidy.below_blank (hne : ls ≠ []) (h : ∀ l ∈ ls, l ≠ "") : Tidy ("" :: ls) := by
  obtain ⟨hchain, hend⟩ := Tidy.of_forall h
  cases ls with
  | nil => exact absurd rfl hne
  | cons l ls => exact ⟨hchain.cons_cons (.inr (h l List.mem_cons_self)), by simpa using hend⟩

theorem tidy_header (file : MockFile) : Tidy (headerLines file) := by
  simp [Tidy, headerLines]

/-- Blank lines stand in front of all groups but the first. -/
theorem intercalate_blank (l : List String) (ls : List (List String)) :
    [""].intercalate (l :: ls) = l ++ ls.flatMap ("" :: ·) := by
  induction ls generalizing l with
  | nil => simp
  | cons k ls ih => simp [List.intercalate_cons_cons, ih]

theorem tidy_imports {groups : List (List ImportView)} (h : ∀ g ∈ groups, g ≠ []) :
    Tidy (importLines groups) := by
  have hspec : ∀ group : List ImportView, ∀ l ∈ specLines group, l ≠ "" := by simp [specLines]
  have hgroups : Tidy ([""].intercalate (groups.map specLines)) := by
    cases groups with
    | nil => exact .nil
    | cons g groups =>
      rw [List.map_cons, intercalate_blank, List.flatMap_map]
      refine (Tidy.of_forall (hspec g)).append (.flatMap fun g' hg' => ?_)
      have hne : g' ≠ [] := h g' (List.mem_cons_of_mem _ hg')
      exact .below_blank (by simpa [specLines] using hne) (hspec g')
  have hopen : Tidy ["", "import ("] := by simp [Tidy]
  exact (hopen.append hgroups).append (by simp [Tidy])

theorem tidy_handlers (i : MockInterface) : Tidy (handlerLines i) := by
  rw [handlerLines]
  split
  · exact .nil
  · next h => exact .below_blank (by simpa using h) (by simp)

theorem tidy_types (file : MockFile) (i : MockInterface) : Tidy (typeLines file i) :=
  (Tidy.append (by simp [Tidy, structLines]) (tidy_handlers i)).append (by simp [Tidy])

theorem tidy_constructor (file : MockFile) (i : MockInterface) :
    Tidy (constructorLines file i) := by
  simp [Tidy, constructorLines, mockFront, blankFront]

theorem tidy_adder (i : MockInterface) (m : MockMethod) : Tidy (adderLines i m) := by
  simp [Tidy, adderLines]

theorem tidy_setter (i : MockInterface) (m : MockMethod) : Tidy (setterLines i m) := by
  simp [Tidy, setterLines]

theorem tidy_method (i : MockInterface) (m : MockMethod) : Tidy (methodLines i m) := by
  cases h : m.hasResults <;> simp [Tidy, methodLines, callLines, returnLines, h]

theorem tidy_hasMore (i : MockInterface) : Tidy (hasMoreLines i) := by
  simp [Tidy, hasMoreLines]

theorem tidy_interface (file : MockFile) (i : MockInterface) : Tidy (interfaceLines file i) :=
  (((tidy_types file i).append (tidy_constructor file i)).append (.flatMap fun m _ =>
    ((tidy_adder i m).append (tidy_setter i m)).append (tidy_method i m))).append (tidy_hasMore i)

/-- **Blank lines stand alone**, if there are imports in each group. -/
theorem tidy_lines (file : MockFile) {groups : List (List ImportView)}
    (h : ∀ g ∈ groups, g ≠ []) : Tidy (file.lines groups) :=
  ((tidy_header file).append (tidy_imports h)).append (.flatMap fun i _ => tidy_interface file i)

/-! ### Columns -/

/-- The declarations of an interface's mock stand in columns: the definitions of handler types right
behind the longest of their names, and the two variables of the constructor. -/
structure Aligned (i : MockInterface) : Prop where
  handlers  : ∀ m ∈ i.methods, (handlerFront i m).length = i.alignment + 1
  longest   : i.methods ≠ [] → ∃ m ∈ i.methods, handlerFront i m = "\t" ++ m.funcTypeDecl
  values    : (mockFront i).length = (blankFront i).length

/-- Filling makes a text as wide as asked for, and never shorter. -/
theorem length_filled (s : String) (width : Nat) :
    (Expr.filled s width).length = max s.length width := by
  simp [Expr.filled]
  omega

/-- A text of that width is not filled. -/
theorem filled_of_length_eq {s : String} {width : Nat} (h : s.length = width) :
    Expr.filled s width = s := by
  simp [Expr.filled, h]

/-- The greatest of some numbers bounds them, and it is one of them, or nothing is greater than the
start. -/
theorem foldl_max (ns : List Nat) (n : Nat) :
    n ≤ ns.foldl max n ∧ (∀ k ∈ ns, k ≤ ns.foldl max n) ∧
      (ns.foldl max n = n ∨ ns.foldl max n ∈ ns) := by
  induction ns generalizing n with
  | nil => simp
  | cons k ns ih =>
    obtain ⟨hle, hall, hmem⟩ := ih (max n k)
    rw [List.foldl_cons, List.forall_mem_cons, List.mem_cons]
    refine ⟨by omega, ⟨by omega, hall⟩, ?_⟩
    rcases hmem with h | h
    · omega
    · exact .inr (.inr h)

/-- A mock whose widths are computed from its own texts is aligned. -/
theorem aligned_of_eq {i : MockInterface}
    (halignment : i.alignment = (i.methods.map (·.funcTypeDecl.length)).foldl max 0)
    (hpadding : i.varPadding = .ofList (.replicate (i.sourceRef.length + 1) ' ')) : Aligned i := by
  obtain ⟨-, hall, hmem⟩ := foldl_max (i.methods.map (·.funcTypeDecl.length)) 0
  rw [← halignment] at hall hmem
  have hle : ∀ m ∈ i.methods, m.funcTypeDecl.length ≤ i.alignment := fun m hm =>
    hall _ (List.mem_map_of_mem hm)
  refine ⟨fun m hm => ?_, fun hne => ?_, ?_⟩
  · have hlength := hle m hm
    rw [handlerFront, String.length_append, length_filled, Nat.max_eq_right hlength, Nat.add_comm]
    rfl
  · obtain ⟨m, hm, hlength⟩ : ∃ m ∈ i.methods, m.funcTypeDecl.length = i.alignment := by
      rcases hmem with h | h
      · obtain ⟨m, hm⟩ := List.exists_mem_of_ne_nil _ hne
        have hlength := hle m hm
        exact ⟨m, hm, by omega⟩
      · exact List.mem_map.mp h
    exact ⟨m, hm, by rw [handlerFront, filled_of_length_eq hlength]⟩
  · have hm : "\t\tm".length = 3 := rfl
    have hblank : "\t\t_ ".length = 4 := rfl
    rw [mockFront, blankFront, String.length_append, String.length_append, hm, hblank, hpadding,
      String.length_ofList, List.length_replicate]
    omega

/-! ### Mock files that were built -/

section Built

variable {σ α β : Type} {symbols : Symbols σ} {package : Package} {interfaces : List Interface}
  {options : MockOptions}

/-- Whatever the computation gives has a property. -/
def Returns (p : α → Prop) (m : ResolverM σ α) : Prop :=
  ∀ r a, (m.run.run r).1 = .ok a → p a

theorem Returns.pure {p : α → Prop} {a : α} (h : p a) : Returns p (pure a : ResolverM σ α) := by
  intro r b hb
  cases hb
  exact h

theorem Returns.trivial (m : ResolverM σ α) : Returns (fun _ => True) m := fun _ _ _ => True.intro

/-- What the first action returns is handed on. -/
theorem Returns.bind {q : α → Prop} {p : β → Prop} {m : ResolverM σ α} {f : α → ResolverM σ β}
    (hm : Returns q m) (hf : ∀ a, q a → Returns p (f a)) : Returns p (m >>= f) := by
  intro r b hb
  rw [run_bind] at hb
  cases ha : (m.run.run r).1 with
  | error e =>
    rw [ha] at hb
    cases hb
  | ok a =>
    rw [ha] at hb
    exact hf a (hm r a ha) _ b hb

theorem Returns.mapM {p : β → Prop} {f : α → ResolverM σ β} (hf : ∀ a, Returns p (f a)) :
    (as : List α) → Returns (fun bs => ∀ b ∈ bs, p b) (as.mapM f)
  | []      => .pure (by simp)
  | a :: as => by
    rw [List.mapM_cons]
    exact (hf a).bind fun b hb => (Returns.mapM hf as).bind fun bs hbs =>
      .pure (List.forall_mem_cons.mpr ⟨hb, hbs⟩)

theorem returns_inInterface {p : α → Prop} {action : ResolverM σ α} (package : Package)
    (i : Interface) (h : Returns p action) : Returns p (inInterface package i action) := by
  intro r a ha
  exact h r a (congrArg Prod.fst (run_inInterface_eq_ok.mp (Prod.ext ha rfl)))

/-- Every mock that is built is aligned. -/
theorem aligned_buildInterface (symbols : Symbols σ) (i : Interface) (source runtime : Import)
    (reserved : List String) :
    Returns Aligned (buildInterface symbols i source runtime reserved) :=
  (Returns.trivial _).bind fun _ _ => (Returns.trivial _).bind fun _ _ =>
    (Returns.trivial _).bind fun _ _ => (Returns.trivial _).bind fun _ _ =>
      .pure (aligned_of_eq rfl rfl)

/-- **All mocks of a file that was built are aligned.** -/
theorem aligned_of_mockFile {state : σ} {file : MockFile}
    (h : (mockFile symbols package interfaces options state).1 = .ok file) :
    ∀ i ∈ file.interfaces, Aligned i := by
  have hbuild : Returns (fun file => ∀ i ∈ file.interfaces, Aligned i)
      (build symbols package interfaces options) :=
    (Returns.trivial _).bind fun _ _ => (Returns.trivial _).bind fun _ _ =>
      (Returns.trivial _).bind fun _ _ => (Returns.trivial _).bind fun _ _ =>
        (Returns.trivial _).bind fun _ _ => (Returns.trivial _).bind fun _ _ =>
          (Returns.mapM (fun i => returns_inInterface package i
            (aligned_buildInterface symbols i _ _ _)) interfaces).bind fun _ hmocks =>
              (Returns.trivial _).bind fun _ _ => .pure hmocks
  rw [fst_mockFile] at h
  exact hbuild _ _ h

end Built

end MockFile

end GoMocks

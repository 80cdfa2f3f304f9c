import GoMocks.Template.Node
import Mathlib.Data.List.Forall2

/-!
# Templates — the lines that a tree writes

A tree is put together from lines, and so is its text. The tree of a template that was read has all
text between two markers in one node; a tree may have it in pieces, one for each line.

* `Node.joined`: a tree with adjacent texts put together; `renderAll_joined`: it has the same text.
* `Expr.eq_of_same`, `Node.eq_of_same`: trees without literals can be compared.
* `Writes`: a tree writes some lines; `Writes.append`, `Writes.conditional`, `Writes.loop` say so of
  a tree from its parts.
-/

namespace GoMocks.Template

@[simp]
theorem pure_eq_ok {ε α : Type} (a : α) : (pure a : Except ε α) = .ok a := rfl

@[simp]
theorem throw_eq_error {ε α : Type} (e : ε) : (throw e : Except ε α) = .error e := rfl

@[simp]
theorem ok_bind {ε α β : Type} (a : α) (f : α → Except ε β) : (Except.ok a >>= f) = f a := rfl

@[simp]
theorem error_bind {ε α β : Type} (e : ε) (f : α → Except ε β) :
    (Except.error e >>= f) = .error e := rfl

/-! ### Texts in pieces -/

namespace Node

/-- Puts a node before others; a text goes into the text that they begin with. -/
def prepend : Node → List Node → List Node
  | .text s, .text t :: nodes => .text (s ++ t) :: nodes
  | n,       nodes            => n :: nodes

mutual

/-- The node with adjacent texts put together. -/
def joined : Node → Node
  | .text s               => .text s
  | .output e             => .output e
  | .conditional e yes no => .conditional e (joinedAll yes) (joinedAll no)
  | .loop x e body empty  => .loop x e (joinedAll body) (joinedAll empty)

/-- The nodes with neighbouring texts joined. -/
def joinedAll : List Node → List Node
  | []      => []
  | n :: ns => prepend n.joined (joinedAll ns)

end

/-- A node put in front is rendered first. -/
theorem renderAll_prepend (env : Expr.Bindings) (n : Node) (nodes : List Node) :
    renderAll env (prepend n nodes) = renderAll env (n :: nodes) := by
  rw [prepend.eq_def]
  split
  · next s t rest =>
    simp only [renderAll, render]
    cases renderAll env rest with
    | error e => rfl
    | ok text => exact congrArg Except.ok String.append_assoc
  · rfl

mutual

/-- Joining texts changes nothing that is rendered. -/
theorem render_joined : (n : Node) → (env : Expr.Bindings) → render env n.joined = render env n
  | .text _, _ => rfl
  | .output _, _ => rfl
  | .conditional e yes no, env => by
    simp only [joined, render, renderAll_joined yes, renderAll_joined no]
  | .loop x e body empty, env => by
    simp only [joined, render, renderAll_joined body, renderAll_joined empty]

/-- **Texts may be cut into pieces.** -/
theorem renderAll_joined : (nodes : List Node) → (env : Expr.Bindings) →
    renderAll env (joinedAll nodes) = renderAll env nodes
  | [], _ => rfl
  | n :: ns, env => by
    rw [joinedAll, renderAll_prepend, renderAll, renderAll, render_joined n, renderAll_joined ns]

end

end Node

/-! ### Trees that are compared -/

mutual

/-- Are two expressions the same and without literals? -/
def Expr.same : Expr → Expr → Bool
  | .variable m,    .variable n    => m == n
  | .member e m,    .member f n    => e.same f && m == n
  | .item e i,      .item f j      => e.same f && i.same j
  | .equal a b,     .equal c d     => a.same c && b.same d
  | .different a b, .different c d => a.same c && b.same d
  | .both a b,      .both c d      => a.same c && b.same d
  | .either a b,    .either c d    => a.same c && b.same d
  | .negation e,    .negation f    => e.same f
  | .filter m e es, .filter n f fs => m == n && e.same f && sameExprs es fs
  | _,              _              => false

/-- Are two lists of expressions the same? -/
def sameExprs : List Expr → List Expr → Bool
  | [],      []      => true
  | e :: es, f :: fs => e.same f && sameExprs es fs
  | _,       _       => false

end

mutual

/-- The test on expressions is sound. -/
theorem Expr.eq_of_same : (e f : Expr) → e.same f → e = f
  | .literal _,     f => by cases f <;> simp [Expr.same]
  | .variable _,    f => by cases f <;> simp [Expr.same]
  | .member e _,    f => by
    have he := e.eq_of_same
    cases f <;> grind [Expr.same]
  | .item e i,      f => by
    have he := e.eq_of_same
    have hi := i.eq_of_same
    cases f <;> grind [Expr.same]
  | .equal a b, f | .different a b, f | .both a b, f | .either a b, f => by
    have ha := a.eq_of_same
    have hb := b.eq_of_same
    cases f <;> grind [Expr.same]
  | .negation e,    f => by
    have he := e.eq_of_same
    cases f <;> grind [Expr.same]
  | .filter _ e es, f => by
    have he := e.eq_of_same
    have hes := eq_of_sameExprs es
    cases f <;> grind [Expr.same]

theorem eq_of_sameExprs : (es fs : List Expr) → sameExprs es fs → es = fs
  | [],      fs => by cases fs <;> simp [sameExprs]
  | e :: es, fs => by
    have he := e.eq_of_same
    have hes := eq_of_sameExprs es
    cases fs <;> grind [sameExprs]

end

mutual

/-- Are two nodes the same and without literals? -/
def Node.same : Node → Node → Bool
  | .text s,               .text t               => s == t
  | .output e,             .output f             => e.same f
  | .conditional e yes no, .conditional f si non =>
    e.same f && sameNodes yes si && sameNodes no non
  | .loop x e body empty,  .loop y f body' empty' =>
    x == y && e.same f && sameNodes body body' && sameNodes empty empty'
  | _,                     _                     => false

/-- Are two lists of nodes the same? -/
def sameNodes : List Node → List Node → Bool
  | [],      []      => true
  | n :: ns, m :: ms => n.same m && sameNodes ns ms
  | _,       _       => false

end

mutual

/-- The test on nodes is sound. -/
theorem Node.eq_of_same : (n m : Node) → n.same m → n = m
  | .text _,               m => by cases m <;> simp [Node.same]
  | .output e,             m => by
    have he := e.eq_of_same
    cases m <;> grind [Node.same]
  | .conditional e yes no, m => by
    have he := e.eq_of_same
    have hyes := eq_of_sameNodes yes
    have hno := eq_of_sameNodes no
    cases m <;> grind [Node.same]
  | .loop _ e body empty,  m => by
    have he := e.eq_of_same
    have hbody := eq_of_sameNodes body
    have hempty := eq_of_sameNodes empty
    cases m <;> grind [Node.same]

theorem eq_of_sameNodes : (ns ms : List Node) → sameNodes ns ms → ns = ms
  | [],      ms => by cases ms <;> simp [sameNodes]
  | n :: ns, ms => by
    have hn := n.eq_of_same
    have hns := eq_of_sameNodes ns
    cases ms <;> grind [sameNodes]

end

/-! ### Lines -/

/-- The text of some lines. -/
def ofLines (lines : List String) : String :=
  String.join (lines.map (· ++ "\n"))

theorem ofLines_ofList (css : List (List Char)) :
    ofLines (css.map .ofList) = .ofList (css.flatMap (· ++ ['\n'])) := by
  induction css with
  | nil => rfl
  | cons cs css ih =>
    rw [ofLines, List.map_cons, List.map_cons, String.join_cons, List.flatMap_cons,
      String.ofList_append, String.ofList_append, ← ih]
    rfl

theorem ofLines_append (lines rest : List String) :
    ofLines (lines ++ rest) = ofLines lines ++ ofLines rest := by
  simp [ofLines, String.join_append]

theorem ofLines_flatMap {α : Type} (f : α → List String) (xs : List α) :
    ofLines (xs.flatMap f) = String.join (xs.map fun x => ofLines (f x)) := by
  induction xs with
  | nil => rfl
  | cons x xs ih => rw [List.flatMap_cons, ofLines_append, ih, List.map_cons, String.join_cons]

/-- Are some characters read as a tree without literals? -/
def isReadAs (cs : List Char) (nodes : List Node) : Bool :=
  match Piece.cut true (cs.length + 1) cs with
  | .error _   => false
  | .ok pieces =>
    match Node.parseNodes (2 * pieces.length + 2) pieces with
    | .ok (read, none, _) => sameNodes read nodes
    | _                   => false

/-- A template is read from the characters of its lines. -/
theorem parse_ofLines {lines : List String} {nodes : List Node} (css : List (List Char))
    (h : List.Forall₂ (fun s cs => s = String.ofList cs) lines css)
    (hread : isReadAs (css.flatMap (· ++ ['\n'])) nodes) :
    parse (ofLines lines) = .ok nodes := by
  have hlines : lines = css.map .ofList := by
    rwa [← List.forall₂_eq_eq_eq, List.forall₂_map_right_iff]
  rw [hlines, ofLines_ofList, parse, Piece.ofTemplate, String.length_ofList, String.toList_ofList]
  rw [isReadAs] at hread
  split at hread
  · cases hread
  · next pieces hcut =>
    rw [hcut, ok_bind]
    split at hread
    · next read rest hnodes =>
      rw [hnodes]
      exact congrArg Except.ok (eq_of_sameNodes _ _ hread)
    · cases hread

@[simp]
theorem ofLines_nil : ofLines [] = "" := rfl

@[simp]
theorem ofLines_cons (l : String) (lines : List String) :
    ofLines (l :: lines) = l ++ ("\n" ++ ofLines lines) := by
  simp [ofLines, String.append_assoc]

/-- The end of a line behind some nodes. -/
@[simp]
def line (parts : List Node) : List Node :=
  parts ++ [.text "\n"]

/-- The output of a name. -/
@[simp]
def shown (name : String) : Node :=
  .output (.variable name)

/-- The output of an entry of what a name stands for. -/
@[simp]
def part (x name : String) : Node :=
  .output (.member (.variable x) name)

attribute [simp] Node.renderAll Node.render Expr.eval Expr.defined Value.member Value.print
attribute [simp] Value.isTrue

/-- The nodes write lines. -/
def Writes (env : Expr.Bindings) (nodes : List Node) (lines : List String) : Prop :=
  Node.renderAll env nodes = .ok (ofLines lines)

variable {env : Expr.Bindings} {nodes rest : List Node} {lines others : List String}

theorem renderAll_append (env : Expr.Bindings) (nodes rest : List Node) :
    Node.renderAll env (nodes ++ rest) =
      do return (← Node.renderAll env nodes) ++ (← Node.renderAll env rest) := by
  induction nodes with
  | nil => cases h : Node.renderAll env rest <;> simp [Node.renderAll, h]
  | cons n nodes ih =>
    rw [List.cons_append, Node.renderAll, Node.renderAll, ih]
    cases Node.render env n <;> cases Node.renderAll env nodes <;>
      cases Node.renderAll env rest <;> simp [String.append_assoc]

theorem Writes.nil : Writes env [] [] := rfl

theorem Writes.append (h : Writes env nodes lines) (h' : Writes env rest others) :
    Writes env (nodes ++ rest) (lines ++ others) := by
  rw [Writes, renderAll_append, h, h', ofLines_append]
  rfl

theorem renderAll_singleton {n : Node} {s : String} (h : Node.render env n = .ok s) :
    Node.renderAll env [n] = .ok s := by
  simp [Node.renderAll, h]

/-- A conditional writes what the branch taken writes. -/
theorem Writes.conditional {e : Expr} {v : Value} {yes no : List Node}
    (he : e.eval env = .ok v) (h : Writes env (if v.isTrue then yes else no) lines) :
    Writes env [.conditional e yes no] lines := by
  refine renderAll_singleton ?_
  rw [Node.render, he, ok_bind]
  split at h
  · next hv => exact (if_pos hv).trans h
  · next hv => exact (if_neg hv).trans h

theorem mapM_eq_ok {α β : Type} {f : α → Except TemplateFault β} {g : α → β} {xs : List α}
    (h : ∀ x ∈ xs, f x = .ok (g x)) : xs.mapM f = .ok (xs.map g) := by
  induction xs with
  | nil => rfl
  | cons x xs ih =>
    obtain ⟨hx, hxs⟩ := List.forall_mem_cons.mp h
    rw [List.mapM_cons, hx, ih hxs]
    rfl

/-- The first item that fails decides. -/
theorem mapM_eq_error {α β : Type} {f : α → Except TemplateFault β} {fault : TemplateFault}
    {xs : List α} (h : ∀ x ∈ xs, (∃ b, f x = .ok b) ∨ f x = .error fault)
    (hfails : ∃ x ∈ xs, f x = .error fault) : xs.mapM f = .error fault := by
  induction xs with
  | nil =>
    obtain ⟨x, hx, -⟩ := hfails
    cases hx
  | cons x xs ih =>
    obtain ⟨hx, hxs⟩ := List.forall_mem_cons.mp h
    rw [List.mapM_cons]
    rcases hx with ⟨b, hb⟩ | hx
    · obtain ⟨y, hy, hfails⟩ := hfails
      rcases List.mem_cons.mp hy with rfl | hy
      · exact nomatch hb.symm.trans hfails
      · rw [hb, ih hxs ⟨y, hy, hfails⟩]
        rfl
    · rw [hx]
      rfl

/-- A loop writes the lines of its items, one after the other. -/
theorem Writes.loop {α : Type} {name : String} {e : Expr} {xs : List α} {value : α → Value}
    {body : List Node} {f : α × Nat → List String} (he : e.eval env = .ok (.list (xs.map value)))
    (h : ∀ x ∈ xs, ∀ i,
      Writes ((name, value x) :: ("loop", Node.loopState xs.length i) :: env) body (f (x, i))) :
    Writes env [.loop name e body []] (xs.zipIdx.flatMap f) := by
  refine renderAll_singleton ?_
  rw [Node.render, he, ok_bind]
  have hitems : (Node.loopBindings env name (xs.map value)).mapM
        (fun env => Node.renderAll env body) =
      .ok (xs.zipIdx.map fun p => ofLines (f p)) := by
    rw [Node.loopBindings, List.zipIdx_map, List.map_map, List.mapM_map, List.length_map]
    exact mapM_eq_ok fun p hp => h p.1 (List.fst_mem_of_mem_zipIdx hp) p.2
  cases xs with
  | nil => rfl
  | cons x xs =>
    simp only [Value.items?, List.map_cons] at hitems ⊢
    rw [hitems, ofLines_flatMap]
    rfl

/-- A loop that does not ask where it is. -/
theorem Writes.loop_of_forall {α : Type} {name : String} {e : Expr} {xs : List α}
    {value : α → Value} {body : List Node} {f : α → List String}
    (he : e.eval env = .ok (.list (xs.map value)))
    (h : ∀ x ∈ xs, ∀ state, Writes ((name, value x) :: ("loop", state) :: env) body (f x)) :
    Writes env [.loop name e body []] (xs.flatMap f) := by
  have hloop := Writes.loop (f := fun p => f p.1) he fun x hx i => h x hx _
  have hflat : xs.zipIdx.flatMap (fun p => f p.1) = xs.flatMap f := by
    rw [← List.flatMap_map, List.zipIdx_map_fst]
  exact hflat ▸ hloop

/-! ### Widths past the limit -/

/-- The nodes come to a width past the limit, and to no other fault before it. -/
def Overflows (env : Expr.Bindings) (nodes : List Node) : Prop :=
  Node.renderAll env nodes = .error .tooWide

theorem Overflows.append (h : Overflows env nodes) (rest : List Node) :
    Overflows env (nodes ++ rest) := by
  rw [Overflows, renderAll_append, h]
  rfl

theorem Writes.overflows_append (h : Writes env nodes lines) (h' : Overflows env rest) :
    Overflows env (nodes ++ rest) := by
  rw [Overflows, renderAll_append, h, h']
  rfl

theorem overflows_singleton {n : Node} (h : Node.render env n = .error .tooWide) :
    Overflows env [n] := by
  rw [Overflows, Node.renderAll, h]
  rfl

/-- A conditional overflows where the branch taken does. -/
theorem Overflows.conditional {e : Expr} {v : Value} {yes no : List Node}
    (he : e.eval env = .ok v) (h : Overflows env (if v.isTrue then yes else no)) :
    Overflows env [.conditional e yes no] := by
  refine overflows_singleton ?_
  rw [Node.render, he, ok_bind]
  split at h
  · next hv => exact (if_pos hv).trans h
  · next hv => exact (if_neg hv).trans h

/-- A loop overflows where one of its items does, and all others are written. -/
theorem Overflows.loop {α : Type} {name : String} {e : Expr} {xs : List α} {value : α → Value}
    {body : List Node} (he : e.eval env = .ok (.list (xs.map value)))
    (h : ∀ x ∈ xs, ∀ state,
      let env := (name, value x) :: ("loop", state) :: env
      (∃ lines, Writes env body lines) ∨ Overflows env body)
    (hfails : ∃ x ∈ xs, ∀ state, Overflows ((name, value x) :: ("loop", state) :: env) body) :
    Overflows env [.loop name e body []] := by
  refine overflows_singleton ?_
  rw [Node.render, he, ok_bind]
  have hitems : (Node.loopBindings env name (xs.map value)).mapM
      (fun env => Node.renderAll env body) = .error .tooWide := by
    rw [Node.loopBindings, List.zipIdx_map, List.map_map, List.mapM_map, List.length_map]
    refine mapM_eq_error (fun p hp => ?_) ?_
    · obtain ⟨lines, hlines⟩ | hover :=
        h p.1 (List.fst_mem_of_mem_zipIdx hp) (Node.loopState xs.length p.2)
      · exact .inl ⟨_, hlines⟩
      · exact .inr hover
    · obtain ⟨x, hx, hover⟩ := hfails
      obtain ⟨i, hi, rfl⟩ := List.getElem_of_mem hx
      exact ⟨(xs[i], i), List.mem_zipIdx_iff_getElem?.mpr (by simp [hi]), hover _⟩
  cases xs with
  | nil =>
    obtain ⟨x, hx, -⟩ := hfails
    cases hx
  | cons x xs =>
    simp only [Value.items?, List.map_cons] at hitems ⊢
    rw [hitems]
    rfl

end GoMocks.Template

import GoMocks.Proofs.MethodSet.Embedding

/-!
# Method sets — declarations and their texts

A walk keeps the texts of the names it is following. Two names with one text are of one declaration,
where import paths and declared names are free of the marks that stand between the parts of a text.

* `NamedType.key`: the declaration that a name refers to.
* `declaredKeys`: the declarations of some packages.
* `PlainNames`: no import path has a bracket, no declared name a bracket or a dot.
* `NamedType.key_eq_of_text_eq`: the text of a name tells its declaration.
-/

namespace GoMocks

variable {packages : String → Option SourcePackage} {n m : NamedType}

/-- The declaration that a name refers to: the import path of its package, and the name. -/
def NamedType.key (n : NamedType) : Option String × String :=
  (n.package, n.name)

/-- The declaration that a type refers to, if it is a name. -/
def GoType.key? : GoType → Option (Option String × String)
  | .named n => some n.key
  | _        => none

/-- The declarations of the packages of some import paths. -/
def declaredKeys (packages : String → Option SourcePackage) (paths : List String) :
    List (Option String × String) :=
  paths.flatMap fun path =>
    ((packages path).elim [] SourcePackage.declarations).map fun d => (some path, d.2.name)

/-- No import path has a bracket, and no declared name has a bracket or a dot. -/
def PlainNames (packages : String → Option SourcePackage) : Prop :=
  ∀ path p, packages path = some p → '[' ∉ path.toList ∧
    ∀ d ∈ p.declarations, '[' ∉ d.2.name.toList ∧ '.' ∉ d.2.name.toList

/-! ### Declared names -/

/-- A declaration found by its name is one of the package. -/
theorem mem_of_declaration? {p : SourcePackage} {name : String}
    {d : GoSource.SourceFile × GoSource.TypeSpec} (h : p.declaration? name = some d) :
    d ∈ p.declarations ∧ d.2.name = name :=
  ⟨List.mem_of_find?_eq_some h, by simpa using List.find?_some h⟩

/-- A name with a definition is one of the declarations. -/
theorem NamedType.key_mem_declaredKeys {paths : List String} {t : GoType}
    (hpaths : ∀ path, packages path ≠ none → path ∈ paths)
    (h : n.definition.answer packages = .ok t) : n.key ∈ declaredKeys packages paths := by
  obtain ⟨path, p, file, spec, _, hn, hp, hd, _⟩ := definition_eq_ok_iff.mp h
  obtain ⟨hmem, hname⟩ := mem_of_declaration? hd
  refine List.mem_flatMap.mpr ⟨path, hpaths path (by simp [hp]), ?_⟩
  rw [hp]
  exact List.mem_map.mpr ⟨_, hmem, by rw [hname, key, hn]⟩

/-! ### Texts -/

/-- Nothing stands before the bracket of type arguments. -/
theorem bracketed_toList (texts : List String) :
    (bracketed texts).toList.takeWhile (· != '[') = [] := by
  unfold bracketed
  split
  · rfl
  · simp

/-- What stands before the first bracket of a name's text. -/
theorem NamedType.takeWhile_text {path : String} (hn : n.package = some path)
    (hpath : '[' ∉ path.toList) (hname : '[' ∉ n.name.toList) :
    n.text.toList.takeWhile (· != '[') = path.toList ++ '.' :: n.name.toList := by
  obtain ⟨_, name, arguments⟩ := n
  obtain rfl : _ = some path := hn
  have hplain : ∀ c ∈ path.toList ++ '.' :: name.toList, (c != '[') = true := by
    intro c hc
    rw [List.mem_append, List.mem_cons] at hc
    rcases hc with hc | rfl | hc
    · exact bne_iff_ne.mpr fun h => hpath (h ▸ hc)
    · rfl
    · exact bne_iff_ne.mpr fun h => hname (h ▸ hc)
  have htext : (NamedType.text ⟨some path, name, arguments⟩).toList =
      (path.toList ++ '.' :: name.toList) ++ (bracketed (typeTexts arguments)).toList := by
    simp [NamedType.text]
  rw [htext, List.takeWhile_append_of_pos hplain, bracketed_toList, List.append_nil]

/-- What stands before the first such character. -/
theorem takeWhile_append_cons {c : Char} {x rest : List Char} (hx : c ∉ x) :
    (x ++ c :: rest).takeWhile (· != c) = x := by
  have hne : ∀ d ∈ x, (d != c) = true := fun d hd => bne_iff_ne.mpr fun h => hx (h ▸ hd)
  rw [List.takeWhile_append_of_pos hne, List.takeWhile_cons_of_neg (by simp), List.append_nil]

/-- A path and a name without a dot, with a dot between them, are told apart. -/
theorem append_dot_inj {p q x y : List Char} (hx : '.' ∉ x) (hy : '.' ∉ y)
    (h : p ++ '.' :: x = q ++ '.' :: y) : p = q ∧ x = y := by
  have hrev := congrArg (fun l => l.reverse.takeWhile (· != '.')) h
  simp only [List.reverse_append, List.reverse_cons, List.append_assoc, List.singleton_append,
    takeWhile_append_cons (mt List.mem_reverse.mp hx),
    takeWhile_append_cons (mt List.mem_reverse.mp hy)] at hrev
  obtain rfl := List.reverse_injective hrev
  exact ⟨List.append_cancel_right h, rfl⟩

/-- **The text of a name tells its declaration.** -/
theorem NamedType.key_eq_of_text_eq (hplain : PlainNames packages) {t u : GoType}
    (hn : n.definition.answer packages = .ok t) (hm : m.definition.answer packages = .ok u)
    (h : n.text = m.text) : n.key = m.key := by
  have hparts : ∀ {n : NamedType} {t : GoType}, n.definition.answer packages = .ok t →
      ∃ path, n.package = some path ∧ '[' ∉ path.toList ∧ '[' ∉ n.name.toList ∧
        '.' ∉ n.name.toList := by
    intro n t hn
    obtain ⟨path, p, _, _, _, hn, hp, hd, _⟩ := definition_eq_ok_iff.mp hn
    obtain ⟨hmem, hname⟩ := mem_of_declaration? hd
    obtain ⟨hpath, hdecl⟩ := hplain path p hp
    exact ⟨path, hn, hpath, hname ▸ hdecl _ hmem⟩
  obtain ⟨p, hp, hpb, hnb, hnd⟩ := hparts hn
  obtain ⟨q, hq, hqb, hmb, hmd⟩ := hparts hm
  have htext := congrArg (fun s => s.toList.takeWhile (· != '[')) h
  simp only [takeWhile_text hp hpb hnb, takeWhile_text hq hqb hmb] at htext
  obtain ⟨hpq, hname⟩ := append_dot_inj hnd hmd htext
  rw [key, key, hp, hq, String.toList_inj.mp hpq, String.toList_inj.mp hname]

end GoMocks

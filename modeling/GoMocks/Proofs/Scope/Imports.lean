import GoMocks.Proofs.Inquiry
import GoMocks.Scope

/-!
# Scopes — the packages that qualifiers stand for

A qualifier that no import gives as its name stands for one of the imports without a name. The first
of them whose path looks like it is taken, and the declared names of packages are only asked for if
there is none. So a qualifier stands for the package of this name, unless a path misleads: it looks
like the qualifier, and its package has another name or cannot be found.

* `Scope.answer_importPath`: the import that is taken.
* `Scope.Declares`, `Scope.Misleads`: the packages of a name, and the paths that only look like it.
* `Scope.importPath_declared`: where no path misleads, a qualifier stands for the package of its name.
* `Scope.importPath_misled`: an import that is taken for what its path looks like.
-/

namespace GoMocks.Scope

variable {packages : String → Option SourcePackage} {scope : Scope} {qualifier path : String}

/-! ### The import that is taken -/

/-- A package is called by its clause, or as its path suggests. -/
theorem answer_packageName (path : String) :
    (Inquiry.packageName path).answer packages =
      .ok (((packages path).map (·.package.name)).getD (ImportPath.guessedName path)) := by
  show Lookup.answer packages (Lookup.find path >>= fun p => _) = _
  cases h : packages path with
  | none   => simp only [Lookup.find, bind, Lookup.bind, Lookup.answer, h]; rfl
  | some p => simp only [Lookup.find, bind, Lookup.bind, Lookup.answer, h]; rfl

/-- The first path whose package has the name. -/
theorem answer_firstOfName (name : String) (paths : List String) :
    (firstOfName name paths).answer packages =
      .ok (paths.find? fun path =>
        ((packages path).map (·.package.name)).getD (ImportPath.guessedName path) == name) := by
  induction paths with
  | nil => rfl
  | cons path rest ih =>
    rw [firstOfName, Inquiry.answer_bind, answer_packageName, List.find?_cons]
    simp only [bind, Except.bind]
    by_cases hname :
        ((packages path).map (·.package.name)).getD (ImportPath.guessedName path) = name
    · rw [if_pos hname, beq_iff_eq.mpr hname]
      rfl
    · rw [if_neg hname, beq_eq_false_iff_ne.mpr hname, ih]

/-- A qualifier that is no import's name stands for the first import without a name whose path looks
like it, or else for the first one whose package is taken to have the name. -/
theorem answer_importPath (h : scope.importsNamed (some qualifier) = []) :
    (scope.importPath qualifier).answer packages =
      match (scope.importsNamed none).find? (ImportPath.guessedName · == qualifier) with
      | some path => .ok path
      | none =>
        match (scope.importsNamed none).find? fun path =>
            ((packages path).map (·.package.name)).getD (ImportPath.guessedName path) ==
              qualifier with
        | some path => .ok path
        | none => .error (.unresolvedType qualifier (.noSuchImport qualifier scope.file.path)) := by
  rw [importPath, h]
  dsimp only [List.head?_nil]
  cases (scope.importsNamed none).find? (ImportPath.guessedName · == qualifier) with
  | some path => rfl
  | none =>
    rw [Inquiry.answer_bind, answer_firstOfName]
    simp only [bind, Except.bind]
    generalize (scope.importsNamed none).find? _ = found
    cases found <;> rfl

/-! ### Names that are declared -/

/-- Can the package of the path be found, and does it declare the name? -/
def Declares (packages : String → Option SourcePackage) (name path : String) : Prop :=
  ∃ p, packages path = some p ∧ p.package.name = name

/-- Of the imports without a name, is this the first whose path looks like the qualifier, although
its package is not known by it? -/
def Misleads (packages : String → Option SourcePackage) (scope : Scope) (qualifier path : String) :
    Prop :=
  (scope.importsNamed none).find? (ImportPath.guessedName · == qualifier) = some path ∧
    ¬ Declares packages qualifier path

/-- A misleading import is the one that is chosen. -/
theorem Misleads.importPath_eq (h : scope.importsNamed (some qualifier) = [])
    (hpath : Misleads packages scope qualifier path) :
    (scope.importPath qualifier).answer packages = .ok path := by
  rw [answer_importPath h, hpath.1]

/-- Where no path misleads, the package of a qualifier declares it, if it can be found. -/
theorem declares_of_importPath (h : scope.importsNamed (some qualifier) = [])
    (hclear : ∀ path, ¬ Misleads packages scope qualifier path)
    (hpath : (scope.importPath qualifier).answer packages = .ok path)
    {p : SourcePackage} (hp : packages path = some p) : p.package.name = qualifier := by
  rw [answer_importPath h] at hpath
  split at hpath
  · next found hlooks =>
    rw [← Except.ok.inj hpath] at hp
    obtain ⟨p', hp', hname⟩ : Declares packages qualifier found :=
      Classical.byContradiction fun hno => hclear _ ⟨hlooks, hno⟩
    rwa [Option.some.inj (hp.symm.trans hp')]
  · split at hpath
    · next hnamed =>
      obtain rfl := Except.ok.inj hpath
      simpa [hp] using List.find?_some hnamed
    · cases hpath

/-- Where no path misleads, a qualifier stands for the import whose package declares it. -/
theorem importPath_of_declares (h : scope.importsNamed (some qualifier) = [])
    (hclear : ∀ path, ¬ Misleads packages scope qualifier path)
    (hpath : path ∈ scope.importsNamed none) (hdeclares : Declares packages qualifier path)
    (honly : ∀ other ∈ scope.importsNamed none, Declares packages qualifier other → other = path) :
    (scope.importPath qualifier).answer packages = .ok path := by
  rw [answer_importPath h]
  split
  · next other hlooks =>
    have hother : Declares packages qualifier other :=
      Classical.byContradiction fun hno => hclear _ ⟨hlooks, hno⟩
    rw [honly other (List.mem_of_find?_eq_some hlooks) hother]
  · next hnone =>
    obtain ⟨p, hp, hname⟩ := hdeclares
    split
    · next other hnamed =>
      have hmem := List.mem_of_find?_eq_some hnamed
      have hother := List.find?_some hnamed
      cases hsource : packages other with
      | some p' =>
        rw [honly other hmem ⟨p', hsource, by simpa [hsource] using hother⟩]
      | none =>
        -- a package that cannot be found would have been taken for what its path looks like
        have hlooks := List.find?_eq_none.mp hnone other hmem
        exact absurd (by simpa [hsource] using hother) hlooks
    · next hmissing =>
      have hmissed := List.find?_eq_none.mp hmissing path hpath
      exact absurd (by simp [hp, hname]) hmissed

/-- **A qualifier stands for the package of its name, unless a path misleads.** Let no import give
it as its name. If the path of an import looks like it first, and its package is not known by it,
this import is taken. Otherwise the package that is taken declares the qualifier, if it can be found;
and if one of the imports without a name declares it and no other one does, this one is taken. -/
theorem importPath_declared (h : scope.importsNamed (some qualifier) = []) :
    (∀ path, Misleads packages scope qualifier path →
        (scope.importPath qualifier).answer packages = .ok path) ∧
      ((∀ path, ¬ Misleads packages scope qualifier path) →
        (∀ path p, (scope.importPath qualifier).answer packages = .ok path →
          packages path = some p → p.package.name = qualifier) ∧
        ∀ path ∈ scope.importsNamed none, Declares packages qualifier path →
          (∀ other ∈ scope.importsNamed none, Declares packages qualifier other → other = path) →
          (scope.importPath qualifier).answer packages = .ok path) :=
  ⟨fun _ => Misleads.importPath_eq h, fun hclear =>
    ⟨fun _ _ hpath hp => declares_of_importPath h hclear hpath hp,
      fun _ hpath hdeclares honly => importPath_of_declares h hclear hpath hdeclares honly⟩⟩

/-- A source file of the package `m/x` that imports some packages without names. -/
def importing (paths : List String) : Scope where
  package    := { package := { name := "x", path := "m/x", module := "m", dir := ⟨"/m/x"⟩, files := [] }
                  files := [] }
  file       := { path := ⟨"/m/x/x.go"⟩, package := "x", imports := paths.map (⟨none, ·⟩),
                  types := [], buildIgnored := false }
  typeParams := []

/-- Packages that declare some names. -/
def declaring (names : List (String × String)) (path : String) : Option SourcePackage :=
  (names.lookup path).map fun name =>
    { package := { name, path, module := "m", dir := ⟨"/" ++ path⟩, files := [] }, files := [] }

/-- The name of a package is not to be guessed from the path of its repository. -/
theorem importPath_declared_repository :
    (importing ["m/yaml", "m/go-kit"]).importsNamed (some "acmekit") = [] ∧
      ((importing ["m/yaml", "m/go-kit"]).importPath "acmekit").answer
        (declaring [("m/yaml", "yaml"), ("m/go-kit", "acmekit")]) = .ok "m/go-kit" := by
  have hnone : (importing ["m/yaml", "m/go-kit"]).importsNamed (some "acmekit") = [] := by
    decide +kernel
  refine ⟨hnone, ((importPath_declared hnone).2 ?_).2 _ (by decide +kernel) ⟨_, rfl, rfl⟩ ?_⟩
  · rintro path ⟨hlooks, -⟩
    have hnothing : ((importing ["m/yaml", "m/go-kit"]).importsNamed none).find?
        (ImportPath.guessedName · == "acmekit") = none := by decide +kernel
    cases hnothing.symm.trans hlooks
  · rintro other hother ⟨p, hp, hname⟩
    have hother : other ∈ ["m/yaml", "m/go-kit"] := hother
    rw [List.mem_cons, List.mem_singleton] at hother
    rcases hother with rfl | rfl
    · obtain rfl := Option.some.inj hp
      exact absurd hname (by decide)
    · rfl

/-- **A path that looks like a name wins over a package that declares it.** The package that is taken
has another name. -/
theorem importPath_misled :
    let packages := declaring [("m/enc", "yaml"), ("m/yaml", "other")]
    let scope := importing ["m/enc", "m/yaml"]
    scope.importsNamed (some "yaml") = [] ∧ Declares packages "yaml" "m/enc" ∧
      ¬ Declares packages "yaml" "m/yaml" ∧
      (scope.importPath "yaml").answer packages = .ok "m/yaml" := by
  intro packages scope
  have hother : ¬ Declares packages "yaml" "m/yaml" := by
    rintro ⟨p, hp, hname⟩
    obtain rfl := Option.some.inj hp
    exact absurd hname (by decide)
  have hnone : scope.importsNamed (some "yaml") = [] := by decide +kernel
  have hlooks : (scope.importsNamed none).find? (ImportPath.guessedName · == "yaml") =
      some "m/yaml" := by decide +kernel
  exact ⟨hnone, ⟨_, rfl, rfl⟩, hother, Misleads.importPath_eq hnone ⟨hlooks, hother⟩⟩

end GoMocks.Scope

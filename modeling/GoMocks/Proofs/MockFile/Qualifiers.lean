import GoMocks.Proofs.Identifier
import GoMocks.Proofs.ImportTable.Runs
import GoMocks.Proofs.MockFile.Build

/-!
# Mock files — the identifiers of packages

A package is known by its declared name in a mock file, or by that name with a number behind it
where another package has the name. Whether the file can refer to it by that is never checked.

* `MockFile.Usable`: an identifier that leads to a package wherever the file refers to it.
* `isIdentifier_aliasOf`: a name of the right shape with a number behind it is an identifier.
* `usable_of_mockFile`: where names are usable, the identifiers in the file are.
* `identifiers_unusable`: where they are not, the file is built all the same.
-/

namespace GoMocks

/-! ### Names with a number behind them -/

namespace ImportTable

/-- An alias is the name with a number. -/
theorem toList_aliasOf (name : String) (n : Nat) :
    (aliasOf name n).toList = name.toList ++ Nat.toDigits 10 n := by
  simp [aliasOf]

/-- The last character is a digit. -/
theorem getLast?_aliasOf (name : String) (n : Nat) :
    (aliasOf name n).toList.getLast?.any Char.isDigit = true := by
  obtain ⟨d, hd⟩ := Option.ne_none_iff_exists'.mp
    (mt List.getLast?_eq_none_iff.mp (Nat.toDigits_ne_nil (n := n) (b := 10)))
  rw [toList_aliasOf, List.getLast?_append, hd]
  exact Nat.isDigit_of_mem_toDigits (by decide) (by decide) (List.mem_of_getLast? hd)

/-- A word that does not end in a digit is no alias. -/
theorem aliasOf_ne_of_getLast? {word : String} (h : word.toList.getLast?.any Char.isDigit = false)
    (name : String) (n : Nat) : aliasOf name n ≠ word := by
  rintro rfl
  exact nomatch (getLast?_aliasOf name n).symm.trans h

end ImportTable

open ImportTable

/-- Behind the first character of an identifier, a number can stand. -/
theorem isIdentifier_aliasOf {name : String} (h : isIdentifierShaped name = true) (n : Nat) :
    isIdentifier (aliasOf name n) = true := by
  have hshaped : isIdentifierShaped (aliasOf name n) = true := by
    refine isIdentifierShaped_append h (List.all_eq_true.mpr fun d hd => ?_)
    have hd : d ∈ Nat.toDigits 10 n := by simpa using hd
    exact isIdentifierPart_of_isDigit (Nat.isDigit_of_mem_toDigits (by decide) (by decide) hd)
  have hkeywords : ∀ word ∈ goKeywords, word.toList.getLast?.any Char.isDigit = false := by
    decide +kernel
  have hkeyword : aliasOf name n ∉ goKeywords := fun hmem =>
    aliasOf_ne_of_getLast? (hkeywords _ hmem) name n rfl
  simp [isIdentifier, hshaped, hkeyword]

/-! ### Qualifiers -/

namespace MockFile

/-- The parameter and the variable of a constructor; the variable is called like a receiver. -/
def constructorNames : List String :=
  ["t", "m"]

/-- The names a mock file with some declarations uses without a package before them. -/
def plainNames (declarations : List String) : List String :=
  predeclaredNames ++ ["nil", "false", "new"] ++ declarations

/-- An identifier that a mock file with some declarations can refer to a package by. -/
structure Usable (declarations : List String) (ident : String) : Prop where
  identifier  : isIdentifier ident = true
  not_blank   : ident ≠ "_"
  constructor : ident ∉ constructorNames
  plain       : ident ∉ plainNames declarations

instance (declarations : List String) (ident : String) : Decidable (Usable declarations ident) :=
  decidable_of_iff (isIdentifier ident = true ∧ ident ≠ "_" ∧ ident ∉ constructorNames ∧
      ident ∉ plainNames declarations)
    ⟨fun ⟨hi, hb, hc, hp⟩ => ⟨hi, hb, hc, hp⟩, fun ⟨hi, hb, hc, hp⟩ => ⟨hi, hb, hc, hp⟩⟩

open Resolver

variable {σ : Type} {symbols : Symbols σ} {package : Package} {interfaces : List Interface}
  {options : MockOptions}

/-- Each import of a resolver goes by its name, or all smaller aliases are taken. -/
theorem settled_lastResolver (symbols : Symbols σ) (package : Package) (interfaces : List Interface)
    (options : MockOptions) (module : String) (state : σ) :
    let table := (lastResolver symbols package interfaces options (.ofModule module state)).imports
    (table.entries.map Import.ident).Nodup ∧ ∀ i ∈ table.entries, table.Settled i := by
  intro table
  obtain ⟨added, hplain, htable⟩ :=
    (Grown.after symbols (.ofModule module state) (fileCalls package interfaces options)).imports
  have htable : table = ImportTable.addAll ⟨module, []⟩ added := htable
  rw [htable]
  exact ⟨addAll_nodup hplain .nil, settled_addAll hplain nofun⟩

/-- An alias is usable if its name is, and it is not used without a package. -/
theorem Usable.aliasOf {declarations : List String} {name : String} (h : Usable declarations name)
    {n : Nat} (hplain : aliasOf name n ∉ plainNames declarations) :
    Usable declarations (aliasOf name n) where
  identifier := isIdentifier_aliasOf (Bool.and_eq_true_iff.mp h.identifier).1 n
  not_blank := aliasOf_ne_of_getLast? rfl name n
  constructor hmem := by
    have hwords : ∀ word ∈ constructorNames, word.toList.getLast?.any Char.isDigit = false := by
      decide +kernel
    exact aliasOf_ne_of_getLast? (hwords _ hmem) name n rfl
  plain := hplain

/-- **Usable names make usable identifiers.** In a mock file that was built, no two packages go by
one identifier, and each goes by its declared name or by that name with a number behind it, which is
less than the number of imports. Where the declared name is usable and no such number makes it a
name that the file uses without a package, the identifier is usable. -/
theorem usable_of_mockFile (symbols : Symbols σ) (package : Package) (interfaces : List Interface)
    (options : MockOptions) (state : σ) {file : MockFile}
    (h : (mockFile symbols package interfaces options state).1 = .ok file) :
    file.identifiers.Nodup ∧ ∀ i ∈ file.imports,
      (i.ident = i.name ∨ ∃ n, 1 ≤ n ∧ n < file.imports.length ∧
        i.ident = ImportTable.aliasOf i.name n) ∧
      (Usable file.declarations i.name →
        (∀ n, 1 ≤ n → n < file.imports.length →
          ImportTable.aliasOf i.name n ∉ plainNames file.declarations) →
        Usable file.declarations i.ident) := by
  obtain ⟨-, -, hmock⟩ := of_mockFile_eq_ok h
  obtain ⟨hnodup, hsettled⟩ := settled_lastResolver symbols package interfaces options
    package.module state
  refine ⟨(hmock.imports_perm.map Import.ident).nodup_iff.mpr hnodup, fun i hi => ?_⟩
  have hi := hmock.mem_imports.mp hi
  have hcases := (hsettled i hi).ident_cases hi
  rw [ImportTable.size, ← hmock.imports_perm.length_eq] at hcases
  refine ⟨hcases, fun husable hplain => ?_⟩
  obtain hident | ⟨n, hpos, hlt, hident⟩ := hcases
  · rwa [hident]
  · rw [hident]
    exact husable.aliasOf (hplain n hpos hlt)

/-- An interface whose method gives a value of each of some packages. -/
def getterOf (paths : List String) : Interface where
  name         := "Getter"
  file         := ⟨"/getter.go"⟩
  line         := 5
  exported     := true
  typeParams   := []
  methods      := [⟨"Get", ⟨[], paths.map fun p => ⟨"", .named ⟨some p, "Value", []⟩⟩, false⟩⟩]
  isConstraint := false

/-- Two packages called `template`, both of which the file can refer to. -/
theorem usable_of_mockFile_template :
    ∃ file, shopFile [getterOf ["html/template", "text/template"]] = .ok file ∧
      "template1" ∈ file.identifiers ∧
      ∀ ident ∈ file.identifiers, Usable file.declarations ident := by
  let getter := getterOf ["html/template", "text/template"]
  have hnames : ∀ i ∈ (shopResolver [getter]).imports.entries,
      Usable ([getter].flatMap declaredNames) i.name ∧
        ∀ n < (shopResolver [getter]).imports.entries.length, 1 ≤ n →
          ImportTable.aliasOf i.name n ∉ plainNames ([getter].flatMap declaredNames) := by
    decide +kernel
  obtain ⟨file, hfile, hmock⟩ := exists_shopFile [getter] (by decide +kernel) (by decide +kernel)
  obtain ⟨-, h⟩ := usable_of_mockFile suggestedNames shop [getter] shopOptions () hfile
  rw [← hmock.declarations_eq, ← hmock.imports_perm.length_eq] at hnames
  refine ⟨file, hfile, hmock.mem_identifiers.mpr (by decide +kernel), fun ident hident => ?_⟩
  obtain ⟨i, hi, rfl⟩ := List.mem_map.mp hident
  obtain ⟨hname, hplain⟩ := hnames i (hmock.mem_imports.mp hi)
  exact (h i hi).2 hname fun n hpos hlt => hplain n hlt hpos

/-- What is asked of a file that is built although some identifier in it is not usable. -/
theorem exists_unusable {i : Interface} {ident : String}
    (hcalls : Succeeds suggestedNames (.ofModule shop.module ()) (fileCalls shop [i] shopOptions))
    (haccepted : Accepted (shopResolver [i]) [i])
    (hmem : ident ∈ (shopResolver [i]).imports.identifiers)
    (hnot : ¬ Usable (declaredNames i) ident) :
    ∃ file, shopFile [i] = .ok file ∧ ident ∈ file.identifiers ∧
      ¬ Usable file.declarations ident := by
  obtain ⟨file, hfile, hmock⟩ := exists_shopFile [i] hcalls haccepted
  refine ⟨file, hfile, hmock.mem_identifiers.mpr hmem, ?_⟩
  rwa [hmock.declarations_eq, List.flatMap_singleton]

/-- **Packages that a mock file cannot refer to.** The file is built although it has a package under
the name of the constructor's parameter, of its variable and of the receivers, under a keyword, a
blank, no identifier or nothing at all, under a predeclared name it uses, or under the name of one
of its declarations. With three packages called `int3`, an alias is a predeclared name. -/
theorem identifiers_unusable :
    (∀ name ∈ ["t", "m", "func", "_", "3d", "", "error", "Getter"],
      let getter := getterOf ["example.com/" ++ name]
      getter.eligibility = .eligible ∧ ∃ file, shopFile [getter] = .ok file ∧
        name ∈ file.identifiers ∧ ¬ Usable file.declarations name) ∧
    ∃ file, shopFile [getterOf ["a/int3", "b/int3", "c/int3"]] = .ok file ∧
      "int32" ∈ file.identifiers ∧ ¬ Usable file.declarations "int32" := by
  have hall : ∀ name ∈ ["t", "m", "func", "_", "3d", "", "error", "Getter"],
      let getter := getterOf ["example.com/" ++ name]
      getter.eligibility = .eligible ∧
        Succeeds suggestedNames (.ofModule shop.module ()) (fileCalls shop [getter] shopOptions) ∧
        Accepted (shopResolver [getter]) [getter] ∧
        name ∈ (shopResolver [getter]).imports.identifiers ∧
        ¬ Usable (declaredNames getter) name := by
    decide +kernel
  refine ⟨fun name hname => ?_, exists_unusable ?_ ?_ ?_ ?_⟩
  · obtain ⟨heligible, hcalls, haccepted, hmem, hnot⟩ := hall name hname
    exact ⟨heligible, exists_unusable hcalls haccepted hmem hnot⟩
  all_goals decide +kernel

end MockFile

end GoMocks

import GoMocks.Proofs.GoType.WellFormed
import GoMocks.Resolver

/-!
# Go types — the texts that spell a type

A package may go by several identifiers, as when it is entered under different names. A type has a
spelling for each choice of them, and every text that a resolver gives for a type is one.

* `GoType.Spells`: the text spells the type. Wherever it refers to a package, it may use any
  identifier the package goes by.
* `GoType.cases_of_spells_reference`: what the text of a type looks like that is written as a name.
-/

namespace GoMocks

open Resolver

/-- A name of a package, behind an identifier that the package goes by. -/
def SpellsQualified (goesBy : String → String → Prop) (package name x : String) : Prop :=
  ∃ ident, goesBy package ident ∧ x = ident ++ "." ++ name

/-- The name of a declared type without its arguments. -/
def SpellsBase (goesBy : String → String → Prop) (package : Option String) (name x : String) :
    Prop :=
  match package with
  | none         => x = name
  | some package => SpellsQualified goesBy package name x

/-- The length of an array type. -/
def ArrayLength.Spells (goesBy : String → String → Prop) : ArrayLength → String → Prop
  | .literal text,          x => x = text
  | .constant package name, x => SpellsQualified goesBy package name x

mutual

/-- The text spells the type, where packages go by some identifiers. -/
def GoType.Spells (goesBy : String → String → Prop) : GoType → String → Prop
  | .basic .unsafePointer, x => SpellsQualified goesBy "unsafe" "Pointer" x
  | .basic kind,           x => x = kind.name
  | .named n,              x => n.Spells goesBy x
  | .parameter name,       x => x = name
  | .pointer elem,         x => ∃ y, elem.Spells goesBy y ∧ x = "*" ++ y
  | .slice elem,           x => ∃ y, elem.Spells goesBy y ∧ x = "[]" ++ y
  | .array length elem,    x =>
    ∃ l y, length.Spells goesBy l ∧ elem.Spells goesBy y ∧ x = "[" ++ l ++ "]" ++ y
  | .map key value,        x =>
    ∃ k v, key.Spells goesBy k ∧ value.Spells goesBy v ∧ x = "map[" ++ k ++ "]" ++ v
  | .channel dir elem,     x => ∃ y, elem.Spells goesBy y ∧ x = channelText dir elem y
  | .function signature,   x => ∃ y, signature.Spells goesBy y ∧ x = "func" ++ y
  | .struct fields,        x => ∃ ys, SpellFields goesBy fields ys ∧ x = braced "struct" ys
  | .interface methods es, x =>
    ∃ ys zs, SpellMethods goesBy methods ys ∧ SpellTypes goesBy es zs ∧
      x = braced "interface" (ys ++ zs)
  | .union terms,          x => ∃ ys, SpellTerms goesBy terms ys ∧ x = " | ".intercalate ys

/-- The texts spell the types, one after the other. -/
def SpellTypes (goesBy : String → String → Prop) : List GoType → List String → Prop
  | [],      xs => xs = []
  | t :: ts, xs => ∃ y ys, t.Spells goesBy y ∧ SpellTypes goesBy ts ys ∧ xs = y :: ys

/-- The text spells the declared type with its arguments. -/
def NamedType.Spells (goesBy : String → String → Prop) : NamedType → String → Prop
  | ⟨package, name, arguments⟩, x =>
    ∃ base ys, SpellsBase goesBy package name base ∧ SpellTypes goesBy arguments ys ∧
      x = base ++ bracketed ys

/-- The text spells the parameters and the results. -/
def Signature.Spells (goesBy : String → String → Prop) : Signature → String → Prop
  | ⟨params, results, variadic⟩, x =>
    ∃ ps rs, SpellValues goesBy params ps ∧ SpellValues goesBy results rs ∧
      x = typesSignature ps rs variadic

/-- The texts spell the types of the values. -/
def SpellValues (goesBy : String → String → Prop) : List Value → List String → Prop
  | [],             xs => xs = []
  | ⟨_, t⟩ :: rest, xs => ∃ y ys, t.Spells goesBy y ∧ SpellValues goesBy rest ys ∧ xs = y :: ys

/-- The texts spell the fields, with their names and tags. -/
def SpellFields (goesBy : String → String → Prop) : List Field → List String → Prop
  | [],                     xs => xs = []
  | ⟨name, t, tag⟩ :: rest, xs =>
    ∃ y ys, t.Spells goesBy y ∧ SpellFields goesBy rest ys ∧ xs = fieldText name y tag :: ys

/-- The texts spell the methods, each behind its name. -/
def SpellMethods (goesBy : String → String → Prop) : List MethodSpec → List String → Prop
  | [],                xs => xs = []
  | ⟨name, s⟩ :: rest, xs =>
    ∃ y ys, s.Spells goesBy y ∧ SpellMethods goesBy rest ys ∧ xs = (name ++ y) :: ys

/-- The texts spell the terms, each behind its tilde. -/
def SpellTerms (goesBy : String → String → Prop) : List Term → List String → Prop
  | [],                 xs => xs = []
  | ⟨tilde, t⟩ :: rest, xs =>
    ∃ y ys, t.Spells goesBy y ∧ SpellTerms goesBy rest ys ∧ xs = termText tilde y :: ys

end

/-- Of the basic types, only one is written with a package. -/
theorem GoType.cases_of_spells_basic {goesBy : String → String → Prop} {kind : BasicKind}
    {x : String} (h : (GoType.basic kind).Spells goesBy x) :
    (kind = .unsafePointer ∧ SpellsQualified goesBy "unsafe" "Pointer" x) ∨
      (kind ≠ .unsafePointer ∧ x = kind.name) := by
  cases kind with
  | unsafePointer => exact .inl ⟨rfl, h⟩
  | _ => exact .inr ⟨nofun, h⟩

theorem bracketed_nil : bracketed [] = "" := rfl

/-- A keyword stands in front of the braces. -/
theorem braced_eq (keyword : String) (xs : List String) :
    braced keyword xs = keyword ++ braced "" xs := by
  simp only [braced]
  split <;> simp [← String.toList_inj]

/-- A brace ends a word. -/
theorem endsWord_braced (xs : List String) (p : List Char) :
    EndsWord ((braced "" xs).toList ++ p) := by
  rw [braced]
  split <;> simp [EndsWord, signs]

/-- Basic types have identifiers as names. -/
theorem BasicKind.isIdentifier_name (kind : BasicKind) : isIdentifier kind.name := by
  cases kind <;> decide

/-- A reference is a word or two with a point in between, with arguments behind it. -/
theorem GoType.cases_of_spells_reference {goesBy : String → String → Prop}
    (hq : ∀ path ident, goesBy path ident → isIdentifier ident) {t : GoType} {x : String}
    (hx : t.Spells goesBy x) (ht : t.isReference) (hlex : t.LexicalHere) :
    ∃ ys, (∃ w, isIdentifier w ∧ x = w ++ bracketed ys) ∨
      ∃ ident w, isIdentifier ident ∧ x = ident ++ "." ++ w ++ bracketed ys := by
  cases t with
  | basic kind =>
    obtain ⟨-, ident, hident, rfl⟩ | ⟨-, rfl⟩ := GoType.cases_of_spells_basic hx
    · exact ⟨[], .inr ⟨ident, "Pointer", hq _ _ hident, by simp [bracketed_nil]⟩⟩
    · exact ⟨[], .inl ⟨_, kind.isIdentifier_name, by simp [bracketed_nil]⟩⟩
  | parameter w =>
    obtain rfl : x = w := hx
    exact ⟨[], .inl ⟨x, hlex, by simp [bracketed_nil]⟩⟩
  | named n =>
    obtain ⟨package, w, ts⟩ := n
    obtain ⟨base, ys, hbase, -, rfl⟩ := hx
    cases package with
    | none =>
      obtain rfl : base = w := hbase
      exact ⟨ys, .inl ⟨base, hlex, rfl⟩⟩
    | some path =>
      obtain ⟨ident, hident, rfl⟩ := hbase
      exact ⟨ys, .inr ⟨ident, w, hq _ _ hident, rfl⟩⟩
  | _ => exact nomatch ht

end GoMocks

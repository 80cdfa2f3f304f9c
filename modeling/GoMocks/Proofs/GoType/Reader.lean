import GoMocks.GoType.Predeclared
import GoMocks.Proofs.GoSource.Literal
import GoMocks.Resolver
import GoMocks.Scope

/-!
# Go types — reading a type back

A reader of the types that resolvers write, without a look at what wrote them. It decides what to
read by the next few characters and never goes back.

* `Reader.readType`: reads a type, where a function tells the package behind an identifier. Its
  number bounds the depth of the type and the length of every list in it.
* `EndsType`, `EndsMember`: what can follow a type, and what can follow a member between braces.
* `Reader.ReadsBefore`: in front of some texts, a reader reads a given text.
-/

namespace GoMocks

open Text (isIdentifierStart isIdentifierPart)
open Resolver

/-- What is read is taken off the front of a text. -/
abbrev Reader := StateT (List Char) Option

namespace Reader

variable {α : Type}

/-! ### Readers -/

/-- Passes over a text if it comes next, and says whether it does. -/
def accept (x : String) : Reader Bool := fun cs =>
  if x.toList <+: cs then some (true, cs.drop x.toList.length) else some (false, cs)

/-- Passes over a text that has to come next. -/
def expect (x : String) : Reader Unit := fun cs =>
  if x.toList <+: cs then some ((), cs.drop x.toList.length) else none

/-- Says what holds of the text that is left. -/
def next (p : List Char → Bool) : Reader Bool := fun cs =>
  some (p cs, cs)

/-- The letters, digits and underscores that come next. -/
def word : Reader String := fun cs =>
  some (.ofList (cs.takeWhile isIdentifierPart), cs.dropWhile isIdentifierPart)

/-- A string literal. -/
def stringLiteral : Reader String := fun cs =>
  match GoSource.Token.scan cs with
  | some (.string, rest) => some (.ofList (cs.take (cs.length - rest.length)), rest)
  | _                    => none

/-- At least one item, and no more than some number of them, with a separator in between. -/
def sepBy (item : Reader α) (separator : String) : Nat → Reader (List α)
  | 0     => failure
  | n + 1 => do
    let a ← item
    if ← accept separator then return a :: (← sepBy item separator n)
    else return [a]

/-! ### What comes next -/

/-- A type starts here. -/
def startsType : List Char → Bool
  | c :: _ => c == '*' || c == '[' || c == '<' || isIdentifierStart c
  | []     => false

/-- A string literal starts here. -/
def startsString : List Char → Bool
  | c :: _ => c == '"' || c == GoSource.Literal.rawQuote
  | []     => false

/-- A blank comes first. -/
def afterBlank (p : List Char → Bool) : List Char → Bool
  | ' ' :: cs => p cs
  | _         => false

/-- A name with its type behind it comes next. -/
def labelledNext (cs : List Char) : Bool :=
  afterBlank startsType (cs.dropWhile isIdentifierPart)

/-- A name with a signature behind it comes next. -/
def methodNext (cs : List Char) : Bool :=
  !goKeywords.contains (.ofList (cs.takeWhile isIdentifierPart)) &&
    (cs.dropWhile isIdentifierPart).head? == some '('

/-! ### Types -/

/-- What a type begins with. -/
inductive Lead
  | star | bracket | arrow
  | word (text : String)

/-- What a type begins with. -/
def lead : Reader Lead
  | '*' :: cs => some (.star, cs)
  | '[' :: cs => some (.bracket, cs)
  | '<' :: cs => some (.arrow, cs)
  | cs        => (word cs).map fun r => (.word r.1, r.2)

section

variable (pathOf : String → String) (n : Nat) (type : Reader GoType)

/-- The length of an array type. -/
def arrayLength : Reader ArrayLength := do
  let w ← word
  if ← accept "." then return .constant (pathOf w) (← word) else return .literal w

/-- A parameter, and whether dots stand before it. -/
def param : Reader (Bool × Value) := do
  let dots ← accept "..."
  return (dots, ⟨"", ← type⟩)

/-- Parameters between parentheses, each with whether it has dots. -/
def params : Reader (List (Bool × Value)) := do
  expect "("
  if ← accept ")" then return []
  else
    let ps ← sepBy (param type) ", " n
    expect ")"
    return ps

/-- A result by itself. -/
def result : Reader Value := do
  return ⟨"", ← type⟩

/-- Results stand in parentheses, or there is a single one behind a blank, or there is none. -/
def results : Reader (List Value) := do
  if ← accept " (" then
    let rs ← sepBy (result type) ", " n
    expect ")"
    return rs
  else if ← next (afterBlank startsType) then
    expect " "
    return [← result type]
  else return []

/-- Parameters and results. -/
def signature : Reader Signature := do
  let ps ← params n type
  let rs ← results n type
  return ⟨ps.map (·.2), rs, ps.any (·.1)⟩

/-- Members between braces. -/
def members {α : Type} (member : Reader α) : Reader (List α) := do
  expect "\x7b"
  if ← accept "\x7d" then return []
  else
    expect " "
    let ms ← sepBy member "; " n
    expect " \x7d"
    return ms

/-- The name in front of the type of a field, if there is one. -/
def label : Reader (Option String) := do
  if ← next labelledNext then
    let name ← word
    expect " "
    return some name
  else return none

/-- The tag behind a field, if there is one. -/
def tag : Reader (Option String) := do
  if ← next (afterBlank startsString) then
    expect " "
    return some (← stringLiteral)
  else return none

/-- A field with its name and its tag. -/
def field : Reader Field := do
  let name ← label
  let t ← type
  return ⟨name, t, ← tag⟩

/-- A term of a type set. -/
def term : Reader Term := do
  let tilde ← accept "~"
  return ⟨tilde, ← type⟩

/-- A method of an interface type, or an embedded type. -/
def member : Reader (MethodSpec ⊕ GoType) := do
  if ← next methodNext then
    let name ← word
    return .inl ⟨name, ← signature n type⟩
  else
    return .inr (Scope.typeOfTerms (← sepBy (term type) " | " n))

/-- The methods and the embedded types of an interface type. -/
def interfaceOf (ms : List (MethodSpec ⊕ GoType)) : GoType :=
  .interface (ms.filterMap Sum.getLeft?) (ms.filterMap Sum.getRight?)

/-- The type that a name stands for. -/
def typeNamed : Option String → String → List GoType → GoType
  | some "unsafe", "Pointer", []        => .basic .unsafePointer
  | none,          name,      []        => (GoType.predeclared? name).getD (.parameter name)
  | package,       name,      arguments => .named ⟨package, name, arguments⟩

/-- Type arguments between brackets, if there are any. -/
def arguments : Reader (List GoType) := do
  if ← accept "[" then
    let ts ← sepBy type ", " n
    expect "]"
    return ts
  else return []

/-- A name, perhaps of a package, with its type arguments; the first word of it is known. -/
def reference (w : String) : Reader GoType := do
  if ← accept "." then
    let name ← word
    return typeNamed (some (pathOf w)) name (← arguments n type)
  else return typeNamed none w (← arguments n type)

/-- A channel type behind its first word. -/
def channel : Reader GoType := do
  if ← accept "<- " then return .channel .send (← type)
  else
    expect " "
    if ← accept "(" then
      let elem ← type
      expect ")"
      return .channel .both elem
    else return .channel .both (← type)

/-- A type whose first word is known. -/
def typeAfter (w : String) : Reader GoType :=
  match w with
  | "map" => do
    expect "["
    let key ← type
    expect "]"
    return .map key (← type)
  | "chan"      => channel type
  | "func"      => return .function (← signature n type)
  | "struct"    => return .struct (← members n (field type))
  | "interface" => return interfaceOf (← members n (member n type))
  | w           => reference pathOf n type w

/-- A type, where a reader for the types in it is given. -/
def typeBy : Reader GoType := do
  match ← lead with
  | .star => return .pointer (← type)
  | .bracket =>
    if ← accept "]" then return .slice (← type)
    else
      let length ← arrayLength pathOf
      expect "]"
      return .array length (← type)
  | .arrow =>
    expect "-chan "
    return .channel .receive (← type)
  | .word w => typeAfter pathOf n type w

end

/-- Reads a type. -/
def readType (pathOf : String → String) : Nat → Reader GoType
  | 0     => failure
  | n + 1 => typeBy pathOf n (readType pathOf n)

end Reader

/-! ### What follows -/

/-- What can follow a type: nothing, a sign that closes or goes on, or a blank with a brace, a bar
or a quote behind it. -/
inductive EndsType : List Char → Prop
  | nil : EndsType []
  | sign {c : Char} {cs : List Char} (h : c ∈ [']', ',', ')', ';']) : EndsType (c :: cs)
  | blank {c : Char} {cs : List Char} (h : c ∈ ['\x7d', '|', '"', GoSource.Literal.rawQuote]) :
      EndsType (' ' :: c :: cs)

/-- What can follow a field, a method or an embedded type. -/
inductive EndsMember : List Char → Prop
  | semicolon {cs : List Char} : EndsMember (';' :: cs)
  | brace {cs : List Char} : EndsMember (' ' :: '\x7d' :: cs)

theorem EndsMember.endsType {p : List Char} (h : EndsMember p) : EndsType p := by
  cases h with
  | semicolon => exact .sign (by decide)
  | brace     => exact .blank (by decide)

namespace EndsType

variable {p : List Char}

/-- What ends a type ends a word. -/
theorem endsWord (h : EndsType p) : EndsWord p := by
  cases h with
  | nil     => exact nofun
  | sign h  =>
    simp only [List.mem_cons, List.not_mem_nil, or_false] at h
    rcases h with rfl | rfl | rfl | rfl <;> simp [EndsWord, signs]
  | blank _ => simp [EndsWord, signs]

/-- No name, no arguments and no results go on where a type has ended. -/
theorem stops (h : EndsType p) :
    ¬ ['.'] <+: p ∧ ¬ ['['] <+: p ∧ ¬ [' ', '('] <+: p ∧
      Reader.afterBlank Reader.startsType p = false := by
  cases h with
  | nil     => simp [Reader.afterBlank]
  | sign h  =>
    simp only [List.mem_cons, List.not_mem_nil, or_false] at h
    rcases h with rfl | rfl | rfl | rfl <;> simp [Reader.afterBlank]
  | blank h =>
    simp only [List.mem_cons, List.not_mem_nil, or_false] at h
    rcases h with rfl | rfl | rfl | rfl <;> simp [Reader.afterBlank, Reader.startsType] <;> decide

end EndsType

namespace Reader

variable {α : Type} {p : List Char} {x : String} {xs : List String} {n : Nat}

/-! ### Running readers -/

@[simp] theorem run_accept (x : String) (cs : List Char) :
    (accept x).run cs =
      if x.toList <+: cs then some (true, cs.drop x.toList.length) else some (false, cs) := rfl

@[simp] theorem run_expect (x : String) (cs : List Char) :
    (expect x).run cs = if x.toList <+: cs then some ((), cs.drop x.toList.length) else none := rfl

@[simp] theorem run_next (test : List Char → Bool) (cs : List Char) :
    (next test).run cs = some (test cs, cs) := rfl

theorem run_word {w : String} (hw : IsWord w) (hp : EndsWord p) :
    word.run (w.toList ++ p) = some (w, p) := by
  change some (_, _) = _
  rw [hw.takeWhile_append hp, hw.dropWhile_append hp, String.ofList_toList]

/-- A word is read as the lead of a type. -/
theorem run_lead_word {w : String} (hw : IsWord w) (hp : EndsWord p) :
    lead.run (w.toList ++ p) = some (.word w, p) := by
  obtain ⟨c, cs, hcs, hc⟩ := hw.head_not_sign
  have hword := run_word hw hp
  rw [hcs, List.cons_append] at hword ⊢
  change lead _ = _
  rw [lead]
  · exact congrArg (Option.map fun r : String × List Char => (Lead.word r.1, r.2)) hword
  all_goals
    rintro _ ⟨⟩
    exact hc (by decide)

/-- A literal is read whole. -/
theorem run_stringLiteral (hx : GoSource.IsString x) :
    stringLiteral.run (x.toList ++ p) = some (x, p) := by
  change (match GoSource.Token.scan (x.toList ++ p) with
    | some (.string, rest) => some (String.ofList ((x.toList ++ p).take
        ((x.toList ++ p).length - rest.length)), rest)
    | _ => none) = _
  simp [hx.scan_append p]

/-- In front of some texts, the reader reads the given text. -/
def ReadsBefore (ends : List Char → Prop) (m : Reader α) (x : String) (a : α) : Prop :=
  ∀ p, ends p → m.run (x.toList ++ p) = some (a, p)

/-- Items are read one after the other, up to where no separator follows. -/
theorem run_sepBy (separator : String) {ends : List Char → Prop} {item : Reader α} {as : List α}
    (h : List.Forall₂ (ReadsBefore ends item) xs as) (hne : xs ≠ []) (hn : xs.length ≤ n)
    (hsep : ∀ q, ends (separator.toList ++ q)) (hp : ends p) (hstop : ¬ separator.toList <+: p) :
    (sepBy item separator n).run ((separator.intercalate xs).toList ++ p) = some (as, p) := by
  induction h generalizing n with
  | nil => exact absurd rfl hne
  | @cons x a xs as hx hxs ih =>
    obtain ⟨n, rfl⟩ : ∃ m, n = m + 1 := ⟨n - 1, by simp at hn; omega⟩
    cases hxs with
    | nil =>
      have hrun := hx p hp
      simp [sepBy, hrun, hstop]
    | @cons y b ys bs hy hys =>
      have hrun := hx _ (hsep ((separator.intercalate (y :: ys)).toList ++ p))
      have hrest := ih nofun (by simpa using hn)
      simp [sepBy, String.intercalate_cons_cons, -String.toList_intercalate, hrun, hrest]

end Reader

end GoMocks

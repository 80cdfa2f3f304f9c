import GoMocks.GoType

/-!
# Go types — their text

The spelling of a type in messages: every named type carries the full import path of its package.
It also names an instance of a generic type, since type arguments are part of it.
-/

namespace GoMocks

/-- Texts between two brackets, separated by a comma and a space; nothing for no text. -/
def bracketed (texts : List String) : String :=
  if texts.isEmpty then "" else "[" ++ ", ".intercalate texts ++ "]"

/-- A name and what it names; no name leaves no space. -/
def labelled (name text : String) : String :=
  if name.isEmpty then text else name ++ " " ++ text

/-- Puts `...` before the last of the texts. -/
def markVariadic : List String → List String
  | []        => []
  | [t]       => ["..." ++ t]
  | t :: rest => t :: markVariadic rest

/-- The result part of a signature: one unnamed result stands alone, others in parentheses. -/
def resultText : List (String × String) → String
  | []         => ""
  | [("", t)]  => " " ++ t
  | results    => " (" ++ ", ".intercalate (results.map fun r => labelled r.1 r.2) ++ ")"

/-- A signature, from the names and the texts of its parameters and results. -/
def signatureText (params results : List (String × String)) (variadic : Bool) : String :=
  let types := params.map (·.2)
  let marked := if variadic then markVariadic types else types
  let texts := ((params.map (·.1)).zip marked).map fun p => labelled p.1 p.2
  "(" ++ ", ".intercalate texts ++ ")" ++ resultText results

mutual

/-- The type with fully qualified names. -/
def GoType.text : GoType → String
  | .basic .unsafePointer              => "unsafe.Pointer"
  | .basic kind                        => kind.name
  | .named n                           => n.text
  | .parameter name                    => name
  | .pointer elem                      => "*" ++ elem.text
  | .slice elem                        => "[]" ++ elem.text
  | .array (.literal n) elem           => "[" ++ n ++ "]" ++ elem.text
  | .array (.constant package name) elem => "[" ++ package ++ "." ++ name ++ "]" ++ elem.text
  | .map key value                     => "map[" ++ key.text ++ "]" ++ value.text
  | .channel .both elem                => "chan " ++ elem.text
  | .channel .send elem                => "chan<- " ++ elem.text
  | .channel .receive elem             => "<-chan " ++ elem.text
  | .function signature                => "func" ++ signature.text
  | .struct []                         => "struct\x7b\x7d"
  | .struct fields                     => "struct\x7b " ++ "; ".intercalate (fieldTexts fields) ++ " \x7d"
  | .interface [] []                   => "interface\x7b\x7d"
  | .interface methods embeds          =>
    "interface\x7b " ++ "; ".intercalate (methodTexts methods ++ typeTexts embeds) ++ " \x7d"
  | .union terms                       => " | ".intercalate (termTexts terms)

/-- The texts of some types. -/
def typeTexts : List GoType → List String
  | []      => []
  | t :: ts => t.text :: typeTexts ts

/-- The name with its package and its arguments. -/
def NamedType.text : NamedType → String
  | ⟨none, name, arguments⟩         => name ++ bracketed (typeTexts arguments)
  | ⟨some package, name, arguments⟩ => package ++ "." ++ name ++ bracketed (typeTexts arguments)

/-- The text of parameters and results. -/
def Signature.text : Signature → String
  | ⟨params, results, variadic⟩ => signatureText (valueTexts params) (valueTexts results) variadic

/-- The names of values with the texts of their types. -/
def valueTexts : List Value → List (String × String)
  | []                => []
  | ⟨name, t⟩ :: rest => (name, t.text) :: valueTexts rest

/-- The texts of fields; their tags are not shown. -/
def fieldTexts : List Field → List String
  | []                        => []
  | ⟨none, t, _⟩ :: rest      => t.text :: fieldTexts rest
  | ⟨some name, t, _⟩ :: rest => (name ++ " " ++ t.text) :: fieldTexts rest

/-- The texts of methods, each with its name in front. -/
def methodTexts : List MethodSpec → List String
  | []                => []
  | ⟨name, s⟩ :: rest => (name ++ s.text) :: methodTexts rest

/-- The texts of terms, each with its tilde in front. -/
def termTexts : List Term → List String
  | []                 => []
  | ⟨tilde, t⟩ :: rest => ((if tilde then "~" else "") ++ t.text) :: termTexts rest

end

end GoMocks

/-!
# Fresh names

The first of a sequence of candidates that is not taken. Where the candidates differ, one more of
them than there are taken names always holds a free one.
-/

namespace GoMocks

/-- The first candidate that is not taken, among one more than there are taken names. -/
def firstFresh? (taken : List String) (candidate : Nat → String) : Option String :=
  ((List.range (taken.length + 1)).map candidate).find? fun name => !taken.contains name

end GoMocks

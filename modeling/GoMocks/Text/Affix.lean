/-!
# Text — fronts and ends

Cutting a given text off the front or the end of another.
-/

namespace GoMocks.Text

/-- What follows a text at the front of another. -/
def afterFront? (front : List Char) (cs : List Char) : Option (List Char) :=
  if front.isPrefixOf cs then some (cs.drop front.length) else none

/-- What stands before a text at the end of another. -/
def beforeEnd? (tail : List Char) (cs : List Char) : Option (List Char) :=
  if tail.isSuffixOf cs then some (cs.take (cs.length - tail.length)) else none

end GoMocks.Text

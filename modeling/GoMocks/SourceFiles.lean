/-!
# Source files

Which files of a directory belong to its package.
-/

namespace GoMocks

/-- Is the name that of a Go source file that is built, and no test? -/
def isGoSource (name : String) : Bool :=
  let cs := name.toList
  ".go".toList.isSuffixOf cs && !"_test.go".toList.isSuffixOf cs &&
    cs.head? != some '.' && cs.head? != some '_'

end GoMocks

import ShellGuard.Text.Basic

/-!
# Paths — names of files, as they are written
-/

namespace ShellGuard

abbrev Path := Text

namespace Path

def isAbsolute (p : Path) : Bool :=
  p.head? = some '/'

/-- The path of a name in a directory; an absolute name stays as it is. -/
def join (directory name : Path) : Path :=
  if isAbsolute name then name
  else if directory = [] ∨ directory.getLast? = some '/' then directory ++ name
  else directory ++ '/' :: name

def names (p : Path) : List Text :=
  (p.splitOn '/').filter fun name => name ≠ []

end Path

end ShellGuard

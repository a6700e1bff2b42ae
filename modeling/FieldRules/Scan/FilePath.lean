import FieldRules.Text.Basic

/-!
# File paths

A path is a text, and is shown as it was given.  Two paths are compared by their components,
though: repeated separators, single dots inside and separators at the end do not count.
-/

namespace FieldRules

structure FilePath where
  text : Text
deriving Repr, DecidableEq

namespace FilePath

inductive Component where
  | root
  /-- The directory from which the path starts, named by a dot. -/
  | current
  | parent
  | name (text : Text)
deriving Repr, DecidableEq

namespace Component

def rank : Component → Nat
  | root => 0
  | current => 1
  | parent => 2
  | name _ => 3

protected def compare : Component → Component → Ordering
  | name a, name b => Text.compare a b
  | a, b => Ord.compare a.rank b.rank

def text : Component → Text
  | root => []
  | current => ['.']
  | parent => ['.', '.']
  | name text => text

end Component

def pieces : Text → List Text
  | [] => [[]]
  | c :: rest =>
    if c = '/' then [] :: pieces rest
    else
      match pieces rest with
      | [] => [[c]]
      | first :: more => (c :: first) :: more

/-- The component that a piece stands for.  An empty piece and a single dot stand for none. -/
def component? (piece : Text) : Option Component :=
  if piece = [] ∨ piece = ['.'] then none
  else if piece = ['.', '.'] then some .parent
  else some (.name piece)

def isAbsolute (path : FilePath) : Bool := path.text.head? == some '/'

def components (path : FilePath) : List Component :=
  let steps := (pieces path.text).filterMap component?
  if path.isAbsolute then .root :: steps
  else if (pieces path.text).head? = some ['.'] then .current :: steps
  else steps

/-- The first difference decides, and a list comes before its continuations. -/
def compareComponents : List Component → List Component → Ordering
  | [], [] => .eq
  | [], _ :: _ => .lt
  | _ :: _, [] => .gt
  | a :: s, b :: t => (a.compare b).then (compareComponents s t)

protected def compare (a b : FilePath) : Ordering :=
  compareComponents a.components b.components

def same (a b : FilePath) : Bool := a.components == b.components

def join (directory : FilePath) (name : Text) : FilePath :=
  if directory.text = [] ∨ directory.text.getLast? = some '/' then ⟨directory.text ++ name⟩
  else ⟨directory.text ++ '/' :: name⟩

/-- The path as seen from the top of the file system, for a program that runs in the given
directory.  Steps upwards stay, since links may lead elsewhere, and so does a separator at the
end, since it asks for a directory. -/
def absolute (workingDirectory path : FilePath) : FilePath :=
  let steps := (path.components.filter fun step => step ≠ .root ∧ step ≠ .current).map
    Component.text
  let start : FilePath :=
    if path.isAbsolute then
      if path.text.take 2 = ['/', '/'] ∧ path.text.take 3 ≠ ['/', '/', '/'] then ⟨['/', '/']⟩
      else ⟨['/']⟩
    else workingDirectory
  let whole := steps.foldl join start
  if path.text.getLast? = some '/' then whole.join [] else whole

end FilePath
end FieldRules

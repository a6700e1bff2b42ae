import FieldRules.Scan.FilePath

/-!
# File trees

A file tree is what is found at a place of a file system: a file with its text, a directory with
its entries, or something else.
-/

namespace FieldRules

inductive FileTree where
  /-- A regular file, with its text or the reason why there is none to read. -/
  | file (content : Except Text Text)
  | directory (entries : List (Text × FileTree))
  /-- A directory whose entries cannot be listed, with the reason. -/
  | sealed (reason : Text)
  | link (target : FilePath)
  | special

namespace FileTree

def ofBytes (bytes : ByteArray) : FileTree :=
  match String.fromUTF8? bytes with
  | some content => .file (.ok content.toList)
  | none => .file (.error "stream did not contain valid UTF-8".toList)

def entry? (name : Text) : FileTree → Option FileTree
  | .directory entries => (entries.find? fun entry => entry.1 = name).map Prod.snd
  | _ => none

def setEntry (directory : FileTree) (name : Text) (tree : FileTree) : FileTree :=
  match directory with
  | .directory entries =>
    if entries.any fun entry => entry.1 = name then
      .directory (entries.map fun entry => if entry.1 = name then (name, tree) else entry)
    else .directory (entries ++ [(name, tree)])
  | _ => .directory [(name, tree)]

/-- The tree with another tree put at a place below it.  Directories on the way are made if they
are missing. -/
def insert (tree : FileTree) : List Text → FileTree → FileTree
  | [], leaf => leaf
  | name :: rest, leaf =>
    tree.setEntry name (insert ((tree.entry? name).getD (.directory [])) rest leaf)

def isDirectory : FileTree → Bool
  | .directory _ => true
  | .sealed _ => true
  | _ => false

/-- What a path leads to from a directory.  The directories from the one at hand up to the top are
kept, the nearest first; links are followed, at most so many of them. -/
def follow? (top : FileTree) : Nat → List FileTree → List FilePath.Component → Option FileTree
  | _, [], [] => none
  | _, tree :: _, [] => some tree
  | _, [], _ :: _ => none
  | links, here :: above, step :: rest =>
    match step with
    | .root => follow? top links [top] rest
    | .current => follow? top links (here :: above) rest
    | .parent =>
      if here.isDirectory then follow? top links (if above.isEmpty then [here] else above) rest
      else none
    | .name name =>
      match links, here.entry? name with
      | links + 1, some (.link target) =>
        follow? top links (here :: above) (target.components ++ rest)
      | 0, some (.link _) => none
      | links, some tree => follow? top links (tree :: here :: above) rest
      | _, none => none
termination_by links _ steps => (links, steps.length)

def linkLimit : Nat := 40

def find? (top : FileTree) (path : FilePath) : Option FileTree :=
  if path.text = [] then none else follow? top linkLimit [top] path.components

end FileTree
end FieldRules

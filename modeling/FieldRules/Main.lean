import FieldRules.CommandLine

/-!
# The program

The outer layer of the command line: it looks at the file system and writes the answer.
-/

namespace FieldRules.Main

/-- What is found at a place.  Only what a scan with the standard configuration asks for is read:
links are followed at the top only, and directories that are skipped count as empty. -/
partial def load (place : IO.FS.DirEntry) (isTop : Bool) : IO FileTree := do
  let name := place.fileName.toList
  let path := place.path
  try
    let kind := (← if isTop then path.metadata else path.symlinkMetadata).type
    match kind with
    | .dir =>
      if !isTop && ScanConfig.standard.skipsDirectory name then return .directory []
      let entries ← path.readDir
      let trees ← entries.toList.mapM fun entry => do
        return (entry.fileName.toList, ← load entry false)
      return .directory trees
    | .file =>
      if isSourceName name && !ScanConfig.standard.isTestFile name then
        try return .ofBytes (← IO.FS.readBinFile path)
        catch failure => return .file (.error (toString failure).toList)
      else return .file (.ok [])
    | _ => return .special
  catch failure => return (if isTop then .special else .sealed (toString failure).toList)

def run (arguments : List String) : IO UInt32 := do
  let here ← IO.currentDir
  let workingDirectory : FilePath := ⟨here.toString.toList⟩
  let request := CommandLine.parse (arguments.map String.toList)
  let tree ← match request with
    | .scan options =>
      let root := options.root workingDirectory
      load ⟨here, String.ofList root.text⟩ true
    | _ => pure .special
  let answer := request.answer workingDirectory fun _ => some tree
  IO.print (String.ofList answer.out)
  IO.eprint (String.ofList answer.err)
  return answer.code.toUInt32

end FieldRules.Main

def main (arguments : List String) : IO UInt32 := FieldRules.Main.run arguments

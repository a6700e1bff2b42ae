import FieldRules.Scan.Analysis
import FieldRules.Scan.Fault
import FieldRules.Scan.FileTree
import FieldRules.Source.Parser.File
import FieldRules.Source.TestCode

/-!
# Scanning packages

A scan collects the source files of a package, apart from those for tests, reads them in the order
of their paths, and analyzes all of them together.  The first file that cannot be read ends it.
-/

namespace FieldRules

structure FoundFile where
  path : FilePath
  content : Except Text Text

/-- The name is that of a source file: it has a part before its ending. -/
def isSourceName (name : Text) : Bool :=
  match Text.dropEnd? ".rs".toList name with
  | some (_ :: _) => true
  | _ => false

namespace ScanConfig

mutual

def sourcesAt (config : ScanConfig) (path : FilePath) (name : Text) :
    FileTree → Except ScanFault (List FoundFile)
  | .file content =>
    if isSourceName name && !config.isTestFile name then .ok [⟨path, content⟩] else .ok []
  | .directory entries =>
    if config.skipsDirectory name then .ok [] else config.sourcesIn path entries
  | .sealed reason =>
    if config.skipsDirectory name then .ok [] else .error (.unreadable path reason)
  | .link _ => .ok []
  | .special => .ok []

def sourcesIn (config : ScanConfig) (directory : FilePath) :
    List (Text × FileTree) → Except ScanFault (List FoundFile)
  | [] => .ok []
  | (name, tree) :: rest =>
    match config.sourcesAt (directory.join name) name tree with
    | .error fault => .error fault
    | .ok found =>
      match config.sourcesIn directory rest with
      | .error fault => .error fault
      | .ok more => .ok (found ++ more)

end

def collect (config : ScanConfig) (root : FilePath) (entries : List (Text × FileTree)) :
    Except ScanFault (List FoundFile) :=
  (config.sourcesIn root entries).map fun files =>
    files.mergeSort fun a b => (a.path.compare b.path).isLE

end ScanConfig

def ParsedFile.ofText (path : FilePath) (source : Text) : Except ScanFault ParsedFile :=
  match Source.Outline.parse source with
  | .error position => .error (.syntaxError path position)
  | .ok outline => .ok ⟨path, outline.withoutTests⟩

def FoundFile.read (file : FoundFile) : Except ScanFault ParsedFile :=
  match file.content with
  | .error reason => .error (.unreadable file.path reason)
  | .ok source => ParsedFile.ofText file.path source

/-- The sources in files, up to the first file that cannot be read. -/
def readAll : List FoundFile → Except ScanFault (List ParsedFile)
  | [] => .ok []
  | file :: rest =>
    match file.read with
    | .error fault => .error fault
    | .ok parsed =>
      match readAll rest with
      | .error fault => .error fault
      | .ok more => .ok (parsed :: more)

def Report.ofSource (config : ScanConfig) (path : FilePath) (source : Text) :
    Except ScanFault Report :=
  match ParsedFile.ofText path source with
  | .error fault => .error fault
  | .ok parsed => .ok (Report.ofFiles config [parsed])

/-- The report on the package at a path, where `tree` is what the path leads to. -/
def Report.ofPackage (config : ScanConfig) (root : FilePath) (tree : Option FileTree) :
    Except ScanFault Report :=
  match tree with
  | some (.directory entries) =>
    match config.collect root entries with
    | .error fault => .error fault
    | .ok files => (readAll files).map (Report.ofFiles config)
  | some (.sealed reason) => .error (.unreadable root reason)
  | _ => .error (.notDirectory root)

end FieldRules

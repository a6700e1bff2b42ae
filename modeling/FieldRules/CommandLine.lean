import FieldRules.Scan.Package
import FieldRules.Scan.ReportText

/-!
# The command line

The program scans one package with the standard configuration and reports on it as text or as
JSON.  Its arguments say which package, and in which form.
-/

namespace FieldRules.CommandLine

inductive Format where
  | text
  | json
deriving Repr, DecidableEq

def Format.ofName? (name : Text) : Option Format :=
  if name = "text".toList then some .text
  else if name = "json".toList then some .json
  else none

structure Options where
  package : FilePath
  format : Format
  verbose : Bool
deriving Repr, DecidableEq

inductive Request where
  | scan (options : Options)
  | help
  | version
  | misuse
deriving Repr, DecidableEq

/-! ## Reading arguments -/

/-- The options that have been read so far.  None of them may come twice. -/
structure Seen where
  package : Option Text
  format : Option Format
  verbose : Bool
deriving Repr, DecidableEq

namespace Seen

def start : Seen := ⟨none, none, false⟩

def setPackage? (seen : Seen) (value : Text) : Option Seen :=
  if seen.package.isNone ∧ value ≠ [] then some { seen with package := some value } else none

def setFormat? (seen : Seen) (value : Text) : Option Seen :=
  match seen.format, Format.ofName? value with
  | none, some format => some { seen with format := some format }
  | _, _ => none

def setVerbose? (seen : Seen) : Option Seen :=
  if seen.verbose then none else some { seen with verbose := true }

def request (seen : Seen) : Request :=
  match seen.package with
  | some package => .scan ⟨⟨package⟩, seen.format.getD .text, seen.verbose⟩
  | none => .misuse

end Seen

inductive Reading where
  | next (seen : Seen)
  /-- The next argument is the value that is taken. -/
  | awaits (take : Text → Option Seen)
  | decided (request : Request)

namespace Reading

def ofSeen? : Option Seen → Reading
  | some seen => next seen
  | none => decided .misuse

def taking (take : Text → Option Seen) : Option Text → Reading
  | some value => ofSeen? (take value)
  | none => awaits take

end Reading

def readLong (seen : Seen) (name : Text) (value : Option Text) : Reading :=
  if name = "package".toList then .taking seen.setPackage? value
  else if name = "format".toList then .taking seen.setFormat? value
  else
    match value with
    | some _ => .decided .misuse
    | none =>
      if name = "verbose".toList then .ofSeen? seen.setVerbose?
      else if name = "help".toList then .decided .help
      else if name = "version".toList then .decided .version
      else .decided .misuse

def attachedValue : Text → Option Text
  | [] => none
  | '=' :: value => some value
  | value => some value

def readShort (seen : Seen) : Text → Reading
  | [] => .next seen
  | 'p' :: rest => .taking seen.setPackage? (attachedValue rest)
  | 'v' :: rest =>
    match seen.setVerbose? with
    | some seen => readShort seen rest
    | none => .decided .misuse
  | 'h' :: _ => .decided .help
  | 'V' :: _ => .decided .version
  | _ => .decided .misuse

def readArgument (seen : Seen) (argument : Text) : Reading :=
  match argument with
  | '-' :: '-' :: long =>
    match Text.splitOnce? '=' long with
    | some (name, value) => readLong seen name (some value)
    | none => readLong seen long none
  | '-' :: c :: rest => readShort seen (c :: rest)
  | _ => .decided .misuse

def isOption : Text → Bool
  | '-' :: _ :: _ => true
  | _ => false

/-- Reads arguments after those that have been seen.  Nothing may follow a pair of dashes, since
everything that can be asked for has a name. -/
def readArguments (seen : Seen) : List Text → Request
  | [] => seen.request
  | argument :: rest =>
    if argument = ['-', '-'] then (if rest.isEmpty then seen.request else .misuse)
    else
      match readArgument seen argument with
      | .decided request => request
      | .next seen => readArguments seen rest
      | .awaits take =>
        match rest with
        | [] => .misuse
        | value :: rest =>
          if isOption value then .misuse
          else
            match take value with
            | some seen => readArguments seen rest
            | none => .misuse

def parse (arguments : List Text) : Request := readArguments .start arguments

/-! ## Answers -/

structure Output where
  code : Nat
  out : Text
  err : Text
deriving Repr, DecidableEq

def unlines (lines : List Text) : Text := lines.flatMap fun line => line ++ ['\n']

def usageLine : Text := "Usage: tagrule-check [OPTIONS] --package <PACKAGE>".toList

def helpLines : List Text :=
  ["Validates tag annotations in a Rust package without running it".toList,
   [],
   usageLine,
   [],
   "Options:".toList,
   "  -p, --package <PACKAGE>  Package directory to validate".toList,
   "      --format <FORMAT>    Output format [default: text] [possible values: text, json]".toList,
   "  -v, --verbose            Log discovery and scanning progress to stderr".toList,
   "  -h, --help               Print help".toList,
   "  -V, --version            Print version".toList]

def versionLine : Text := "tagrule-check 0.1.0".toList

def showReport (format : Format) (report : Report) : Output :=
  let code := if report.isClean then 0 else 1
  match format with
  | .json => ⟨code, unlines [report.print], []⟩
  | .text =>
    if report.isClean then ⟨code, unlines ["All tags are valid".toList], []⟩
    else
      let count := (ScanFault.invalidTags report.errorCount).message
      ⟨code, [], unlines (report.diagnostics.map Diagnostic.display ++ [count])⟩

def Options.root (options : Options) (workingDirectory : FilePath) : FilePath :=
  FilePath.absolute workingDirectory options.package

def scan (format : Format) (root : FilePath) (tree : Option FileTree) : Output :=
  match Report.ofPackage .standard root tree with
  | .ok report => showReport format report
  | .error fault => ⟨1, [], unlines ["error: ".toList ++ fault.message]⟩

/-- Answers a request, for a program that runs in the given directory.  A path is looked up only if
a scan is asked for. -/
def Request.answer (workingDirectory : FilePath) (lookUp : FilePath → Option FileTree) :
    Request → Output
  | .scan options =>
    let root := options.root workingDirectory
    CommandLine.scan options.format root (lookUp root)
  | .help => ⟨0, unlines helpLines, []⟩
  | .version => ⟨0, unlines [versionLine], []⟩
  | .misuse => ⟨2, [], unlines [usageLine, [], "For more information, try '--help'.".toList]⟩

end FieldRules.CommandLine

import FieldRules.Scan.Problem
import FieldRules.Scan.Config
import FieldRules.Scan.Diagnostic
import FieldRules.Source.Contents
import FieldRules.Text.NameSet

/-!
# The analysis of parsed sources

First the names of rules are gathered that some file registers, by a call of a registering method
with a literal name.  Then every annotation of every struct field is checked against the built-in
names and these.
-/

namespace FieldRules

open Source (Attribute FieldDecl Outline StructDecl)

structure ParsedFile where
  path : FilePath
  outline : Outline
deriving Repr

def registrations (config : ScanConfig) (outline : Outline) : List Text :=
  (outline.methodCalls.filter fun call => config.isRegisterMethod call.method).filterMap
    Source.MethodCall.firstLiteral?

def customNames (config : ScanConfig) (files : List ParsedFile) : List Text :=
  Text.nameSet (files.flatMap fun file => registrations config file.outline)

/-- What an attribute of a field says: the annotation, and what is wrong with it. -/
def attributeProblems (config : ScanConfig) (custom : List Text) (attr : Attribute) :
    Text × List Text :=
  match attr.literal? with
  | some source => (source, annotationProblems custom source)
  | none =>
    (attr.argumentText,
      ['`' :: config.attributeName ++ "` attribute expects a single string literal".toList])

def annotationAttributes (config : ScanConfig) (field : FieldDecl) : List Attribute :=
  field.attributes.filter fun attr => attr.name = some config.attributeName

def fieldDiagnostics (config : ScanConfig) (custom : List Text) (path : FilePath) (record : Text)
    (field : FieldDecl) (index : Nat) : List Diagnostic :=
  (annotationAttributes config field).flatMap fun attr =>
    let (source, messages) := attributeProblems config custom attr
    messages.map fun message => {
      file := path
      line := field.position.line
      column := field.position.column
      record
      field := field.label index
      annotation := source
      message }

def structDiagnostics (config : ScanConfig) (custom : List Text) (path : FilePath)
    (decl : StructDecl) : List Diagnostic :=
  decl.fields.zipIdx.flatMap fun entry =>
    fieldDiagnostics config custom path decl.name entry.1 entry.2

def fileDiagnostics (config : ScanConfig) (custom : List Text) (file : ParsedFile) :
    List Diagnostic :=
  file.outline.structs.flatMap (structDiagnostics config custom file.path)

def Report.ofFiles (config : ScanConfig) (files : List ParsedFile) : Report :=
  let custom := customNames config files
  { filesScanned := files.length
    customValidators := custom
    diagnostics := Diagnostic.sort (files.flatMap (fileDiagnostics config custom)) }

end FieldRules

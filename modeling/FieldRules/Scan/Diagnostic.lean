import FieldRules.Scan.FilePath
import FieldRules.Text.Quoted

/-!
# Diagnostics and reports

A diagnostic says what is wrong with one annotation, and where the field stands that carries it.
Diagnostics are ordered by place.
-/

namespace FieldRules

structure Diagnostic where
  file : FilePath
  line : Nat
  column : Nat
  record : Text
  field : Text
  annotation : Text
  message : Text
deriving Repr, DecidableEq

namespace Diagnostic

def display (diagnostic : Diagnostic) : Text :=
  diagnostic.file.text ++ ':' :: Text.ofNat diagnostic.line ++ ':' :: Text.ofNat diagnostic.column
    ++ ": tag error in field ".toList ++ diagnostic.field.quoted
    ++ ": ".toList ++ diagnostic.message
    ++ " (tag: ".toList ++ diagnostic.annotation.quoted ++ ")".toList

/-- The order of diagnostics: by place, then by what they are about. -/
protected def compare (a b : Diagnostic) : Ordering :=
  (a.file.compare b.file).then <|
  (Ord.compare a.line b.line).then <|
  (Ord.compare a.column b.column).then <|
  (Text.compare a.record b.record).then <|
  (Text.compare a.field b.field).then <|
  (Text.compare a.annotation b.annotation).then <|
  Text.compare a.message b.message

/-- The diagnostics say the same, where paths count by their components. -/
def same (a b : Diagnostic) : Bool :=
  a.file.same b.file && a.line == b.line && a.column == b.column && a.record == b.record
    && a.field == b.field && a.annotation == b.annotation && a.message == b.message

def sort (diagnostics : List Diagnostic) : List Diagnostic :=
  diagnostics.mergeSort fun a b => (a.compare b).isLE

end Diagnostic

structure Report where
  filesScanned : Nat
  customValidators : List Text
  diagnostics : List Diagnostic
deriving Repr, DecidableEq

namespace Report

def isClean (report : Report) : Bool := report.diagnostics.isEmpty

def errorCount (report : Report) : Nat := report.diagnostics.length

end Report
end FieldRules

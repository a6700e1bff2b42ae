import FieldRules.Json.Printer
import FieldRules.Json.Reader
import FieldRules.Scan.Diagnostic

/-!
# Reports as JSON

A report is written as an object with its fields in a fixed order, and read back from any object
that holds these fields, or from their values in that order.
-/

namespace FieldRules

namespace Diagnostic

def fieldNames : List Text :=
  ["file", "line", "column", "record", "field", "annotation", "message"].map String.toList

def toJson (diagnostic : Diagnostic) : Json :=
  .object (fieldNames.zip
    [.string diagnostic.file.text, .number (Text.ofNat diagnostic.line),
     .number (Text.ofNat diagnostic.column), .string diagnostic.record,
     .string diagnostic.field, .string diagnostic.annotation, .string diagnostic.message])

def ofJson? (json : Json) : Option Diagnostic :=
  match json.fields? fieldNames with
  | some [file, line, column, record, field, annotation, message] => do
    return {
      file := ⟨← file.text?⟩
      line := ← line.natural?
      column := ← column.natural?
      record := ← record.text?
      field := ← field.text?
      annotation := ← annotation.text?
      message := ← message.text? }
  | _ => none

end Diagnostic

namespace Report

def fieldNames : List Text :=
  ["files_scanned", "custom_validators", "diagnostics"].map String.toList

def toJson (report : Report) : Json :=
  .object (fieldNames.zip
    [.number (Text.ofNat report.filesScanned), .array (report.customValidators.map .string),
     .array (report.diagnostics.map Diagnostic.toJson)])

def ofJson? (json : Json) : Option Report :=
  match json.fields? fieldNames with
  | some [filesScanned, customValidators, diagnostics] => do
    return {
      filesScanned := ← filesScanned.natural?
      customValidators := ← customValidators.listOf? Json.text?
      diagnostics := ← diagnostics.listOf? Diagnostic.ofJson? }
  | _ => none

def print (report : Report) : Text := report.toJson.print

def read? (t : Text) : Option Report := (Json.read? t).bind ofJson?

end Report
end FieldRules

import FieldRules.Scan.Package

/-!
# The check before a build

The check tells the build system on what it depends, scans the package, and turns every diagnostic
into a warning.  Annotations that are wrong make it fail.
-/

namespace FieldRules

structure LineWriter where
  /-- The number of bytes that there is room for, if it is limited. -/
  capacity : Option Nat
  written : Text
deriving Repr, DecidableEq

namespace LineWriter

def ofCapacity (capacity : Option Nat) : LineWriter := ⟨capacity, []⟩

/-- Writes a line if there is room for all of it; the flag tells whether it was written. -/
def writeLine (writer : LineWriter) (line : Text) : Bool × LineWriter :=
  match writer.capacity with
  | none => (true, { writer with written := writer.written ++ line ++ ['\n'] })
  | some capacity =>
    let whole := writer.written ++ line ++ ['\n']
    if Text.byteLength whole ≤ capacity then (true, { writer with written := whole })
    else (false, writer)

def writeLines (writer : LineWriter) : List Text → Bool × LineWriter
  | [] => (true, writer)
  | line :: rest =>
    match writer.writeLine line with
    | (true, next) => next.writeLines rest
    | (false, next) => (false, next)

end LineWriter

namespace BuildCheck

def environmentLine : Text :=
  "cargo:rerun-if-env-changed=".toList ++ ScanConfig.skipVariable

def directoryLine (root : FilePath) : Text := "cargo:rerun-if-changed=".toList ++ root.text

def warningLine (diagnostic : Diagnostic) : Text :=
  "cargo:warning=".toList ++ diagnostic.display

def writerFull : ScanFault := .unwritable "full".toList

/-- What a check leaves behind: the lines that it wrote, and its verdict.  The verdict holds no
report if the check is turned off. -/
structure Outcome where
  writer : LineWriter
  verdict : Except ScanFault (Option Report)

def conclude (writer : LineWriter) (report : Report) : Outcome :=
  match writer.writeLines (report.diagnostics.map warningLine) with
  | (false, writer) => ⟨writer, .error writerFull⟩
  | (true, writer) =>
    if report.isClean then ⟨writer, .ok (some report)⟩
    else ⟨writer, .error (.invalidTags report.errorCount)⟩

def scan (config : ScanConfig) (root : FilePath) (tree : Option FileTree) (writer : LineWriter) :
    Outcome :=
  match writer.writeLine (directoryLine root) with
  | (false, writer) => ⟨writer, .error writerFull⟩
  | (true, writer) =>
    match Report.ofPackage config root tree with
    | .error fault => ⟨writer, .error fault⟩
    | .ok report => conclude writer report

/-- Checks the package at a path, where `tree` is what the path leads to.  A check that is turned
off looks at nothing. -/
def run (config : ScanConfig) (root : FilePath) (tree : Option FileTree) (writer : LineWriter) :
    Outcome :=
  match writer.writeLine environmentLine with
  | (false, writer) => ⟨writer, .error writerFull⟩
  | (true, writer) => if config.skip then ⟨writer, .ok none⟩ else scan config root tree writer

end BuildCheck
end FieldRules

import FieldRules.Scan.FilePath
import FieldRules.Source.Tree

/-!
# What stops a scan

A scan that cannot be carried out ends with a fault.  What is wrong with annotations is no fault
of the scan; only a check before a build turns it into one.
-/

namespace FieldRules

inductive ScanFault where
  | unreadable (path : FilePath) (reason : Text)
  | syntaxError (path : FilePath) (position : Source.Position)
  | notDirectory (path : FilePath)
  | invalidTags (count : Nat)
  | unwritable (reason : Text)
deriving Repr, DecidableEq

namespace ScanFault

/-- The text of a fault.  That of a syntax error ends with the place: what the parser itself says
about the error, which follows behind a colon and a blank, is left out. -/
def message : ScanFault → Text
  | unreadable path reason => "failed to read ".toList ++ path.text ++ ": ".toList ++ reason
  | syntaxError path position =>
    "failed to parse ".toList ++ path.text ++ ": ".toList ++ Text.ofNat position.line
      ++ ':' :: Text.ofNat position.column
  | notDirectory path => "not a directory: ".toList ++ path.text
  | invalidTags count =>
    "found ".toList ++ Text.ofNat count ++ " tag validation errors".toList
  | unwritable reason => "failed to write build output: ".toList ++ reason

end ScanFault
end FieldRules

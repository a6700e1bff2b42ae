import FieldRules.Text.Blank

/-!
# What a scan looks at

The configuration of a scan: which attribute carries annotations, which methods register rules,
and which directories and files are for tests only.
-/

namespace FieldRules

structure ScanConfig where
  attributeName : Text
  /-- The methods whose first argument names a rule. -/
  registerMethods : List Text
  skipDirectories : List Text
  testFiles : List Text
  testSuffixes : List Text
  /-- The check that goes before a build does nothing. -/
  skip : Bool
deriving Repr, DecidableEq

namespace ScanConfig

def standard : ScanConfig where
  attributeName := "tag".toList
  registerMethods := ["register".toList, "register_validator".toList]
  skipDirectories := ["tests".toList, "benches".toList, "target".toList]
  testFiles := ["tests.rs".toList]
  testSuffixes := ["_test.rs".toList, "_tests.rs".toList]
  skip := false

def skipsDirectory (config : ScanConfig) (name : Text) : Bool :=
  name.head? == some '.' || config.skipDirectories.contains name

def isTestFile (config : ScanConfig) (name : Text) : Bool :=
  config.testFiles.contains name
    || config.testSuffixes.any fun suffix => (Text.dropEnd? suffix name).isSome

def isRegisterMethod (config : ScanConfig) (name : Text) : Bool :=
  config.registerMethods.contains name

def meansYes (value : Text) : Bool :=
  ["1".toList, "true".toList, "yes".toList].contains ((Text.trim value).map Char.toLower)

def skipVariable : Text := "TAGRULE_SKIP_CHECK".toList

def ofEnvironment (value : Option Text) : ScanConfig :=
  { standard with skip := value.any meansYes }

end ScanConfig
end FieldRules

import FieldRules.Source.Outline

/-!
# Code that is only built for tests

An item is test code if it carries a `test` attribute, or a `cfg` attribute whose condition can
hold only when the option `test` is set.  Test items, and test functions of implementations, are
taken out of an outline before anything is looked for in it.
-/

namespace FieldRules.Source

mutual

/-- The condition asks for the option `test`: it is that option, or a conjunction that contains
such a condition. -/
def Condition.requiresTest : Condition → Bool
  | .option name => name == "test".toList
  | .all parts => anyRequiresTest parts
  | _ => false

def anyRequiresTest : List Condition → Bool
  | [] => false
  | part :: rest => part.requiresTest || anyRequiresTest rest

end

def Attribute.marksTest (attr : Attribute) : Bool :=
  attr.name == some "test".toList
    || (attr.name == some "cfg".toList && attr.condition.any Condition.requiresTest)

def marksTest (attributes : List Attribute) : Bool := attributes.any Attribute.marksTest

def Node.isTest : Node → Bool
  | .item _ attributes _ => marksTest attributes
  | .member .method attributes _ => marksTest attributes
  | _ => false

mutual

def Node.withoutTests : Node → Node
  | .item kind attributes parts => .item kind attributes (withoutTestsAll parts)
  | .member kind attributes parts => .member kind attributes (withoutTestsAll parts)
  | .methodCall method receiver arguments =>
    .methodCall method (withoutTestsAll receiver) (withoutTestsAll arguments)
  | .string value => .string value
  | .code parts => .code (withoutTestsAll parts)

/-- Nodes without those that are test code, and without the test code inside the others. -/
def withoutTestsAll : List Node → List Node
  | [] => []
  | node :: rest =>
    if node.isTest then withoutTestsAll rest
    else node.withoutTests :: withoutTestsAll rest

end

def Outline.withoutTests (outline : Outline) : Outline := ⟨withoutTestsAll outline.nodes⟩

end FieldRules.Source

import FieldRules.Source.Outline

/-!
# What is found in an outline

The structs and the method calls of an outline, at any depth.  What is inside of another one
comes after it.
-/

namespace FieldRules.Source

structure MethodCall where
  method : Text
  arguments : List Node

/-- The value of the first argument of a call, if that is a string literal. -/
def MethodCall.firstLiteral? (call : MethodCall) : Option Text :=
  match call.arguments with
  | .string value :: _ => some value
  | _ => none

mutual

def Node.structs : Node → List StructDecl
  | .item (.struct decl) _ parts => decl :: structsIn parts
  | .item _ _ parts => structsIn parts
  | .member _ _ parts => structsIn parts
  | .methodCall _ receiver arguments => structsIn receiver ++ structsIn arguments
  | .string _ => []
  | .code parts => structsIn parts

def structsIn : List Node → List StructDecl
  | [] => []
  | node :: rest => node.structs ++ structsIn rest

end

mutual

def Node.methodCalls : Node → List MethodCall
  | .item _ _ parts => methodCallsIn parts
  | .member _ _ parts => methodCallsIn parts
  | .methodCall method receiver arguments =>
    ⟨method, arguments⟩ :: (methodCallsIn receiver ++ methodCallsIn arguments)
  | .string _ => []
  | .code parts => methodCallsIn parts

def methodCallsIn : List Node → List MethodCall
  | [] => []
  | node :: rest => node.methodCalls ++ methodCallsIn rest

end

def Outline.structs (outline : Outline) : List StructDecl := structsIn outline.nodes

def Outline.methodCalls (outline : Outline) : List MethodCall := methodCallsIn outline.nodes

end FieldRules.Source

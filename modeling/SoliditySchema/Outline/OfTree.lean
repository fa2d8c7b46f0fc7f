/-
  SoliditySchema.Outline.OfTree — the outline of a source tree.

  A type is built in, or the dotted path of a declared type, or an array of such, or a mapping or a
  function; any other expression is no type. A function without a name is named after its keyword, if it
  has one; modifiers are ignored.

  Two kinds of statements declare variables: a declaration, and an assignment to a list in which some
  entry has a name, as in `(uint a, , address b) = f();`. An assignment to a list without names goes to
  variables that exist already.
-/

import SoliditySchema.Outline
import SoliditySchema.SourceTree

namespace SoliditySchema

/-- The full spelling of a built-in type. -/
def BuiltinType.spelling : BuiltinType → String
  | .address => "address"
  | .addressPayable => "address"
  | .payable => "address"
  | .bool => "bool"
  | .string => "string"
  | .dynamicBytes => "bytes"
  | .sized type => type.spelling

/-- The dotted path that an expression spells, if it spells one. -/
def Expression.path? : Expression → Option String
  | .variable name => some name.text
  | .member base name => base.path?.map fun path => path ++ "." ++ name.text
  | _ => none

namespace TypeRef

/-- The declared type that an expression is. -/
def ofExpression : Expression → TypeRef
  | .builtin type => .builtin type.spelling
  | .mapping _ _ => .mapping
  | .functionType _ _ => .function
  | .subscript base _ => .array (ofExpression base)
  | .variable name => .declared name.text
  | .member base name =>
    match (Expression.member base name).path? with
    | some path => .declared path
    | none => .other
  | _ => .other

end TypeRef

namespace Outline

/-- The text of a name, or nothing. -/
def nameText (name : Option Identifier) : String := (name.map Identifier.text).getD ""

/-- A declaration as a variable. -/
def Variable.ofDeclaration (d : Declaration) : Variable := ⟨nameText d.name, TypeRef.ofExpression d.type⟩

/-- The slot of a list entry: empty unless the entry has a name. -/
def slotOfEntry (entry : Option Declaration) : Option Variable :=
  (entry.filter fun d => d.name.isSome).map Variable.ofDeclaration

namespace Statement

/-- A list entry with a name. -/
def isNamed (entry : Option Declaration) : Bool := (entry.bind Declaration.name).isSome

/-- The outline of a statement. -/
def ofTree : SoliditySchema.Statement → Statement
  | .declare d _ => .declare [some (Variable.ofDeclaration d)]
  | .evaluate (.assign (.list entries) _) =>
    if entries.any isNamed then .declare (entries.map slotOfEntry) else .other
  | _ => .other

end Statement

namespace Part

/-- The name of a function, or none if it is a modifier. -/
def functionName : FunctionKind → Option Identifier → Option String
  | .modifier, _ => none
  | _, some name => some name.text
  | .constructor, none => some "constructor"
  | .fallback, none => some "fallback"
  | .receive, none => some "receive"
  | .function, none => some ""

/-- The top-level statements of a body; a body that is no block has none. -/
def bodyStatements : Option SoliditySchema.Statement → List Statement
  | some (.block _ body) => body.map Statement.ofTree
  | _ => []

/-- The outline of a part of a contract. -/
def ofTree : ContractPart → Part
  | .structDefinition name fields => .structDefinition (nameText name) (fields.map Variable.ofDeclaration)
  | .functionDefinition kind name body =>
    match functionName kind name with
    | some text => .function text (bodyStatements body)
    | none => .ignored
  | .other _ => .ignored

end Part

/-- The outline of a contract. -/
def Contract.ofTree (c : ContractDefinition) : Contract := ⟨nameText c.name, c.parts.map Part.ofTree⟩

/-- The outline of what stands at the top level. -/
def Node.ofTree : SourcePart → Node
  | .contract c => .contract (Contract.ofTree c)
  | .other _ => .ignored

/-- The outline of a source tree. -/
def ofTree (t : SourceTree) : Outline := ⟨t.parts.map Node.ofTree⟩

end Outline

end SoliditySchema

/-
  SoliditySchema.Outline — what a schema is built from.

  The outline of a source file keeps its contracts, of a contract its structs and functions, and of a
  function the variables that the top-level statements of its body declare. All else is there only as
  a place: an ignored part, another statement. A type is kept as far as it can name a column's type.
-/

namespace SoliditySchema

/-- A declared type. -/
inductive TypeRef where
  /-- A built-in type in its full spelling, such as `uint256`. -/
  | builtin (name : String)
  /-- A type that a source file declares, by its name or dotted path. -/
  | declared (path : String)
  | array (element : TypeRef)
  | mapping
  | function
  /-- Any other expression in the place of a type. -/
  | other
  deriving DecidableEq, Repr

/-- The name that decides about a column: of an array the name of its innermost element type. Mappings,
functions and other expressions have none. -/
def TypeRef.resolvedName : TypeRef → Option String
  | .builtin name => some name
  | .declared path => some path
  | .array element => element.resolvedName
  | .mapping => none
  | .function => none
  | .other => none

namespace Outline

/-- A declared variable or struct member; its name is empty if it has none. -/
structure Variable where
  name : String
  type : TypeRef
  deriving DecidableEq, Repr

/-- A top-level statement of a function body. A declaration has one slot for each position, and a slot
may be empty. -/
inductive Statement where
  | declare (slots : List (Option Variable))
  | other
  deriving DecidableEq, Repr

/-- A part of a contract. -/
inductive Part where
  | structDefinition (name : String) (members : List Variable)
  | function (name : String) (statements : List Statement)
  | ignored
  deriving DecidableEq, Repr

/-- A contract, interface or library. -/
structure Contract where
  name : String
  parts : List Part
  deriving DecidableEq, Repr

/-- What stands at the top level of a file. -/
inductive Node where
  | contract (contract : Contract)
  | ignored
  deriving DecidableEq, Repr

/-- The contract that a node is, if it is one. -/
def Node.contract? : Node → Option Contract
  | .contract c => some c
  | .ignored => none

end Outline

/-- The outline of a source file. -/
structure Outline where
  nodes : List Outline.Node
  deriving DecidableEq, Repr

/-- The contracts of a file, in order. -/
def Outline.contracts (o : Outline) : List Outline.Contract := o.nodes.filterMap Outline.Node.contract?

end SoliditySchema

/-
  SoliditySchema.SourceTree — a source file as a tree.

  The tree keeps contracts with all their parts, function bodies with their nested statements, and
  expressions with their operands. Types are expressions, since the grammar reads `a.b[2]` alike in both
  places. Of declarations that never bear on a schema (events, imports, pragmas, ...) only the kind is
  kept, and of an assembly block that it is there.
-/

import SoliditySchema.Identifier

namespace SoliditySchema

/-- A built-in type that is a word or two. Fixed-point numbers are left out: no word of the grammar gives them, and
`fixed` is a name like any other. -/
inductive BuiltinType where
  | address
  | addressPayable
  | payable
  | bool
  | string
  /-- Byte strings of any length. -/
  | dynamicBytes
  | sized (type : SizedType)
  deriving DecidableEq, Repr

/-- Where a value of reference type lives. -/
inductive StorageLocation where
  | memory | storage | calldata
  deriving DecidableEq, Repr

/-- Operators with one operand; the two postfix ones are named so. -/
inductive UnaryOperator where
  | not | complement | delete | new | increment | decrement | plus | minus | incrementAfter | decrementAfter
  deriving DecidableEq, Repr

/-- Operators with two operands, without the assignments. -/
inductive BinaryOperator where
  | or | and | equal | notEqual | less | greater | lessEqual | greaterEqual
  | bitOr | bitXor | bitAnd | shiftLeft | shiftRight | add | subtract | multiply | divide | modulo | power
  deriving DecidableEq, Repr

/-- What kind of value a literal is. -/
inductive LiteralKind where
  | bool | text | hexText | address | number | rational | hexNumber
  deriving DecidableEq, Repr

mutual

/-- An expression, or a type. -/
inductive Expression where
  | builtin (type : BuiltinType)
  | mapping (key value : Expression)
  | functionType (parameters returns : List (Option Declaration))
  | variable (name : Identifier)
  | member (base : Expression) (name : Identifier)
  /-- `base[at]` or `base[]`. -/
  | subscript (base : Expression) (index : Option Expression)
  /-- `base[from:to]`, either end left out. -/
  | slice (base : Expression) (lower upper : Option Expression)
  | call (callee : Expression) (arguments : List Expression)
  | callNamed (callee : Expression) (arguments : List (Identifier × Expression))
  /-- A callee with options, `f{value: 1}`. -/
  | callOptions (callee : Expression) (options : Statement)
  | unary (operator : UnaryOperator) (operand : Expression)
  | binary (operator : BinaryOperator) (left right : Expression)
  | conditional (condition ifTrue ifFalse : Expression)
  | assign (left right : Expression)
  /-- `left op= right`. -/
  | assignWith (operator : BinaryOperator) (left right : Expression)
  | parenthesis (inner : Expression)
  /-- `(a, , T b)`: entries may be empty, and may declare names. -/
  | list (entries : List (Option Declaration))
  | arrayLiteral (elements : List Expression)
  /-- A literal with its unit, as in `5 days`. -/
  | literal (kind : LiteralKind) (unit : Option Identifier)

/-- A type with an optional storage location and an optional name: a struct field, a parameter, a local
variable, or an entry of a list. -/
inductive Declaration where
  | mk (type : Expression) (storage : Option StorageLocation) (name : Option Identifier)

/-- A statement. -/
inductive Statement where
  | block (unchecked : Bool) (body : List Statement)
  /-- Braces around named arguments, which the grammar takes for a block. -/
  | arguments (entries : List (Identifier × Expression))
  | assembly
  | ifElse (condition : Expression) (ifTrue : Statement) (ifFalse : Option Statement)
  | whileLoop (condition : Expression) (body : Statement)
  | doWhile (body : Statement) (condition : Expression)
  | forLoop (start : Option Statement) (condition step : Option Expression) (body : Option Statement)
  | evaluate (value : Expression)
  | declare (declared : Declaration) (value : Option Expression)
  | continueLoop
  | breakLoop
  | returnValue (value : Option Expression)
  | revert (arguments : List Expression)
  | revertNamed (arguments : List (Identifier × Expression))
  | emit (event : Expression)
  | tryCatch (call : Expression) (success : Option Statement) (handlers : List Statement)
  /-- What stands for a statement that could not be read. -/
  | unreadable

end

namespace Declaration

/-- The declared type. -/
def type : Declaration → Expression
  | .mk t _ _ => t

/-- The storage location, if one is given. -/
def storage : Declaration → Option StorageLocation
  | .mk _ s _ => s

/-- The declared name, if there is one. -/
def name : Declaration → Option Identifier
  | .mk _ _ n => n

end Declaration

/-- What a function-like definition is. -/
inductive FunctionKind where
  | function | modifier | constructor | fallback | receive
  deriving DecidableEq, Repr

/-- The other parts of a contract. -/
inductive PartKind where
  | event | error | enumeration | stateVariable | typeAlias | annotationCall | semicolon | usingDirective
  deriving DecidableEq, Repr

/-- A part of a contract. -/
inductive ContractPart where
  | structDefinition (name : Option Identifier) (fields : List Declaration)
  | functionDefinition (kind : FunctionKind) (name : Option Identifier) (body : Option Statement)
  | other (kind : PartKind)

/-- What a contract-like definition is. -/
inductive ContractKind where
  | abstractContract | contract | interface | library
  deriving DecidableEq, Repr

/-- A contract, interface or library. -/
structure ContractDefinition where
  kind : ContractKind
  name : Option Identifier
  parts : List ContractPart

/-- The other things that stand at the top level of a file. -/
inductive TopKind where
  | pragma | import | enumeration | structDefinition | event | error | function | constant | typeAlias
  | annotationCall | usingDirective | semicolon
  deriving DecidableEq, Repr

/-- What stands at the top level of a file. -/
inductive SourcePart where
  | contract (definition : ContractDefinition)
  | other (kind : TopKind)

/-- A source file. -/
structure SourceTree where
  parts : List SourcePart

end SoliditySchema

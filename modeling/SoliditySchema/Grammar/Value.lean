/-
  SoliditySchema.Grammar.Value — what the symbols of the grammar stand for.

  While a file is read, each symbol on the stack has a value: a token, a piece of the tree, or nothing
  where the tree keeps nothing. The functions of this module make the value of a rule's left side from
  those of its right side; given values of another shape they make nothing.
-/

import SoliditySchema.SourceTree
import SoliditySchema.SyntaxError

namespace SoliditySchema.Grammar

/-- The value of a grammar symbol. -/
inductive Value where
  | absent
  | token (t : PlacedToken)
  /-- The error that was found where the symbol stands. -/
  | failure (e : SyntaxError)
  /-- A name and the byte offset where it begins. -/
  | name (n : Identifier) (start : Nat)
  | storage (s : StorageLocation)
  | expression (e : Expression)
  | namedArgument (n : Identifier) (e : Expression)
  | declaration (d : Declaration)
  | statement (s : Statement)
  | functionKind (k : FunctionKind)
  | contractKind (k : ContractKind)
  | contractPart (p : ContractPart)
  | sourcePart (p : SourcePart)
  | sourceTree (t : SourceTree)
  /-- The values of a repetition, the last one first. -/
  | many (values : List Value)

namespace Value

/-! ## Reading values -/

/-- The name that a value is. -/
def name? : Value → Option Identifier
  | .name n _ => some n
  | _ => none

/-- The storage location that a value is. -/
def storage? : Value → Option StorageLocation
  | .storage s => some s
  | _ => none

/-- The expression that a value is. -/
def expression? : Value → Option Expression
  | .expression e => some e
  | _ => none

/-- The named argument that a value is. -/
def namedArgument? : Value → Option (Identifier × Expression)
  | .namedArgument n e => some (n, e)
  | _ => none

/-- The declaration that a value is. -/
def declaration? : Value → Option Declaration
  | .declaration d => some d
  | _ => none

/-- The statement that a value is. -/
def statement? : Value → Option Statement
  | .statement s => some s
  | _ => none

/-- The part of a contract that a value is. -/
def contractPart? : Value → Option ContractPart
  | .contractPart p => some p
  | _ => none

/-- The part of a file that a value is. -/
def sourcePart? : Value → Option SourcePart
  | .sourcePart p => some p
  | _ => none

/-- The error that a value is. -/
def failure? : Value → Option SyntaxError
  | .failure e => some e
  | _ => none

/-- The values of a repetition in the order of the text. -/
def items : Value → List Value
  | .many values => values.reverse
  | _ => []

/-- The expressions of a repetition. -/
def expressions (v : Value) : List Expression := v.items.filterMap expression?

/-- The named arguments of a repetition. -/
def namedArguments (v : Value) : List (Identifier × Expression) := v.items.filterMap namedArgument?

/-- The declarations of a repetition. -/
def declarations (v : Value) : List Declaration := v.items.filterMap declaration?

/-- The statements of a repetition. -/
def statements (v : Value) : List Statement := v.items.filterMap statement?

/-- The entries of a list in which entries may be empty. -/
def entries (v : Value) : List (Option Declaration) := v.items.map declaration?

/-! ## Repetitions -/

/-- The first value of a repetition. -/
def one (v : Value) : Value := .many [v]

/-- A repetition with one more value at its end. -/
def more : Value → Value → Value
  | .many values, v => .many (v :: values)
  | _, v => .many [v]

/-- A repetition with one more value before it. -/
def before (v : Value) : Value → Value
  | .many values => .many (values ++ [v])
  | _ => .many [v]

/-! ## Names and types -/

/-- A name: an identifier, or a keyword where the grammar takes one as a name. -/
def word : Value → Value
  | .token ⟨.identifier n, start, _⟩ => .name n start
  | .token ⟨.keyword k, start, _⟩ => .name k.toIdentifier start
  | _ => .absent

/-- The error of an import whose word before the path is not `from`. -/
def fromWord : Value → Value
  | .name n start => if n.text = "from" then .absent else .failure ⟨start, .notFrom n.text⟩
  | _ => .absent

/-- A built-in type. -/
def builtin (type : BuiltinType) : Value := .expression (.builtin type)

/-- A built-in type with a width. -/
def sized : Value → Value
  | .token ⟨.sized type, _, _⟩ => builtin (.sized type)
  | _ => .absent

/-- A mapping of a key type to a value type. -/
def mapping : Value → Value → Value
  | .expression key, .expression value => .expression (.mapping key value)
  | _, _ => .absent

/-- A function type. -/
def functionType (parameters returns : Value) : Value :=
  .expression (.functionType parameters.entries returns.entries)

/-- A declaration; without a type there is none. -/
def declared : Value → Value → Value → Value
  | .expression type, location, n => .declaration (.mk type location.storage? n.name?)
  | _, _, _ => .absent

/-! ## Expressions -/

/-- A literal, maybe with a unit. -/
def literal (kind : LiteralKind) (unit : Value) : Value := .expression (.literal kind unit.name?)

/-- A name as an expression. -/
def variableNamed : Value → Value
  | .name n _ => .expression (.variable n)
  | _ => .absent

/-- An operator with one operand. -/
def unary (operator : UnaryOperator) : Value → Value
  | .expression e => .expression (.unary operator e)
  | _ => .absent

/-- An operator between two operands. -/
def binary (operator : BinaryOperator) : Value → Value → Value
  | .expression l, .expression r => .expression (.binary operator l r)
  | _, _ => .absent

/-- An assignment. -/
def assign : Value → Value → Value
  | .expression l, .expression r => .expression (.assign l r)
  | _, _ => .absent

/-- An assignment that applies an operator first. -/
def assignWith (operator : BinaryOperator) : Value → Value → Value
  | .expression l, .expression r => .expression (.assignWith operator l r)
  | _, _ => .absent

/-- A choice between two expressions. -/
def conditional : Value → Value → Value → Value
  | .expression c, .expression t, .expression f => .expression (.conditional c t f)
  | _, _, _ => .absent

/-- A member of an expression. -/
def member : Value → Value → Value
  | .expression base, .name n _ => .expression (.member base n)
  | _, _ => .absent

/-- An element of an array, or an array type. -/
def subscript : Value → Value → Value
  | .expression base, index => .expression (.subscript base index.expression?)
  | _, _ => .absent

/-- A part of an array. -/
def slice : Value → Value → Value → Value
  | .expression base, lower, upper => .expression (.slice base lower.expression? upper.expression?)
  | _, _, _ => .absent

/-- A call. -/
def call : Value → Value → Value
  | .expression callee, arguments => .expression (.call callee arguments.expressions)
  | _, _ => .absent

/-- A call with named arguments. -/
def callNamed : Value → Value → Value
  | .expression callee, arguments => .expression (.callNamed callee arguments.namedArguments)
  | _, _ => .absent

/-- A function with call options in braces. -/
def callOptions : Value → Value → Value
  | .expression callee, .statement options => .expression (.callOptions callee options)
  | _, _ => .absent

/-- A literal array. -/
def arrayLiteral (elements : Value) : Value := .expression (.arrayLiteral elements.expressions)

/-- A named argument. -/
def argument : Value → Value → Value
  | .name n _, .expression e => .namedArgument n e
  | _, _ => .absent

/-- A bracketed list: a single entry that is only an expression is that expression in parentheses. -/
def parenthesized (list : Value) : Value :=
  match list.entries with
  | [some (.mk e none none)] => .expression (.parenthesis e)
  | entries => .expression (.list entries)

/-! ## Statements -/

/-- A block of statements. -/
def block (unchecked : Bool) (body : Value) : Value := .statement (.block unchecked body.statements)

/-- Named arguments in braces. -/
def argumentsBlock (arguments : Value) : Value := .statement (.arguments arguments.namedArguments)

/-- A statement that is made of no other values. -/
def plainStatement (s : Statement) : Value := .statement s

/-- A choice between two statements, of which the second may be missing. -/
def ifElse : Value → Value → Value → Value
  | .expression c, .statement t, f => .statement (.ifElse c t f.statement?)
  | _, _, _ => .absent

/-- A loop with its condition at the beginning. -/
def whileLoop : Value → Value → Value
  | .expression c, .statement body => .statement (.whileLoop c body)
  | _, _ => .absent

/-- A loop with its condition at the end. -/
def doWhile : Value → Value → Value
  | .statement body, .expression c => .statement (.doWhile body c)
  | _, _ => .absent

/-- A counting loop, each of whose parts may be missing. -/
def forLoop (start condition step body : Value) : Value :=
  .statement (.forLoop start.statement? condition.expression? step.expression? body.statement?)

/-- An expression as a statement. -/
def evaluate : Value → Value
  | .expression e => .statement (.evaluate e)
  | _ => .absent

/-- A declaration as a statement, maybe with an initial value. -/
def declare : Value → Value → Value
  | .declaration d, value => .statement (.declare d value.expression?)
  | _, _ => .absent

/-- A return, maybe with a value. -/
def returnValue (value : Value) : Value := .statement (.returnValue value.expression?)

/-- A revert with arguments. -/
def revert (arguments : Value) : Value := .statement (.revert arguments.expressions)

/-- A revert with named arguments. -/
def revertNamed (arguments : Value) : Value := .statement (.revertNamed arguments.namedArguments)

/-- An event that is emitted. -/
def emit : Value → Value
  | .expression e => .statement (.emit e)
  | _ => .absent

/-- A call with its handlers. -/
def tryCatch : Value → Value → Value → Value
  | .expression e, success, handlers => .statement (.tryCatch e success.statement? handlers.statements)
  | _, _, _ => .absent

/-! ## Definitions -/

/-- A struct with its fields. -/
def structDefinition (n fields : Value) : Value :=
  .contractPart (.structDefinition n.name? fields.declarations)

/-- A function of a kind, with its name and its body. -/
def functionDefinition (kind : FunctionKind) (n body : Value) : Value :=
  .contractPart (.functionDefinition kind n.name? body.statement?)

/-- A function whose kind is a value. -/
def specialFunction : Value → Value → Value → Value
  | .functionKind kind, n, body => functionDefinition kind n body
  | _, _, _ => .absent

/-- A part of a contract of which only the kind is kept. -/
def otherPart (kind : PartKind) : Value := .contractPart (.other kind)

/-- A contract with its parts. -/
def contractDefinition : Value → Value → Value → Value
  | .contractKind kind, n, parts =>
    .sourcePart (.contract ⟨kind, n.name?, parts.items.filterMap contractPart?⟩)
  | _, _, _ => .absent

/-- A part of a file of which only the kind is kept. -/
def topPart (kind : TopKind) : Value := .sourcePart (.other kind)

/-- A file with its parts. -/
def sourceFile (parts : Value) : Value := .sourceTree ⟨parts.items.filterMap sourcePart?⟩

end Value

end SoliditySchema.Grammar

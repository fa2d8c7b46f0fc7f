/-
  SoliditySchema.Grammar.Symbol — the symbols of the grammar.

  A terminal is what the grammar sees of a token: a keyword, an operator, or the class of a literal or
  name. Two more terminals never come from a token: `failure`, which stands for text that could not be
  read, and `finish`, which follows the last token. Terminals and nonterminals have codes, by which
  the automaton's tables are indexed.
-/

import SoliditySchema.Token

namespace SoliditySchema.Grammar

/-- A terminal of the grammar. -/
inductive Terminal where
  | identifier | atWord | text | hexText | addressText | number | rational | hexNumber
  | uint | int | bytes
  | operator (o : Operator)
  | keyword (k : Keyword)
  | failure
  | finish
  deriving DecidableEq, Repr

namespace Terminal

/-- The place of a terminal in the tables: the classes, the operators, the keywords, then the two
terminals that are no tokens. -/
def code : Terminal → Nat
  | .identifier => 0
  | .atWord => 1
  | .text => 2
  | .hexText => 3
  | .addressText => 4
  | .number => 5
  | .rational => 6
  | .hexNumber => 7
  | .uint => 8
  | .int => 9
  | .bytes => 10
  | .operator o => 11 + o.ctorIdx
  | .keyword k => 59 + k.ctorIdx
  | .failure => 127
  | .finish => 128

/-- The terminal of a token. -/
def ofToken : Token → Terminal
  | .keyword k => .keyword k
  | .operator o => .operator o
  | .sized (.uint _) => .uint
  | .sized (.int _) => .int
  | .sized (.bytes _) => .bytes
  | .identifier _ => .identifier
  | .atWord _ => .atWord
  | .text _ _ => .text
  | .hexText _ => .hexText
  | .addressText _ => .addressText
  | .number _ _ => .number
  | .rational _ _ _ => .rational
  | .hexNumber _ => .hexNumber

end Terminal

/-- A nonterminal of the grammar, in the order of how many states of the automaton go on with it, so
that the tables stay short. -/
inductive Nonterminal where
  | textLiteral | variableName | hexLiteral | builtinType | functionType | quantity | functionCall
  | callee | operand | functionOperand | plainOperand | literal | entryList | textLiterals
  | hexLiterals | signed | power | name | product | sum | shifted | bitConjunction | bitDifference
  | bitDisjunction | comparison | equality | conjunction | assignment | disjunction | expression
  | block | yulName | namePath | functionBody | variableDeclaration | parameterList | visibility
  | simpleStatement | mutability | openStatement | closedStatement | plainStatement | yulBlock | base
  | nameOrFailure | yulPath | functionAttribute | returnsWord | yulCall | annotationName | yulLiteral
  | yulExpression | functionTypeAttribute | namedArgument | statement | yulTypedName | version
  | parameter | parameterMark | expressionListOrNone | functionAttributes | expressionList
  | storageLocation | structDefinition | eventDefinition | errorDefinition | enumDefinition
  | variableDefinition | typeDefinition | annotationCall | functionDefinition | usingDirective
  | catchClause | yulTypedNames | namedArgumentList | yulTypedNameList | importRename
  | optionalParameter | optionalEntry | importPath | versionRange | versionOperator | eventParameter
  | errorParameter | entry | usingFunction | functionTypeAttributes | namedArgumentListOrNone
  | sourcePart | importDirective | pragmaDirective | versionChoice | contractKind | contractPart
  | contractDefinition | storageClass | variableAttribute | specialKind | modifierDefinition
  | specialDefinition | assemblyFlags | yulStatement | yulFunction | yulSwitch | yulDefault | yulCase
  | yulFor | yulIf | yulAssignment | yulVariable | namePathList | statements | catchClauses
  | yulPathList | trySuccess | sourceUnit | plainName | bases | usingList | boundOperator | tryCall
  | sourceParts | importRenameList | versionChoices | versionSteps | namePathSteps | structFields
  | baseList | contractParts | eventParameterListOrNone | errorParameterListOrNone
  | nameOrFailureListOrNone | variableAttributes | optionalParameterListOfTwo | optionalEntryListOfTwo
  | usingFunctionListOrNone | textLiteralList | yulStatements | yulExpressionListOrNone | yulCases
  | importRenameTail | baseTail | eventParameterList | errorParameterList | nameOrFailureList
  | namePathTail | optionalParameterTail | optionalEntryTail | usingFunctionList | namedArgumentTail
  | textLiteralTail | yulExpressionList | yulTypedNameTail | yulPathTail | expressionTail
  | eventParameterTail | errorParameterTail | nameOrFailureTail | usingFunctionTail | yulExpressionTail
  | start
  deriving DecidableEq, Repr

/-- A symbol of the grammar. -/
inductive Symbol where
  | terminal (t : Terminal)
  | nonterminal (n : Nonterminal)
  deriving DecidableEq, Repr

end SoliditySchema.Grammar

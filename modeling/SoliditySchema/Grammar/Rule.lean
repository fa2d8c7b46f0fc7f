/-
  SoliditySchema.Grammar.Rule — the grammar of source files.

  For every nonterminal the rules that produce it, each with the value that it makes of the values of
  its symbols. The grammar is in the form that the automaton reads: an optional symbol gives a rule
  with it and one without it, and a repetition is a nonterminal of its own (`structFields`,
  `expressionTail`). Where `failure` stands in a rule, text may be skipped to go on reading after an
  error.

  Statements are split in two so that an `else` belongs to the nearest `if`: an open statement ends with
  an `if` that could still take an `else`, a closed one does not. Operators bind more closely from
  `assignment` down to `operand`.
-/

import SoliditySchema.Grammar.Symbol
import SoliditySchema.Grammar.Value

namespace SoliditySchema.Grammar

/-- A way to produce a nonterminal: the symbols in order, and the value made from theirs, which are
counted from 0. -/
structure Rule where
  symbols : List Symbol
  value : (Nat → Value) → Value

namespace Rule

open Value

/-- A keyword. -/
def k (word : Keyword) : Symbol := .terminal (.keyword word)

/-- An operator. -/
def o (operator : Operator) : Symbol := .terminal (.operator operator)

/-- Any other terminal. -/
def t (terminal : Terminal) : Symbol := .terminal terminal

/-- A nonterminal. -/
def n (nonterminal : Nonterminal) : Symbol := .nonterminal nonterminal

/-- Text that could not be read. -/
def failure : Symbol := .terminal .failure

/-- The value of a rule whose symbols the tree does not keep. -/
def dropped (_ : Nat → Value) : Value := .absent

/-- The value of the first symbol. -/
def same (v : Nat → Value) : Value := v 0

/-- The rules of every nonterminal. -/
def all : Nonterminal → List Rule
  | .start => [
      ⟨[n .sourceUnit], same⟩]
  | .importRename => [
      ⟨[n .name], dropped⟩,
      ⟨[n .name, k .kwAs, n .name], dropped⟩]
  | .optionalParameter => [
      ⟨[n .parameter], same⟩,
      ⟨[], dropped⟩]
  | .optionalEntry => [
      ⟨[n .entry], same⟩,
      ⟨[], dropped⟩]
  | .trySuccess => [
      ⟨[k .kwReturns, n .parameterList, n .block], fun v => v 2⟩]
  | .sourceUnit => [
      ⟨[], fun _ => sourceFile .absent⟩,
      ⟨[n .sourceParts], fun v => sourceFile (v 0)⟩]
  | .sourcePart => [
      ⟨[n .contractDefinition], same⟩,
      ⟨[n .pragmaDirective], fun _ => topPart .pragma⟩,
      ⟨[n .importDirective], fun _ => topPart .import⟩,
      ⟨[n .enumDefinition], fun _ => topPart .enumeration⟩,
      ⟨[n .structDefinition], fun _ => topPart .structDefinition⟩,
      ⟨[n .eventDefinition], fun _ => topPart .event⟩,
      ⟨[n .errorDefinition], fun _ => topPart .error⟩,
      ⟨[n .functionDefinition], fun _ => topPart .function⟩,
      ⟨[n .variableDefinition], fun _ => topPart .constant⟩,
      ⟨[n .typeDefinition], fun _ => topPart .typeAlias⟩,
      ⟨[n .annotationCall], fun _ => topPart .annotationCall⟩,
      ⟨[n .usingDirective], fun _ => topPart .usingDirective⟩,
      ⟨[o .semicolon], fun _ => topPart .semicolon⟩]
  | .importPath => [
      ⟨[n .textLiteral], dropped⟩,
      ⟨[n .namePath], dropped⟩]
  | .importDirective => [
      ⟨[k .kwImport, n .importPath, o .semicolon], dropped⟩,
      ⟨[k .kwImport, n .importPath, k .kwAs, n .name, o .semicolon], dropped⟩,
      ⟨[k .kwImport, o .star, k .kwAs, n .name, n .name, n .importPath, o .semicolon],
        fun v => fromWord (v 4)⟩,
      ⟨[k .kwImport, o .openBrace, n .importRenameList, o .closeBrace, n .name, n .importPath, o .semicolon],
        fun v => fromWord (v 4)⟩]
  | .pragmaDirective => [
      ⟨[k .kwPragma, n .name, n .plainName, o .semicolon], dropped⟩,
      ⟨[k .kwPragma, n .name, n .textLiteral, o .semicolon], dropped⟩,
      ⟨[k .kwPragma, n .name, n .versionChoices, o .semicolon], dropped⟩,
      ⟨[k .kwPragma, failure, o .semicolon], dropped⟩]
  | .versionChoice => [
      ⟨[n .versionChoice, o .orOr, n .versionRange], dropped⟩,
      ⟨[n .versionRange], dropped⟩]
  | .versionRange => [
      ⟨[n .version], dropped⟩,
      ⟨[n .versionOperator, n .version], dropped⟩,
      ⟨[n .version, o .minus, n .version], dropped⟩]
  | .version => [
      ⟨[t .number], dropped⟩,
      ⟨[t .number, n .versionSteps], dropped⟩]
  | .versionOperator => [
      ⟨[o .assign], dropped⟩,
      ⟨[o .greater], dropped⟩,
      ⟨[o .greaterEqual], dropped⟩,
      ⟨[o .less], dropped⟩,
      ⟨[o .lessEqual], dropped⟩,
      ⟨[o .tilde], dropped⟩,
      ⟨[o .xor], dropped⟩,
      ⟨[o .star], dropped⟩]
  | .builtinType => [
      ⟨[k .kwBool], fun _ => builtin .bool⟩,
      ⟨[k .kwAddress], fun _ => builtin .address⟩,
      ⟨[k .kwAddress, k .kwPayable], fun _ => builtin .addressPayable⟩,
      ⟨[k .kwPayable], fun _ => builtin .payable⟩,
      ⟨[k .kwString], fun _ => builtin .string⟩,
      ⟨[k .kwBytes], fun _ => builtin .dynamicBytes⟩,
      ⟨[t .uint], fun v => sized (v 0)⟩,
      ⟨[t .int], fun v => sized (v 0)⟩,
      ⟨[t .bytes], fun v => sized (v 0)⟩,
      ⟨[k .kwByte], fun _ => builtin (.sized (.bytes 1))⟩,
      ⟨[k .kwMapping, o .openParen, n .operand, n .name, o .fatArrow, n .operand, n .name, o .closeParen],
        fun v => mapping (v 2) (v 5)⟩,
      ⟨[k .kwMapping, o .openParen, n .operand, n .name, o .fatArrow, n .operand, o .closeParen],
        fun v => mapping (v 2) (v 5)⟩,
      ⟨[k .kwMapping, o .openParen, n .operand, o .fatArrow, n .operand, n .name, o .closeParen],
        fun v => mapping (v 2) (v 4)⟩,
      ⟨[k .kwMapping, o .openParen, n .operand, o .fatArrow, n .operand, o .closeParen],
        fun v => mapping (v 2) (v 4)⟩]
  | .functionType => [
      ⟨[k .kwFunction, n .parameterList, k .kwReturns, n .parameterList], fun v => functionType (v 1) (v 3)⟩,
      ⟨[k .kwFunction, n .parameterList, k .kwReturns, n .parameterList, n .functionTypeAttributes],
        fun v => functionType (v 1) (v 3)⟩,
      ⟨[k .kwFunction, n .parameterList], fun v => functionType (v 1) .absent⟩,
      ⟨[k .kwFunction, n .parameterList, n .functionTypeAttributes, k .kwReturns, n .parameterList],
        fun v => functionType (v 1) (v 4)⟩,
      ⟨[k .kwFunction, n .parameterList, n .functionTypeAttributes, k .kwReturns, n .parameterList,
        n .functionTypeAttributes], fun v => functionType (v 1) (v 4)⟩,
      ⟨[k .kwFunction, n .parameterList, n .functionTypeAttributes], fun v => functionType (v 1) .absent⟩]
  | .functionTypeAttribute => [
      ⟨[k .kwImmutable], dropped⟩,
      ⟨[n .mutability], dropped⟩,
      ⟨[n .visibility], dropped⟩]
  | .storageLocation => [
      ⟨[k .kwMemory], fun _ => .storage .memory⟩,
      ⟨[k .kwStorage], fun _ => .storage .storage⟩,
      ⟨[k .kwCalldata], fun _ => .storage .calldata⟩]
  | .plainName => [
      ⟨[t .identifier], fun v => word (v 0)⟩]
  | .name => [
      ⟨[t .identifier], fun v => word (v 0)⟩,
      ⟨[k .kwSwitch], fun v => word (v 0)⟩,
      ⟨[k .kwLeave], fun v => word (v 0)⟩,
      ⟨[k .kwCase], fun v => word (v 0)⟩,
      ⟨[k .kwDefault], fun v => word (v 0)⟩,
      ⟨[k .kwRevert], fun v => word (v 0)⟩]
  | .annotationName => [
      ⟨[t .atWord], dropped⟩]
  | .nameOrFailure => [
      ⟨[n .name], same⟩,
      ⟨[failure], dropped⟩]
  | .variableName => [
      ⟨[t .identifier], fun v => word (v 0)⟩,
      ⟨[k .kwSwitch], fun v => word (v 0)⟩,
      ⟨[k .kwLeave], fun v => word (v 0)⟩,
      ⟨[k .kwCase], fun v => word (v 0)⟩,
      ⟨[k .kwDefault], fun v => word (v 0)⟩]
  | .namePath => [
      ⟨[n .name], dropped⟩,
      ⟨[n .name, n .namePathSteps], dropped⟩]
  | .variableDeclaration => [
      ⟨[n .operand, n .storageLocation, n .nameOrFailure], fun v => declared (v 0) (v 1) (v 2)⟩,
      ⟨[n .operand, n .nameOrFailure], fun v => declared (v 0) .absent (v 1)⟩]
  | .structDefinition => [
      ⟨[k .kwStruct, n .nameOrFailure, o .openBrace, o .closeBrace], fun v => structDefinition (v 1) .absent⟩,
      ⟨[k .kwStruct, n .nameOrFailure, o .openBrace, n .structFields, o .closeBrace],
        fun v => structDefinition (v 1) (v 3)⟩]
  | .contractKind => [
      ⟨[k .kwAbstract, k .kwContract], fun _ => .contractKind .abstractContract⟩,
      ⟨[k .kwContract], fun _ => .contractKind .contract⟩,
      ⟨[k .kwInterface], fun _ => .contractKind .interface⟩,
      ⟨[k .kwLibrary], fun _ => .contractKind .library⟩]
  | .contractPart => [
      ⟨[n .structDefinition], same⟩,
      ⟨[n .eventDefinition], fun _ => otherPart .event⟩,
      ⟨[n .errorDefinition], fun _ => otherPart .error⟩,
      ⟨[n .enumDefinition], fun _ => otherPart .enumeration⟩,
      ⟨[n .variableDefinition], fun _ => otherPart .stateVariable⟩,
      ⟨[n .functionDefinition], same⟩,
      ⟨[n .modifierDefinition], same⟩,
      ⟨[n .specialDefinition], same⟩,
      ⟨[n .typeDefinition], fun _ => otherPart .typeAlias⟩,
      ⟨[n .annotationCall], fun _ => otherPart .annotationCall⟩,
      ⟨[o .semicolon], fun _ => otherPart .semicolon⟩,
      ⟨[n .usingDirective], fun _ => otherPart .usingDirective⟩]
  | .bases => [
      ⟨[], dropped⟩,
      ⟨[k .kwIs, n .baseList], dropped⟩]
  | .base => [
      ⟨[n .namePath, o .openParen, n .expressionListOrNone, o .closeParen], dropped⟩,
      ⟨[n .namePath], dropped⟩]
  | .contractDefinition => [
      ⟨[n .contractKind, n .nameOrFailure, n .bases, o .openBrace, o .closeBrace],
        fun v => contractDefinition (v 0) (v 1) .absent⟩,
      ⟨[n .contractKind, n .nameOrFailure, n .bases, o .openBrace, n .contractParts, o .closeBrace],
        fun v => contractDefinition (v 0) (v 1) (v 4)⟩]
  | .eventParameter => [
      ⟨[n .operand, k .kwIndexed, n .name], dropped⟩,
      ⟨[n .operand, k .kwIndexed], dropped⟩,
      ⟨[n .operand, n .name], dropped⟩,
      ⟨[n .operand], dropped⟩]
  | .errorParameter => [
      ⟨[n .operand, n .name], dropped⟩,
      ⟨[n .operand], dropped⟩]
  | .eventDefinition => [
      ⟨[k .kwEvent, n .nameOrFailure, o .openParen, n .eventParameterListOrNone, o .closeParen,
        k .kwAnonymous, o .semicolon], dropped⟩,
      ⟨[k .kwEvent, n .nameOrFailure, o .openParen, n .eventParameterListOrNone, o .closeParen, o .semicolon],
        dropped⟩]
  | .errorDefinition => [
      ⟨[n .plainOperand, n .nameOrFailure, o .openParen, n .errorParameterListOrNone, o .closeParen,
        o .semicolon], dropped⟩]
  | .enumDefinition => [
      ⟨[k .kwEnum, n .nameOrFailure, o .openBrace, n .nameOrFailureListOrNone, o .closeBrace], dropped⟩]
  | .variableDefinition => [
      ⟨[n .plainOperand, n .nameOrFailure, o .assign, n .expression, o .semicolon], dropped⟩,
      ⟨[n .plainOperand, n .nameOrFailure, o .semicolon], dropped⟩,
      ⟨[n .plainOperand, n .variableAttributes, n .nameOrFailure, o .assign, n .expression, o .semicolon],
        dropped⟩,
      ⟨[n .plainOperand, n .variableAttributes, n .nameOrFailure, o .semicolon], dropped⟩,
      ⟨[n .plainOperand, n .name, failure, o .semicolon], dropped⟩,
      ⟨[n .plainOperand, n .variableAttributes, n .name, failure, o .semicolon], dropped⟩,
      ⟨[n .functionOperand, n .name, o .assign, n .expression, o .semicolon], dropped⟩,
      ⟨[n .functionOperand, n .name, o .semicolon], dropped⟩]
  | .typeDefinition => [
      ⟨[k .kwType, n .name, k .kwIs, n .operand, o .semicolon], dropped⟩]
  | .annotationCall => [
      ⟨[n .annotationName, o .openParen, n .expression, o .closeParen], dropped⟩]
  | .visibility => [
      ⟨[k .kwPublic], dropped⟩,
      ⟨[k .kwExternal], dropped⟩,
      ⟨[k .kwInternal], dropped⟩,
      ⟨[k .kwPrivate], dropped⟩]
  | .storageClass => [
      ⟨[k .kwPersistent], dropped⟩,
      ⟨[k .kwTemporary], dropped⟩,
      ⟨[k .kwInstance], dropped⟩]
  | .variableAttribute => [
      ⟨[n .visibility], dropped⟩,
      ⟨[n .storageClass], dropped⟩,
      ⟨[k .kwConstant], dropped⟩,
      ⟨[k .kwImmutable], dropped⟩,
      ⟨[k .kwOverride], dropped⟩,
      ⟨[k .kwOverride, o .openParen, n .namePathList, o .closeParen], dropped⟩]
  | .expression => [
      ⟨[n .assignment], same⟩]
  | .assignment => [
      ⟨[n .disjunction, o .assign, n .assignment], fun v => assign (v 0) (v 2)⟩,
      ⟨[n .disjunction, o .orAssign, n .assignment], fun v => assignWith .bitOr (v 0) (v 2)⟩,
      ⟨[n .disjunction, o .xorAssign, n .assignment], fun v => assignWith .bitXor (v 0) (v 2)⟩,
      ⟨[n .disjunction, o .andAssign, n .assignment], fun v => assignWith .bitAnd (v 0) (v 2)⟩,
      ⟨[n .disjunction, o .shiftLeftAssign, n .assignment], fun v => assignWith .shiftLeft (v 0) (v 2)⟩,
      ⟨[n .disjunction, o .shiftRightAssign, n .assignment], fun v => assignWith .shiftRight (v 0) (v 2)⟩,
      ⟨[n .disjunction, o .plusAssign, n .assignment], fun v => assignWith .add (v 0) (v 2)⟩,
      ⟨[n .disjunction, o .minusAssign, n .assignment], fun v => assignWith .subtract (v 0) (v 2)⟩,
      ⟨[n .disjunction, o .starAssign, n .assignment], fun v => assignWith .multiply (v 0) (v 2)⟩,
      ⟨[n .disjunction, o .slashAssign, n .assignment], fun v => assignWith .divide (v 0) (v 2)⟩,
      ⟨[n .disjunction, o .percentAssign, n .assignment], fun v => assignWith .modulo (v 0) (v 2)⟩,
      ⟨[n .disjunction, o .question, n .assignment, o .colon, n .assignment],
        fun v => conditional (v 0) (v 2) (v 4)⟩,
      ⟨[n .disjunction], same⟩]
  | .disjunction => [
      ⟨[n .disjunction, o .orOr, n .conjunction], fun v => binary .or (v 0) (v 2)⟩,
      ⟨[n .conjunction], same⟩]
  | .conjunction => [
      ⟨[n .conjunction, o .andAnd, n .equality], fun v => binary .and (v 0) (v 2)⟩,
      ⟨[n .equality], same⟩]
  | .equality => [
      ⟨[n .equality, o .equal, n .comparison], fun v => binary .equal (v 0) (v 2)⟩,
      ⟨[n .equality, o .notEqual, n .comparison], fun v => binary .notEqual (v 0) (v 2)⟩,
      ⟨[n .comparison], same⟩]
  | .comparison => [
      ⟨[n .comparison, o .less, n .bitDisjunction], fun v => binary .less (v 0) (v 2)⟩,
      ⟨[n .comparison, o .greater, n .bitDisjunction], fun v => binary .greater (v 0) (v 2)⟩,
      ⟨[n .comparison, o .lessEqual, n .bitDisjunction], fun v => binary .lessEqual (v 0) (v 2)⟩,
      ⟨[n .comparison, o .greaterEqual, n .bitDisjunction], fun v => binary .greaterEqual (v 0) (v 2)⟩,
      ⟨[n .bitDisjunction], same⟩]
  | .bitDisjunction => [
      ⟨[n .bitDisjunction, o .or, n .bitDifference], fun v => binary .bitOr (v 0) (v 2)⟩,
      ⟨[n .bitDifference], same⟩]
  | .bitDifference => [
      ⟨[n .bitDifference, o .xor, n .bitConjunction], fun v => binary .bitXor (v 0) (v 2)⟩,
      ⟨[n .bitConjunction], same⟩]
  | .bitConjunction => [
      ⟨[n .bitConjunction, o .and, n .shifted], fun v => binary .bitAnd (v 0) (v 2)⟩,
      ⟨[n .shifted], same⟩]
  | .shifted => [
      ⟨[n .shifted, o .shiftLeft, n .sum], fun v => binary .shiftLeft (v 0) (v 2)⟩,
      ⟨[n .shifted, o .shiftRight, n .sum], fun v => binary .shiftRight (v 0) (v 2)⟩,
      ⟨[n .sum], same⟩]
  | .sum => [
      ⟨[n .sum, o .plus, n .product], fun v => binary .add (v 0) (v 2)⟩,
      ⟨[n .sum, o .minus, n .product], fun v => binary .subtract (v 0) (v 2)⟩,
      ⟨[n .product], same⟩]
  | .product => [
      ⟨[n .product, o .star, n .power], fun v => binary .multiply (v 0) (v 2)⟩,
      ⟨[n .product, o .slash, n .power], fun v => binary .divide (v 0) (v 2)⟩,
      ⟨[n .product, o .percent, n .power], fun v => binary .modulo (v 0) (v 2)⟩,
      ⟨[n .power], same⟩]
  | .power => [
      ⟨[n .signed, o .power, n .power], fun v => binary .power (v 0) (v 2)⟩,
      ⟨[n .signed], same⟩]
  | .signed => [
      ⟨[o .not, n .signed], fun v => unary .not (v 1)⟩,
      ⟨[o .tilde, n .signed], fun v => unary .complement (v 1)⟩,
      ⟨[k .kwDelete, n .signed], fun v => unary .delete (v 1)⟩,
      ⟨[k .kwNew, n .signed], fun v => unary .new (v 1)⟩,
      ⟨[o .increment, n .signed], fun v => unary .increment (v 1)⟩,
      ⟨[o .decrement, n .signed], fun v => unary .decrement (v 1)⟩,
      ⟨[o .plus, n .signed], fun v => unary .plus (v 1)⟩,
      ⟨[o .minus, n .signed], fun v => unary .minus (v 1)⟩,
      ⟨[k .kwRevert], fun v => variableNamed (word (v 0))⟩,
      ⟨[n .quantity], same⟩]
  | .quantity => [
      ⟨[t .number, n .variableName], fun v => literal .number (v 1)⟩,
      ⟨[t .number], fun _ => literal .number .absent⟩,
      ⟨[t .rational, n .variableName], fun v => literal .rational (v 1)⟩,
      ⟨[t .rational], fun _ => literal .rational .absent⟩,
      ⟨[t .hexNumber, n .variableName], fun v => literal .hexNumber (v 1)⟩,
      ⟨[t .hexNumber], fun _ => literal .hexNumber .absent⟩,
      ⟨[n .operand], same⟩]
  | .namedArgument => [
      ⟨[n .name, o .colon, n .expression], fun v => argument (v 0) (v 2)⟩,
      ⟨[k .kwAddress, o .colon, n .expression], fun v => argument (word (v 0)) (v 2)⟩]
  | .functionCall => [
      ⟨[n .callee, o .openParen, n .expressionListOrNone, o .closeParen], fun v => call (v 0) (v 2)⟩,
      ⟨[n .callee, n .block], fun v => callOptions (v 0) (v 1)⟩,
      ⟨[n .callee, o .openParen, o .openBrace, n .namedArgumentListOrNone, o .closeBrace, o .closeParen],
        fun v => callNamed (v 0) (v 3)⟩]
  | .callee => [
      ⟨[n .plainOperand], same⟩,
      ⟨[k .kwType], fun v => variableNamed (word (v 0))⟩]
  | .operand => [
      ⟨[n .plainOperand], same⟩,
      ⟨[n .functionOperand], same⟩]
  | .functionOperand => [
      ⟨[n .functionType], same⟩]
  | .plainOperand => [
      ⟨[n .quantity, o .increment], fun v => unary .incrementAfter (v 0)⟩,
      ⟨[n .quantity, o .decrement], fun v => unary .decrementAfter (v 0)⟩,
      ⟨[n .functionCall], same⟩,
      ⟨[n .quantity, o .openBracket, n .expression, o .closeBracket], fun v => subscript (v 0) (v 2)⟩,
      ⟨[n .quantity, o .openBracket, o .closeBracket], fun v => subscript (v 0) .absent⟩,
      ⟨[n .quantity, o .openBracket, n .expression, o .colon, n .expression, o .closeBracket],
        fun v => slice (v 0) (v 2) (v 4)⟩,
      ⟨[n .quantity, o .openBracket, n .expression, o .colon, o .closeBracket],
        fun v => slice (v 0) (v 2) .absent⟩,
      ⟨[n .quantity, o .openBracket, o .colon, n .expression, o .closeBracket],
        fun v => slice (v 0) .absent (v 3)⟩,
      ⟨[n .quantity, o .openBracket, o .colon, o .closeBracket], fun v => slice (v 0) .absent .absent⟩,
      ⟨[n .quantity, o .dot, n .name], fun v => member (v 0) (v 2)⟩,
      ⟨[n .quantity, o .dot, k .kwAddress], fun v => member (v 0) (word (v 2))⟩,
      ⟨[n .quantity, o .dot, k .kwNew], fun v => member (v 0) (word (v 2))⟩,
      ⟨[n .builtinType], same⟩,
      ⟨[o .openBracket, n .expressionListOrNone, o .closeBracket], fun v => arrayLiteral (v 1)⟩,
      ⟨[n .variableName], fun v => variableNamed (v 0)⟩,
      ⟨[n .entryList], fun v => parenthesized (v 0)⟩,
      ⟨[n .literal], same⟩]
  | .literal => [
      ⟨[k .kwTrue], fun _ => literal .bool .absent⟩,
      ⟨[k .kwFalse], fun _ => literal .bool .absent⟩,
      ⟨[n .textLiterals], fun _ => literal .text .absent⟩,
      ⟨[n .hexLiterals], fun _ => literal .hexText .absent⟩,
      ⟨[t .addressText], fun _ => literal .address .absent⟩]
  | .textLiteral => [
      ⟨[t .text], dropped⟩]
  | .hexLiteral => [
      ⟨[t .hexText], dropped⟩]
  | .parameter => [
      ⟨[n .parameterMark, n .operand, n .storageLocation, n .name], fun v => declared (v 1) (v 2) (v 3)⟩,
      ⟨[n .parameterMark, n .operand, n .storageLocation], fun v => declared (v 1) (v 2) .absent⟩,
      ⟨[n .parameterMark, n .operand, n .name], fun v => declared (v 1) .absent (v 2)⟩,
      ⟨[n .parameterMark, n .operand], fun v => declared (v 1) .absent .absent⟩,
      ⟨[n .operand, n .storageLocation, n .name], fun v => declared (v 0) (v 1) (v 2)⟩,
      ⟨[n .operand, n .storageLocation], fun v => declared (v 0) (v 1) .absent⟩,
      ⟨[n .operand, n .name], fun v => declared (v 0) .absent (v 1)⟩,
      ⟨[n .operand], fun v => declared (v 0) .absent .absent⟩]
  | .parameterList => [
      ⟨[o .openParen, o .closeParen], dropped⟩,
      ⟨[o .openParen, n .parameter, o .closeParen], fun v => one (v 1)⟩,
      ⟨[o .openParen, n .optionalParameterListOfTwo, o .closeParen], fun v => v 1⟩,
      ⟨[o .openParen, failure, o .closeParen], dropped⟩]
  | .parameterMark => [
      ⟨[n .annotationName], dropped⟩]
  | .entry => [
      ⟨[n .operand, n .storageLocation, n .name], fun v => declared (v 0) (v 1) (v 2)⟩,
      ⟨[n .operand, n .name], fun v => declared (v 0) .absent (v 1)⟩,
      ⟨[n .expression], fun v => declared (v 0) .absent .absent⟩]
  | .entryList => [
      ⟨[o .openParen, o .closeParen], dropped⟩,
      ⟨[o .openParen, n .entry, o .closeParen], fun v => one (v 1)⟩,
      ⟨[o .openParen, n .optionalEntryListOfTwo, o .closeParen], fun v => v 1⟩,
      ⟨[o .openParen, failure, o .closeParen], dropped⟩]
  | .mutability => [
      ⟨[k .kwPure], dropped⟩,
      ⟨[k .kwConstant], dropped⟩,
      ⟨[k .kwView], dropped⟩,
      ⟨[k .kwPayable], dropped⟩]
  | .functionAttribute => [
      ⟨[n .mutability], dropped⟩,
      ⟨[n .visibility], dropped⟩,
      ⟨[k .kwImmutable], dropped⟩,
      ⟨[k .kwVirtual], dropped⟩,
      ⟨[k .kwOverride], dropped⟩,
      ⟨[k .kwOverride, o .openParen, n .namePathList, o .closeParen], dropped⟩,
      ⟨[n .base], dropped⟩,
      ⟨[failure], dropped⟩]
  | .specialKind => [
      ⟨[k .kwFallback], fun _ => .functionKind .fallback⟩,
      ⟨[k .kwReceive], fun _ => .functionKind .receive⟩,
      ⟨[k .kwConstructor], fun _ => .functionKind .constructor⟩]
  | .functionBody => [
      ⟨[o .semicolon], dropped⟩,
      ⟨[n .block], same⟩]
  | .returnsWord => [
      ⟨[k .kwReturns], dropped⟩,
      ⟨[k .kwReturn], dropped⟩]
  | .modifierDefinition => [
      ⟨[k .kwModifier, n .name, n .parameterList, n .returnsWord, n .parameterList, n .functionBody],
        fun v => functionDefinition .modifier (v 1) (v 5)⟩,
      ⟨[k .kwModifier, n .name, n .parameterList, n .functionBody],
        fun v => functionDefinition .modifier (v 1) (v 3)⟩,
      ⟨[k .kwModifier, n .name, n .parameterList, n .functionAttributes, n .returnsWord, n .parameterList,
        n .functionBody], fun v => functionDefinition .modifier (v 1) (v 6)⟩,
      ⟨[k .kwModifier, n .name, n .parameterList, n .functionAttributes, n .functionBody],
        fun v => functionDefinition .modifier (v 1) (v 4)⟩,
      ⟨[k .kwModifier, n .name, n .returnsWord, n .parameterList, n .functionBody],
        fun v => functionDefinition .modifier (v 1) (v 4)⟩,
      ⟨[k .kwModifier, n .name, n .functionBody], fun v => functionDefinition .modifier (v 1) (v 2)⟩,
      ⟨[k .kwModifier, n .name, n .functionAttributes, n .returnsWord, n .parameterList, n .functionBody],
        fun v => functionDefinition .modifier (v 1) (v 5)⟩,
      ⟨[k .kwModifier, n .name, n .functionAttributes, n .functionBody],
        fun v => functionDefinition .modifier (v 1) (v 3)⟩]
  | .specialDefinition => [
      ⟨[n .specialKind, n .name, n .parameterList, n .returnsWord, n .parameterList, n .functionBody],
        fun v => specialFunction (v 0) (v 1) (v 5)⟩,
      ⟨[n .specialKind, n .name, n .parameterList, n .functionBody],
        fun v => specialFunction (v 0) (v 1) (v 3)⟩,
      ⟨[n .specialKind, n .name, n .parameterList, n .functionAttributes, n .returnsWord, n .parameterList,
        n .functionBody], fun v => specialFunction (v 0) (v 1) (v 6)⟩,
      ⟨[n .specialKind, n .name, n .parameterList, n .functionAttributes, n .functionBody],
        fun v => specialFunction (v 0) (v 1) (v 4)⟩,
      ⟨[n .specialKind, n .parameterList, n .returnsWord, n .parameterList, n .functionBody],
        fun v => specialFunction (v 0) .absent (v 4)⟩,
      ⟨[n .specialKind, n .parameterList, n .functionBody], fun v => specialFunction (v 0) .absent (v 2)⟩,
      ⟨[n .specialKind, n .parameterList, n .functionAttributes, n .returnsWord, n .parameterList,
        n .functionBody], fun v => specialFunction (v 0) .absent (v 5)⟩,
      ⟨[n .specialKind, n .parameterList, n .functionAttributes, n .functionBody],
        fun v => specialFunction (v 0) .absent (v 3)⟩]
  | .functionDefinition => [
      ⟨[k .kwFunction, n .nameOrFailure, n .parameterList, n .returnsWord, n .parameterList, n .functionBody],
        fun v => functionDefinition .function (v 1) (v 5)⟩,
      ⟨[k .kwFunction, n .nameOrFailure, n .parameterList, n .functionBody],
        fun v => functionDefinition .function (v 1) (v 3)⟩,
      ⟨[k .kwFunction, n .nameOrFailure, n .parameterList, n .functionAttributes, n .returnsWord,
        n .parameterList, n .functionBody], fun v => functionDefinition .function (v 1) (v 6)⟩,
      ⟨[k .kwFunction, n .nameOrFailure, n .parameterList, n .functionAttributes, n .functionBody],
        fun v => functionDefinition .function (v 1) (v 4)⟩,
      ⟨[n .functionType, n .functionBody], fun v => functionDefinition .function .absent (v 1)⟩]
  | .usingDirective => [
      ⟨[k .kwUsing, n .usingList, k .kwFor, n .operand, n .name, o .semicolon], dropped⟩,
      ⟨[k .kwUsing, n .usingList, k .kwFor, n .operand, o .semicolon], dropped⟩,
      ⟨[k .kwUsing, n .usingList, k .kwFor, o .star, n .name, o .semicolon], dropped⟩,
      ⟨[k .kwUsing, n .usingList, k .kwFor, o .star, o .semicolon], dropped⟩,
      ⟨[k .kwUsing, failure, o .semicolon], dropped⟩]
  | .usingList => [
      ⟨[n .namePath], dropped⟩,
      ⟨[o .openBrace, n .usingFunctionListOrNone, o .closeBrace], dropped⟩]
  | .usingFunction => [
      ⟨[n .namePath, n .boundOperator], dropped⟩,
      ⟨[n .namePath], dropped⟩]
  | .boundOperator => [
      ⟨[k .kwAs, o .and], dropped⟩,
      ⟨[k .kwAs, o .tilde], dropped⟩,
      ⟨[k .kwAs, o .or], dropped⟩,
      ⟨[k .kwAs, o .xor], dropped⟩,
      ⟨[k .kwAs, o .plus], dropped⟩,
      ⟨[k .kwAs, o .slash], dropped⟩,
      ⟨[k .kwAs, o .percent], dropped⟩,
      ⟨[k .kwAs, o .star], dropped⟩,
      ⟨[k .kwAs, o .minus], dropped⟩,
      ⟨[k .kwAs, o .equal], dropped⟩,
      ⟨[k .kwAs, o .greater], dropped⟩,
      ⟨[k .kwAs, o .greaterEqual], dropped⟩,
      ⟨[k .kwAs, o .less], dropped⟩,
      ⟨[k .kwAs, o .lessEqual], dropped⟩,
      ⟨[k .kwAs, o .notEqual], dropped⟩]
  | .block => [
      ⟨[o .openBrace, o .closeBrace], fun _ => block false .absent⟩,
      ⟨[o .openBrace, n .statements, o .closeBrace], fun v => block false (v 1)⟩,
      ⟨[o .openBrace, n .namedArgumentList, o .closeBrace], fun v => argumentsBlock (v 1)⟩]
  | .openStatement => [
      ⟨[k .kwIf, o .openParen, n .expression, o .closeParen, n .statement],
        fun v => ifElse (v 2) (v 4) .absent⟩,
      ⟨[k .kwIf, o .openParen, n .expression, o .closeParen, n .closedStatement, k .kwElse, n .openStatement],
        fun v => ifElse (v 2) (v 4) (v 6)⟩,
      ⟨[k .kwFor, o .openParen, n .simpleStatement, o .semicolon, n .expression, o .semicolon,
        n .expression, o .closeParen, n .openStatement], fun v => forLoop (v 2) (v 4) (v 6) (v 8)⟩,
      ⟨[k .kwFor, o .openParen, n .simpleStatement, o .semicolon, n .expression, o .semicolon,
        o .closeParen, n .openStatement], fun v => forLoop (v 2) (v 4) .absent (v 7)⟩,
      ⟨[k .kwFor, o .openParen, n .simpleStatement, o .semicolon, o .semicolon, n .expression,
        o .closeParen, n .openStatement], fun v => forLoop (v 2) .absent (v 5) (v 7)⟩,
      ⟨[k .kwFor, o .openParen, n .simpleStatement, o .semicolon, o .semicolon, o .closeParen,
        n .openStatement], fun v => forLoop (v 2) .absent .absent (v 6)⟩,
      ⟨[k .kwFor, o .openParen, o .semicolon, n .expression, o .semicolon, n .expression, o .closeParen,
        n .openStatement], fun v => forLoop .absent (v 3) (v 5) (v 7)⟩,
      ⟨[k .kwFor, o .openParen, o .semicolon, n .expression, o .semicolon, o .closeParen, n .openStatement],
        fun v => forLoop .absent (v 3) .absent (v 6)⟩,
      ⟨[k .kwFor, o .openParen, o .semicolon, o .semicolon, n .expression, o .closeParen, n .openStatement],
        fun v => forLoop .absent .absent (v 4) (v 6)⟩,
      ⟨[k .kwFor, o .openParen, o .semicolon, o .semicolon, o .closeParen, n .openStatement],
        fun v => forLoop .absent .absent .absent (v 5)⟩,
      ⟨[k .kwWhile, o .openParen, n .expression, o .closeParen, n .openStatement],
        fun v => whileLoop (v 2) (v 4)⟩]
  | .closedStatement => [
      ⟨[n .plainStatement], same⟩,
      ⟨[k .kwIf, o .openParen, n .expression, o .closeParen, n .closedStatement, k .kwElse,
        n .closedStatement], fun v => ifElse (v 2) (v 4) (v 6)⟩,
      ⟨[k .kwWhile, o .openParen, n .expression, o .closeParen, n .closedStatement],
        fun v => whileLoop (v 2) (v 4)⟩,
      ⟨[k .kwFor, o .openParen, n .simpleStatement, o .semicolon, n .expression, o .semicolon,
        n .expression, o .closeParen, n .closedStatement], fun v => forLoop (v 2) (v 4) (v 6) (v 8)⟩,
      ⟨[k .kwFor, o .openParen, n .simpleStatement, o .semicolon, n .expression, o .semicolon,
        o .closeParen, n .closedStatement], fun v => forLoop (v 2) (v 4) .absent (v 7)⟩,
      ⟨[k .kwFor, o .openParen, n .simpleStatement, o .semicolon, o .semicolon, n .expression,
        o .closeParen, n .closedStatement], fun v => forLoop (v 2) .absent (v 5) (v 7)⟩,
      ⟨[k .kwFor, o .openParen, n .simpleStatement, o .semicolon, o .semicolon, o .closeParen,
        n .closedStatement], fun v => forLoop (v 2) .absent .absent (v 6)⟩,
      ⟨[k .kwFor, o .openParen, o .semicolon, n .expression, o .semicolon, n .expression, o .closeParen,
        n .closedStatement], fun v => forLoop .absent (v 3) (v 5) (v 7)⟩,
      ⟨[k .kwFor, o .openParen, o .semicolon, n .expression, o .semicolon, o .closeParen, n .closedStatement],
        fun v => forLoop .absent (v 3) .absent (v 6)⟩,
      ⟨[k .kwFor, o .openParen, o .semicolon, o .semicolon, n .expression, o .closeParen, n .closedStatement],
        fun v => forLoop .absent .absent (v 4) (v 6)⟩,
      ⟨[k .kwFor, o .openParen, o .semicolon, o .semicolon, o .closeParen, n .closedStatement],
        fun v => forLoop .absent .absent .absent (v 5)⟩,
      ⟨[k .kwFor, o .openParen, n .simpleStatement, o .semicolon, n .expression, o .semicolon,
        n .expression, o .closeParen, o .semicolon], fun v => forLoop (v 2) (v 4) (v 6) .absent⟩,
      ⟨[k .kwFor, o .openParen, n .simpleStatement, o .semicolon, n .expression, o .semicolon,
        o .closeParen, o .semicolon], fun v => forLoop (v 2) (v 4) .absent .absent⟩,
      ⟨[k .kwFor, o .openParen, n .simpleStatement, o .semicolon, o .semicolon, n .expression,
        o .closeParen, o .semicolon], fun v => forLoop (v 2) .absent (v 5) .absent⟩,
      ⟨[k .kwFor, o .openParen, n .simpleStatement, o .semicolon, o .semicolon, o .closeParen, o .semicolon],
        fun v => forLoop (v 2) .absent .absent .absent⟩,
      ⟨[k .kwFor, o .openParen, o .semicolon, n .expression, o .semicolon, n .expression, o .closeParen,
        o .semicolon], fun v => forLoop .absent (v 3) (v 5) .absent⟩,
      ⟨[k .kwFor, o .openParen, o .semicolon, n .expression, o .semicolon, o .closeParen, o .semicolon],
        fun v => forLoop .absent (v 3) .absent .absent⟩,
      ⟨[k .kwFor, o .openParen, o .semicolon, o .semicolon, n .expression, o .closeParen, o .semicolon],
        fun v => forLoop .absent .absent (v 4) .absent⟩,
      ⟨[k .kwFor, o .openParen, o .semicolon, o .semicolon, o .closeParen, o .semicolon],
        fun _ => forLoop .absent .absent .absent .absent⟩]
  | .statement => [
      ⟨[n .openStatement], same⟩,
      ⟨[n .closedStatement], same⟩,
      ⟨[failure], fun _ => plainStatement .unreadable⟩]
  | .simpleStatement => [
      ⟨[n .variableDeclaration, o .assign, n .expression], fun v => declare (v 0) (v 2)⟩,
      ⟨[n .variableDeclaration], fun v => declare (v 0) .absent⟩,
      ⟨[n .expression], fun v => evaluate (v 0)⟩]
  | .catchClause => [
      ⟨[k .kwCatch, o .openParen, n .parameter, o .closeParen, n .block], fun v => v 4⟩,
      ⟨[k .kwCatch, n .block], fun v => v 1⟩,
      ⟨[k .kwCatch, n .name, o .openParen, n .parameter, o .closeParen, n .block], fun v => v 5⟩]
  | .tryCall => [
      ⟨[k .kwNew, n .functionCall], fun v => unary .new (v 1)⟩,
      ⟨[n .functionCall], same⟩]
  | .plainStatement => [
      ⟨[n .block], same⟩,
      ⟨[k .kwUnchecked, o .openBrace, o .closeBrace], fun _ => block true .absent⟩,
      ⟨[k .kwUnchecked, o .openBrace, n .statements, o .closeBrace], fun v => block true (v 2)⟩,
      ⟨[k .kwAssembly, n .textLiteral, n .assemblyFlags, n .yulBlock], fun _ => plainStatement .assembly⟩,
      ⟨[k .kwAssembly, n .textLiteral, n .yulBlock], fun _ => plainStatement .assembly⟩,
      ⟨[k .kwAssembly, n .assemblyFlags, n .yulBlock], fun _ => plainStatement .assembly⟩,
      ⟨[k .kwAssembly, n .yulBlock], fun _ => plainStatement .assembly⟩,
      ⟨[n .simpleStatement, o .semicolon], same⟩,
      ⟨[k .kwDo, n .statement, k .kwWhile, o .openParen, n .expression, o .closeParen, o .semicolon],
        fun v => doWhile (v 1) (v 4)⟩,
      ⟨[k .kwContinue, o .semicolon], fun _ => plainStatement .continueLoop⟩,
      ⟨[k .kwBreak, o .semicolon], fun _ => plainStatement .breakLoop⟩,
      ⟨[k .kwReturn, o .semicolon], fun _ => returnValue .absent⟩,
      ⟨[k .kwReturn, n .expression, o .semicolon], fun v => returnValue (v 1)⟩,
      ⟨[k .kwTry, n .tryCall, n .trySuccess, n .catchClauses], fun v => tryCatch (v 1) (v 2) (v 3)⟩,
      ⟨[k .kwTry, n .tryCall, n .catchClauses], fun v => tryCatch (v 1) .absent (v 2)⟩,
      ⟨[k .kwEmit, n .functionCall, o .semicolon], fun v => emit (v 1)⟩,
      ⟨[k .kwRevert, n .namePath, o .openParen, n .expressionListOrNone, o .closeParen, o .semicolon],
        fun v => revert (v 3)⟩,
      ⟨[k .kwRevert, o .openParen, n .expressionListOrNone, o .closeParen, o .semicolon],
        fun v => revert (v 2)⟩,
      ⟨[k .kwRevert, n .namePath, o .openParen, o .openBrace, n .namedArgumentListOrNone, o .closeBrace,
        o .closeParen, o .semicolon], fun v => revertNamed (v 4)⟩,
      ⟨[k .kwRevert, o .openParen, o .openBrace, n .namedArgumentListOrNone, o .closeBrace, o .closeParen,
        o .semicolon], fun v => revertNamed (v 3)⟩]
  | .assemblyFlags => [
      ⟨[o .openParen, n .textLiteralList, o .closeParen], dropped⟩]
  | .yulName => [
      ⟨[t .identifier], dropped⟩,
      ⟨[k .kwReturn], dropped⟩,
      ⟨[k .kwRevert], dropped⟩,
      ⟨[k .kwAddress], dropped⟩,
      ⟨[k .kwAbstract], dropped⟩,
      ⟨[k .kwAnonymous], dropped⟩,
      ⟨[k .kwAs], dropped⟩,
      ⟨[k .kwAssembly], dropped⟩,
      ⟨[k .kwBool], dropped⟩,
      ⟨[k .kwByte], dropped⟩,
      ⟨[k .kwBytes], dropped⟩,
      ⟨[k .kwCatch], dropped⟩,
      ⟨[k .kwCalldata], dropped⟩,
      ⟨[k .kwConstant], dropped⟩,
      ⟨[k .kwConstructor], dropped⟩,
      ⟨[k .kwContract], dropped⟩,
      ⟨[k .kwDo], dropped⟩,
      ⟨[k .kwElse], dropped⟩,
      ⟨[k .kwEnum], dropped⟩,
      ⟨[k .kwEmit], dropped⟩,
      ⟨[k .kwEvent], dropped⟩,
      ⟨[k .kwExternal], dropped⟩,
      ⟨[k .kwFallback], dropped⟩,
      ⟨[k .kwIndexed], dropped⟩,
      ⟨[k .kwInterface], dropped⟩,
      ⟨[k .kwInternal], dropped⟩,
      ⟨[k .kwImmutable], dropped⟩,
      ⟨[k .kwImport], dropped⟩,
      ⟨[k .kwIs], dropped⟩,
      ⟨[k .kwLibrary], dropped⟩,
      ⟨[k .kwMapping], dropped⟩,
      ⟨[k .kwMemory], dropped⟩,
      ⟨[k .kwModifier], dropped⟩,
      ⟨[k .kwNew], dropped⟩,
      ⟨[k .kwOverride], dropped⟩,
      ⟨[k .kwPayable], dropped⟩,
      ⟨[k .kwPublic], dropped⟩,
      ⟨[k .kwPragma], dropped⟩,
      ⟨[k .kwPrivate], dropped⟩,
      ⟨[k .kwPure], dropped⟩,
      ⟨[k .kwReceive], dropped⟩,
      ⟨[k .kwReturns], dropped⟩,
      ⟨[k .kwStorage], dropped⟩,
      ⟨[k .kwStruct], dropped⟩,
      ⟨[k .kwThrow], dropped⟩,
      ⟨[k .kwTry], dropped⟩,
      ⟨[k .kwUsing], dropped⟩,
      ⟨[k .kwView], dropped⟩,
      ⟨[k .kwVirtual], dropped⟩,
      ⟨[k .kwWhile], dropped⟩,
      ⟨[t .int], dropped⟩,
      ⟨[t .uint], dropped⟩,
      ⟨[k .kwString], dropped⟩,
      ⟨[k .kwUnchecked], dropped⟩]
  | .yulStatement => [
      ⟨[n .yulBlock], dropped⟩,
      ⟨[n .yulVariable], dropped⟩,
      ⟨[n .yulAssignment], dropped⟩,
      ⟨[n .yulCall], dropped⟩,
      ⟨[n .yulIf], dropped⟩,
      ⟨[n .yulFor], dropped⟩,
      ⟨[n .yulSwitch], dropped⟩,
      ⟨[n .yulFunction], dropped⟩,
      ⟨[k .kwLeave], dropped⟩,
      ⟨[k .kwBreak], dropped⟩,
      ⟨[k .kwContinue], dropped⟩,
      ⟨[failure], dropped⟩]
  | .yulBlock => [
      ⟨[o .openBrace, o .closeBrace], dropped⟩,
      ⟨[o .openBrace, n .yulStatements, o .closeBrace], dropped⟩]
  | .yulLiteral => [
      ⟨[k .kwTrue, o .colon, n .yulName], dropped⟩,
      ⟨[k .kwTrue], dropped⟩,
      ⟨[k .kwFalse, o .colon, n .yulName], dropped⟩,
      ⟨[k .kwFalse], dropped⟩,
      ⟨[t .number, o .colon, n .yulName], dropped⟩,
      ⟨[t .number], dropped⟩,
      ⟨[t .hexNumber, o .colon, n .yulName], dropped⟩,
      ⟨[t .hexNumber], dropped⟩,
      ⟨[t .hexText, o .colon, n .yulName], dropped⟩,
      ⟨[t .hexText], dropped⟩,
      ⟨[n .textLiteral, o .colon, n .yulName], dropped⟩,
      ⟨[n .textLiteral], dropped⟩]
  | .yulCall => [
      ⟨[n .yulName, o .openParen, n .yulExpressionListOrNone, o .closeParen], dropped⟩]
  | .yulPath => [
      ⟨[n .yulName], dropped⟩,
      ⟨[n .yulPath, o .dot, n .yulName], dropped⟩]
  | .yulExpression => [
      ⟨[n .yulPath], dropped⟩,
      ⟨[n .yulCall], dropped⟩,
      ⟨[n .yulLiteral], dropped⟩]
  | .yulFunction => [
      ⟨[k .kwFunction, n .yulName, o .openParen, n .yulTypedNames, o .closeParen, o .arrow,
        n .yulTypedNames, n .yulBlock], dropped⟩,
      ⟨[k .kwFunction, n .yulName, o .openParen, n .yulTypedNames, o .closeParen, n .yulBlock], dropped⟩,
      ⟨[k .kwFunction, n .yulName, o .openParen, o .closeParen, o .arrow, n .yulTypedNames, n .yulBlock],
        dropped⟩,
      ⟨[k .kwFunction, n .yulName, o .openParen, o .closeParen, n .yulBlock], dropped⟩]
  | .yulTypedNames => [
      ⟨[n .yulTypedNameList], dropped⟩]
  | .yulTypedName => [
      ⟨[n .yulName, o .colon, n .yulName], dropped⟩,
      ⟨[n .yulName], dropped⟩]
  | .yulSwitch => [
      ⟨[k .kwSwitch, n .yulExpression, n .yulDefault], dropped⟩,
      ⟨[k .kwSwitch, n .yulExpression, n .yulCases, n .yulDefault], dropped⟩,
      ⟨[k .kwSwitch, n .yulExpression, n .yulCases], dropped⟩]
  | .yulDefault => [
      ⟨[k .kwDefault, n .yulBlock], dropped⟩]
  | .yulCase => [
      ⟨[k .kwCase, n .yulLiteral, n .yulBlock], dropped⟩]
  | .yulFor => [
      ⟨[k .kwFor, n .yulBlock, n .yulExpression, n .yulBlock, n .yulBlock], dropped⟩]
  | .yulIf => [
      ⟨[k .kwIf, n .yulExpression, n .yulBlock], dropped⟩]
  | .yulAssignment => [
      ⟨[n .yulPathList, o .yulAssign, n .yulExpression], dropped⟩]
  | .yulVariable => [
      ⟨[k .kwLet, n .yulTypedNames, o .yulAssign, n .yulExpression], dropped⟩,
      ⟨[k .kwLet, n .yulTypedNames], dropped⟩]
  | .sourceParts => [
      ⟨[n .sourcePart], fun v => one (v 0)⟩,
      ⟨[n .sourceParts, n .sourcePart], fun v => more (v 0) (v 1)⟩]
  | .importRenameList => [
      ⟨[n .importRename], dropped⟩,
      ⟨[n .importRename, n .importRenameTail], dropped⟩]
  | .versionChoices => [
      ⟨[n .versionChoice], dropped⟩,
      ⟨[n .versionChoices, n .versionChoice], dropped⟩]
  | .versionSteps => [
      ⟨[o .dot, t .number], dropped⟩,
      ⟨[n .versionSteps, o .dot, t .number], dropped⟩]
  | .functionTypeAttributes => [
      ⟨[n .functionTypeAttribute], dropped⟩,
      ⟨[n .functionTypeAttributes, n .functionTypeAttribute], dropped⟩]
  | .namePathSteps => [
      ⟨[o .dot, n .name], dropped⟩,
      ⟨[n .namePathSteps, o .dot, n .name], dropped⟩]
  | .structFields => [
      ⟨[n .variableDeclaration, o .semicolon], fun v => one (v 0)⟩,
      ⟨[n .structFields, n .variableDeclaration, o .semicolon], fun v => more (v 0) (v 1)⟩]
  | .baseList => [
      ⟨[n .base], dropped⟩,
      ⟨[n .base, n .baseTail], dropped⟩]
  | .expressionListOrNone => [
      ⟨[], dropped⟩,
      ⟨[n .expressionList], same⟩]
  | .contractParts => [
      ⟨[n .contractPart], fun v => one (v 0)⟩,
      ⟨[n .contractParts, n .contractPart], fun v => more (v 0) (v 1)⟩]
  | .eventParameterListOrNone => [
      ⟨[], dropped⟩,
      ⟨[n .eventParameterList], dropped⟩]
  | .errorParameterListOrNone => [
      ⟨[], dropped⟩,
      ⟨[n .errorParameterList], dropped⟩]
  | .nameOrFailureListOrNone => [
      ⟨[], dropped⟩,
      ⟨[n .nameOrFailureList], dropped⟩]
  | .variableAttributes => [
      ⟨[n .variableAttribute], dropped⟩,
      ⟨[n .variableAttributes, n .variableAttribute], dropped⟩]
  | .namePathList => [
      ⟨[n .namePath], dropped⟩,
      ⟨[n .namePath, n .namePathTail], dropped⟩]
  | .namedArgumentListOrNone => [
      ⟨[], dropped⟩,
      ⟨[n .namedArgumentList], same⟩]
  | .textLiterals => [
      ⟨[n .textLiteral], dropped⟩,
      ⟨[n .textLiterals, n .textLiteral], dropped⟩]
  | .hexLiterals => [
      ⟨[n .hexLiteral], dropped⟩,
      ⟨[n .hexLiterals, n .hexLiteral], dropped⟩]
  | .optionalParameterListOfTwo => [
      ⟨[n .optionalParameter, n .optionalParameterTail], fun v => before (v 0) (v 1)⟩]
  | .optionalEntryListOfTwo => [
      ⟨[n .optionalEntry, n .optionalEntryTail], fun v => before (v 0) (v 1)⟩]
  | .functionAttributes => [
      ⟨[n .functionAttribute], dropped⟩,
      ⟨[n .functionAttributes, n .functionAttribute], dropped⟩]
  | .usingFunctionListOrNone => [
      ⟨[], dropped⟩,
      ⟨[n .usingFunctionList], dropped⟩]
  | .statements => [
      ⟨[n .statement], fun v => one (v 0)⟩,
      ⟨[n .statements, n .statement], fun v => more (v 0) (v 1)⟩]
  | .namedArgumentList => [
      ⟨[n .namedArgument], fun v => one (v 0)⟩,
      ⟨[n .namedArgument, n .namedArgumentTail], fun v => before (v 0) (v 1)⟩]
  | .catchClauses => [
      ⟨[n .catchClause], fun v => one (v 0)⟩,
      ⟨[n .catchClauses, n .catchClause], fun v => more (v 0) (v 1)⟩]
  | .textLiteralList => [
      ⟨[n .textLiteral], dropped⟩,
      ⟨[n .textLiteral, n .textLiteralTail], dropped⟩]
  | .yulStatements => [
      ⟨[n .yulStatement], dropped⟩,
      ⟨[n .yulStatements, n .yulStatement], dropped⟩]
  | .yulExpressionListOrNone => [
      ⟨[], dropped⟩,
      ⟨[n .yulExpressionList], dropped⟩]
  | .yulTypedNameList => [
      ⟨[n .yulTypedName], dropped⟩,
      ⟨[n .yulTypedName, n .yulTypedNameTail], dropped⟩]
  | .yulCases => [
      ⟨[n .yulCase], dropped⟩,
      ⟨[n .yulCases, n .yulCase], dropped⟩]
  | .yulPathList => [
      ⟨[n .yulPath], dropped⟩,
      ⟨[n .yulPath, n .yulPathTail], dropped⟩]
  | .importRenameTail => [
      ⟨[o .comma, n .importRename], dropped⟩,
      ⟨[n .importRenameTail, o .comma, n .importRename], dropped⟩]
  | .baseTail => [
      ⟨[o .comma, n .base], dropped⟩,
      ⟨[n .baseTail, o .comma, n .base], dropped⟩]
  | .expressionList => [
      ⟨[n .expression], fun v => one (v 0)⟩,
      ⟨[n .expression, n .expressionTail], fun v => before (v 0) (v 1)⟩]
  | .eventParameterList => [
      ⟨[n .eventParameter], dropped⟩,
      ⟨[n .eventParameter, n .eventParameterTail], dropped⟩]
  | .errorParameterList => [
      ⟨[n .errorParameter], dropped⟩,
      ⟨[n .errorParameter, n .errorParameterTail], dropped⟩]
  | .nameOrFailureList => [
      ⟨[n .nameOrFailure], dropped⟩,
      ⟨[n .nameOrFailure, n .nameOrFailureTail], dropped⟩]
  | .namePathTail => [
      ⟨[o .comma, n .namePath], dropped⟩,
      ⟨[n .namePathTail, o .comma, n .namePath], dropped⟩]
  | .optionalParameterTail => [
      ⟨[o .comma, n .optionalParameter], fun v => one (v 1)⟩,
      ⟨[n .optionalParameterTail, o .comma, n .optionalParameter], fun v => more (v 0) (v 2)⟩]
  | .optionalEntryTail => [
      ⟨[o .comma, n .optionalEntry], fun v => one (v 1)⟩,
      ⟨[n .optionalEntryTail, o .comma, n .optionalEntry], fun v => more (v 0) (v 2)⟩]
  | .usingFunctionList => [
      ⟨[n .usingFunction], dropped⟩,
      ⟨[n .usingFunction, n .usingFunctionTail], dropped⟩]
  | .namedArgumentTail => [
      ⟨[o .comma, n .namedArgument], fun v => one (v 1)⟩,
      ⟨[n .namedArgumentTail, o .comma, n .namedArgument], fun v => more (v 0) (v 2)⟩]
  | .textLiteralTail => [
      ⟨[o .comma, n .textLiteral], dropped⟩,
      ⟨[n .textLiteralTail, o .comma, n .textLiteral], dropped⟩]
  | .yulExpressionList => [
      ⟨[n .yulExpression], dropped⟩,
      ⟨[n .yulExpression, n .yulExpressionTail], dropped⟩]
  | .yulTypedNameTail => [
      ⟨[o .comma, n .yulTypedName], dropped⟩,
      ⟨[n .yulTypedNameTail, o .comma, n .yulTypedName], dropped⟩]
  | .yulPathTail => [
      ⟨[o .comma, n .yulPath], dropped⟩,
      ⟨[n .yulPathTail, o .comma, n .yulPath], dropped⟩]
  | .expressionTail => [
      ⟨[o .comma, n .expression], fun v => one (v 1)⟩,
      ⟨[n .expressionTail, o .comma, n .expression], fun v => more (v 0) (v 2)⟩]
  | .eventParameterTail => [
      ⟨[o .comma, n .eventParameter], dropped⟩,
      ⟨[n .eventParameterTail, o .comma, n .eventParameter], dropped⟩]
  | .errorParameterTail => [
      ⟨[o .comma, n .errorParameter], dropped⟩,
      ⟨[n .errorParameterTail, o .comma, n .errorParameter], dropped⟩]
  | .nameOrFailureTail => [
      ⟨[o .comma, n .nameOrFailure], dropped⟩,
      ⟨[n .nameOrFailureTail, o .comma, n .nameOrFailure], dropped⟩]
  | .usingFunctionTail => [
      ⟨[o .comma, n .usingFunction], dropped⟩,
      ⟨[n .usingFunctionTail, o .comma, n .usingFunction], dropped⟩]
  | .yulExpressionTail => [
      ⟨[o .comma, n .yulExpression], dropped⟩,
      ⟨[n .yulExpressionTail, o .comma, n .yulExpression], dropped⟩]

end Rule

end SoliditySchema.Grammar

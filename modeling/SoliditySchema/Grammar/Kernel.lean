/-
  SoliditySchema.Grammar.Kernel — the rules under way in each state of the automaton.

  A state of the automaton stands for the rules that may be under way when it is on top of the stack, each
  with the number of its symbols that have been read. Those of which nothing has been read yet are left
  out, since they follow from the others: they are the rules of the nonterminals that may come next. The
  states are kept in blocks of 32, as in `Automaton.blocks`.
-/

import SoliditySchema.Grammar.Automaton

namespace SoliditySchema.Grammar

/-- A rule under way: the nonterminal, the rule's place among those of the nonterminal, and how many of
its symbols have been read. -/
structure Progress where
  nonterminal : Nonterminal
  rule : Nat
  read : Nat
  deriving DecidableEq, Repr

namespace Automaton

/-- The rules under way in every state, in blocks. -/
def kernels : List (List (List Progress)) := [
  [[⟨.start, 0, 0⟩],
   [⟨.start, 0, 1⟩],
   [⟨.sourceUnit, 1, 1⟩, ⟨.sourceParts, 1, 1⟩],
   [⟨.sourceParts, 0, 1⟩],
   [⟨.sourcePart, 0, 1⟩],
   [⟨.sourcePart, 1, 1⟩],
   [⟨.sourcePart, 2, 1⟩],
   [⟨.sourcePart, 3, 1⟩],
   [⟨.sourcePart, 4, 1⟩],
   [⟨.sourcePart, 5, 1⟩],
   [⟨.sourcePart, 6, 1⟩],
   [⟨.sourcePart, 7, 1⟩],
   [⟨.sourcePart, 8, 1⟩],
   [⟨.sourcePart, 9, 1⟩],
   [⟨.sourcePart, 10, 1⟩],
   [⟨.sourcePart, 11, 1⟩],
   [⟨.sourcePart, 12, 1⟩],
   [⟨.usingDirective, 0, 1⟩, ⟨.usingDirective, 1, 1⟩, ⟨.usingDirective, 2, 1⟩, ⟨.usingDirective, 3, 1⟩,
    ⟨.usingDirective, 4, 1⟩],
   [⟨.annotationCall, 0, 1⟩],
   [⟨.annotationName, 0, 1⟩],
   [⟨.callee, 1, 1⟩, ⟨.typeDefinition, 0, 1⟩],
   [⟨.callee, 0, 1⟩, ⟨.operand, 0, 1⟩, ⟨.errorDefinition, 0, 1⟩, ⟨.variableDefinition, 0, 1⟩,
    ⟨.variableDefinition, 1, 1⟩, ⟨.variableDefinition, 2, 1⟩, ⟨.variableDefinition, 3, 1⟩,
    ⟨.variableDefinition, 4, 1⟩, ⟨.variableDefinition, 5, 1⟩],
   [⟨.operand, 1, 1⟩, ⟨.variableDefinition, 6, 1⟩, ⟨.variableDefinition, 7, 1⟩],
   [⟨.functionOperand, 0, 1⟩, ⟨.functionDefinition, 4, 1⟩],
   [⟨.functionType, 0, 1⟩, ⟨.functionType, 1, 1⟩, ⟨.functionType, 2, 1⟩, ⟨.functionType, 3, 1⟩,
    ⟨.functionType, 4, 1⟩, ⟨.functionType, 5, 1⟩, ⟨.functionDefinition, 0, 1⟩, ⟨.functionDefinition, 1, 1⟩,
    ⟨.functionDefinition, 2, 1⟩, ⟨.functionDefinition, 3, 1⟩],
   [⟨.plainOperand, 0, 1⟩, ⟨.plainOperand, 1, 1⟩, ⟨.plainOperand, 3, 1⟩, ⟨.plainOperand, 4, 1⟩,
    ⟨.plainOperand, 5, 1⟩, ⟨.plainOperand, 6, 1⟩, ⟨.plainOperand, 7, 1⟩, ⟨.plainOperand, 8, 1⟩,
    ⟨.plainOperand, 9, 1⟩, ⟨.plainOperand, 10, 1⟩, ⟨.plainOperand, 11, 1⟩],
   [⟨.plainOperand, 2, 1⟩],
   [⟨.plainOperand, 12, 1⟩],
   [⟨.plainOperand, 13, 1⟩],
   [⟨.plainOperand, 14, 1⟩],
   [⟨.plainOperand, 15, 1⟩],
   [⟨.plainOperand, 16, 1⟩]],
  [[⟨.literal, 0, 1⟩],
   [⟨.literal, 1, 1⟩],
   [⟨.literal, 2, 1⟩, ⟨.textLiterals, 1, 1⟩],
   [⟨.literal, 3, 1⟩, ⟨.hexLiterals, 1, 1⟩],
   [⟨.literal, 4, 1⟩],
   [⟨.hexLiterals, 0, 1⟩],
   [⟨.hexLiteral, 0, 1⟩],
   [⟨.textLiterals, 0, 1⟩],
   [⟨.textLiteral, 0, 1⟩],
   [⟨.entryList, 0, 1⟩, ⟨.entryList, 1, 1⟩, ⟨.entryList, 2, 1⟩, ⟨.entryList, 3, 1⟩],
   [⟨.variableName, 0, 1⟩],
   [⟨.variableName, 1, 1⟩],
   [⟨.variableName, 2, 1⟩],
   [⟨.variableName, 3, 1⟩],
   [⟨.variableName, 4, 1⟩],
   [⟨.builtinType, 0, 1⟩],
   [⟨.builtinType, 1, 1⟩, ⟨.builtinType, 2, 1⟩],
   [⟨.builtinType, 3, 1⟩],
   [⟨.builtinType, 4, 1⟩],
   [⟨.builtinType, 5, 1⟩],
   [⟨.builtinType, 6, 1⟩],
   [⟨.builtinType, 7, 1⟩],
   [⟨.builtinType, 8, 1⟩],
   [⟨.builtinType, 9, 1⟩],
   [⟨.builtinType, 10, 1⟩, ⟨.builtinType, 11, 1⟩, ⟨.builtinType, 12, 1⟩, ⟨.builtinType, 13, 1⟩],
   [⟨.quantity, 0, 1⟩, ⟨.quantity, 1, 1⟩],
   [⟨.quantity, 2, 1⟩, ⟨.quantity, 3, 1⟩],
   [⟨.quantity, 4, 1⟩, ⟨.quantity, 5, 1⟩],
   [⟨.quantity, 6, 1⟩],
   [⟨.functionCall, 0, 1⟩, ⟨.functionCall, 1, 1⟩, ⟨.functionCall, 2, 1⟩],
   [⟨.eventDefinition, 0, 1⟩, ⟨.eventDefinition, 1, 1⟩],
   [⟨.structDefinition, 0, 1⟩, ⟨.structDefinition, 1, 1⟩]],
  [[⟨.enumDefinition, 0, 1⟩],
   [⟨.importDirective, 0, 1⟩, ⟨.importDirective, 1, 1⟩, ⟨.importDirective, 2, 1⟩, ⟨.importDirective, 3, 1⟩],
   [⟨.pragmaDirective, 0, 1⟩, ⟨.pragmaDirective, 1, 1⟩, ⟨.pragmaDirective, 2, 1⟩, ⟨.pragmaDirective, 3, 1⟩],
   [⟨.contractDefinition, 0, 1⟩, ⟨.contractDefinition, 1, 1⟩],
   [⟨.contractKind, 0, 1⟩],
   [⟨.contractKind, 1, 1⟩],
   [⟨.contractKind, 2, 1⟩],
   [⟨.contractKind, 3, 1⟩],
   [⟨.sourceParts, 1, 2⟩],
   [⟨.usingDirective, 0, 2⟩, ⟨.usingDirective, 1, 2⟩, ⟨.usingDirective, 2, 2⟩, ⟨.usingDirective, 3, 2⟩],
   [⟨.usingDirective, 4, 2⟩],
   [⟨.usingList, 0, 1⟩],
   [⟨.usingList, 1, 1⟩],
   [⟨.namePath, 0, 1⟩, ⟨.namePath, 1, 1⟩],
   [⟨.name, 0, 1⟩],
   [⟨.name, 1, 1⟩],
   [⟨.name, 2, 1⟩],
   [⟨.name, 3, 1⟩],
   [⟨.name, 4, 1⟩],
   [⟨.name, 5, 1⟩],
   [⟨.annotationCall, 0, 2⟩],
   [⟨.typeDefinition, 0, 2⟩],
   [⟨.errorDefinition, 0, 2⟩, ⟨.variableDefinition, 0, 2⟩, ⟨.variableDefinition, 1, 2⟩],
   [⟨.variableDefinition, 2, 2⟩, ⟨.variableDefinition, 3, 2⟩, ⟨.variableDefinition, 5, 2⟩,
    ⟨.variableAttributes, 1, 1⟩],
   [⟨.nameOrFailure, 0, 1⟩, ⟨.variableDefinition, 4, 2⟩],
   [⟨.variableAttributes, 0, 1⟩],
   [⟨.variableAttribute, 0, 1⟩],
   [⟨.variableAttribute, 1, 1⟩],
   [⟨.variableAttribute, 2, 1⟩],
   [⟨.variableAttribute, 3, 1⟩],
   [⟨.variableAttribute, 4, 1⟩, ⟨.variableAttribute, 5, 1⟩],
   [⟨.storageClass, 0, 1⟩]],
  [[⟨.storageClass, 1, 1⟩],
   [⟨.storageClass, 2, 1⟩],
   [⟨.visibility, 0, 1⟩],
   [⟨.visibility, 1, 1⟩],
   [⟨.visibility, 2, 1⟩],
   [⟨.visibility, 3, 1⟩],
   [⟨.nameOrFailure, 1, 1⟩],
   [⟨.variableDefinition, 6, 2⟩, ⟨.variableDefinition, 7, 2⟩],
   [⟨.functionDefinition, 4, 2⟩],
   [⟨.functionBody, 0, 1⟩],
   [⟨.functionBody, 1, 1⟩],
   [⟨.block, 0, 1⟩, ⟨.block, 1, 1⟩, ⟨.block, 2, 1⟩],
   [⟨.functionType, 0, 2⟩, ⟨.functionType, 1, 2⟩, ⟨.functionType, 2, 2⟩, ⟨.functionType, 3, 2⟩,
    ⟨.functionType, 4, 2⟩, ⟨.functionType, 5, 2⟩],
   [⟨.functionDefinition, 0, 2⟩, ⟨.functionDefinition, 1, 2⟩, ⟨.functionDefinition, 2, 2⟩,
    ⟨.functionDefinition, 3, 2⟩],
   [⟨.nameOrFailure, 0, 1⟩],
   [⟨.parameterList, 0, 1⟩, ⟨.parameterList, 1, 1⟩, ⟨.parameterList, 2, 1⟩, ⟨.parameterList, 3, 1⟩],
   [⟨.plainOperand, 0, 2⟩],
   [⟨.plainOperand, 1, 2⟩],
   [⟨.plainOperand, 3, 2⟩, ⟨.plainOperand, 4, 2⟩, ⟨.plainOperand, 5, 2⟩, ⟨.plainOperand, 6, 2⟩,
    ⟨.plainOperand, 7, 2⟩, ⟨.plainOperand, 8, 2⟩],
   [⟨.plainOperand, 9, 2⟩, ⟨.plainOperand, 10, 2⟩, ⟨.plainOperand, 11, 2⟩],
   [⟨.plainOperand, 13, 2⟩],
   [⟨.expressionListOrNone, 1, 1⟩],
   [⟨.expressionList, 0, 1⟩, ⟨.expressionList, 1, 1⟩],
   [⟨.expression, 0, 1⟩],
   [⟨.assignment, 0, 1⟩, ⟨.assignment, 1, 1⟩, ⟨.assignment, 2, 1⟩, ⟨.assignment, 3, 1⟩, ⟨.assignment, 4, 1⟩,
    ⟨.assignment, 5, 1⟩, ⟨.assignment, 6, 1⟩, ⟨.assignment, 7, 1⟩, ⟨.assignment, 8, 1⟩, ⟨.assignment, 9, 1⟩,
    ⟨.assignment, 10, 1⟩, ⟨.assignment, 11, 1⟩, ⟨.assignment, 12, 1⟩, ⟨.disjunction, 0, 1⟩],
   [⟨.conjunction, 0, 1⟩, ⟨.disjunction, 1, 1⟩],
   [⟨.equality, 0, 1⟩, ⟨.equality, 1, 1⟩, ⟨.conjunction, 1, 1⟩],
   [⟨.comparison, 0, 1⟩, ⟨.comparison, 1, 1⟩, ⟨.comparison, 2, 1⟩, ⟨.comparison, 3, 1⟩, ⟨.equality, 2, 1⟩],
   [⟨.bitDisjunction, 0, 1⟩, ⟨.comparison, 4, 1⟩],
   [⟨.bitDifference, 0, 1⟩, ⟨.bitDisjunction, 1, 1⟩],
   [⟨.bitConjunction, 0, 1⟩, ⟨.bitDifference, 1, 1⟩],
   [⟨.shifted, 0, 1⟩, ⟨.shifted, 1, 1⟩, ⟨.bitConjunction, 1, 1⟩]],
  [[⟨.sum, 0, 1⟩, ⟨.sum, 1, 1⟩, ⟨.shifted, 2, 1⟩],
   [⟨.product, 0, 1⟩, ⟨.product, 1, 1⟩, ⟨.product, 2, 1⟩, ⟨.sum, 2, 1⟩],
   [⟨.product, 3, 1⟩],
   [⟨.power, 0, 1⟩, ⟨.power, 1, 1⟩],
   [⟨.signed, 0, 1⟩],
   [⟨.signed, 1, 1⟩],
   [⟨.signed, 2, 1⟩],
   [⟨.signed, 3, 1⟩],
   [⟨.signed, 4, 1⟩],
   [⟨.signed, 5, 1⟩],
   [⟨.signed, 6, 1⟩],
   [⟨.signed, 7, 1⟩],
   [⟨.signed, 8, 1⟩],
   [⟨.plainOperand, 0, 1⟩, ⟨.plainOperand, 1, 1⟩, ⟨.plainOperand, 3, 1⟩, ⟨.plainOperand, 4, 1⟩,
    ⟨.plainOperand, 5, 1⟩, ⟨.plainOperand, 6, 1⟩, ⟨.plainOperand, 7, 1⟩, ⟨.plainOperand, 8, 1⟩,
    ⟨.plainOperand, 9, 1⟩, ⟨.plainOperand, 10, 1⟩, ⟨.plainOperand, 11, 1⟩, ⟨.signed, 9, 1⟩],
   [⟨.callee, 0, 1⟩, ⟨.operand, 0, 1⟩],
   [⟨.operand, 1, 1⟩],
   [⟨.functionOperand, 0, 1⟩],
   [⟨.functionType, 0, 1⟩, ⟨.functionType, 1, 1⟩, ⟨.functionType, 2, 1⟩, ⟨.functionType, 3, 1⟩,
    ⟨.functionType, 4, 1⟩, ⟨.functionType, 5, 1⟩],
   [⟨.callee, 1, 1⟩],
   [⟨.textLiterals, 1, 2⟩],
   [⟨.hexLiterals, 1, 2⟩],
   [⟨.entryList, 0, 2⟩],
   [⟨.entryList, 1, 2⟩, ⟨.optionalEntry, 0, 1⟩],
   [⟨.entryList, 2, 2⟩],
   [⟨.entryList, 3, 2⟩],
   [⟨.optionalEntryListOfTwo, 0, 1⟩],
   [⟨.quantity, 6, 1⟩, ⟨.entry, 0, 1⟩, ⟨.entry, 1, 1⟩],
   [⟨.entry, 2, 1⟩],
   [⟨.builtinType, 2, 2⟩],
   [⟨.builtinType, 10, 2⟩, ⟨.builtinType, 11, 2⟩, ⟨.builtinType, 12, 2⟩, ⟨.builtinType, 13, 2⟩],
   [⟨.quantity, 0, 2⟩],
   [⟨.quantity, 2, 2⟩]],
  [[⟨.quantity, 4, 2⟩],
   [⟨.functionCall, 0, 2⟩, ⟨.functionCall, 2, 2⟩],
   [⟨.functionCall, 1, 2⟩],
   [⟨.eventDefinition, 0, 2⟩, ⟨.eventDefinition, 1, 2⟩],
   [⟨.structDefinition, 0, 2⟩, ⟨.structDefinition, 1, 2⟩],
   [⟨.enumDefinition, 0, 2⟩],
   [⟨.importDirective, 0, 2⟩, ⟨.importDirective, 1, 2⟩],
   [⟨.importDirective, 2, 2⟩],
   [⟨.importDirective, 3, 2⟩],
   [⟨.importPath, 0, 1⟩],
   [⟨.importPath, 1, 1⟩],
   [⟨.pragmaDirective, 0, 2⟩, ⟨.pragmaDirective, 1, 2⟩, ⟨.pragmaDirective, 2, 2⟩],
   [⟨.pragmaDirective, 3, 2⟩],
   [⟨.contractDefinition, 0, 2⟩, ⟨.contractDefinition, 1, 2⟩],
   [⟨.contractKind, 0, 2⟩],
   [⟨.usingDirective, 0, 3⟩, ⟨.usingDirective, 1, 3⟩, ⟨.usingDirective, 2, 3⟩, ⟨.usingDirective, 3, 3⟩],
   [⟨.usingDirective, 4, 3⟩],
   [⟨.usingList, 1, 2⟩],
   [⟨.usingFunctionListOrNone, 1, 1⟩],
   [⟨.usingFunctionList, 0, 1⟩, ⟨.usingFunctionList, 1, 1⟩],
   [⟨.usingFunction, 0, 1⟩, ⟨.usingFunction, 1, 1⟩],
   [⟨.namePath, 1, 2⟩, ⟨.namePathSteps, 1, 1⟩],
   [⟨.namePathSteps, 0, 1⟩],
   [⟨.annotationCall, 0, 3⟩],
   [⟨.typeDefinition, 0, 3⟩],
   [⟨.errorDefinition, 0, 3⟩],
   [⟨.variableDefinition, 0, 3⟩],
   [⟨.variableDefinition, 1, 3⟩],
   [⟨.variableDefinition, 2, 3⟩, ⟨.variableDefinition, 3, 3⟩],
   [⟨.nameOrFailure, 0, 1⟩, ⟨.variableDefinition, 5, 3⟩],
   [⟨.variableAttributes, 1, 2⟩],
   [⟨.variableDefinition, 4, 3⟩]],
  [[⟨.variableAttribute, 5, 2⟩],
   [⟨.variableDefinition, 6, 3⟩],
   [⟨.variableDefinition, 7, 3⟩],
   [⟨.block, 0, 2⟩],
   [⟨.block, 1, 2⟩, ⟨.statements, 1, 1⟩],
   [⟨.block, 2, 2⟩],
   [⟨.namedArgumentList, 0, 1⟩, ⟨.namedArgumentList, 1, 1⟩],
   [⟨.namedArgument, 0, 1⟩],
   [⟨.builtinType, 1, 1⟩, ⟨.builtinType, 2, 1⟩, ⟨.namedArgument, 1, 1⟩],
   [⟨.variableName, 0, 1⟩, ⟨.name, 0, 1⟩],
   [⟨.variableName, 1, 1⟩, ⟨.name, 1, 1⟩],
   [⟨.variableName, 2, 1⟩, ⟨.name, 2, 1⟩],
   [⟨.variableName, 3, 1⟩, ⟨.name, 3, 1⟩],
   [⟨.variableName, 4, 1⟩, ⟨.name, 4, 1⟩],
   [⟨.signed, 8, 1⟩, ⟨.name, 5, 1⟩, ⟨.plainStatement, 16, 1⟩, ⟨.plainStatement, 17, 1⟩, ⟨.plainStatement, 18,
    1⟩, ⟨.plainStatement, 19, 1⟩],
   [⟨.statements, 0, 1⟩],
   [⟨.statement, 0, 1⟩],
   [⟨.statement, 1, 1⟩],
   [⟨.statement, 2, 1⟩],
   [⟨.closedStatement, 0, 1⟩],
   [⟨.openStatement, 0, 1⟩, ⟨.openStatement, 1, 1⟩, ⟨.closedStatement, 1, 1⟩],
   [⟨.openStatement, 10, 1⟩, ⟨.closedStatement, 2, 1⟩],
   [⟨.openStatement, 2, 1⟩, ⟨.openStatement, 3, 1⟩, ⟨.openStatement, 4, 1⟩, ⟨.openStatement, 5, 1⟩,
    ⟨.openStatement, 6, 1⟩, ⟨.openStatement, 7, 1⟩, ⟨.openStatement, 8, 1⟩, ⟨.openStatement, 9, 1⟩,
    ⟨.closedStatement, 3, 1⟩, ⟨.closedStatement, 4, 1⟩, ⟨.closedStatement, 5, 1⟩, ⟨.closedStatement, 6, 1⟩,
    ⟨.closedStatement, 7, 1⟩, ⟨.closedStatement, 8, 1⟩, ⟨.closedStatement, 9, 1⟩, ⟨.closedStatement, 10, 1⟩,
    ⟨.closedStatement, 11, 1⟩, ⟨.closedStatement, 12, 1⟩, ⟨.closedStatement, 13, 1⟩, ⟨.closedStatement, 14,
    1⟩, ⟨.closedStatement, 15, 1⟩, ⟨.closedStatement, 16, 1⟩, ⟨.closedStatement, 17, 1⟩, ⟨.closedStatement,
    18, 1⟩],
   [⟨.plainStatement, 0, 1⟩],
   [⟨.plainStatement, 1, 1⟩, ⟨.plainStatement, 2, 1⟩],
   [⟨.plainStatement, 3, 1⟩, ⟨.plainStatement, 4, 1⟩, ⟨.plainStatement, 5, 1⟩, ⟨.plainStatement, 6, 1⟩],
   [⟨.plainStatement, 7, 1⟩],
   [⟨.plainStatement, 8, 1⟩],
   [⟨.plainStatement, 9, 1⟩],
   [⟨.plainStatement, 10, 1⟩],
   [⟨.plainStatement, 11, 1⟩, ⟨.plainStatement, 12, 1⟩],
   [⟨.plainStatement, 13, 1⟩, ⟨.plainStatement, 14, 1⟩]],
  [[⟨.plainStatement, 15, 1⟩],
   [⟨.simpleStatement, 0, 1⟩, ⟨.simpleStatement, 1, 1⟩],
   [⟨.simpleStatement, 2, 1⟩],
   [⟨.quantity, 6, 1⟩, ⟨.variableDeclaration, 0, 1⟩, ⟨.variableDeclaration, 1, 1⟩],
   [⟨.functionType, 0, 3⟩, ⟨.functionType, 1, 3⟩],
   [⟨.functionType, 3, 3⟩, ⟨.functionType, 4, 3⟩, ⟨.functionType, 5, 3⟩, ⟨.functionTypeAttributes, 1, 1⟩],
   [⟨.functionTypeAttributes, 0, 1⟩],
   [⟨.functionTypeAttribute, 0, 1⟩],
   [⟨.functionTypeAttribute, 1, 1⟩],
   [⟨.functionTypeAttribute, 2, 1⟩],
   [⟨.mutability, 0, 1⟩],
   [⟨.mutability, 1, 1⟩],
   [⟨.mutability, 2, 1⟩],
   [⟨.mutability, 3, 1⟩],
   [⟨.functionDefinition, 0, 3⟩, ⟨.functionDefinition, 1, 3⟩, ⟨.functionDefinition, 2, 3⟩,
    ⟨.functionDefinition, 3, 3⟩],
   [⟨.parameterList, 0, 2⟩],
   [⟨.parameterList, 1, 2⟩, ⟨.optionalParameter, 0, 1⟩],
   [⟨.parameterList, 2, 2⟩],
   [⟨.parameterList, 3, 2⟩],
   [⟨.optionalParameterListOfTwo, 0, 1⟩],
   [⟨.parameter, 0, 1⟩, ⟨.parameter, 1, 1⟩, ⟨.parameter, 2, 1⟩, ⟨.parameter, 3, 1⟩],
   [⟨.quantity, 6, 1⟩, ⟨.parameter, 4, 1⟩, ⟨.parameter, 5, 1⟩, ⟨.parameter, 6, 1⟩, ⟨.parameter, 7, 1⟩],
   [⟨.parameterMark, 0, 1⟩],
   [⟨.plainOperand, 3, 3⟩, ⟨.plainOperand, 5, 3⟩, ⟨.plainOperand, 6, 3⟩],
   [⟨.plainOperand, 4, 3⟩],
   [⟨.plainOperand, 7, 3⟩, ⟨.plainOperand, 8, 3⟩],
   [⟨.plainOperand, 9, 3⟩],
   [⟨.plainOperand, 10, 3⟩],
   [⟨.plainOperand, 11, 3⟩],
   [⟨.plainOperand, 13, 3⟩],
   [⟨.expressionList, 1, 2⟩, ⟨.expressionTail, 1, 1⟩],
   [⟨.expressionTail, 0, 1⟩]],
  [[⟨.assignment, 0, 2⟩],
   [⟨.assignment, 1, 2⟩],
   [⟨.assignment, 2, 2⟩],
   [⟨.assignment, 3, 2⟩],
   [⟨.assignment, 4, 2⟩],
   [⟨.assignment, 5, 2⟩],
   [⟨.assignment, 6, 2⟩],
   [⟨.assignment, 7, 2⟩],
   [⟨.assignment, 8, 2⟩],
   [⟨.assignment, 9, 2⟩],
   [⟨.assignment, 10, 2⟩],
   [⟨.assignment, 11, 2⟩],
   [⟨.disjunction, 0, 2⟩],
   [⟨.conjunction, 0, 2⟩],
   [⟨.equality, 0, 2⟩],
   [⟨.equality, 1, 2⟩],
   [⟨.comparison, 0, 2⟩],
   [⟨.comparison, 1, 2⟩],
   [⟨.comparison, 2, 2⟩],
   [⟨.comparison, 3, 2⟩],
   [⟨.bitDisjunction, 0, 2⟩],
   [⟨.bitDifference, 0, 2⟩],
   [⟨.bitConjunction, 0, 2⟩],
   [⟨.shifted, 0, 2⟩],
   [⟨.shifted, 1, 2⟩],
   [⟨.sum, 0, 2⟩],
   [⟨.sum, 1, 2⟩],
   [⟨.product, 0, 2⟩],
   [⟨.product, 1, 2⟩],
   [⟨.product, 2, 2⟩],
   [⟨.power, 0, 2⟩],
   [⟨.signed, 0, 2⟩]],
  [[⟨.signed, 1, 2⟩],
   [⟨.signed, 2, 2⟩],
   [⟨.signed, 3, 2⟩],
   [⟨.signed, 4, 2⟩],
   [⟨.signed, 5, 2⟩],
   [⟨.signed, 6, 2⟩],
   [⟨.signed, 7, 2⟩],
   [⟨.entryList, 1, 3⟩],
   [⟨.entryList, 2, 3⟩],
   [⟨.entryList, 3, 3⟩],
   [⟨.optionalEntryListOfTwo, 0, 2⟩, ⟨.optionalEntryTail, 1, 1⟩],
   [⟨.optionalEntryTail, 0, 1⟩],
   [⟨.entry, 0, 2⟩],
   [⟨.entry, 1, 2⟩],
   [⟨.storageLocation, 0, 1⟩],
   [⟨.storageLocation, 1, 1⟩],
   [⟨.storageLocation, 2, 1⟩],
   [⟨.builtinType, 10, 3⟩, ⟨.builtinType, 11, 3⟩, ⟨.builtinType, 12, 3⟩, ⟨.builtinType, 13, 3⟩, ⟨.quantity,
    6, 1⟩],
   [⟨.functionCall, 0, 3⟩],
   [⟨.functionCall, 2, 3⟩],
   [⟨.eventDefinition, 0, 3⟩, ⟨.eventDefinition, 1, 3⟩],
   [⟨.structDefinition, 0, 3⟩, ⟨.structDefinition, 1, 3⟩],
   [⟨.enumDefinition, 0, 3⟩],
   [⟨.importDirective, 0, 3⟩],
   [⟨.importDirective, 1, 3⟩],
   [⟨.importDirective, 2, 3⟩],
   [⟨.importDirective, 3, 3⟩],
   [⟨.importRenameList, 0, 1⟩, ⟨.importRenameList, 1, 1⟩],
   [⟨.importRename, 0, 1⟩, ⟨.importRename, 1, 1⟩],
   [⟨.pragmaDirective, 0, 3⟩],
   [⟨.pragmaDirective, 1, 3⟩],
   [⟨.pragmaDirective, 2, 3⟩, ⟨.versionChoices, 1, 1⟩]],
  [[⟨.versionChoice, 0, 1⟩, ⟨.versionChoices, 0, 1⟩],
   [⟨.versionChoice, 1, 1⟩],
   [⟨.versionRange, 0, 1⟩, ⟨.versionRange, 2, 1⟩],
   [⟨.versionRange, 1, 1⟩],
   [⟨.version, 0, 1⟩, ⟨.version, 1, 1⟩],
   [⟨.versionOperator, 0, 1⟩],
   [⟨.versionOperator, 1, 1⟩],
   [⟨.versionOperator, 2, 1⟩],
   [⟨.versionOperator, 3, 1⟩],
   [⟨.versionOperator, 4, 1⟩],
   [⟨.versionOperator, 5, 1⟩],
   [⟨.versionOperator, 6, 1⟩],
   [⟨.versionOperator, 7, 1⟩],
   [⟨.plainName, 0, 1⟩],
   [⟨.pragmaDirective, 3, 3⟩],
   [⟨.contractDefinition, 0, 3⟩, ⟨.contractDefinition, 1, 3⟩],
   [⟨.bases, 1, 1⟩],
   [⟨.quantity, 6, 1⟩, ⟨.usingDirective, 0, 4⟩, ⟨.usingDirective, 1, 4⟩],
   [⟨.usingDirective, 2, 4⟩, ⟨.usingDirective, 3, 4⟩],
   [⟨.usingList, 1, 3⟩],
   [⟨.usingFunctionList, 1, 2⟩, ⟨.usingFunctionTail, 1, 1⟩],
   [⟨.usingFunctionTail, 0, 1⟩],
   [⟨.usingFunction, 0, 2⟩],
   [⟨.boundOperator, 0, 1⟩, ⟨.boundOperator, 1, 1⟩, ⟨.boundOperator, 2, 1⟩, ⟨.boundOperator, 3, 1⟩,
    ⟨.boundOperator, 4, 1⟩, ⟨.boundOperator, 5, 1⟩, ⟨.boundOperator, 6, 1⟩, ⟨.boundOperator, 7, 1⟩,
    ⟨.boundOperator, 8, 1⟩, ⟨.boundOperator, 9, 1⟩, ⟨.boundOperator, 10, 1⟩, ⟨.boundOperator, 11, 1⟩,
    ⟨.boundOperator, 12, 1⟩, ⟨.boundOperator, 13, 1⟩, ⟨.boundOperator, 14, 1⟩],
   [⟨.namePathSteps, 1, 2⟩],
   [⟨.namePathSteps, 0, 2⟩],
   [⟨.annotationCall, 0, 4⟩],
   [⟨.quantity, 6, 1⟩, ⟨.typeDefinition, 0, 4⟩],
   [⟨.errorDefinition, 0, 4⟩],
   [⟨.errorParameterListOrNone, 1, 1⟩],
   [⟨.errorParameterList, 0, 1⟩, ⟨.errorParameterList, 1, 1⟩],
   [⟨.quantity, 6, 1⟩, ⟨.errorParameter, 0, 1⟩, ⟨.errorParameter, 1, 1⟩]],
  [[⟨.variableDefinition, 0, 4⟩],
   [⟨.variableDefinition, 2, 4⟩],
   [⟨.variableDefinition, 3, 4⟩],
   [⟨.variableDefinition, 5, 4⟩],
   [⟨.variableDefinition, 4, 4⟩],
   [⟨.variableAttribute, 5, 3⟩],
   [⟨.namePathList, 0, 1⟩, ⟨.namePathList, 1, 1⟩],
   [⟨.variableDefinition, 6, 4⟩],
   [⟨.block, 1, 3⟩],
   [⟨.statements, 1, 2⟩],
   [⟨.signed, 8, 1⟩, ⟨.plainStatement, 16, 1⟩, ⟨.plainStatement, 17, 1⟩, ⟨.plainStatement, 18, 1⟩,
    ⟨.plainStatement, 19, 1⟩],
   [⟨.block, 2, 3⟩],
   [⟨.namedArgumentList, 1, 2⟩, ⟨.namedArgumentTail, 1, 1⟩],
   [⟨.namedArgumentTail, 0, 1⟩],
   [⟨.namedArgument, 0, 2⟩],
   [⟨.namedArgument, 1, 2⟩],
   [⟨.plainStatement, 16, 2⟩, ⟨.plainStatement, 18, 2⟩],
   [⟨.plainStatement, 17, 2⟩, ⟨.plainStatement, 19, 2⟩],
   [⟨.openStatement, 0, 2⟩, ⟨.openStatement, 1, 2⟩, ⟨.closedStatement, 1, 2⟩],
   [⟨.openStatement, 10, 2⟩, ⟨.closedStatement, 2, 2⟩],
   [⟨.openStatement, 2, 2⟩, ⟨.openStatement, 3, 2⟩, ⟨.openStatement, 4, 2⟩, ⟨.openStatement, 5, 2⟩,
    ⟨.openStatement, 6, 2⟩, ⟨.openStatement, 7, 2⟩, ⟨.openStatement, 8, 2⟩, ⟨.openStatement, 9, 2⟩,
    ⟨.closedStatement, 3, 2⟩, ⟨.closedStatement, 4, 2⟩, ⟨.closedStatement, 5, 2⟩, ⟨.closedStatement, 6, 2⟩,
    ⟨.closedStatement, 7, 2⟩, ⟨.closedStatement, 8, 2⟩, ⟨.closedStatement, 9, 2⟩, ⟨.closedStatement, 10, 2⟩,
    ⟨.closedStatement, 11, 2⟩, ⟨.closedStatement, 12, 2⟩, ⟨.closedStatement, 13, 2⟩, ⟨.closedStatement, 14,
    2⟩, ⟨.closedStatement, 15, 2⟩, ⟨.closedStatement, 16, 2⟩, ⟨.closedStatement, 17, 2⟩, ⟨.closedStatement,
    18, 2⟩],
   [⟨.plainStatement, 1, 2⟩, ⟨.plainStatement, 2, 2⟩],
   [⟨.plainStatement, 3, 2⟩, ⟨.plainStatement, 4, 2⟩],
   [⟨.plainStatement, 5, 2⟩],
   [⟨.plainStatement, 6, 2⟩],
   [⟨.yulBlock, 0, 1⟩, ⟨.yulBlock, 1, 1⟩],
   [⟨.assemblyFlags, 0, 1⟩],
   [⟨.plainStatement, 7, 2⟩],
   [⟨.plainStatement, 8, 2⟩],
   [⟨.plainStatement, 9, 2⟩],
   [⟨.plainStatement, 10, 2⟩],
   [⟨.plainStatement, 11, 2⟩]],
  [[⟨.plainStatement, 12, 2⟩],
   [⟨.plainStatement, 13, 2⟩, ⟨.plainStatement, 14, 2⟩],
   [⟨.tryCall, 0, 1⟩],
   [⟨.plainOperand, 2, 1⟩, ⟨.tryCall, 1, 1⟩],
   [⟨.plainOperand, 2, 1⟩, ⟨.plainStatement, 15, 2⟩],
   [⟨.simpleStatement, 0, 2⟩],
   [⟨.variableDeclaration, 0, 2⟩],
   [⟨.variableDeclaration, 1, 2⟩],
   [⟨.functionType, 0, 4⟩, ⟨.functionType, 1, 4⟩],
   [⟨.functionType, 3, 4⟩, ⟨.functionType, 4, 4⟩],
   [⟨.functionTypeAttributes, 1, 2⟩],
   [⟨.functionDefinition, 0, 4⟩],
   [⟨.functionDefinition, 1, 4⟩],
   [⟨.functionAttributes, 1, 1⟩, ⟨.functionDefinition, 2, 4⟩, ⟨.functionDefinition, 3, 4⟩],
   [⟨.functionAttributes, 0, 1⟩],
   [⟨.functionAttribute, 0, 1⟩],
   [⟨.functionAttribute, 1, 1⟩],
   [⟨.functionAttribute, 2, 1⟩],
   [⟨.functionAttribute, 3, 1⟩],
   [⟨.functionAttribute, 4, 1⟩, ⟨.functionAttribute, 5, 1⟩],
   [⟨.functionAttribute, 6, 1⟩],
   [⟨.functionAttribute, 7, 1⟩],
   [⟨.base, 0, 1⟩, ⟨.base, 1, 1⟩],
   [⟨.returnsWord, 0, 1⟩],
   [⟨.returnsWord, 1, 1⟩],
   [⟨.parameterList, 1, 3⟩],
   [⟨.parameterList, 2, 3⟩],
   [⟨.parameterList, 3, 3⟩],
   [⟨.optionalParameterListOfTwo, 0, 2⟩, ⟨.optionalParameterTail, 1, 1⟩],
   [⟨.optionalParameterTail, 0, 1⟩],
   [⟨.quantity, 6, 1⟩, ⟨.parameter, 0, 2⟩, ⟨.parameter, 1, 2⟩, ⟨.parameter, 2, 2⟩, ⟨.parameter, 3, 2⟩],
   [⟨.parameter, 4, 2⟩, ⟨.parameter, 5, 2⟩]],
  [[⟨.parameter, 6, 2⟩],
   [⟨.plainOperand, 3, 4⟩],
   [⟨.plainOperand, 5, 4⟩, ⟨.plainOperand, 6, 4⟩],
   [⟨.plainOperand, 7, 4⟩],
   [⟨.plainOperand, 8, 4⟩],
   [⟨.expressionTail, 1, 2⟩],
   [⟨.expressionTail, 0, 2⟩],
   [⟨.assignment, 0, 3⟩],
   [⟨.assignment, 1, 3⟩],
   [⟨.assignment, 2, 3⟩],
   [⟨.assignment, 3, 3⟩],
   [⟨.assignment, 4, 3⟩],
   [⟨.assignment, 5, 3⟩],
   [⟨.assignment, 6, 3⟩],
   [⟨.assignment, 7, 3⟩],
   [⟨.assignment, 8, 3⟩],
   [⟨.assignment, 9, 3⟩],
   [⟨.assignment, 10, 3⟩],
   [⟨.assignment, 11, 3⟩],
   [⟨.conjunction, 0, 1⟩, ⟨.disjunction, 0, 3⟩],
   [⟨.equality, 0, 1⟩, ⟨.equality, 1, 1⟩, ⟨.conjunction, 0, 3⟩],
   [⟨.comparison, 0, 1⟩, ⟨.comparison, 1, 1⟩, ⟨.comparison, 2, 1⟩, ⟨.comparison, 3, 1⟩, ⟨.equality, 0, 3⟩],
   [⟨.comparison, 0, 1⟩, ⟨.comparison, 1, 1⟩, ⟨.comparison, 2, 1⟩, ⟨.comparison, 3, 1⟩, ⟨.equality, 1, 3⟩],
   [⟨.bitDisjunction, 0, 1⟩, ⟨.comparison, 0, 3⟩],
   [⟨.bitDisjunction, 0, 1⟩, ⟨.comparison, 1, 3⟩],
   [⟨.bitDisjunction, 0, 1⟩, ⟨.comparison, 2, 3⟩],
   [⟨.bitDisjunction, 0, 1⟩, ⟨.comparison, 3, 3⟩],
   [⟨.bitDifference, 0, 1⟩, ⟨.bitDisjunction, 0, 3⟩],
   [⟨.bitConjunction, 0, 1⟩, ⟨.bitDifference, 0, 3⟩],
   [⟨.shifted, 0, 1⟩, ⟨.shifted, 1, 1⟩, ⟨.bitConjunction, 0, 3⟩],
   [⟨.sum, 0, 1⟩, ⟨.sum, 1, 1⟩, ⟨.shifted, 0, 3⟩],
   [⟨.sum, 0, 1⟩, ⟨.sum, 1, 1⟩, ⟨.shifted, 1, 3⟩]],
  [[⟨.product, 0, 1⟩, ⟨.product, 1, 1⟩, ⟨.product, 2, 1⟩, ⟨.sum, 0, 3⟩],
   [⟨.product, 0, 1⟩, ⟨.product, 1, 1⟩, ⟨.product, 2, 1⟩, ⟨.sum, 1, 3⟩],
   [⟨.product, 0, 3⟩],
   [⟨.product, 1, 3⟩],
   [⟨.product, 2, 3⟩],
   [⟨.power, 0, 3⟩],
   [⟨.optionalEntryTail, 1, 2⟩],
   [⟨.optionalEntryTail, 0, 2⟩],
   [⟨.optionalEntry, 0, 1⟩],
   [⟨.entry, 0, 3⟩],
   [⟨.builtinType, 10, 4⟩, ⟨.builtinType, 11, 4⟩],
   [⟨.builtinType, 12, 4⟩, ⟨.builtinType, 13, 4⟩],
   [⟨.functionCall, 0, 4⟩],
   [⟨.functionCall, 2, 4⟩],
   [⟨.namedArgumentListOrNone, 1, 1⟩],
   [⟨.namedArgument, 1, 1⟩],
   [⟨.eventDefinition, 0, 4⟩, ⟨.eventDefinition, 1, 4⟩],
   [⟨.eventParameterListOrNone, 1, 1⟩],
   [⟨.eventParameterList, 0, 1⟩, ⟨.eventParameterList, 1, 1⟩],
   [⟨.quantity, 6, 1⟩, ⟨.eventParameter, 0, 1⟩, ⟨.eventParameter, 1, 1⟩, ⟨.eventParameter, 2, 1⟩,
    ⟨.eventParameter, 3, 1⟩],
   [⟨.structDefinition, 0, 4⟩],
   [⟨.structDefinition, 1, 4⟩, ⟨.structFields, 1, 1⟩],
   [⟨.structFields, 0, 1⟩],
   [⟨.enumDefinition, 0, 4⟩],
   [⟨.nameOrFailureListOrNone, 1, 1⟩],
   [⟨.nameOrFailureList, 0, 1⟩, ⟨.nameOrFailureList, 1, 1⟩],
   [⟨.importDirective, 1, 4⟩],
   [⟨.importDirective, 2, 4⟩],
   [⟨.importDirective, 3, 4⟩],
   [⟨.importRenameList, 1, 2⟩, ⟨.importRenameTail, 1, 1⟩],
   [⟨.importRenameTail, 0, 1⟩],
   [⟨.importRename, 1, 2⟩]],
  [[⟨.pragmaDirective, 0, 4⟩],
   [⟨.pragmaDirective, 1, 4⟩],
   [⟨.pragmaDirective, 2, 4⟩],
   [⟨.versionChoice, 0, 1⟩, ⟨.versionChoices, 1, 2⟩],
   [⟨.versionChoice, 0, 2⟩],
   [⟨.versionRange, 2, 2⟩],
   [⟨.versionRange, 1, 2⟩],
   [⟨.version, 1, 2⟩, ⟨.versionSteps, 1, 1⟩],
   [⟨.versionSteps, 0, 1⟩],
   [⟨.contractDefinition, 0, 4⟩, ⟨.contractDefinition, 1, 4⟩],
   [⟨.bases, 1, 2⟩],
   [⟨.baseList, 0, 1⟩, ⟨.baseList, 1, 1⟩],
   [⟨.usingDirective, 0, 5⟩],
   [⟨.usingDirective, 1, 5⟩],
   [⟨.usingDirective, 2, 5⟩],
   [⟨.usingDirective, 3, 5⟩],
   [⟨.usingFunctionTail, 1, 2⟩],
   [⟨.usingFunctionTail, 0, 2⟩],
   [⟨.boundOperator, 0, 2⟩],
   [⟨.boundOperator, 1, 2⟩],
   [⟨.boundOperator, 2, 2⟩],
   [⟨.boundOperator, 3, 2⟩],
   [⟨.boundOperator, 4, 2⟩],
   [⟨.boundOperator, 5, 2⟩],
   [⟨.boundOperator, 6, 2⟩],
   [⟨.boundOperator, 7, 2⟩],
   [⟨.boundOperator, 8, 2⟩],
   [⟨.boundOperator, 9, 2⟩],
   [⟨.boundOperator, 10, 2⟩],
   [⟨.boundOperator, 11, 2⟩],
   [⟨.boundOperator, 12, 2⟩],
   [⟨.boundOperator, 13, 2⟩]],
  [[⟨.boundOperator, 14, 2⟩],
   [⟨.namePathSteps, 1, 3⟩],
   [⟨.typeDefinition, 0, 5⟩],
   [⟨.errorDefinition, 0, 5⟩],
   [⟨.errorParameterList, 1, 2⟩, ⟨.errorParameterTail, 1, 1⟩],
   [⟨.errorParameterTail, 0, 1⟩],
   [⟨.errorParameter, 0, 2⟩],
   [⟨.variableDefinition, 0, 5⟩],
   [⟨.variableDefinition, 2, 5⟩],
   [⟨.variableDefinition, 5, 5⟩],
   [⟨.variableAttribute, 5, 4⟩],
   [⟨.namePathList, 1, 2⟩, ⟨.namePathTail, 1, 1⟩],
   [⟨.namePathTail, 0, 1⟩],
   [⟨.variableDefinition, 6, 5⟩],
   [⟨.namedArgumentTail, 1, 2⟩],
   [⟨.namedArgumentTail, 0, 2⟩],
   [⟨.namedArgument, 0, 3⟩],
   [⟨.namedArgument, 1, 3⟩],
   [⟨.plainStatement, 16, 3⟩, ⟨.plainStatement, 18, 3⟩],
   [⟨.plainStatement, 17, 3⟩],
   [⟨.plainStatement, 19, 3⟩],
   [⟨.openStatement, 0, 3⟩, ⟨.openStatement, 1, 3⟩, ⟨.closedStatement, 1, 3⟩],
   [⟨.openStatement, 10, 3⟩, ⟨.closedStatement, 2, 3⟩],
   [⟨.openStatement, 2, 3⟩, ⟨.openStatement, 3, 3⟩, ⟨.openStatement, 4, 3⟩, ⟨.openStatement, 5, 3⟩,
    ⟨.closedStatement, 3, 3⟩, ⟨.closedStatement, 4, 3⟩, ⟨.closedStatement, 5, 3⟩, ⟨.closedStatement, 6, 3⟩,
    ⟨.closedStatement, 11, 3⟩, ⟨.closedStatement, 12, 3⟩, ⟨.closedStatement, 13, 3⟩, ⟨.closedStatement, 14,
    3⟩],
   [⟨.openStatement, 6, 3⟩, ⟨.openStatement, 7, 3⟩, ⟨.openStatement, 8, 3⟩, ⟨.openStatement, 9, 3⟩,
    ⟨.closedStatement, 7, 3⟩, ⟨.closedStatement, 8, 3⟩, ⟨.closedStatement, 9, 3⟩, ⟨.closedStatement, 10, 3⟩,
    ⟨.closedStatement, 15, 3⟩, ⟨.closedStatement, 16, 3⟩, ⟨.closedStatement, 17, 3⟩, ⟨.closedStatement, 18,
    3⟩],
   [⟨.plainStatement, 1, 3⟩],
   [⟨.plainStatement, 2, 3⟩, ⟨.statements, 1, 1⟩],
   [⟨.plainStatement, 3, 3⟩],
   [⟨.plainStatement, 4, 3⟩],
   [⟨.plainStatement, 5, 3⟩],
   [⟨.yulBlock, 0, 2⟩],
   [⟨.yulBlock, 1, 2⟩, ⟨.yulStatements, 1, 1⟩]],
  [[⟨.yulStatements, 0, 1⟩],
   [⟨.yulStatement, 0, 1⟩],
   [⟨.yulStatement, 1, 1⟩],
   [⟨.yulStatement, 2, 1⟩],
   [⟨.yulStatement, 3, 1⟩],
   [⟨.yulStatement, 4, 1⟩],
   [⟨.yulStatement, 5, 1⟩],
   [⟨.yulStatement, 6, 1⟩],
   [⟨.yulStatement, 7, 1⟩],
   [⟨.yulStatement, 8, 1⟩],
   [⟨.yulStatement, 9, 1⟩],
   [⟨.yulStatement, 10, 1⟩],
   [⟨.yulStatement, 11, 1⟩],
   [⟨.yulFunction, 0, 1⟩, ⟨.yulFunction, 1, 1⟩, ⟨.yulFunction, 2, 1⟩, ⟨.yulFunction, 3, 1⟩],
   [⟨.yulSwitch, 0, 1⟩, ⟨.yulSwitch, 1, 1⟩, ⟨.yulSwitch, 2, 1⟩],
   [⟨.yulFor, 0, 1⟩],
   [⟨.yulIf, 0, 1⟩],
   [⟨.yulPath, 0, 1⟩, ⟨.yulCall, 0, 1⟩],
   [⟨.yulName, 0, 1⟩],
   [⟨.yulName, 1, 1⟩],
   [⟨.yulName, 2, 1⟩],
   [⟨.yulName, 3, 1⟩],
   [⟨.yulName, 4, 1⟩],
   [⟨.yulName, 5, 1⟩],
   [⟨.yulName, 6, 1⟩],
   [⟨.yulName, 7, 1⟩],
   [⟨.yulName, 8, 1⟩],
   [⟨.yulName, 9, 1⟩],
   [⟨.yulName, 10, 1⟩],
   [⟨.yulName, 11, 1⟩],
   [⟨.yulName, 12, 1⟩],
   [⟨.yulName, 13, 1⟩]],
  [[⟨.yulName, 14, 1⟩],
   [⟨.yulName, 15, 1⟩],
   [⟨.yulName, 16, 1⟩],
   [⟨.yulName, 17, 1⟩],
   [⟨.yulName, 18, 1⟩],
   [⟨.yulName, 19, 1⟩],
   [⟨.yulName, 20, 1⟩],
   [⟨.yulName, 21, 1⟩],
   [⟨.yulName, 22, 1⟩],
   [⟨.yulName, 23, 1⟩],
   [⟨.yulName, 24, 1⟩],
   [⟨.yulName, 25, 1⟩],
   [⟨.yulName, 26, 1⟩],
   [⟨.yulName, 27, 1⟩],
   [⟨.yulName, 28, 1⟩],
   [⟨.yulName, 29, 1⟩],
   [⟨.yulName, 30, 1⟩],
   [⟨.yulName, 31, 1⟩],
   [⟨.yulName, 32, 1⟩],
   [⟨.yulName, 33, 1⟩],
   [⟨.yulName, 34, 1⟩],
   [⟨.yulName, 35, 1⟩],
   [⟨.yulName, 36, 1⟩],
   [⟨.yulName, 37, 1⟩],
   [⟨.yulName, 38, 1⟩],
   [⟨.yulName, 39, 1⟩],
   [⟨.yulName, 40, 1⟩],
   [⟨.yulName, 41, 1⟩],
   [⟨.yulName, 42, 1⟩],
   [⟨.yulName, 43, 1⟩],
   [⟨.yulName, 44, 1⟩],
   [⟨.yulName, 45, 1⟩]],
  [[⟨.yulName, 46, 1⟩],
   [⟨.yulName, 47, 1⟩],
   [⟨.yulName, 48, 1⟩],
   [⟨.yulName, 49, 1⟩],
   [⟨.yulName, 50, 1⟩],
   [⟨.yulName, 51, 1⟩],
   [⟨.yulName, 52, 1⟩],
   [⟨.yulName, 53, 1⟩],
   [⟨.yulAssignment, 0, 1⟩],
   [⟨.yulPath, 1, 1⟩, ⟨.yulPathList, 0, 1⟩, ⟨.yulPathList, 1, 1⟩],
   [⟨.yulVariable, 0, 1⟩, ⟨.yulVariable, 1, 1⟩],
   [⟨.assemblyFlags, 0, 2⟩],
   [⟨.textLiteralList, 0, 1⟩, ⟨.textLiteralList, 1, 1⟩],
   [⟨.plainStatement, 8, 3⟩],
   [⟨.plainStatement, 12, 3⟩],
   [⟨.plainStatement, 13, 3⟩],
   [⟨.plainStatement, 14, 3⟩, ⟨.catchClauses, 1, 1⟩],
   [⟨.catchClauses, 0, 1⟩],
   [⟨.catchClause, 0, 1⟩, ⟨.catchClause, 1, 1⟩, ⟨.catchClause, 2, 1⟩],
   [⟨.trySuccess, 0, 1⟩],
   [⟨.plainOperand, 2, 1⟩, ⟨.tryCall, 0, 2⟩],
   [⟨.plainStatement, 15, 3⟩],
   [⟨.simpleStatement, 0, 3⟩],
   [⟨.variableDeclaration, 0, 3⟩],
   [⟨.functionType, 1, 5⟩, ⟨.functionTypeAttributes, 1, 1⟩],
   [⟨.functionType, 3, 5⟩, ⟨.functionType, 4, 5⟩],
   [⟨.functionDefinition, 0, 5⟩],
   [⟨.functionDefinition, 2, 5⟩],
   [⟨.functionDefinition, 3, 5⟩],
   [⟨.functionAttributes, 1, 2⟩],
   [⟨.functionAttribute, 5, 2⟩],
   [⟨.base, 0, 2⟩]],
  [[⟨.optionalParameterTail, 1, 2⟩],
   [⟨.optionalParameterTail, 0, 2⟩],
   [⟨.optionalParameter, 0, 1⟩],
   [⟨.parameter, 0, 3⟩, ⟨.parameter, 1, 3⟩],
   [⟨.parameter, 2, 3⟩],
   [⟨.parameter, 4, 3⟩],
   [⟨.plainOperand, 5, 5⟩],
   [⟨.plainOperand, 6, 5⟩],
   [⟨.plainOperand, 7, 5⟩],
   [⟨.expressionTail, 1, 3⟩],
   [⟨.assignment, 11, 4⟩],
   [⟨.optionalEntryTail, 1, 3⟩],
   [⟨.builtinType, 10, 5⟩, ⟨.builtinType, 11, 5⟩],
   [⟨.builtinType, 12, 5⟩, ⟨.builtinType, 13, 5⟩, ⟨.quantity, 6, 1⟩],
   [⟨.functionCall, 2, 5⟩],
   [⟨.eventDefinition, 0, 5⟩, ⟨.eventDefinition, 1, 5⟩],
   [⟨.eventParameterList, 1, 2⟩, ⟨.eventParameterTail, 1, 1⟩],
   [⟨.eventParameterTail, 0, 1⟩],
   [⟨.eventParameter, 0, 2⟩, ⟨.eventParameter, 1, 2⟩],
   [⟨.eventParameter, 2, 2⟩],
   [⟨.structDefinition, 1, 5⟩],
   [⟨.structFields, 1, 2⟩],
   [⟨.structFields, 0, 2⟩],
   [⟨.enumDefinition, 0, 5⟩],
   [⟨.nameOrFailureList, 1, 2⟩, ⟨.nameOrFailureTail, 1, 1⟩],
   [⟨.nameOrFailureTail, 0, 1⟩],
   [⟨.importDirective, 1, 5⟩],
   [⟨.importDirective, 2, 5⟩],
   [⟨.importDirective, 3, 5⟩],
   [⟨.importRenameTail, 1, 2⟩],
   [⟨.importRenameTail, 0, 2⟩],
   [⟨.importRename, 1, 3⟩]],
  [[⟨.versionChoice, 0, 3⟩],
   [⟨.versionRange, 2, 3⟩],
   [⟨.versionSteps, 1, 2⟩],
   [⟨.versionSteps, 0, 2⟩],
   [⟨.contractDefinition, 0, 5⟩],
   [⟨.contractDefinition, 1, 5⟩, ⟨.contractParts, 1, 1⟩],
   [⟨.contractParts, 0, 1⟩],
   [⟨.contractPart, 0, 1⟩],
   [⟨.contractPart, 1, 1⟩],
   [⟨.contractPart, 2, 1⟩],
   [⟨.contractPart, 3, 1⟩],
   [⟨.contractPart, 4, 1⟩],
   [⟨.contractPart, 5, 1⟩],
   [⟨.contractPart, 6, 1⟩],
   [⟨.contractPart, 7, 1⟩],
   [⟨.contractPart, 8, 1⟩],
   [⟨.contractPart, 9, 1⟩],
   [⟨.contractPart, 10, 1⟩],
   [⟨.contractPart, 11, 1⟩],
   [⟨.specialDefinition, 0, 1⟩, ⟨.specialDefinition, 1, 1⟩, ⟨.specialDefinition, 2, 1⟩, ⟨.specialDefinition,
    3, 1⟩, ⟨.specialDefinition, 4, 1⟩, ⟨.specialDefinition, 5, 1⟩, ⟨.specialDefinition, 6, 1⟩,
    ⟨.specialDefinition, 7, 1⟩],
   [⟨.specialKind, 0, 1⟩],
   [⟨.specialKind, 1, 1⟩],
   [⟨.specialKind, 2, 1⟩],
   [⟨.modifierDefinition, 0, 1⟩, ⟨.modifierDefinition, 1, 1⟩, ⟨.modifierDefinition, 2, 1⟩,
    ⟨.modifierDefinition, 3, 1⟩, ⟨.modifierDefinition, 4, 1⟩, ⟨.modifierDefinition, 5, 1⟩,
    ⟨.modifierDefinition, 6, 1⟩, ⟨.modifierDefinition, 7, 1⟩],
   [⟨.baseList, 1, 2⟩, ⟨.baseTail, 1, 1⟩],
   [⟨.baseTail, 0, 1⟩],
   [⟨.usingDirective, 0, 6⟩],
   [⟨.usingDirective, 2, 6⟩],
   [⟨.usingFunctionTail, 1, 3⟩],
   [⟨.errorDefinition, 0, 6⟩],
   [⟨.errorParameterTail, 1, 2⟩],
   [⟨.errorParameterTail, 0, 2⟩]],
  [[⟨.variableDefinition, 2, 6⟩],
   [⟨.namePathTail, 1, 2⟩],
   [⟨.namePathTail, 0, 2⟩],
   [⟨.namedArgumentTail, 1, 3⟩],
   [⟨.plainStatement, 16, 4⟩],
   [⟨.plainStatement, 18, 4⟩],
   [⟨.plainStatement, 17, 4⟩],
   [⟨.plainStatement, 19, 4⟩],
   [⟨.openStatement, 0, 4⟩, ⟨.openStatement, 1, 4⟩, ⟨.closedStatement, 1, 4⟩],
   [⟨.openStatement, 10, 4⟩, ⟨.closedStatement, 2, 4⟩],
   [⟨.openStatement, 2, 4⟩, ⟨.openStatement, 3, 4⟩, ⟨.openStatement, 4, 4⟩, ⟨.openStatement, 5, 4⟩,
    ⟨.closedStatement, 3, 4⟩, ⟨.closedStatement, 4, 4⟩, ⟨.closedStatement, 5, 4⟩, ⟨.closedStatement, 6, 4⟩,
    ⟨.closedStatement, 11, 4⟩, ⟨.closedStatement, 12, 4⟩, ⟨.closedStatement, 13, 4⟩, ⟨.closedStatement, 14,
    4⟩],
   [⟨.openStatement, 6, 4⟩, ⟨.openStatement, 7, 4⟩, ⟨.closedStatement, 7, 4⟩, ⟨.closedStatement, 8, 4⟩,
    ⟨.closedStatement, 15, 4⟩, ⟨.closedStatement, 16, 4⟩],
   [⟨.openStatement, 8, 4⟩, ⟨.openStatement, 9, 4⟩, ⟨.closedStatement, 9, 4⟩, ⟨.closedStatement, 10, 4⟩,
    ⟨.closedStatement, 17, 4⟩, ⟨.closedStatement, 18, 4⟩],
   [⟨.plainStatement, 2, 4⟩],
   [⟨.plainStatement, 3, 4⟩],
   [⟨.yulBlock, 1, 3⟩],
   [⟨.yulStatements, 1, 2⟩],
   [⟨.yulFunction, 0, 2⟩, ⟨.yulFunction, 1, 2⟩, ⟨.yulFunction, 2, 2⟩, ⟨.yulFunction, 3, 2⟩],
   [⟨.yulSwitch, 0, 2⟩, ⟨.yulSwitch, 1, 2⟩, ⟨.yulSwitch, 2, 2⟩],
   [⟨.yulPath, 1, 1⟩, ⟨.yulExpression, 0, 1⟩],
   [⟨.yulExpression, 1, 1⟩],
   [⟨.yulExpression, 2, 1⟩],
   [⟨.yulLiteral, 0, 1⟩, ⟨.yulLiteral, 1, 1⟩],
   [⟨.yulLiteral, 2, 1⟩, ⟨.yulLiteral, 3, 1⟩],
   [⟨.yulLiteral, 4, 1⟩, ⟨.yulLiteral, 5, 1⟩],
   [⟨.yulLiteral, 6, 1⟩, ⟨.yulLiteral, 7, 1⟩],
   [⟨.yulLiteral, 8, 1⟩, ⟨.yulLiteral, 9, 1⟩],
   [⟨.yulLiteral, 10, 1⟩, ⟨.yulLiteral, 11, 1⟩],
   [⟨.yulFor, 0, 2⟩],
   [⟨.yulIf, 0, 2⟩],
   [⟨.yulCall, 0, 2⟩],
   [⟨.yulAssignment, 0, 2⟩]],
  [[⟨.yulPath, 1, 2⟩],
   [⟨.yulPathList, 1, 2⟩, ⟨.yulPathTail, 1, 1⟩],
   [⟨.yulPathTail, 0, 1⟩],
   [⟨.yulVariable, 0, 2⟩, ⟨.yulVariable, 1, 2⟩],
   [⟨.yulTypedNames, 0, 1⟩],
   [⟨.yulTypedNameList, 0, 1⟩, ⟨.yulTypedNameList, 1, 1⟩],
   [⟨.yulTypedName, 0, 1⟩, ⟨.yulTypedName, 1, 1⟩],
   [⟨.assemblyFlags, 0, 3⟩],
   [⟨.textLiteralList, 1, 2⟩, ⟨.textLiteralTail, 1, 1⟩],
   [⟨.textLiteralTail, 0, 1⟩],
   [⟨.plainStatement, 8, 4⟩],
   [⟨.plainStatement, 13, 4⟩, ⟨.catchClauses, 1, 1⟩],
   [⟨.catchClauses, 1, 2⟩],
   [⟨.catchClause, 0, 2⟩],
   [⟨.catchClause, 1, 2⟩],
   [⟨.catchClause, 2, 2⟩],
   [⟨.trySuccess, 0, 2⟩],
   [⟨.functionType, 4, 6⟩, ⟨.functionTypeAttributes, 1, 1⟩],
   [⟨.functionDefinition, 0, 6⟩],
   [⟨.functionDefinition, 2, 6⟩],
   [⟨.functionAttribute, 5, 3⟩],
   [⟨.base, 0, 3⟩],
   [⟨.optionalParameterTail, 1, 3⟩],
   [⟨.parameter, 0, 4⟩],
   [⟨.plainOperand, 5, 6⟩],
   [⟨.assignment, 11, 5⟩],
   [⟨.builtinType, 10, 6⟩, ⟨.builtinType, 11, 6⟩, ⟨.quantity, 6, 1⟩],
   [⟨.builtinType, 12, 6⟩],
   [⟨.builtinType, 13, 6⟩],
   [⟨.functionCall, 2, 6⟩],
   [⟨.eventDefinition, 0, 6⟩],
   [⟨.eventDefinition, 1, 6⟩]],
  [[⟨.eventParameterTail, 1, 2⟩],
   [⟨.eventParameterTail, 0, 2⟩],
   [⟨.eventParameter, 0, 3⟩],
   [⟨.structFields, 1, 3⟩],
   [⟨.nameOrFailureTail, 1, 2⟩],
   [⟨.nameOrFailureTail, 0, 2⟩],
   [⟨.importDirective, 2, 6⟩],
   [⟨.importDirective, 3, 6⟩],
   [⟨.importRenameTail, 1, 3⟩],
   [⟨.versionSteps, 1, 3⟩],
   [⟨.contractDefinition, 1, 6⟩],
   [⟨.contractParts, 1, 2⟩],
   [⟨.specialDefinition, 0, 2⟩, ⟨.specialDefinition, 1, 2⟩, ⟨.specialDefinition, 2, 2⟩, ⟨.specialDefinition,
    3, 2⟩],
   [⟨.specialDefinition, 4, 2⟩, ⟨.specialDefinition, 5, 2⟩, ⟨.specialDefinition, 6, 2⟩, ⟨.specialDefinition,
    7, 2⟩],
   [⟨.modifierDefinition, 0, 2⟩, ⟨.modifierDefinition, 1, 2⟩, ⟨.modifierDefinition, 2, 2⟩,
    ⟨.modifierDefinition, 3, 2⟩, ⟨.modifierDefinition, 4, 2⟩, ⟨.modifierDefinition, 5, 2⟩,
    ⟨.modifierDefinition, 6, 2⟩, ⟨.modifierDefinition, 7, 2⟩],
   [⟨.baseTail, 1, 2⟩],
   [⟨.baseTail, 0, 2⟩],
   [⟨.errorParameterTail, 1, 3⟩],
   [⟨.namePathTail, 1, 3⟩],
   [⟨.plainStatement, 16, 5⟩],
   [⟨.plainStatement, 18, 5⟩],
   [⟨.plainStatement, 17, 5⟩],
   [⟨.plainStatement, 19, 5⟩],
   [⟨.openStatement, 0, 5⟩],
   [⟨.openStatement, 1, 5⟩, ⟨.closedStatement, 1, 5⟩, ⟨.statement, 1, 1⟩],
   [⟨.openStatement, 10, 5⟩],
   [⟨.closedStatement, 2, 5⟩],
   [⟨.openStatement, 2, 5⟩, ⟨.openStatement, 3, 5⟩, ⟨.closedStatement, 3, 5⟩, ⟨.closedStatement, 4, 5⟩,
    ⟨.closedStatement, 11, 5⟩, ⟨.closedStatement, 12, 5⟩],
   [⟨.openStatement, 4, 5⟩, ⟨.openStatement, 5, 5⟩, ⟨.closedStatement, 5, 5⟩, ⟨.closedStatement, 6, 5⟩,
    ⟨.closedStatement, 13, 5⟩, ⟨.closedStatement, 14, 5⟩],
   [⟨.openStatement, 6, 5⟩, ⟨.openStatement, 7, 5⟩, ⟨.closedStatement, 7, 5⟩, ⟨.closedStatement, 8, 5⟩,
    ⟨.closedStatement, 15, 5⟩, ⟨.closedStatement, 16, 5⟩],
   [⟨.openStatement, 8, 5⟩, ⟨.closedStatement, 9, 5⟩, ⟨.closedStatement, 17, 5⟩],
   [⟨.openStatement, 9, 5⟩, ⟨.closedStatement, 10, 5⟩, ⟨.closedStatement, 18, 5⟩]],
  [[⟨.yulFunction, 0, 3⟩, ⟨.yulFunction, 1, 3⟩, ⟨.yulFunction, 2, 3⟩, ⟨.yulFunction, 3, 3⟩],
   [⟨.yulSwitch, 0, 3⟩],
   [⟨.yulSwitch, 1, 3⟩, ⟨.yulSwitch, 2, 3⟩, ⟨.yulCases, 1, 1⟩],
   [⟨.yulCases, 0, 1⟩],
   [⟨.yulCase, 0, 1⟩],
   [⟨.yulDefault, 0, 1⟩],
   [⟨.yulLiteral, 0, 2⟩],
   [⟨.yulLiteral, 2, 2⟩],
   [⟨.yulLiteral, 4, 2⟩],
   [⟨.yulLiteral, 6, 2⟩],
   [⟨.yulLiteral, 8, 2⟩],
   [⟨.yulLiteral, 10, 2⟩],
   [⟨.yulFor, 0, 3⟩],
   [⟨.yulIf, 0, 3⟩],
   [⟨.yulCall, 0, 3⟩],
   [⟨.yulExpressionListOrNone, 1, 1⟩],
   [⟨.yulExpressionList, 0, 1⟩, ⟨.yulExpressionList, 1, 1⟩],
   [⟨.yulAssignment, 0, 3⟩],
   [⟨.yulPath, 1, 3⟩],
   [⟨.yulPathTail, 1, 2⟩],
   [⟨.yulPath, 1, 1⟩, ⟨.yulPathTail, 0, 2⟩],
   [⟨.yulPath, 0, 1⟩],
   [⟨.yulVariable, 0, 3⟩],
   [⟨.yulTypedNameList, 1, 2⟩, ⟨.yulTypedNameTail, 1, 1⟩],
   [⟨.yulTypedNameTail, 0, 1⟩],
   [⟨.yulTypedName, 0, 2⟩],
   [⟨.textLiteralTail, 1, 2⟩],
   [⟨.textLiteralTail, 0, 2⟩],
   [⟨.plainStatement, 8, 5⟩],
   [⟨.catchClause, 0, 3⟩],
   [⟨.catchClause, 2, 3⟩],
   [⟨.trySuccess, 0, 3⟩]],
  [[⟨.functionDefinition, 2, 7⟩],
   [⟨.functionAttribute, 5, 4⟩],
   [⟨.base, 0, 4⟩],
   [⟨.builtinType, 10, 7⟩],
   [⟨.builtinType, 11, 7⟩],
   [⟨.builtinType, 12, 7⟩],
   [⟨.eventDefinition, 0, 7⟩],
   [⟨.eventParameterTail, 1, 3⟩],
   [⟨.nameOrFailureTail, 1, 3⟩],
   [⟨.importDirective, 2, 7⟩],
   [⟨.importDirective, 3, 7⟩],
   [⟨.specialDefinition, 0, 3⟩, ⟨.specialDefinition, 1, 3⟩, ⟨.specialDefinition, 2, 3⟩, ⟨.specialDefinition,
    3, 3⟩],
   [⟨.specialDefinition, 4, 3⟩],
   [⟨.specialDefinition, 5, 3⟩],
   [⟨.functionAttributes, 1, 1⟩, ⟨.specialDefinition, 6, 3⟩, ⟨.specialDefinition, 7, 3⟩],
   [⟨.modifierDefinition, 0, 3⟩, ⟨.modifierDefinition, 1, 3⟩, ⟨.modifierDefinition, 2, 3⟩,
    ⟨.modifierDefinition, 3, 3⟩],
   [⟨.modifierDefinition, 4, 3⟩],
   [⟨.modifierDefinition, 5, 3⟩],
   [⟨.functionAttributes, 1, 1⟩, ⟨.modifierDefinition, 6, 3⟩, ⟨.modifierDefinition, 7, 3⟩],
   [⟨.baseTail, 1, 3⟩],
   [⟨.plainStatement, 16, 6⟩],
   [⟨.plainStatement, 18, 6⟩],
   [⟨.plainStatement, 19, 6⟩],
   [⟨.openStatement, 1, 6⟩, ⟨.closedStatement, 1, 6⟩],
   [⟨.openStatement, 2, 6⟩, ⟨.openStatement, 3, 6⟩, ⟨.closedStatement, 3, 6⟩, ⟨.closedStatement, 4, 6⟩,
    ⟨.closedStatement, 11, 6⟩, ⟨.closedStatement, 12, 6⟩],
   [⟨.openStatement, 4, 6⟩, ⟨.closedStatement, 5, 6⟩, ⟨.closedStatement, 13, 6⟩],
   [⟨.openStatement, 5, 6⟩, ⟨.closedStatement, 6, 6⟩, ⟨.closedStatement, 14, 6⟩],
   [⟨.openStatement, 6, 6⟩, ⟨.closedStatement, 7, 6⟩, ⟨.closedStatement, 15, 6⟩],
   [⟨.openStatement, 7, 6⟩, ⟨.closedStatement, 8, 6⟩, ⟨.closedStatement, 16, 6⟩],
   [⟨.openStatement, 8, 6⟩, ⟨.closedStatement, 9, 6⟩, ⟨.closedStatement, 17, 6⟩],
   [⟨.openStatement, 9, 6⟩],
   [⟨.closedStatement, 10, 6⟩]],
  [[⟨.closedStatement, 18, 6⟩],
   [⟨.yulFunction, 0, 4⟩, ⟨.yulFunction, 1, 4⟩],
   [⟨.yulFunction, 2, 4⟩, ⟨.yulFunction, 3, 4⟩],
   [⟨.yulSwitch, 1, 4⟩],
   [⟨.yulCases, 1, 2⟩],
   [⟨.yulCase, 0, 2⟩],
   [⟨.yulDefault, 0, 2⟩],
   [⟨.yulLiteral, 0, 3⟩],
   [⟨.yulLiteral, 2, 3⟩],
   [⟨.yulLiteral, 4, 3⟩],
   [⟨.yulLiteral, 6, 3⟩],
   [⟨.yulLiteral, 8, 3⟩],
   [⟨.yulLiteral, 10, 3⟩],
   [⟨.yulFor, 0, 4⟩],
   [⟨.yulCall, 0, 4⟩],
   [⟨.yulExpressionList, 1, 2⟩, ⟨.yulExpressionTail, 1, 1⟩],
   [⟨.yulExpressionTail, 0, 1⟩],
   [⟨.yulPath, 1, 1⟩, ⟨.yulPathTail, 1, 3⟩],
   [⟨.yulVariable, 0, 4⟩],
   [⟨.yulTypedNameTail, 1, 2⟩],
   [⟨.yulTypedNameTail, 0, 2⟩],
   [⟨.yulTypedName, 0, 3⟩],
   [⟨.textLiteralTail, 1, 3⟩],
   [⟨.plainStatement, 8, 6⟩],
   [⟨.catchClause, 0, 4⟩],
   [⟨.catchClause, 2, 4⟩],
   [⟨.builtinType, 10, 8⟩],
   [⟨.specialDefinition, 0, 4⟩],
   [⟨.specialDefinition, 1, 4⟩],
   [⟨.functionAttributes, 1, 1⟩, ⟨.specialDefinition, 2, 4⟩, ⟨.specialDefinition, 3, 4⟩],
   [⟨.specialDefinition, 4, 4⟩],
   [⟨.specialDefinition, 6, 4⟩]],
  [[⟨.specialDefinition, 7, 4⟩],
   [⟨.modifierDefinition, 0, 4⟩],
   [⟨.modifierDefinition, 1, 4⟩],
   [⟨.functionAttributes, 1, 1⟩, ⟨.modifierDefinition, 2, 4⟩, ⟨.modifierDefinition, 3, 4⟩],
   [⟨.modifierDefinition, 4, 4⟩],
   [⟨.modifierDefinition, 6, 4⟩],
   [⟨.modifierDefinition, 7, 4⟩],
   [⟨.plainStatement, 18, 7⟩],
   [⟨.plainStatement, 19, 7⟩],
   [⟨.openStatement, 1, 7⟩],
   [⟨.closedStatement, 1, 7⟩],
   [⟨.openStatement, 2, 7⟩, ⟨.closedStatement, 3, 7⟩, ⟨.closedStatement, 11, 7⟩],
   [⟨.openStatement, 3, 7⟩, ⟨.closedStatement, 4, 7⟩, ⟨.closedStatement, 12, 7⟩],
   [⟨.openStatement, 4, 7⟩, ⟨.closedStatement, 5, 7⟩, ⟨.closedStatement, 13, 7⟩],
   [⟨.openStatement, 5, 7⟩],
   [⟨.closedStatement, 6, 7⟩],
   [⟨.closedStatement, 14, 7⟩],
   [⟨.openStatement, 6, 7⟩, ⟨.closedStatement, 7, 7⟩, ⟨.closedStatement, 15, 7⟩],
   [⟨.openStatement, 7, 7⟩],
   [⟨.closedStatement, 8, 7⟩],
   [⟨.closedStatement, 16, 7⟩],
   [⟨.openStatement, 8, 7⟩],
   [⟨.closedStatement, 9, 7⟩],
   [⟨.closedStatement, 17, 7⟩],
   [⟨.yulFunction, 0, 5⟩, ⟨.yulFunction, 1, 5⟩],
   [⟨.yulFunction, 2, 5⟩],
   [⟨.yulFunction, 3, 5⟩],
   [⟨.yulCase, 0, 3⟩],
   [⟨.yulFor, 0, 5⟩],
   [⟨.yulExpressionTail, 1, 2⟩],
   [⟨.yulExpressionTail, 0, 2⟩],
   [⟨.yulTypedNameTail, 1, 3⟩]],
  [[⟨.plainStatement, 8, 7⟩],
   [⟨.catchClause, 0, 5⟩],
   [⟨.catchClause, 2, 5⟩],
   [⟨.specialDefinition, 0, 5⟩],
   [⟨.specialDefinition, 2, 5⟩],
   [⟨.specialDefinition, 3, 5⟩],
   [⟨.specialDefinition, 4, 5⟩],
   [⟨.specialDefinition, 6, 5⟩],
   [⟨.modifierDefinition, 0, 5⟩],
   [⟨.modifierDefinition, 2, 5⟩],
   [⟨.modifierDefinition, 3, 5⟩],
   [⟨.modifierDefinition, 4, 5⟩],
   [⟨.modifierDefinition, 6, 5⟩],
   [⟨.plainStatement, 18, 8⟩],
   [⟨.openStatement, 2, 8⟩, ⟨.closedStatement, 3, 8⟩, ⟨.closedStatement, 11, 8⟩],
   [⟨.openStatement, 3, 8⟩],
   [⟨.closedStatement, 4, 8⟩],
   [⟨.closedStatement, 12, 8⟩],
   [⟨.openStatement, 4, 8⟩],
   [⟨.closedStatement, 5, 8⟩],
   [⟨.closedStatement, 13, 8⟩],
   [⟨.openStatement, 6, 8⟩],
   [⟨.closedStatement, 7, 8⟩],
   [⟨.closedStatement, 15, 8⟩],
   [⟨.yulFunction, 0, 6⟩],
   [⟨.yulFunction, 1, 6⟩],
   [⟨.yulFunction, 2, 6⟩],
   [⟨.yulExpressionTail, 1, 3⟩],
   [⟨.catchClause, 2, 6⟩],
   [⟨.specialDefinition, 0, 6⟩],
   [⟨.specialDefinition, 2, 6⟩],
   [⟨.specialDefinition, 6, 6⟩]],
  [[⟨.modifierDefinition, 0, 6⟩],
   [⟨.modifierDefinition, 2, 6⟩],
   [⟨.modifierDefinition, 6, 6⟩],
   [⟨.openStatement, 2, 9⟩],
   [⟨.closedStatement, 3, 9⟩],
   [⟨.closedStatement, 11, 9⟩],
   [⟨.yulFunction, 0, 7⟩],
   [⟨.yulFunction, 2, 7⟩],
   [⟨.specialDefinition, 2, 7⟩],
   [⟨.modifierDefinition, 2, 7⟩],
   [⟨.yulFunction, 0, 8⟩]]]

/-- The rules under way in the state with a given number. -/
def kernel (number : Nat) : List Progress := (kernels.getD (number / 32) []).getD (number % 32) []

end Automaton

end SoliditySchema.Grammar

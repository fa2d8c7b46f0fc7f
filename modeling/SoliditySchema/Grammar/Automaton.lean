/-
  SoliditySchema.Grammar.Automaton — the automaton that reads the grammar.

  The states of the LALR(1) automaton of `Rule.all`, begun in state 0. A state says where each terminal
  leads when it is read, where each nonterminal leads when it has been put together, and which rules
  are complete before which terminals. No state has two answers for one terminal.

  The two maps of a state are numbers in base 1024 whose digit at a symbol's code is the next state; no
  state leads to state 0, so the digit 0 says that there is none. The terminals before which a rule is
  complete are the bits of a number. The states are kept in blocks of 32.
-/

import SoliditySchema.Grammar.Rule

namespace SoliditySchema.Grammar

/-- A rule that is complete in a state: the nonterminal, the rule's place among those of the
nonterminal, and the codes of the terminals that may follow, as bits. -/
structure Completion where
  nonterminal : Nonterminal
  rule : Nat
  before : Nat

/-- A state of the automaton. -/
structure AutomatonState where
  reads : Nat
  joins : Nat
  completions : List Completion

namespace Automaton

/-- Every state, in blocks. -/
def blocks : List (List AutomatonState) := [
  [⟨0x440005000080000002b0fc3200000000000000000000108000c400000000003811c000b0000004600000104000001800021000000f84000000000000b84500000000000b4000cc370002f00000000301100000000000000000000000000000000000000000000000000000000000000000000000000000000000000000000000000000100000000000070000a4360d4340ec3a0e4240982804c2a, 0x80000000000000040000000000000000000000000000000000000000000000000004000430000501803000000000000000000000000000000000000000003c0b0380d0300702809020000000000000000000000000000000000480000000000000000000000000000000000000000000000000000000000000000000000000000000000000230881e07c150583c0f41a0641706c2507427, [⟨.sourceUnit, 0, 0x100000000000000000000000000000000⟩]⟩,
   ⟨0, 0, [⟨.start, 0, 0x100000000000000000000000000000000⟩]⟩,
   ⟨0x440005000080000002b0fc3200000000000000000000108000c400000000003811c000b0000004600000104000001800021000000f84000000000000b84500000000000b4000cc370002f00000000301100000000000000000000000000000000000000000000000000000000000000000000000000000000000000000000000000000100000000000070000a4360d4340ec3a0e4240982804c2a, 0x4000430000501848000000000000000000000000000000000000000003c0b0380d0300702809020000000000000000000000000000000000480000000000000000000000000000000000000000000000000000000000000000000000000000000000000230881e07c150583c0f41a0641706c2507427, [⟨.sourceUnit, 1, 0x100000000000000000000000000000000⟩]⟩,
   ⟨0, 0, [⟨.sourceParts, 0, 0x10a9c028692530c2d1800000000042fff⟩]⟩,
   ⟨0, 0, [⟨.sourcePart, 0, 0x10a9c028692530c2d1800000000042fff⟩]⟩,
   ⟨0, 0, [⟨.sourcePart, 1, 0x10a9c028692530c2d1800000000042fff⟩]⟩,
   ⟨0, 0, [⟨.sourcePart, 2, 0x10a9c028692530c2d1800000000042fff⟩]⟩,
   ⟨0, 0, [⟨.sourcePart, 3, 0x10a9c028692530c2d1800000000042fff⟩]⟩,
   ⟨0, 0, [⟨.sourcePart, 4, 0x10a9c028692530c2d1800000000042fff⟩]⟩,
   ⟨0, 0, [⟨.sourcePart, 5, 0x10a9c028692530c2d1800000000042fff⟩]⟩,
   ⟨0, 0, [⟨.sourcePart, 6, 0x10a9c028692530c2d1800000000042fff⟩]⟩,
   ⟨0, 0, [⟨.sourcePart, 7, 0x10a9c028692530c2d1800000000042fff⟩]⟩,
   ⟨0, 0, [⟨.sourcePart, 8, 0x10a9c028692530c2d1800000000042fff⟩]⟩,
   ⟨0, 0, [⟨.sourcePart, 9, 0x10a9c028692530c2d1800000000042fff⟩]⟩,
   ⟨0, 0, [⟨.sourcePart, 10, 0x10a9c028692530c2d1800000000042fff⟩]⟩,
   ⟨0, 0, [⟨.sourcePart, 11, 0x10a9c028692530c2d1800000000042fff⟩]⟩,
   ⟨0, 0, [⟨.sourcePart, 12, 0x10a9c028692530c2d1800000000042fff⟩]⟩,
   ⟨0x12800000000000000000000000004f0000000053000000000000000000000000000000000000000014000000000000000000000000000000000000000000000000148000000000000144000000000000000000000000000000000000000000000000000000000000000000000000000000000000000000000000000000000000000000000000000000000000130000000000000000000000000000000000004e, 0x490000000000000000000000000000000000000000000000000000000000000000000000000000000000000000000000000000000000000000000000000000000000000000000000000000000000000000000000000000000000000000000000000000000000000000000004b00000000000000000000000000000000000134000000000000000000000000000000000000000000, []⟩,
   ⟨0x150000000000000000000000000000, 0, []⟩,
   ⟨0, 0, [⟨.annotationName, 0, 0x29400848050082d1000000000002ffd⟩]⟩,
   ⟨0x4f0000000053000000000000000000000000000000000000000014000000000000000000000000000000000000000000000000148000000000000144000000000000000000000000000000000000000000000000000000000000000000000000000000000000000000000000000000000000000000000000000000000000000000000000000000000000000000000000004e, 0x154000000000000000000000000000000000000000000, [⟨.callee, 1, 0x8800⟩]⟩,
   ⟨0x19800000000000000000000001804f00000000530000000000188650005f0005e0000000000000001400019000184000005d000000000000063000000000000000148000000017000144000000000000000000000000000000000000000000000000000000000000000000000000000000000000000000000000000000000000000000000000000000000000000000000000000000000000000000000000004e, 0x5700000000000000000000000000000000000000000000000000000000000000000000000000000000000000005916c00000000000000000000000000000000000000000000000000000000000000000000000000000000000000000000000000000000000000000000000000000560000000000000000005a000000000000000000000000000000000000000000000160000000000000000000000000000000000000000000, [⟨.callee, 0, 0x8800⟩, ⟨.operand, 0, 0x600000000082000⟩]⟩,
   ⟨0x4f0000000053000000000000000000000000000000000000000014000000000000000000000000000000000000000000000000148000000000000144000000000000000000000000000000000000000000000000000000000000000000000000000000000000000000000000000000000000000000000000000000000000000000000000000000000000000000000000004e, 0x19c000000000000000000000000000000000000000000, [⟨.operand, 1, 0x600000000082000⟩]⟩,
   ⟨0x69000001ac0000000000000000000000000000000000000, 0x1a0000006a000000000000000000000000000000000000000000000000000000000000000000000000000, [⟨.functionOperand, 0, 0x110000800008200600000000082001⟩]⟩,
   ⟨0x19800000000000000000000000004f000000005300000000000000000000000000000000000000001400000000000000000000000000000000000000000000000014800000000000014400000000000000000000000000000000000000000000000000000000000000000000000000000000000000000000000000000000000000000000000000000000000000000000001bc00000000000000000000000004e, 0x6d000000000000000000001b00000000000000000000000000000000000000000001b8000000000000000000000000000000000000000000, []⟩,
   ⟨0x711c0000000000000000000000000000000000000000000000000000000000000000000000000000000000000000000001cc0000000000001c800000000000000000000000000000000, 0, []⟩,
   ⟨0, 0, [⟨.plainOperand, 2, 0x80330d48ad0408b007feeffffd7ff801⟩]⟩,
   ⟨0, 0, [⟨.plainOperand, 12, 0x80330d48ad0408b007feeffffd7ff801⟩]⟩,
   ⟨0x24800080000002b000320008c000000000000000000000c40021c0000038000000b0000000000000000000009100021000000000000000000860b80000000000000b4000cc370002f00000000300008922000000000008b22800000850000000084000000000000000000000000000000000000000000000000000000000000000000000000000070000a4360d4340ec3a0e424098280002a, 0x1d4001d00000000000000000000000000000000000000000000000000000000000000000000000001d8781dc791e87b1f07d1f87f200810008220c230881e07c8e23c3c0f41a2349006c2507427, [⟨.expressionListOrNone, 0, 0x4000⟩]⟩,
   ⟨0, 0, [⟨.plainOperand, 14, 0x80330d48ad0408b007feeffffd7ff801⟩]⟩,
   ⟨0, 0, [⟨.plainOperand, 15, 0x80330d48ad0408b007feeffffd7ff801⟩]⟩,
   ⟨0, 0, [⟨.plainOperand, 16, 0x80330d48ad0408b007feeffffd7ff801⟩]⟩],
  [⟨0, 0, [⟨.literal, 0, 0x80330d48ad0408b007feeffffd7ff801⟩]⟩,
   ⟨0, 0, [⟨.literal, 1, 0x80330d48ad0408b007feeffffd7ff801⟩]⟩,
   ⟨0x2800000, 0x93, [⟨.literal, 2, 0x80330d48ad0408b007feeffffd7ff801⟩]⟩,
   ⟨0x980000000, 0x9400000, [⟨.literal, 3, 0x80330d48ad0408b007feeffffd7ff801⟩]⟩,
   ⟨0, 0, [⟨.literal, 4, 0x80330d48ad0408b007feeffffd7ff801⟩]⟩,
   ⟨0, 0, [⟨.hexLiterals, 0, 0x80330d48ad0408b007feeffffd7ff809⟩]⟩,
   ⟨0, 0, [⟨.hexLiteral, 0, 0x80330d48ad0408b007feeffffd7ff809⟩]⟩,
   ⟨0, 0, [⟨.textLiterals, 0, 0x80330d48ad0408b007feeffffd7ff805⟩]⟩,
   ⟨0, 0, [⟨.textLiteral, 0, 0xfd7fffffffefeffffffeeffffd7ffb05⟩]⟩,
   ⟨0x26000000000000024800080000002b000320008c000000000000000000000c40021c0000038000000b0000000000000000000009100021000000000000000000860b80000000000000b4000cc370002f00000000300008922000000000008b22800000850000000084000000000000000000000000000000000000000000000000000000000000000000000000000070950a4360d4340ec3a0e424098280002a, 0x970000000000000000000000000000000000000000000000000000000000000000000000000000000000000000000000000000000000000000000000000009600000000000009900000000000000000000000000000000000000000000000000000000000000000000000000000000000000000000000000000000000000000000000026c781dc791e87b1f07d1f87f200810008220c230881e07c8e23c9a0f41a2349006c2507427, [⟨.optionalEntry, 1, 0x20000⟩]⟩,
   ⟨0, 0, [⟨.variableName, 0, 0x80330d48ad0408b007feeffffd7ff801⟩]⟩,
   ⟨0, 0, [⟨.variableName, 1, 0x80330d48ad0408b007feeffffd7ff801⟩]⟩,
   ⟨0, 0, [⟨.variableName, 2, 0x80330d48ad0408b007feeffffd7ff801⟩]⟩,
   ⟨0, 0, [⟨.variableName, 3, 0x80330d48ad0408b007feeffffd7ff801⟩]⟩,
   ⟨0, 0, [⟨.variableName, 4, 0x80330d48ad0408b007feeffffd7ff801⟩]⟩,
   ⟨0, 0, [⟨.builtinType, 0, 0x80330d48ad0408b007feeffffd7ff801⟩]⟩,
   ⟨0x27000000000000000000000000000000000000000000000000000000000000000000000000000000000000000000000000000000000000000000000000000000000000000000000000000000000000000000000000000000000000000000000000000000000000000000000000000000000000000000000000000000000000000000, 0, [⟨.builtinType, 1, 0x80330d48ad0408b007feeffffd7ff801⟩]⟩,
   ⟨0, 0, [⟨.builtinType, 3, 0x80330d48ad0408b007feeffffd7ff801⟩]⟩,
   ⟨0, 0, [⟨.builtinType, 4, 0x80330d48ad0408b007feeffffd7ff801⟩]⟩,
   ⟨0, 0, [⟨.builtinType, 5, 0x80330d48ad0408b007feeffffd7ff801⟩]⟩,
   ⟨0, 0, [⟨.builtinType, 6, 0x80330d48ad0408b007feeffffd7ff801⟩]⟩,
   ⟨0, 0, [⟨.builtinType, 7, 0x80330d48ad0408b007feeffffd7ff801⟩]⟩,
   ⟨0, 0, [⟨.builtinType, 8, 0x80330d48ad0408b007feeffffd7ff801⟩]⟩,
   ⟨0, 0, [⟨.builtinType, 9, 0x80330d48ad0408b007feeffffd7ff801⟩]⟩,
   ⟨0x274000000000000000000000000000, 0, []⟩,
   ⟨0x2b000000000000000000000000000000000000000000000000000b0000000000000000000000000000000000000000000000000b80000000000000b4000000000000000000000000000000000000000000000000000000000000000000000000000000000000000000000000000000000000000000000000000000000000000000000000000000000000000000000000002a, 0x27800, [⟨.quantity, 1, 0x7feeffffd3f7000⟩]⟩,
   ⟨0x2b000000000000000000000000000000000000000000000000000b0000000000000000000000000000000000000000000000000b80000000000000b4000000000000000000000000000000000000000000000000000000000000000000000000000000000000000000000000000000000000000000000000000000000000000000000000000000000000000000000000002a, 0x27c00, [⟨.quantity, 3, 0x7feeffffd3f7000⟩]⟩,
   ⟨0x2b000000000000000000000000000000000000000000000000000b0000000000000000000000000000000000000000000000000b80000000000000b4000000000000000000000000000000000000000000000000000000000000000000000000000000000000000000000000000000000000000000000000000000000000000000000000000000000000000000000000002a, 0x28000, [⟨.quantity, 5, 0x7feeffffd3f7000⟩]⟩,
   ⟨0, 0, [⟨.quantity, 6, 0x7feeffffd3f7000⟩]⟩,
   ⟨0x1ac0000000284000000000000000000000000000, 0xa2000000000000000000000000000000000000000000000000000000000000000000000000000, []⟩,
   ⟨0x19800000000000000000000000004f0000000053000000000000000000000000000000000000000014000000000000000000000000000000000000000000000000148000000000000144000000000000000000000000000000000000000000000000000000000000000000000000000000000000000000000000000000000000000000000000000000000000000000000000000000000000000000000000004e, 0xa3000000000000000000000000000000000000000000000000000000000000000001b8000000000000000000000000000000000000000000, []⟩,
   ⟨0x19800000000000000000000000004f0000000053000000000000000000000000000000000000000014000000000000000000000000000000000000000000000000148000000000000144000000000000000000000000000000000000000000000000000000000000000000000000000000000000000000000000000000000000000000000000000000000000000000000000000000000000000000000000004e, 0xa4000000000000000000000000000000000000000000000000000000000000000001b8000000000000000000000000000000000000000000, []⟩],
  [⟨0x19800000000000000000000000004f0000000053000000000000000000000000000000000000000014000000000000000000000000000000000000000000000000148000000000000144000000000000000000000000000000000000000000000000000000000000000000000000000000000000000000000000000000000000000000000000000000000000000000000000000000000000000000000000004e, 0xa5000000000000000000000000000000000000000000000000000000000000000001b8000000000000000000000000000000000000000000, []⟩,
   ⟨0x4f0000000053000000000000000000000000000000000000000014000000000000000000000000000000000000000000000000148000000000000144000000000000000000000000000000000000029c000000000000000000000000000000000000000000000000000000000000000000000000000000000000000000002a0000000000000000000000000000000280004e, 0x2980000000000000000000000000000000000000000000000000000000000000000000000000000000000000000000000000000000000000000000aa000000000000000000000000000000000001340000000000000000000000000000000000000000a9, []⟩,
   ⟨0x2b000000000000000000000000004f0000000053000000000000000000000000000000000000000014000000000000000000000000000000000000000000000000148000000000000144000000000000000000000000000000000000000000000000000000000000000000000000000000000000000000000000000000000000000000000000000000000000000000000000000000000000000000000000004e, 0x2ac000000000000000000000000000000000000000000, []⟩,
   ⟨0x19800000000000000000000000004f0000000053000000000000000000000000000000000000000014000000000000000000000000000000000000000000000000148000000000000144000000000000000000000000000000000000000000000000000000000000000000000000000000000000000000000000000000000000000000000000000000000000000000000000000000000000000000000000004e, 0xad000000000000000000000000000000000000000000000000000000000000000001b8000000000000000000000000000000000000000000, []⟩,
   ⟨0xae00000000000000000000000000000000000000000000000000000000000000000000000000000000000000000000000000000000000000000000000000000000000000000000000000000000000000000000000000000000000000000, 0, []⟩,
   ⟨0, 0, [⟨.contractKind, 1, 0x80110000800008200000000000000001⟩]⟩,
   ⟨0, 0, [⟨.contractKind, 2, 0x80110000800008200000000000000001⟩]⟩,
   ⟨0, 0, [⟨.contractKind, 3, 0x80110000800008200000000000000001⟩]⟩,
   ⟨0, 0, [⟨.sourceParts, 1, 0x10a9c028692530c2d1800000000042fff⟩]⟩,
   ⟨0x2bc00000000000000000000000000000000000000000000000000000000000000000000000000000000000000000000000000000000000000000000000000000000000000000000000000000000000000000000000000000000000000000000000000000000000000000000, 0, []⟩,
   ⟨0xb0000000000000000000000000000000000000000000000, 0, []⟩,
   ⟨0, 0, [⟨.usingList, 0, 0x2000000000000000000000⟩]⟩,
   ⟨0x4f0000000053000000000000000000000000000000000000000014000000000000000000000000000000000000000000000000148000000000000144000000000000000000000000000000000000000000000000000000000000000000000000000000000000000000000000000000000000000000000000000000000000000000000000000000000000000000000000004e, 0xb20000000000000000000000000000002c4000000000000000000000000000000000000000000000000000000000000000000000000000000000000000000000000000000000000000000000000002cc0000000000000000000000000000000000000000000000000000000000000000000000000000000000000000000000000000000000000000000000000000000000b400000000000000000000000000000000000134000000000000000000000000000000000000000000, [⟨.usingFunctionListOrNone, 0, 0x10000⟩]⟩,
   ⟨0x2d800000000000000000000000000000000000000000000000, 0x2d4000000000000000000000000000000000000000000000000000000000000000000000000000000000000000000000000000000000000000000000000000000000000000000000000000000000000000000000000000000000000000000000000000000000000000000000000000000000000000000000000000000000000000000000000000000000000000000000000000000000000000000000000, [⟨.namePath, 0, 0xb011dcc0a12408a04000000000079801⟩]⟩,
   ⟨0, 0, [⟨.name, 0, 0xb033ddc8ed2408b047ffeffffd7ff825⟩]⟩,
   ⟨0, 0, [⟨.name, 1, 0xb033ddc8ed2408b047ffeffffd7ff825⟩]⟩,
   ⟨0, 0, [⟨.name, 2, 0xb033ddc8ed2408b047ffeffffd7ff825⟩]⟩,
   ⟨0, 0, [⟨.name, 3, 0xb033ddc8ed2408b047ffeffffd7ff825⟩]⟩,
   ⟨0, 0, [⟨.name, 4, 0xb033ddc8ed2408b047ffeffffd7ff825⟩]⟩,
   ⟨0, 0, [⟨.name, 5, 0xb033ddc8ed2408b047ffeffffd7ff825⟩]⟩,
   ⟨0x24800080000002b000320008c000000000000000000000c40021c0000038000000b0000000000000000000009100021000000000000000000860b80000000000000b4000cc370002f00000000300008922000000000008b22800000850000000084000000000000000000000000000000000000000000000000000000000000000000000000000070000a4360d4340ec3a0e424098280002a, 0x2dc781dc791e87b1f07d1f87f200810008220c230881e07c8e23c3c0f41a2349006c2507427, []⟩,
   ⟨0xb80000000000000000000000000000000000000000000000000000000000000000000000000000000000000000000000000000000000000000000000000000000000000000000000000000000000000000000000000000000000000000000000000000000000000000000000000000000000000000000, 0, []⟩,
   ⟨0xba0000000000000bb0000000000000002e4000000000000000000000000000, 0, []⟩,
   ⟨0x19800000000000000000000001804f00000000530000000000188650005f0005e0000000000000001400019000184000005d000000000000063000000000000000148000000017000144000000000000000000000000000000000000000000000000000000000000000000000000000000000000000000000000000000000000000000000000000000000000000000000000000000000000000000000000004e, 0xbe16c00000000000000000000000000000000000000000000000000000000000000000000000000000000000000000000000000000000000000000000000000000bc0000000000000000005a0000000000000000000000000000000000000000000002f4000000000000000000000000000000000000000000, []⟩,
   ⟨0x2fc00000000000000000000000000000000000000000000000000000000000000000000000000000000000000000000000000000000000000000000000000000000000000000000000000000000000000000000000000000000000000000000000000000000000000000000000000000000000000000000000000000000000000000000000000000000000000000000000000000000000000000000000000000, 0, [⟨.nameOrFailure, 0, 0x1040800⟩]⟩,
   ⟨0, 0, [⟨.variableAttributes, 0, 0x80310d40a90408a00000000000000001⟩]⟩,
   ⟨0, 0, [⟨.variableAttribute, 0, 0x80310d40a90408a00000000000000001⟩]⟩,
   ⟨0, 0, [⟨.variableAttribute, 1, 0x80310d40a90408a00000000000000001⟩]⟩,
   ⟨0, 0, [⟨.variableAttribute, 2, 0x80310d40a90408a00000000000000001⟩]⟩,
   ⟨0, 0, [⟨.variableAttribute, 3, 0x80310d40a90408a00000000000000001⟩]⟩,
   ⟨0x300000000000000000000000000000, 0, [⟨.variableAttribute, 4, 0x80310d40a90408a00000000000000001⟩]⟩,
   ⟨0, 0, [⟨.storageClass, 0, 0x80310d40a90408a00000000000000001⟩]⟩],
  [⟨0, 0, [⟨.storageClass, 1, 0x80310d40a90408a00000000000000001⟩]⟩,
   ⟨0, 0, [⟨.storageClass, 2, 0x80310d40a90408a00000000000000001⟩]⟩,
   ⟨0, 0, [⟨.visibility, 0, 0xb033ddc8ad0408b007feeffffd7ff001⟩]⟩,
   ⟨0, 0, [⟨.visibility, 1, 0xb033ddc8ad0408b007feeffffd7ff001⟩]⟩,
   ⟨0, 0, [⟨.visibility, 2, 0xb033ddc8ad0408b007feeffffd7ff001⟩]⟩,
   ⟨0, 0, [⟨.visibility, 3, 0xb033ddc8ad0408b007feeffffd7ff001⟩]⟩,
   ⟨0, 0, [⟨.nameOrFailure, 1, 0x400000000000000001078800⟩]⟩,
   ⟨0xc10000000000000c2000000000000000000000000000000000000000000000, 0, []⟩,
   ⟨0, 0, [⟨.functionDefinition, 4, 0x10a9c2296925b0d2d1800000000052fff⟩]⟩,
   ⟨0, 0, [⟨.functionBody, 0, 0x10a9c2296925b0d2d1800000000052fff⟩]⟩,
   ⟨0, 0, [⟨.functionBody, 1, 0x10a9c2296925b0d2d1800000000052fff⟩]⟩,
   ⟨0x348d500000000d8248df08000000ca00032000ce000de0000000000000000c40021c00000380000032c00000000000000000350913582100000000003800036c86334003700000000330000cc373742f36400000c80008922000000000008b2280000085000000008400000000000000000000000000000000000000000000000000000000000000000000c31ac00070000a4360d4340ec3a0e42409828000c9, 0x310000000000000000000000000000000000000000000000000000000000000000000000000000000000000000000c5000000000000000000000000000000000000000000000000cf31800000000000000000000000000034cd13400036800000e100000000d7388781dc791e87b1f07d1f87f2008131c8220c230881e07c8e23ce30f41a2349006c2507427, []⟩,
   ⟨0xec00000000000000000000000000000039000000ea18865000003b400000000000000000000001900000000000e700000000000006300000000000000000000000003ac000000000000000000000000000000000000000000000000000000000000000000000000000000000000000000000000000000000000000000000000000000000000000000000000000000000000000000000000000000000, 0xe500000000000000000000000000000000000000000000000000000000000000000000000000000000000e6000000000000000000000000000000000e8000e9000000000000000000000000000000000000000000000000000000000000000000000000000000000000000000, [⟨.functionType, 2, 0x801300088400083007feeffffd7ff001⟩]⟩,
   ⟨0x1bc000000000000000000000000000, 0x3b8000000000000000000000000000000000000000000000000000000000000000000000000000000000000000, []⟩,
   ⟨0, 0, [⟨.nameOrFailure, 0, 0x400000000000000001078800⟩]⟩,
   ⟨0x3c800000000000024800080000002b0003200000000000000000000000000c4000000000038000000b0000000000000000000009100021000000000000000000000b80000000000000b4000cc370002f00000000300000000000000000000000000000000000000000000000000000000000000000000000000000000000000000000000000000000000000000000070ef0a4360d4340ec3a0e4240982804c2a, 0x3c4000000000000000000000000000000000000000000000000000000000000000000000000000000000000000000000000000000000000000000000000000000000000000003cc000000000000000000000000000000000000000000000f43c0000000000000000003d80000000000000000000000000000000000000000000000000000000000000000000000000000000000000230881e07c8e23cf50f41a0649006c2507427, [⟨.optionalParameter, 1, 0x20000⟩]⟩,
   ⟨0, 0, [⟨.plainOperand, 0, 0x80330d48ad0408b007feeffffd7ff801⟩]⟩,
   ⟨0, 0, [⟨.plainOperand, 1, 0x80330d48ad0408b007feeffffd7ff801⟩]⟩,
   ⟨0x24800080000002b000320008c000000000000000000000c40021c0000038000000b0000000000000000000009100021000000000000000000860b80000000000000b4000cc370002f00000000300008922000000000008b228000008500000000840000000000000000000000000000000000000000000000000000000000f90000000000000f8070000a4360d4340ec3a0e424098280002a, 0x3dc781dc791e87b1f07d1f87f200810008220c230881e07c8e23c3c0f41a2349006c2507427, []⟩,
   ⟨0x4f000000005300000000000000000000000003f00000000000001400000000000000000000000000000000000000000000000014800000000000014400000000000000000000fb00000000000000000000000000000000000000000000000000000000000000000000000000000000000000000000000000000000000000000000000000000000000000000000000000004e, 0x3e8000000000000000000000000000000000000000000, []⟩,
   ⟨0xfd00000000000000000000000000000000000, 0, []⟩,
   ⟨0, 0, [⟨.expressionListOrNone, 1, 0x5000⟩]⟩,
   ⟨0x3fc000000000000000000000000000000000000000000, 0xfe0000000000000000000000000000000000000000000000000000000000000000000000000000000000000000000000000000000000000000000000000000000000000000000000000000000000000000000000000000000000000000000000000000000000000000000000000000000000000000000000000000000000000000000000000000000000000000000000000000000000000000000000000000000000000000000000000000000000000000000000000000000000000000000000000, [⟨.expressionList, 0, 0x5000⟩]⟩,
   ⟨0, 0, [⟨.expression, 0, 0x175000⟩]⟩,
   ⟨0x10c0000000000000004290942107419054110340901001000000042c0000000000000000000000000000000000000000000000000000, 0, [⟨.assignment, 12, 0x175000⟩]⟩,
   ⟨0x43400000000000000000000000000000000000000000000000000000000000000000000000000000000000000000000000000000000000, 0, [⟨.disjunction, 1, 0x40ffd375000⟩]⟩,
   ⟨0x43d0e000000000000000000000000000000000000000000000000000000000000000000000000000000000000000000, 0, [⟨.conjunction, 1, 0xc0ffd375000⟩]⟩,
   ⟨0x44d114491000000000000000000000000000000000000000000000000000000000000000000000000000000000000000000000000, 0, [⟨.equality, 2, 0xc3ffd375000⟩]⟩,
   ⟨0x4500000000000000000000000000000000000000000000000000000000000000000000000000000000000000000000000000000000000000000, 0, [⟨.comparison, 4, 0xffffd375000⟩]⟩,
   ⟨0x1150000000000000000000000000000000000000000000000000000000000000000000000000000000000000000000000000000000000000000000, 0, [⟨.bitDisjunction, 1, 0x2ffffd375000⟩]⟩,
   ⟨0x458000000000000000000000000000000000000000000000000000000000000000000000000000000000000000000000000000000000000000000000, 0, [⟨.bitDifference, 1, 0x6ffffd375000⟩]⟩,
   ⟨0x11845c00000000000000000000000000000000000000000000000000000000000000000000000000000000000000000000000000000000000000000000000000, 0, [⟨.bitConjunction, 1, 0xeffffd375000⟩]⟩],
  [⟨0x11a4640000000000000000000000000000000000000000000000000000000000000000000000000000000000000000000000000000000000000000000000000000000, 0, [⟨.shifted, 2, 0x6effffd375000⟩]⟩,
   ⟨0x4751c46c000000000000000000000000000000000000000000000000000000000000000000000000000000000000000000000000000000000000000000000000000000000000, 0, [⟨.sum, 2, 0x1eeffffd375000⟩]⟩,
   ⟨0, 0, [⟨.product, 3, 0xfeeffffd375000⟩]⟩,
   ⟨0x11e00000000000000000000000000000000000000000000000000000000000000000000000000000000000000000000000000000000000000000000000000000000000000000000, 0, [⟨.power, 1, 0xfeeffffd375000⟩]⟩,
   ⟨0x24800080000002b000320008c000000000000000000000c40021c0000038000000b0000000000000000000009100021000000000000000000860b80000000000000b4000cc370002f00000000300008922000000000008b22800000850000000084000000000000000000000000000000000000000000000000000000000000000000000000000070000a4360d4340ec3a0e424098280002a, 0x47c230881e07c8e23c3c0f41a2349006c2507427, []⟩,
   ⟨0x24800080000002b000320008c000000000000000000000c40021c0000038000000b0000000000000000000009100021000000000000000000860b80000000000000b4000cc370002f00000000300008922000000000008b22800000850000000084000000000000000000000000000000000000000000000000000000000000000000000000000070000a4360d4340ec3a0e424098280002a, 0x480230881e07c8e23c3c0f41a2349006c2507427, []⟩,
   ⟨0x24800080000002b000320008c000000000000000000000c40021c0000038000000b0000000000000000000009100021000000000000000000860b80000000000000b4000cc370002f00000000300008922000000000008b22800000850000000084000000000000000000000000000000000000000000000000000000000000000000000000000070000a4360d4340ec3a0e424098280002a, 0x484230881e07c8e23c3c0f41a2349006c2507427, []⟩,
   ⟨0x24800080000002b000320008c000000000000000000000c40021c0000038000000b0000000000000000000009100021000000000000000000860b80000000000000b4000cc370002f00000000300008922000000000008b22800000850000000084000000000000000000000000000000000000000000000000000000000000000000000000000070000a4360d4340ec3a0e424098280002a, 0x488230881e07c8e23c3c0f41a2349006c2507427, []⟩,
   ⟨0x24800080000002b000320008c000000000000000000000c40021c0000038000000b0000000000000000000009100021000000000000000000860b80000000000000b4000cc370002f00000000300008922000000000008b22800000850000000084000000000000000000000000000000000000000000000000000000000000000000000000000070000a4360d4340ec3a0e424098280002a, 0x48c230881e07c8e23c3c0f41a2349006c2507427, []⟩,
   ⟨0x24800080000002b000320008c000000000000000000000c40021c0000038000000b0000000000000000000009100021000000000000000000860b80000000000000b4000cc370002f00000000300008922000000000008b22800000850000000084000000000000000000000000000000000000000000000000000000000000000000000000000070000a4360d4340ec3a0e424098280002a, 0x490230881e07c8e23c3c0f41a2349006c2507427, []⟩,
   ⟨0x24800080000002b000320008c000000000000000000000c40021c0000038000000b0000000000000000000009100021000000000000000000860b80000000000000b4000cc370002f00000000300008922000000000008b22800000850000000084000000000000000000000000000000000000000000000000000000000000000000000000000070000a4360d4340ec3a0e424098280002a, 0x494230881e07c8e23c3c0f41a2349006c2507427, []⟩,
   ⟨0x24800080000002b000320008c000000000000000000000c40021c0000038000000b0000000000000000000009100021000000000000000000860b80000000000000b4000cc370002f00000000300008922000000000008b22800000850000000084000000000000000000000000000000000000000000000000000000000000000000000000000070000a4360d4340ec3a0e424098280002a, 0x498230881e07c8e23c3c0f41a2349006c2507427, []⟩,
   ⟨0, 0, [⟨.signed, 8, 0x1feeffffd375000⟩]⟩,
   ⟨0x711c0000000000000000000000000000000000000000000000000000000000000000000000000000000000000000000001cc0000000000001c800000000000000000000000000000000, 0, [⟨.signed, 9, 0x1feeffffd375000⟩]⟩,
   ⟨0, 0, [⟨.callee, 0, 0x8800⟩, ⟨.operand, 0, 0x801300088400083007feeffffd7f7001⟩]⟩,
   ⟨0, 0, [⟨.operand, 1, 0x801300088400083007feeffffd7f7001⟩]⟩,
   ⟨0, 0, [⟨.functionOperand, 0, 0x801300088400083007feeffffd7f7001⟩]⟩,
   ⟨0x1bc000000000000000000000000000, 0x1b0000000000000000000000000000000000000000000000000000000000000000000000000000000000000000, []⟩,
   ⟨0, 0, [⟨.callee, 1, 0x8800⟩]⟩,
   ⟨0, 0, [⟨.textLiterals, 1, 0x80330d48ad0408b007feeffffd7ff805⟩]⟩,
   ⟨0, 0, [⟨.hexLiterals, 1, 0x80330d48ad0408b007feeffffd7ff809⟩]⟩,
   ⟨0, 0, [⟨.entryList, 0, 0x80330d48ad0408b007feeffffd7ff801⟩]⟩,
   ⟨0x127000000000000000000000000000000, 0, [⟨.optionalEntry, 0, 0x20000⟩]⟩,
   ⟨0x128000000000000000000000000000000, 0, []⟩,
   ⟨0x129000000000000000000000000000000, 0, []⟩,
   ⟨0x4ac000000000000000000000000000000000000000000, 0x4a80000000000000000000000000000000000000000000000000000000000000000000000000000000000000000000000000000000000000000000000000000000000000000000000000000000000000000000000000000000000000000000000000000000000000000000000000000000000000000000000000000000000000000000000000000000000000000000000000000000000000000000000000000000000000000000000000000000000000000000000000000000, []⟩,
   ⟨0x4f000004bc530000000000000000000000000000004b8000000014000000000000000000000000000000000000000000000000148000000000000145300000000000000000000000000000000000000000000000000000000000000000000000000000000000000000000000000000000000000000000000000000000000000000000000000000000000000000000000004e, 0x12c000000000000000000000000000000000000000000000000000000000000000000000000000000000000000000000000000000000000004b4000000000000000000000000000000000000000000, [⟨.quantity, 6, 0x7feeffffd2a3000⟩]⟩,
   ⟨0, 0, [⟨.entry, 2, 0x21000⟩]⟩,
   ⟨0, 0, [⟨.builtinType, 2, 0x80330d48ad0408b007feeffffd7ff801⟩]⟩,
   ⟨0x24800080000002b0003200000000000000000000000000c4000000000038000000b0000000000000000000009100021000000000000000000000b80000000000000b4000cc370002f00000000300000000000000000000000000000000000000000000000000000000000000000000000000000000000000000000000000000000000000000000070000a4360d4340ec3a0e424098280002a, 0x230881e07c8e23d310f41a0649006c2507427, []⟩,
   ⟨0, 0, [⟨.quantity, 0, 0x7feeffffd3f7000⟩]⟩,
   ⟨0, 0, [⟨.quantity, 2, 0x7feeffffd3f7000⟩]⟩],
  [⟨0, 0, [⟨.quantity, 4, 0x7feeffffd3f7000⟩]⟩,
   ⟨0x24800080000002b000320008c000000000000000000000c40021c0000038000000b0000000000000000000009100021000000000000000000860b80000000000000b4000cc370002f00000000300008922000000000008b2280000085000000008400000000000000000000000000000000000000000000000000000000000000000000004cc00070000a4360d4340ec3a0e424098280002a, 0x1d4004c80000000000000000000000000000000000000000000000000000000000000000000000001d8781dc791e87b1f07d1f87f200810008220c230881e07c8e23c3c0f41a2349006c2507427, [⟨.expressionListOrNone, 0, 0x1000⟩]⟩,
   ⟨0, 0, [⟨.functionCall, 1, 0x80338d48ad0408f007feeffffd7ff801⟩]⟩,
   ⟨0x4d0000000000000000000000000000, 0, []⟩,
   ⟨0x4d40000000000000000000000000000000000000, 0, []⟩,
   ⟨0x4d80000000000000000000000000000000000000, 0, []⟩,
   ⟨0x13800000000000000000000000000000000000000000000000000000000000000000000000000000000000000000000000000000000000137000000000000000000000000000000000000000000000, 0, []⟩,
   ⟨0x13900000000000000000000000000000000000000000000000000000000000000000000000000000000000000000000000000000000000000000000000000000000000000000000000000000000000, 0, []⟩,
   ⟨0x4f0000000053000000000000000000000000000000000000000014000000000000000000000000000000000000000000000000148000000000000144000000000000000000000000000000000000000000000000000000000000000000000000000000000000000000000000000000000000000000000000000000000000000000000000000000000000000000000000004e, 0x13a000000000000000000000000000000000000000000000000000000000000000000000000000000000000000000000000000000000000000013b00000000000000000000000000000000000000000000000000000000000000000000000000000000000000000000000000000000000000000000000000000000000000000000000004f0000000000000000000000000000000000000000000, []⟩,
   ⟨0, 0, [⟨.importPath, 0, 0x4000000000040000⟩]⟩,
   ⟨0, 0, [⟨.importPath, 1, 0x4000000000040000⟩]⟩,
   ⟨0x53000000000014a0014b000000000051d46525480000000000000000000000000000000014500000000000000000000000000000000000000000000051000000280014d, 0x4fc0000000000000013d000000000000000000000000000000000000000000000000000000000000500000000000000000000000050d410000000000000000000000000000000000000000000000000000000001420000000000000000000000000000000000000000000000000000000000000000000000000000000000000000000000000000000000000000000000000000000000000000013e, []⟩,
   ⟨0x14e000000000000000000000000000000000000000000000, 0, []⟩,
   ⟨0x1500000000000000000000000000000000000000000000000000000000000000000000000000000000000000000000000000000000000000000000000000000000000000000000000000000000000000000000000000000000000000000000000000000000000000000000000000000000000000000000, 0x53c0000000000000000000000000000000000000000000000000000000000000000000000000000000000000000000000000000000000000000000000000000000000000000000000000000000000000000000000000000000000000000000000000000000000000000000000000000000000000000000000000000000000000000000000000000000000000000000000000000, [⟨.bases, 0, 0x8000⟩]⟩,
   ⟨0, 0, [⟨.contractKind, 0, 0x80110000800008200000000000000001⟩]⟩,
   ⟨0x24800080000002b0003200000000000000000000000000c4000000000038000000b0000000000000000000009100021000000000000000000000b80000000000000b4000cc370002f00000000300000000000000005480000000000000000000000000000000000000000000000000000000000000000000000000000000000000000000000000070000a4360d4340ec3a0e424098280002a, 0x230881e07c8e23d510f41a0649006c2507427, []⟩,
   ⟨0, 0, [⟨.usingDirective, 4, 0x10a9c2296925b0d2d1800000000052fff⟩]⟩,
   ⟨0x1530000000000000000000000000000000000000000, 0, []⟩,
   ⟨0, 0, [⟨.usingFunctionListOrNone, 1, 0x10000⟩]⟩,
   ⟨0x554000000000000000000000000000000000000000000, 0x15400000000000000000000000000000000000000000000000000000000000000000000000000000000000000000000000000000000000000000000000000000000000000000000000000000000000000000000000000000000000000000000000000000000000000000000000000000000000000000000000000000000000000000000000000000000000000000000000000000000000000000000000000000000000000000000000000000000000000000000000000000000000000000000000000000000000, [⟨.usingFunctionList, 0, 0x10000⟩]⟩,
   ⟨0x15700000000000000000000000000000000000000000000000000000000000000000000000000000000000000000000000000000000000000000000000000000000000000000000000000000000000, 0x558000000000000000000000000000000000000000000000000000000000000000000000000000000000000000000000000000000000000000000000000000000000000000000000000000000000000000000000000000000000000000000000000000000000000000000000000000000000000000000000000000000000000000000000000000000000000000000000000000000000, [⟨.usingFunction, 1, 0x30000⟩]⟩,
   ⟨0x56000000000000000000000000000000000000000000000000, 0, [⟨.namePath, 1, 0xb011dcc0a12408a04000000000079801⟩]⟩,
   ⟨0x4f0000000053000000000000000000000000000000000000000014000000000000000000000000000000000000000000000000148000000000000144000000000000000000000000000000000000000000000000000000000000000000000000000000000000000000000000000000000000000000000000000000000000000000000000000000000000000000000000004e, 0x564000000000000000000000000000000000000000000, []⟩,
   ⟨0x15a000000000000000000000000000000, 0, []⟩,
   ⟨0x24800080000002b0003200000000000000000000000000c4000000000038000000b0000000000000000000009100021000000000000000000000b80000000000000b4000cc370002f00000000300000000000000000000000000000000000000000000000000000000000000000000000000000000000000000000000000000000000000000000070000a4360d4340ec3a0e424098280002a, 0x230881e07c8e23d5b0f41a0649006c2507427, []⟩,
   ⟨0x24800080000002b0003200000000000000000000000000c4000000000038000000b0000000000000000000009100021000000000000000000000b80000000000000b4000cc370002f00000000300000000000000000000000000000000000000000000000000000000000000000000000000000000000000000000000000000000000000000000070000a4360d4340ec3a0e424098280002a, 0x5740000000000000000000000000000015c000000000000000000000000000000000000000000000000000000000000000000000000000000000000000000000000000000000000000000057800000000000000000000000000000000000000000000000000000000000000000000000000000000000000000000000000000000000000000000000000000000000000000000000000000000000000000000000000230881e07c8e23d5f0f41a0649006c2507427, [⟨.errorParameterListOrNone, 0, 0x1000⟩]⟩,
   ⟨0x24800080000002b000320008c000000000000000000000c40021c0000038000000b0000000000000000000009100021000000000000000000860b80000000000000b4000cc370002f00000000300008922000000000008b22800000850000000084000000000000000000000000000000000000000000000000000000000000000000000000000070000a4360d4340ec3a0e424098280002a, 0x580781dc791e87b1f07d1f87f200810008220c230881e07c8e23c3c0f41a2349006c2507427, []⟩,
   ⟨0, 0, [⟨.variableDefinition, 1, 0x10a9c2296925b0d2d1800000000052fff⟩]⟩,
   ⟨0x161000000000000162000000000000000000000000000000000000000000000, 0, []⟩,
   ⟨0x58c00000000000000000000000000000000000000000000000000000000000000000000000000000000000000000000000000000000000000000000000000000000000000000000000000000000000000000000000000000000000000000000000000000000000000000000000000000000000000000000000000000000000000000000000000000000000000000000000000000000000000000000000000000, 0, [⟨.nameOrFailure, 0, 0x1040000⟩]⟩,
   ⟨0, 0, [⟨.variableAttributes, 1, 0x80310d40a90408a00000000000000001⟩]⟩,
   ⟨0x164000000000000000000000000000000000000000000000, 0, []⟩],
  [⟨0x4f0000000053000000000000000000000000000000000000000014000000000000000000000000000000000000000000000000148000000000000144000000000000000000000000000000000000000000000000000000000000000000000000000000000000000000000000000000000000000000000000000000000000000000000000000000000000000000000000004e, 0x16500000000000000000000000000000000000000000000000000000000000000000000000000000000000000000000000000000000000000000000000000000000000000000000000000000000000000000000000000000000000000000000000016600000000000000000000000000000000000134000000000000000000000000000000000000000000, []⟩,
   ⟨0x24800080000002b000320008c000000000000000000000c40021c0000038000000b0000000000000000000009100021000000000000000000860b80000000000000b4000cc370002f00000000300008922000000000008b22800000850000000084000000000000000000000000000000000000000000000000000000000000000000000000000070000a4360d4340ec3a0e424098280002a, 0x59c781dc791e87b1f07d1f87f200810008220c230881e07c8e23c3c0f41a2349006c2507427, []⟩,
   ⟨0, 0, [⟨.variableDefinition, 7, 0x10a9c2296925b0d2d1800000000052fff⟩]⟩,
   ⟨0, 0, [⟨.block, 0, 0x1cfbfeffebfffffff9ffffffffd7fffff⟩]⟩,
   ⟨0x348d500000000d8248df080000002b000320016a000de0000000000000000c40021c0000038000000b000000000000000000350913582100000000003800036c860b80037000000000b4000cc373742f36400000300008922000000000008b2280000085000000008400000000000000000000000000000000000000000000000000000000000000000001681ac00070000a4360d4340ec3a0e424098280002a, 0x16900000000000000000000000000000034cd13400036800000e100000000d7388781dc791e87b1f07d1f87f200810008220c230881e07c8e23ce30f41a2349006c2507427, []⟩,
   ⟨0x16b0000000000000000000000000000000000000000, 0, []⟩,
   ⟨0x5b4000000000000000000000000000000000000000000, 0x5b0000000000000000000000000000000000000000000000000000000000000000000000000000000000000000000000000000000000000000000000000000000000000000000000000000000000000000000000000000000000000000000000000000000000000000000000000000000000000000000000000000000000000000000000000000000000000000000000000000000000000000000000000000000000000000000000000000000000000000000000000000000000000, [⟨.namedArgumentList, 0, 0x10000⟩]⟩,
   ⟨0x16e00000000000000000000000000000000000000000000000000, 0, []⟩,
   ⟨0x27000000000000000000000000000000000000000000000000000000000000000000000000000000000000000000000000000000000000000000000000000000000000000000000000000000000000000000000000000000000000000000000000000000000000016f00000000000000000000000000000000000000000000000000, 0, [⟨.builtinType, 1, 0x801300088000083007feeffffd2ca801⟩]⟩,
   ⟨0, 0, [⟨.name, 0, 0x100000⟩, ⟨.variableName, 0, 0x801300088000083007feeffffd2ca801⟩]⟩,
   ⟨0, 0, [⟨.name, 1, 0x100000⟩, ⟨.variableName, 1, 0x801300088000083007feeffffd2ca801⟩]⟩,
   ⟨0, 0, [⟨.name, 2, 0x100000⟩, ⟨.variableName, 2, 0x801300088000083007feeffffd2ca801⟩]⟩,
   ⟨0, 0, [⟨.name, 3, 0x100000⟩, ⟨.variableName, 3, 0x801300088000083007feeffffd2ca801⟩]⟩,
   ⟨0, 0, [⟨.name, 4, 0x100000⟩, ⟨.variableName, 4, 0x801300088000083007feeffffd2ca801⟩]⟩,
   ⟨0x4f000000005300000000000000000000000000000000000000001400000000000000000000000000000000000000000000000014800000000000014400000000000000000000000000000000000000000000000000000000000000000000000000000000000000000000000000000000000000000000000000000000000000000000005c400000000000000000000000004e, 0x17000000000000000000000000000000000000134000000000000000000000000000000000000000000, [⟨.name, 5, 0x100000⟩, ⟨.signed, 8, 0x1feeffffd240000⟩]⟩,
   ⟨0, 0, [⟨.statements, 0, 0xc79540a480f0ba2f961910000001affd⟩]⟩,
   ⟨0, 0, [⟨.statement, 0, 0xc79540a480f0ba2f961910000001affd⟩]⟩,
   ⟨0, 0, [⟨.statement, 1, 0xc79540a480f0ba2f961910000001affd⟩]⟩,
   ⟨0, 0, [⟨.statement, 2, 0xc79540a480f0ba2f961910000001affd⟩]⟩,
   ⟨0, 0, [⟨.closedStatement, 0, 0xc79540a480f0fa2f961910000001affd⟩]⟩,
   ⟨0x5c8000000000000000000000000000, 0, []⟩,
   ⟨0x5cc000000000000000000000000000, 0, []⟩,
   ⟨0x5d0000000000000000000000000000, 0, []⟩,
   ⟨0, 0, [⟨.plainStatement, 0, 0xc79540a480f0fa2f961910000001affd⟩]⟩,
   ⟨0x5d40000000000000000000000000000000000000, 0, []⟩,
   ⟨0x5e400000005e8000000000000000000002800000, 0x1770000000000000000000000000000000000000000000000000000000000000000000000000000000000000000000000000000000000000000000000000000000000000000000000178000000000000000000000000000000000000000000000000000000000000000000000000000000000000000000000000000000176, []⟩,
   ⟨0x17b000000000000000000000000000000000000000000000, 0, []⟩,
   ⟨0x348d500000000d8248df080000002b000320016a000de0000000000000000c40021c0000038000000b000000000000000000350913582100000000003800036c860b80037000000000b4000cc373742f36400000300008922000000000008b2280000085000000008400000000000000000000000000000000000000000000000000000000000000000000001ac00070000a4360d4340ec3a0e424098280002a, 0x17c00000000000000000000000000000034cd13400036800000e100000000d7388781dc791e87b1f07d1f87f200810008220c230881e07c8e23ce30f41a2349006c2507427, []⟩,
   ⟨0x17d000000000000000000000000000000000000000000000, 0, []⟩,
   ⟨0x17e000000000000000000000000000000000000000000000, 0, []⟩,
   ⟨0x24800080000002b000320008c000000000000000000000c40021c0000038000000b0000000000000000000009100021000000000000000000860b80000000000000b4000cc370002f00000000300008922000000000008b228000008500000000840000000000000000000000000000000000000000000000000000000000000017f0000000000070000a4360d4340ec3a0e424098280002a, 0x600781dc791e87b1f07d1f87f200810008220c230881e07c8e23c3c0f41a2349006c2507427, []⟩,
   ⟨0x24800080000002b0003200000000000000000000000000c4006080000038000000b0000000000000000000009100021000000000000000000000b80000000000000b4000cc370002f00000000300000000000000000000000000000000000000000000000000000000000000000000000000000000000000000000000000000000000000000000070000a4360d4340ec3a0e424098280002a, 0x18100000000000000000000000000000000000000000000000000000000000000000000000000000000000000000000000000000000000000000000000000000000000000000000000000000000000000000000000000000000000000000000000000000000000000000000000000000000000000000000000000000000000000000000000230881e07c8e23c3c0f5830649006c2507427, []⟩],
  [⟨0x24800080000002b0003200000000000000000000000000c4000000000038000000b0000000000000000000009100021000000000000000000000b80000000000000b4000cc370002f00000000300000000000000000000000000000000000000000000000000000000000000000000000000000000000000000000000000000000000000000000070000a4360d4340ec3a0e424098280002a, 0x230881e07c8e23c3c0f5840649006c2507427, []⟩,
   ⟨0x185000000000000000000000000000000000000000000000000000000000000, 0, [⟨.simpleStatement, 1, 0x40000⟩]⟩,
   ⟨0, 0, [⟨.simpleStatement, 2, 0x40000⟩]⟩,
   ⟨0x19800000000000000000000000004f000004bc530000000000000000000000000000004b8000000014000000000000000000000000000000000000000000000000148000000000000145300000000000000000000000000000000000000000000000000000000000000000000000000000000000000000000000000000000000000000000000000000000000000000000000000000000000000000000000004e, 0x186000000000000000000000000000000000000000000187000000000000000000000000000000000000000000000000000000000000000001b8000000000000000000000000000000000000000000, [⟨.quantity, 6, 0x7feeffffd2c2000⟩]⟩,
   ⟨0x1bc000000000000000000000000000, 0x620000000000000000000000000000000000000000000000000000000000000000000000000000000000000000, []⟩,
   ⟨0xec00000000000000000000000000000062400000ea18865000003b400000000000000000000001900000000000e700000000000006300000000000000000000000003ac000000000000000000000000000000000000000000000000000000000000000000000000000000000000000000000000000000000000000000000000000000000000000000000000000000000000000000000000000000000, 0x18a000000000000000000000000000000000e8000e9000000000000000000000000000000000000000000000000000000000000000000000000000000000000000000, [⟨.functionType, 5, 0x801300088400083007feeffffd7ff001⟩]⟩,
   ⟨0, 0, [⟨.functionTypeAttributes, 0, 0x90139c88a50408b007feeffffd7ff001⟩]⟩,
   ⟨0, 0, [⟨.functionTypeAttribute, 0, 0x90139c88a50408b007feeffffd7ff001⟩]⟩,
   ⟨0, 0, [⟨.functionTypeAttribute, 1, 0x90139c88a50408b007feeffffd7ff001⟩]⟩,
   ⟨0, 0, [⟨.functionTypeAttribute, 2, 0x90139c88a50408b007feeffffd7ff001⟩]⟩,
   ⟨0, 0, [⟨.mutability, 0, 0xb013dcc8a50408b007feeffffd7ff001⟩]⟩,
   ⟨0, 0, [⟨.mutability, 1, 0xb013dcc8a50408b007feeffffd7ff001⟩]⟩,
   ⟨0, 0, [⟨.mutability, 2, 0xb013dcc8a50408b007feeffffd7ff001⟩]⟩,
   ⟨0, 0, [⟨.mutability, 3, 0xb013dcc8a50408b007feeffffd7ff001⟩]⟩,
   ⟨0x65400648ec0000000000000000004f000000005365d98000ea18865000003b5930000000000000001400019000000000019100000000000006300000000000000014800000003ac001440000000000000000000000000000000000000000000000000000000000000000000000000000000000000000000000000000000000000000000000000000069000001ac000000000000000000000000000000000004e, 0x18d00000000000000000000000000000062d8e0000065000000000018f0019000000631960006a000000000000000000000000000000134000000000000000000000000000000000000000000, []⟩,
   ⟨0, 0, [⟨.parameterList, 0, 0xb013dcc8a50408b007feeffffd7ff001⟩]⟩,
   ⟨0x199000000000000000000000000000000, 0, [⟨.optionalParameter, 0, 0x20000⟩]⟩,
   ⟨0x19a000000000000000000000000000000, 0, []⟩,
   ⟨0x19b000000000000000000000000000000, 0, []⟩,
   ⟨0x674000000000000000000000000000000000000000000, 0x19c00000000000000000000000000000000000000000000000000000000000000000000000000000000000000000000000000000000000000000000000000000000000000000000000000000000000000000000000000000000000000000000000000000000000000000000000000000000000000000000000000000000000000000000000000000000000000000000000000000000000000000000000000000000000000000000000000000000000000000000000000000, []⟩,
   ⟨0x24800080000002b0003200000000000000000000000000c4000000000038000000b0000000000000000000009100021000000000000000000000b80000000000000b4000cc370002f00000000300000000000000000000000000000000000000000000000000000000000000000000000000000000000000000000000000000000000000000000070000a4360d4340ec3a0e424098280002a, 0x230881e07c8e23d9e0f41a0649006c2507427, []⟩,
   ⟨0x4f000004bc530000000000000000000000000000004b8000000014000000000000000000000000000000000000000000000000148000000000000145300000000000000000000000000000000000000000000000000000000000000000000000000000000000000000000000000000000000000000000000000000000000000000000000000000000000000000000000004e, 0x19f00000000000000000000000000000000000000000000000000000000000000000000000000000000000000000000000000000000000000680000000000000000000000000000000000000000000, [⟨.quantity, 6, 0x600000000082000⟩, ⟨.parameter, 7, 0x21000⟩]⟩,
   ⟨0, 0, [⟨.parameterMark, 0, 0x29400848050082d1000000000002ffd⟩]⟩,
   ⟨0x1a20000000000001a100000000000000000000000000000000000, 0, []⟩,
   ⟨0, 0, [⟨.plainOperand, 4, 0x80330d48ad0408b007feeffffd7ff801⟩]⟩,
   ⟨0x24800080000002b000320008c000000000000000000000c40021c0000038000000b0000000000000000000009100021000000000000000000860b80000000000000b4000cc370002f00000000300008922000000000008b228000008500000000840000000000000000000000000000000000000000000000000000000000000000000000001a4070000a4360d4340ec3a0e424098280002a, 0x68c781dc791e87b1f07d1f87f200810008220c230881e07c8e23c3c0f41a2349006c2507427, []⟩,
   ⟨0, 0, [⟨.plainOperand, 9, 0x80330d48ad0408b007feeffffd7ff801⟩]⟩,
   ⟨0, 0, [⟨.plainOperand, 10, 0x80330d48ad0408b007feeffffd7ff801⟩]⟩,
   ⟨0, 0, [⟨.plainOperand, 11, 0x80330d48ad0408b007feeffffd7ff801⟩]⟩,
   ⟨0, 0, [⟨.plainOperand, 13, 0x80330d48ad0408b007feeffffd7ff801⟩]⟩,
   ⟨0x694000000000000000000000000000000000000000000, 0, [⟨.expressionList, 1, 0x5000⟩]⟩,
   ⟨0x24800080000002b000320008c000000000000000000000c40021c0000038000000b0000000000000000000009100021000000000000000000860b80000000000000b4000cc370002f00000000300008922000000000008b22800000850000000084000000000000000000000000000000000000000000000000000000000000000000000000000070000a4360d4340ec3a0e424098280002a, 0x698781dc791e87b1f07d1f87f200810008220c230881e07c8e23c3c0f41a2349006c2507427, []⟩],
  [⟨0x24800080000002b000320008c000000000000000000000c40021c0000038000000b0000000000000000000009100021000000000000000000860b80000000000000b4000cc370002f00000000300008922000000000008b22800000850000000084000000000000000000000000000000000000000000000000000000000000000000000000000070000a4360d4340ec3a0e424098280002a, 0x7869c791e87b1f07d1f87f200810008220c230881e07c8e23c3c0f41a2349006c2507427, []⟩,
   ⟨0x24800080000002b000320008c000000000000000000000c40021c0000038000000b0000000000000000000009100021000000000000000000860b80000000000000b4000cc370002f00000000300008922000000000008b22800000850000000084000000000000000000000000000000000000000000000000000000000000000000000000000070000a4360d4340ec3a0e424098280002a, 0x786a0791e87b1f07d1f87f200810008220c230881e07c8e23c3c0f41a2349006c2507427, []⟩,
   ⟨0x24800080000002b000320008c000000000000000000000c40021c0000038000000b0000000000000000000009100021000000000000000000860b80000000000000b4000cc370002f00000000300008922000000000008b22800000850000000084000000000000000000000000000000000000000000000000000000000000000000000000000070000a4360d4340ec3a0e424098280002a, 0x786a4791e87b1f07d1f87f200810008220c230881e07c8e23c3c0f41a2349006c2507427, []⟩,
   ⟨0x24800080000002b000320008c000000000000000000000c40021c0000038000000b0000000000000000000009100021000000000000000000860b80000000000000b4000cc370002f00000000300008922000000000008b22800000850000000084000000000000000000000000000000000000000000000000000000000000000000000000000070000a4360d4340ec3a0e424098280002a, 0x786a8791e87b1f07d1f87f200810008220c230881e07c8e23c3c0f41a2349006c2507427, []⟩,
   ⟨0x24800080000002b000320008c000000000000000000000c40021c0000038000000b0000000000000000000009100021000000000000000000860b80000000000000b4000cc370002f00000000300008922000000000008b22800000850000000084000000000000000000000000000000000000000000000000000000000000000000000000000070000a4360d4340ec3a0e424098280002a, 0x786ac791e87b1f07d1f87f200810008220c230881e07c8e23c3c0f41a2349006c2507427, []⟩,
   ⟨0x24800080000002b000320008c000000000000000000000c40021c0000038000000b0000000000000000000009100021000000000000000000860b80000000000000b4000cc370002f00000000300008922000000000008b22800000850000000084000000000000000000000000000000000000000000000000000000000000000000000000000070000a4360d4340ec3a0e424098280002a, 0x786b0791e87b1f07d1f87f200810008220c230881e07c8e23c3c0f41a2349006c2507427, []⟩,
   ⟨0x24800080000002b000320008c000000000000000000000c40021c0000038000000b0000000000000000000009100021000000000000000000860b80000000000000b4000cc370002f00000000300008922000000000008b22800000850000000084000000000000000000000000000000000000000000000000000000000000000000000000000070000a4360d4340ec3a0e424098280002a, 0x786b4791e87b1f07d1f87f200810008220c230881e07c8e23c3c0f41a2349006c2507427, []⟩,
   ⟨0x24800080000002b000320008c000000000000000000000c40021c0000038000000b0000000000000000000009100021000000000000000000860b80000000000000b4000cc370002f00000000300008922000000000008b22800000850000000084000000000000000000000000000000000000000000000000000000000000000000000000000070000a4360d4340ec3a0e424098280002a, 0x786b8791e87b1f07d1f87f200810008220c230881e07c8e23c3c0f41a2349006c2507427, []⟩,
   ⟨0x24800080000002b000320008c000000000000000000000c40021c0000038000000b0000000000000000000009100021000000000000000000860b80000000000000b4000cc370002f00000000300008922000000000008b22800000850000000084000000000000000000000000000000000000000000000000000000000000000000000000000070000a4360d4340ec3a0e424098280002a, 0x786bc791e87b1f07d1f87f200810008220c230881e07c8e23c3c0f41a2349006c2507427, []⟩,
   ⟨0x24800080000002b000320008c000000000000000000000c40021c0000038000000b0000000000000000000009100021000000000000000000860b80000000000000b4000cc370002f00000000300008922000000000008b22800000850000000084000000000000000000000000000000000000000000000000000000000000000000000000000070000a4360d4340ec3a0e424098280002a, 0x786c0791e87b1f07d1f87f200810008220c230881e07c8e23c3c0f41a2349006c2507427, []⟩,
   ⟨0x24800080000002b000320008c000000000000000000000c40021c0000038000000b0000000000000000000009100021000000000000000000860b80000000000000b4000cc370002f00000000300008922000000000008b22800000850000000084000000000000000000000000000000000000000000000000000000000000000000000000000070000a4360d4340ec3a0e424098280002a, 0x786c4791e87b1f07d1f87f200810008220c230881e07c8e23c3c0f41a2349006c2507427, []⟩,
   ⟨0x24800080000002b000320008c000000000000000000000c40021c0000038000000b0000000000000000000009100021000000000000000000860b80000000000000b4000cc370002f00000000300008922000000000008b22800000850000000084000000000000000000000000000000000000000000000000000000000000000000000000000070000a4360d4340ec3a0e424098280002a, 0x786c8791e87b1f07d1f87f200810008220c230881e07c8e23c3c0f41a2349006c2507427, []⟩,
   ⟨0x24800080000002b000320008c000000000000000000000c40021c0000038000000b0000000000000000000009100021000000000000000000860b80000000000000b4000cc370002f00000000300008922000000000008b22800000850000000084000000000000000000000000000000000000000000000000000000000000000000000000000070000a4360d4340ec3a0e424098280002a, 0x1b31e87b1f07d1f87f200810008220c230881e07c8e23c3c0f41a2349006c2507427, []⟩,
   ⟨0x24800080000002b000320008c000000000000000000000c40021c0000038000000b0000000000000000000009100021000000000000000000860b80000000000000b4000cc370002f00000000300008922000000000008b22800000850000000084000000000000000000000000000000000000000000000000000000000000000000000000000070000a4360d4340ec3a0e424098280002a, 0x6d07b1f07d1f87f200810008220c230881e07c8e23c3c0f41a2349006c2507427, []⟩,
   ⟨0x24800080000002b000320008c000000000000000000000c40021c0000038000000b0000000000000000000009100021000000000000000000860b80000000000000b4000cc370002f00000000300008922000000000008b22800000850000000084000000000000000000000000000000000000000000000000000000000000000000000000000070000a4360d4340ec3a0e424098280002a, 0x1b51f07d1f87f200810008220c230881e07c8e23c3c0f41a2349006c2507427, []⟩,
   ⟨0x24800080000002b000320008c000000000000000000000c40021c0000038000000b0000000000000000000009100021000000000000000000860b80000000000000b4000cc370002f00000000300008922000000000008b22800000850000000084000000000000000000000000000000000000000000000000000000000000000000000000000070000a4360d4340ec3a0e424098280002a, 0x1b61f07d1f87f200810008220c230881e07c8e23c3c0f41a2349006c2507427, []⟩,
   ⟨0x24800080000002b000320008c000000000000000000000c40021c0000038000000b0000000000000000000009100021000000000000000000860b80000000000000b4000cc370002f00000000300008922000000000008b22800000850000000084000000000000000000000000000000000000000000000000000000000000000000000000000070000a4360d4340ec3a0e424098280002a, 0x6dc7d1f87f200810008220c230881e07c8e23c3c0f41a2349006c2507427, []⟩,
   ⟨0x24800080000002b000320008c000000000000000000000c40021c0000038000000b0000000000000000000009100021000000000000000000860b80000000000000b4000cc370002f00000000300008922000000000008b22800000850000000084000000000000000000000000000000000000000000000000000000000000000000000000000070000a4360d4340ec3a0e424098280002a, 0x6e07d1f87f200810008220c230881e07c8e23c3c0f41a2349006c2507427, []⟩,
   ⟨0x24800080000002b000320008c000000000000000000000c40021c0000038000000b0000000000000000000009100021000000000000000000860b80000000000000b4000cc370002f00000000300008922000000000008b22800000850000000084000000000000000000000000000000000000000000000000000000000000000000000000000070000a4360d4340ec3a0e424098280002a, 0x6e47d1f87f200810008220c230881e07c8e23c3c0f41a2349006c2507427, []⟩,
   ⟨0x24800080000002b000320008c000000000000000000000c40021c0000038000000b0000000000000000000009100021000000000000000000860b80000000000000b4000cc370002f00000000300008922000000000008b22800000850000000084000000000000000000000000000000000000000000000000000000000000000000000000000070000a4360d4340ec3a0e424098280002a, 0x6e87d1f87f200810008220c230881e07c8e23c3c0f41a2349006c2507427, []⟩,
   ⟨0x24800080000002b000320008c000000000000000000000c40021c0000038000000b0000000000000000000009100021000000000000000000860b80000000000000b4000cc370002f00000000300008922000000000008b22800000850000000084000000000000000000000000000000000000000000000000000000000000000000000000000070000a4360d4340ec3a0e424098280002a, 0x1bb1f87f200810008220c230881e07c8e23c3c0f41a2349006c2507427, []⟩,
   ⟨0x24800080000002b000320008c000000000000000000000c40021c0000038000000b0000000000000000000009100021000000000000000000860b80000000000000b4000cc370002f00000000300008922000000000008b22800000850000000084000000000000000000000000000000000000000000000000000000000000000000000000000070000a4360d4340ec3a0e424098280002a, 0x6f07f200810008220c230881e07c8e23c3c0f41a2349006c2507427, []⟩,
   ⟨0x24800080000002b000320008c000000000000000000000c40021c0000038000000b0000000000000000000009100021000000000000000000860b80000000000000b4000cc370002f00000000300008922000000000008b22800000850000000084000000000000000000000000000000000000000000000000000000000000000000000000000070000a4360d4340ec3a0e424098280002a, 0x1bd200810008220c230881e07c8e23c3c0f41a2349006c2507427, []⟩,
   ⟨0x24800080000002b000320008c000000000000000000000c40021c0000038000000b0000000000000000000009100021000000000000000000860b80000000000000b4000cc370002f00000000300008922000000000008b22800000850000000084000000000000000000000000000000000000000000000000000000000000000000000000000070000a4360d4340ec3a0e424098280002a, 0x6f8810008220c230881e07c8e23c3c0f41a2349006c2507427, []⟩,
   ⟨0x24800080000002b000320008c000000000000000000000c40021c0000038000000b0000000000000000000009100021000000000000000000860b80000000000000b4000cc370002f00000000300008922000000000008b22800000850000000084000000000000000000000000000000000000000000000000000000000000000000000000000070000a4360d4340ec3a0e424098280002a, 0x6fc810008220c230881e07c8e23c3c0f41a2349006c2507427, []⟩,
   ⟨0x24800080000002b000320008c000000000000000000000c40021c0000038000000b0000000000000000000009100021000000000000000000860b80000000000000b4000cc370002f00000000300008922000000000008b22800000850000000084000000000000000000000000000000000000000000000000000000000000000000000000000070000a4360d4340ec3a0e424098280002a, 0x1c00008220c230881e07c8e23c3c0f41a2349006c2507427, []⟩,
   ⟨0x24800080000002b000320008c000000000000000000000c40021c0000038000000b0000000000000000000009100021000000000000000000860b80000000000000b4000cc370002f00000000300008922000000000008b22800000850000000084000000000000000000000000000000000000000000000000000000000000000000000000000070000a4360d4340ec3a0e424098280002a, 0x1c10008220c230881e07c8e23c3c0f41a2349006c2507427, []⟩,
   ⟨0x24800080000002b000320008c000000000000000000000c40021c0000038000000b0000000000000000000009100021000000000000000000860b80000000000000b4000cc370002f00000000300008922000000000008b22800000850000000084000000000000000000000000000000000000000000000000000000000000000000000000000070000a4360d4340ec3a0e424098280002a, 0x1c220c230881e07c8e23c3c0f41a2349006c2507427, []⟩,
   ⟨0x24800080000002b000320008c000000000000000000000c40021c0000038000000b0000000000000000000009100021000000000000000000860b80000000000000b4000cc370002f00000000300008922000000000008b22800000850000000084000000000000000000000000000000000000000000000000000000000000000000000000000070000a4360d4340ec3a0e424098280002a, 0x1c320c230881e07c8e23c3c0f41a2349006c2507427, []⟩,
   ⟨0x24800080000002b000320008c000000000000000000000c40021c0000038000000b0000000000000000000009100021000000000000000000860b80000000000000b4000cc370002f00000000300008922000000000008b22800000850000000084000000000000000000000000000000000000000000000000000000000000000000000000000070000a4360d4340ec3a0e424098280002a, 0x1c420c230881e07c8e23c3c0f41a2349006c2507427, []⟩,
   ⟨0x24800080000002b000320008c000000000000000000000c40021c0000038000000b0000000000000000000009100021000000000000000000860b80000000000000b4000cc370002f00000000300008922000000000008b22800000850000000084000000000000000000000000000000000000000000000000000000000000000000000000000070000a4360d4340ec3a0e424098280002a, 0x1c520c230881e07c8e23c3c0f41a2349006c2507427, []⟩,
   ⟨0, 0, [⟨.signed, 0, 0x1feeffffd375000⟩]⟩],
  [⟨0, 0, [⟨.signed, 1, 0x1feeffffd375000⟩]⟩,
   ⟨0, 0, [⟨.signed, 2, 0x1feeffffd375000⟩]⟩,
   ⟨0, 0, [⟨.signed, 3, 0x1feeffffd375000⟩]⟩,
   ⟨0, 0, [⟨.signed, 4, 0x1feeffffd375000⟩]⟩,
   ⟨0, 0, [⟨.signed, 5, 0x1feeffffd375000⟩]⟩,
   ⟨0, 0, [⟨.signed, 6, 0x1feeffffd375000⟩]⟩,
   ⟨0, 0, [⟨.signed, 7, 0x1feeffffd375000⟩]⟩,
   ⟨0, 0, [⟨.entryList, 1, 0x80330d48ad0408b007feeffffd7ff801⟩]⟩,
   ⟨0, 0, [⟨.entryList, 2, 0x80330d48ad0408b007feeffffd7ff801⟩]⟩,
   ⟨0, 0, [⟨.entryList, 3, 0x80330d48ad0408b007feeffffd7ff801⟩]⟩,
   ⟨0x718000000000000000000000000000000000000000000, 0, [⟨.optionalEntryListOfTwo, 0, 0x1000⟩]⟩,
   ⟨0x24800080000002b000320008c000000000000000000000c40021c0000038000000b0000000000000000000009100021000000000000000000860b80000000000000b4000cc370002f00000000300008922000000000008b22800000850000000084000000000000000000000000000000000000000000000000000000000000000000000000000070000a4360d4340ec3a0e424098280002a, 0x1c80000000000001c700000000000000000000000000000000000000000000000000000000000000000000000000000000000000000000000000000000000000000000000026c781dc791e87b1f07d1f87f200810008220c230881e07c8e23c9a0f41a2349006c2507427, [⟨.optionalEntry, 1, 0x21000⟩]⟩,
   ⟨0x4f0000000053000000000000000000000000000000000000000014000000000000000000000000000000000000000000000000148000000000000144000000000000000000000000000000000000000000000000000000000000000000000000000000000000000000000000000000000000000000000000000000000000000000000000000000000000000000000000004e, 0x724000000000000000000000000000000000000000000, []⟩,
   ⟨0, 0, [⟨.entry, 1, 0x21000⟩]⟩,
   ⟨0, 0, [⟨.storageLocation, 0, 0x80110000800008200000000000021001⟩]⟩,
   ⟨0, 0, [⟨.storageLocation, 1, 0x80110000800008200000000000021001⟩]⟩,
   ⟨0, 0, [⟨.storageLocation, 2, 0x80110000800008200000000000021001⟩]⟩,
   ⟨0x4f00000000530000000000000000000000000000000000000000140000000000000000000000000000000000000000000000001480000000000001440000000000000000000000000000000000000000000000000000000000000000000000000000000000000000000000000000000000000000001cb000000000000000000000000000000000000000000000000000004e, 0x728000000000000000000000000000000000000000000, [⟨.quantity, 6, 0x600000000082000⟩]⟩,
   ⟨0x1cc000000000000000000000000000000, 0, []⟩,
   ⟨0x4f000000005300000000000000000000000000000000000000001400000000000000000000000000000000000000000000000014800000000000014400000000000000000001cf00000000000000000000000000000000000000000000000000000000000000000000000000000000000000000000000000000000000000000000000000000000000000000000000000004e, 0x734000000000000000000000000000001ce0000000000000000000000000000000000000000000000000031800000000000000000000000000000000000000000000000000000000000000000000000000000000000000031c000000000000000000000000000000000000000000, [⟨.namedArgumentListOrNone, 0, 0x10000⟩]⟩,
   ⟨0x24800080000002b0003200000000000000000000000000c4000000000038000000b0000000000000000000009100021000000000000000000000b80000000000000b4000cc370002f00000000300000000000000000000000000000000000000000000000000000000000000000000000000000000000000000000000000000000000000000000070000a4360d4340ec3a0e424098280002a, 0x1d10000000000000000000000000000007400000000000000000000000000000000000000000000000000000000000000000000000000000000000000000000000000000000000000000001d2000000000000000000000000000000000000000000000000000000000000000000000000000000000000000000000000000000000000000000000000000000000000000000000000000000000000000000000000230881e07c8e23dd30f41a0649006c2507427, [⟨.eventParameterListOrNone, 0, 0x1000⟩]⟩,
   ⟨0x24800080000002b0003200000000000000000000000000c4000000000038000000b0000000000000000000009100021000000000000000000000b80000000000000b4000cc370002f0000000030000000000000000000000000000000000000000000000000000000000000000000000000000000000000000000000000000000000001d400000070000a4360d4340ec3a0e424098280002a, 0x1d5000000000000000000000000000000000000000000000000000000000000000000000000000000000000000000000000000000000000000000000000000000000000000000000000000000000000000000000000000000000000000000000000000000000000000000000000000000000001d6000000000000000000000000000000000000000000000000230881e07c8e23ce30f41a0649006c2507427, []⟩,
   ⟨0x19800000000000000000000000004f0000000053000000000000000000000000000000000000000014000000000000000000000000000000000000000000000000148000000000000144000000000000000000000000000000000000000000000000000000000000000000000000000000000000000000000000000000000000000000000000000000000000000000000000000000000000000000000000004e, 0x1d800000000000000000000000000000075c00000000000000000000000000000000000000000000000000000000000000000000000000000000000000000000000000000000000000000000000000000000000000000000000000000000000000000000000000000000000000000000000000000000000000000000001d9000000000000000000000000000000000000000000000000000000000000000001b8000000000000000000000000000000000000000000, [⟨.nameOrFailureListOrNone, 0, 0x10000⟩]⟩,
   ⟨0, 0, [⟨.importDirective, 0, 0x10a9c028692530c2d1800000000042fff⟩]⟩,
   ⟨0x4f0000000053000000000000000000000000000000000000000014000000000000000000000000000000000000000000000000148000000000000144000000000000000000000000000000000000000000000000000000000000000000000000000000000000000000000000000000000000000000000000000000000000000000000000000000000000000000000000004e, 0x768000000000000000000000000000000000000000000, []⟩,
   ⟨0x4f0000000053000000000000000000000000000000000000000014000000000000000000000000000000000000000000000000148000000000000144000000000000000000000000000000000000000000000000000000000000000000000000000000000000000000000000000000000000000000000000000000000000000000000000000000000000000000000000004e, 0x76c000000000000000000000000000000000000000000, []⟩,
   ⟨0x1dc0000000000000000000000000000000000000000, 0, []⟩,
   ⟨0x778000000000000000000000000000000000000000000, 0x1dd00000000000000000000000000000000000000000000000000000000000000000000000000000000000000000000000000000000000000000000000000000000000000000000000000000000000000000000000000000000000000000000000000000000000000000000000000000000000000000000000000000000000000000000000000000000000000000000000000000000000000000000000000000000000000000000000000000000000000, [⟨.importRenameList, 0, 0x10000⟩]⟩,
   ⟨0x1df00000000000000000000000000000000000000000000000000000000000000000000000000000000000000000000000000000000000000000000000000000000000000000000000000000000000, 0, [⟨.importRename, 0, 0x30000⟩]⟩,
   ⟨0x1e0000000000000000000000000000000000000000000000, 0, []⟩,
   ⟨0x1e1000000000000000000000000000000000000000000000, 0, []⟩,
   ⟨0x53000000000014a0014b000000000051d4652548000000000000000000000000000000001450000000000001e2000000000000000000000000000000510000000000000, 0x78c000000000000000000000050d4100000000000000000000000000000000000000000000000000000000014200000000000000000000000000000000000000000000000000000000000000000000000000000000000000000000000000000000000000000000000000000000000000000000, []⟩],
  [⟨0x1e4000000000000000000000000000000000000000000000000000000000000000000000000000000000000000000000000000000000, 0, [⟨.versionChoices, 0, 0x2143c001040020⟩]⟩,
   ⟨0, 0, [⟨.versionChoice, 1, 0x2147c001040020⟩]⟩,
   ⟨0x1e50000000000000000000000000000000000000000000000000000000000000000000000000000000000000000000000000000000000000000000000000000000000, 0, [⟨.versionRange, 0, 0x2147c001040020⟩]⟩,
   ⟨0x510000000000000, 0x1e600000000000000000000000000000000000000000000000000000000000000000000000000000000000000000000000000000000000000000000000000000000000000000000, []⟩,
   ⟨0x7a000000000000000000000000000000000000000000000000, 0x1e70000000000000000000000000000000000000000000000000000000000000000000000000000000000000000000000000000000000000000000000000000000000000000000000000000000000000000000000000000000000000000000000000000000000000000000000000000000000000000000000000000000000000000000000000000000000000000000000000000000000000000000000, [⟨.version, 0, 0x3147c001040020⟩]⟩,
   ⟨0, 0, [⟨.versionOperator, 0, 0x20⟩]⟩,
   ⟨0, 0, [⟨.versionOperator, 1, 0x20⟩]⟩,
   ⟨0, 0, [⟨.versionOperator, 2, 0x20⟩]⟩,
   ⟨0, 0, [⟨.versionOperator, 3, 0x20⟩]⟩,
   ⟨0, 0, [⟨.versionOperator, 4, 0x20⟩]⟩,
   ⟨0, 0, [⟨.versionOperator, 5, 0x20⟩]⟩,
   ⟨0, 0, [⟨.versionOperator, 6, 0x20⟩]⟩,
   ⟨0, 0, [⟨.versionOperator, 7, 0x20⟩]⟩,
   ⟨0, 0, [⟨.plainName, 0, 0x40000⟩]⟩,
   ⟨0, 0, [⟨.pragmaDirective, 3, 0x10a9c028692530c2d1800000000042fff⟩]⟩,
   ⟨0x7a40000000000000000000000000000000000000, 0, []⟩,
   ⟨0x4f0000000053000000000000000000000000000000000000000014000000000000000000000000000000000000000000000000148000000000000144000000000000000000000000000000000000000000000000000000000000000000000000000000000000000000000000000000000000000000000000000000000000000000000000000000000000000000000000004e, 0x7a80000000000000000000000000000000000000000000000000000000000000000000000000000000000000000000000000000000000000000000000000000000000000000000000000000000000000000000000000000000000000000000000000000000000000007ac00000000000000000000000019600000000000000000000000000000000000134000000000000000000000000000000000000000000, []⟩,
   ⟨0x4f000000005300000000000000000000000000000000000000001400000000000000000000000000000000000000000000000014800000000000014400000000000000000000000000000000000000000000000000000000000000000000000000000000000000000000000000000000000000000000000000001ed00000000000000000000000000000000000000000004e, 0x7b0000000000000000000000000000000000000000000, [⟨.quantity, 6, 0x600000000082000⟩]⟩,
   ⟨0x4f000000005300000000000000000000000000000000000000001400000000000000000000000000000000000000000000000014800000000000014400000000000000000000000000000000000000000000000000000000000000000000000000000000000000000000000000000000000000000000000000001ef00000000000000000000000000000000000000000004e, 0x7b8000000000000000000000000000000000000000000, []⟩,
   ⟨0, 0, [⟨.usingList, 1, 0x2000000000000000000000⟩]⟩,
   ⟨0x7c0000000000000000000000000000000000000000000, 0, [⟨.usingFunctionList, 1, 0x10000⟩]⟩,
   ⟨0x4f0000000053000000000000000000000000000000000000000014000000000000000000000000000000000000000000000000148000000000000144000000000000000000000000000000000000000000000000000000000000000000000000000000000000000000000000000000000000000000000000000000000000000000000000000000000000000000000000004e, 0x7c40000000000000000000000000000000000000000000000000000000000000000000000000000000000000000000000000000000000000000000000000000000000b400000000000000000000000000000000000134000000000000000000000000000000000000000000, []⟩,
   ⟨0, 0, [⟨.usingFunction, 0, 0x30000⟩]⟩,
   ⟨0x7e1f77e5fa7d800001f37c9f57d000000007f5fc7fdfe801fb000000000000000000000000000000000000000000000000000000000000000000000000000000000000000000, 0, []⟩,
   ⟨0x4f0000000053000000000000000000000000000000000000000014000000000000000000000000000000000000000000000000148000000000000144000000000000000000000000000000000000000000000000000000000000000000000000000000000000000000000000000000000000000000000000000000000000000000000000000000000000000000000000004e, 0x804000000000000000000000000000000000000000000, []⟩,
   ⟨0, 0, [⟨.namePathSteps, 0, 0xb011dcc0a12408a040000000000f9801⟩]⟩,
   ⟨0, 0, [⟨.annotationCall, 0, 0x10a9c2296925b0d2d1800000000052fff⟩]⟩,
   ⟨0x202000000000000000000000000000000000000000000000, 0, [⟨.quantity, 6, 0x600000000082000⟩]⟩,
   ⟨0x203000000000000000000000000000000, 0, []⟩,
   ⟨0, 0, [⟨.errorParameterListOrNone, 1, 0x1000⟩]⟩,
   ⟨0x814000000000000000000000000000000000000000000, 0x204000000000000000000000000000000000000000000000000000000000000000000000000000000000000000000000000000000000000000000000000000000000000000000000000000000000000000000000000000000000000000000000000000000000000000000000000000000000000000000000000000000000000000000000000000000000000000000000000000000000000000000000000000000000000000000000000000000000000000000000000000000000000000000000000000000, [⟨.errorParameterList, 0, 0x1000⟩]⟩,
   ⟨0x4f0000000053000000000000000000000000000000000000000014000000000000000000000000000000000000000000000000148000000000000144000000000000000000000000000000000000000000000000000000000000000000000000000000000000000000000000000000000000000000000000000000000000000000000000000000000000000000000000004e, 0x818000000000000000000000000000000000000000000, [⟨.errorParameter, 1, 0x21000⟩, ⟨.quantity, 6, 0x600000000082000⟩]⟩],
  [⟨0x207000000000000000000000000000000000000000000000, 0, []⟩,
   ⟨0x24800080000002b000320008c000000000000000000000c40021c0000038000000b0000000000000000000009100021000000000000000000860b80000000000000b4000cc370002f00000000300008922000000000008b22800000850000000084000000000000000000000000000000000000000000000000000000000000000000000000000070000a4360d4340ec3a0e424098280002a, 0x820781dc791e87b1f07d1f87f200810008220c230881e07c8e23c3c0f41a2349006c2507427, []⟩,
   ⟨0, 0, [⟨.variableDefinition, 3, 0x10a9c2296925b0d2d1800000000052fff⟩]⟩,
   ⟨0x209000000000000000000000000000000000000000000000, 0, []⟩,
   ⟨0, 0, [⟨.variableDefinition, 4, 0x10a9c2296925b0d2d1800000000052fff⟩]⟩,
   ⟨0x20a000000000000000000000000000000, 0, []⟩,
   ⟨0x830000000000000000000000000000000000000000000, 0x82c00000000000000000000000000000000000000000000000000000000000000000000000000000000000000000000000000000000000000000000000000000000000000000000000000000000000000000000000000000000000000000000000000000000000000000000000000000000000000000000000000000000000000000000000000000000000000000000000000000000000000000000000000000000000000000000000000000000000000000000000000, [⟨.namePathList, 0, 0x1000⟩]⟩,
   ⟨0x20d000000000000000000000000000000000000000000000, 0, []⟩,
   ⟨0, 0, [⟨.block, 1, 0x1cfbfeffebfffffff9ffffffffd7fffff⟩]⟩,
   ⟨0, 0, [⟨.statements, 1, 0xc79540a480f0ba2f961910000001affd⟩]⟩,
   ⟨0x4f000000005300000000000000000000000000000000000000001400000000000000000000000000000000000000000000000014800000000000014400000000000000000000000000000000000000000000000000000000000000000000000000000000000000000000000000000000000000000000000000000000000000000000005c400000000000000000000000004e, 0x17000000000000000000000000000000000000134000000000000000000000000000000000000000000, [⟨.signed, 8, 0x1feeffffd240000⟩]⟩,
   ⟨0, 0, [⟨.block, 2, 0x1cfbfeffebfffffff9ffffffffd7fffff⟩]⟩,
   ⟨0x838000000000000000000000000000000000000000000, 0, [⟨.namedArgumentList, 1, 0x10000⟩]⟩,
   ⟨0x4f000000005300000000000000000000000000000000000000001400000000000000000000000000000000000000000000000014800000000000014400000000000000000001cf00000000000000000000000000000000000000000000000000000000000000000000000000000000000000000000000000000000000000000000000000000000000000000000000000004e, 0x83c00000000000000000000000000000000000000000000000000000000000000000000000000000000000000031c000000000000000000000000000000000000000000, []⟩,
   ⟨0x24800080000002b000320008c000000000000000000000c40021c0000038000000b0000000000000000000009100021000000000000000000860b80000000000000b4000cc370002f00000000300008922000000000008b22800000850000000084000000000000000000000000000000000000000000000000000000000000000000000000000070000a4360d4340ec3a0e424098280002a, 0x840781dc791e87b1f07d1f87f200810008220c230881e07c8e23c3c0f41a2349006c2507427, []⟩,
   ⟨0x24800080000002b000320008c000000000000000000000c40021c0000038000000b0000000000000000000009100021000000000000000000860b80000000000000b4000cc370002f00000000300008922000000000008b22800000850000000084000000000000000000000000000000000000000000000000000000000000000000000000000070000a4360d4340ec3a0e424098280002a, 0x844781dc791e87b1f07d1f87f200810008220c230881e07c8e23c3c0f41a2349006c2507427, []⟩,
   ⟨0x848000000000000000000000000000, 0, []⟩,
   ⟨0x24800080000002b000320008c000000000000000000000c40021c0000038000000b0000000000000000000009100021000000000000000000860b80000000000000b4000cc370002f00000000300008922000000000008b22800000850000000084000000000000000000000000000000000000000000000000000000000000000000000085000070000a4360d4340ec3a0e424098280002a, 0x1d40084c0000000000000000000000000000000000000000000000000000000000000000000000001d8781dc791e87b1f07d1f87f200810008220c230881e07c8e23c3c0f41a2349006c2507427, [⟨.expressionListOrNone, 0, 0x1000⟩]⟩,
   ⟨0x24800080000002b000320008c000000000000000000000c40021c0000038000000b0000000000000000000009100021000000000000000000860b80000000000000b4000cc370002f00000000300008922000000000008b22800000850000000084000000000000000000000000000000000000000000000000000000000000000000000000000070000a4360d4340ec3a0e424098280002a, 0x854781dc791e87b1f07d1f87f200810008220c230881e07c8e23c3c0f41a2349006c2507427, []⟩,
   ⟨0x24800080000002b000320008c000000000000000000000c40021c0000038000000b0000000000000000000009100021000000000000000000860b80000000000000b4000cc370002f00000000300008922000000000008b22800000850000000084000000000000000000000000000000000000000000000000000000000000000000000000000070000a4360d4340ec3a0e424098280002a, 0x858781dc791e87b1f07d1f87f200810008220c230881e07c8e23c3c0f41a2349006c2507427, []⟩,
   ⟨0x24800080000002b000320008c000000000000000000000c40021c0000038000000b0000000000000000000009100021000000000000000000860b80000000000000b4000cc370002f00000000300008922000000000008b22800000850000000084000000000000000000000000000000000000000000000000000000000000002180000000000070000a4360d4340ec3a0e424098280002a, 0x85c00000e10000000000388781dc791e87b1f07d1f87f200810008220c230881e07c8e23ce30f41a2349006c2507427, []⟩,
   ⟨0x348d500000000d8248df080000002b000320016a000de0000000000000000c40021c0000038000000b000000000000000000350913582100000000003800036c860b80037000000000b4000cc373742f36400000300008922000000000008b2280000085000000008400000000000000000000000000000000000000000000000000000000000000000002191ac00070000a4360d4340ec3a0e424098280002a, 0x86800000000000000000000000000000000000000000000000000000000000000000000000000000000000000000000000000000000000000000000000000000000000000000000cf00000000000000000000000000000034cd13400036800000e100000000d7388781dc791e87b1f07d1f87f200810008220c230881e07c8e23ce30f41a2349006c2507427, []⟩,
   ⟨0x5e400000005e8000000000000000000000000000, 0x21b000000000000000000000000000000000000000000000000000000000000000000000000000000000000000000000000000000000000000000000000000000000000000000000021c000000000000000000000000000000000000000000000000000000000000000000000000000000000000000000000000000000000, []⟩,
   ⟨0x5e40000000000000000000000000000000000000, 0x21d000000000000000000000000000000000000000000000000000000000000000000000000000000000000000000000000000000000, []⟩,
   ⟨0, 0, [⟨.plainStatement, 6, 0xc79540a480f0fa2f961910000001affd⟩]⟩,
   ⟨0x8b26398a61982670025f0025e0022e976669723496e3396a5995a5895c009565494e529465093e6a8a64e92e4a002499364c8c22d8bc009224791a449164390800002418ae408fe3d0023e8f23b8aa3a8e6388de358d80000000000000000000000000000000000000000000000000000000000000000000000000000000000000000000000000000000021e5e40000000000009926500000000000000000232, 0x87c0000000000000000000000000000000000000000000000000000000009a0000000088a23896260000089e28880000000000000000000000000000000000000000000000000000000000000000000000000000000000000000000000000000000000000000000000000000000000224000009a4000022100000000000000000000000008c400000000000000000000000000000000000000000000000000000000000000000000000000000, []⟩,
   ⟨0x2800000, 0x26b000000000000000000000000000000000000000000000000000000000000000000000000000000000000000000000000000000000000000000000000000000000000000000000000000000000000000000000000000000000000000000000000000000000000000000000000000000000000000000000000000000000000000000000000000000000000000000000000000000000000000000000000000000000000000000000000026c, []⟩,
   ⟨0, 0, [⟨.plainStatement, 7, 0xc79540a480f0fa2f961910000001affd⟩]⟩,
   ⟨0x26d000000000000000000000000000000000000000000000000000000000000000000000000000000000000000000000000000000000000000000000000000000000000000000000000000000000000000000000000000000000000000000000000000000000000000000000000000000000000000000000000000000000000000000000000000000000000000000000000000000000000000000000000000, 0, []⟩,
   ⟨0, 0, [⟨.plainStatement, 9, 0xc79540a480f0fa2f961910000001affd⟩]⟩,
   ⟨0, 0, [⟨.plainStatement, 10, 0xc79540a480f0fa2f961910000001affd⟩]⟩,
   ⟨0, 0, [⟨.plainStatement, 11, 0xc79540a480f0fa2f961910000001affd⟩]⟩],
  [⟨0x26e000000000000000000000000000000000000000000000, 0, []⟩,
   ⟨0x9cc0000000000000000000000000000000000000000000000000000000000000000000000000000000000000000000000000002720000000000000000000000000000000000000000000000000000000000000000000000000000000000000000000000000000000000000000000000000000000000000000000000000000000000000000000000000000000, 0x26f002700000000000000000000000000000000000000000000000000000000000000000000000000000000000000000000000000271000000000000000000000000000000000000000000000000000000000000000000000000000000000000000000000000000000000000000000000000000000000000000000000000000000000000000000000000000000000000, []⟩,
   ⟨0x24800080000002b0003200000000000000000000000000c4000000000038000000b0000000000000000000009100021000000000000000000000b80000000000000b4000cc370002f00000000300000000000000000000000000000000000000000000000000000000000000000000000000000000000000000000000000000000000000000000070000a4360d4340ec3a0e424098280002a, 0x230881e07c8e23c3c0f6740649006c2507427, []⟩,
   ⟨0, 0, [⟨.plainOperand, 2, 0x60000000008a800⟩, ⟨.tryCall, 1, 0x8000000000400000000000000000⟩]⟩,
   ⟨0x275000000000000000000000000000000000000000000000, 0, [⟨.plainOperand, 2, 0x60000000008a800⟩]⟩,
   ⟨0x24800080000002b000320008c000000000000000000000c40021c0000038000000b0000000000000000000009100021000000000000000000860b80000000000000b4000cc370002f00000000300008922000000000008b22800000850000000084000000000000000000000000000000000000000000000000000000000000000000000000000070000a4360d4340ec3a0e424098280002a, 0x9d8781dc791e87b1f07d1f87f200810008220c230881e07c8e23c3c0f41a2349006c2507427, []⟩,
   ⟨0x19800000000000000000000000004f0000000053000000000000000000000000000000000000000014000000000000000000000000000000000000000000000000148000000000000144000000000000000000000000000000000000000000000000000000000000000000000000000000000000000000000000000000000000000000000000000000000000000000000000000000000000000000000000004e, 0x277000000000000000000000000000000000000000000000000000000000000000001b8000000000000000000000000000000000000000000, []⟩,
   ⟨0, 0, [⟨.variableDeclaration, 1, 0x1040000⟩]⟩,
   ⟨0xec00000000000000000000000000000000000000ea18865000003b400000000000000000000001900000000000e700000000000006300000000000000000000000003ac000000000000000000000000000000000000000000000000000000000000000000000000000000000000000000000000000000000000000000000000000000000000000000000000000000000000000000000000000000000, 0x27800000000000000000000000000000000000000000000000000000000000000000000000000000000000e6000000000000000000000000000000000e8000e9000000000000000000000000000000000000000000000000000000000000000000000000000000000000000000, [⟨.functionType, 0, 0x801300088400083007feeffffd7ff001⟩]⟩,
   ⟨0x1bc000000000000000000000000000, 0x9e4000000000000000000000000000000000000000000000000000000000000000000000000000000000000000, []⟩,
   ⟨0, 0, [⟨.functionTypeAttributes, 1, 0x90139c88a50408b007feeffffd7ff001⟩]⟩,
   ⟨0x1bc000000000000000000000000000, 0x9e8000000000000000000000000000000000000000000000000000000000000000000000000000000000000000, []⟩,
   ⟨0, 0, [⟨.functionDefinition, 1, 0x10a9c2296925b0d2d1800000000052fff⟩]⟩,
   ⟨0x65400648ec0000000000000000004f000000005365d98000ea18865000003b5930000000000000001400019000000000019100000000000006300000000000000014800000003ac001440000000000000000000000000000000000000000000000000000000000000000000000000000000000000000000000000000000000000000000000000000069000001ac000000000000000000000000000000000004e, 0x9ee7d0000065000000000018f00190000009f1960006a000000000000000000000000000000134000000000000000000000000000000000000000000, []⟩,
   ⟨0, 0, [⟨.functionAttributes, 0, 0xb011dcc0a10408a00000000000048001⟩]⟩,
   ⟨0, 0, [⟨.functionAttribute, 0, 0xb011dcc0a10408a00000000000048001⟩]⟩,
   ⟨0, 0, [⟨.functionAttribute, 1, 0xb011dcc0a10408a00000000000048001⟩]⟩,
   ⟨0, 0, [⟨.functionAttribute, 2, 0xb011dcc0a10408a00000000000048001⟩]⟩,
   ⟨0, 0, [⟨.functionAttribute, 3, 0xb011dcc0a10408a00000000000048001⟩]⟩,
   ⟨0x9f8000000000000000000000000000, 0, [⟨.functionAttribute, 4, 0xb011dcc0a10408a00000000000048001⟩]⟩,
   ⟨0, 0, [⟨.functionAttribute, 6, 0xb011dcc0a10408a00000000000048001⟩]⟩,
   ⟨0, 0, [⟨.functionAttribute, 7, 0xb011dcc0a10408a00000000000048001⟩]⟩,
   ⟨0x9fc000000000000000000000000000, 0, [⟨.base, 1, 0xb011dcc0a10408a00000000000068001⟩]⟩,
   ⟨0, 0, [⟨.returnsWord, 0, 0x800⟩]⟩,
   ⟨0, 0, [⟨.returnsWord, 1, 0x800⟩]⟩,
   ⟨0, 0, [⟨.parameterList, 1, 0xb013dcc8a50408b007feeffffd7ff001⟩]⟩,
   ⟨0, 0, [⟨.parameterList, 2, 0xb013dcc8a50408b007feeffffd7ff001⟩]⟩,
   ⟨0, 0, [⟨.parameterList, 3, 0xb013dcc8a50408b007feeffffd7ff001⟩]⟩,
   ⟨0xa00000000000000000000000000000000000000000000, 0, [⟨.optionalParameterListOfTwo, 0, 0x1000⟩]⟩,
   ⟨0x24800080000002b0003200000000000000000000000000c4000000000038000000b0000000000000000000009100021000000000000000000000b80000000000000b4000cc370002f00000000300000000000000000000000000000000000000000000000000000000000000000000000000000000000000000000000000000000000000000000070000a4360d4340ec3a0e4240982804c2a, 0xa04000000000000000000000000000000000000000000000f4a08000000000000000003d80000000000000000000000000000000000000000000000000000000000000000000000000000000000000230881e07c8e23cf50f41a0649006c2507427, [⟨.optionalParameter, 1, 0x21000⟩]⟩,
   ⟨0x4f000004bc530000000000000000000000000000004b8000000014000000000000000000000000000000000000000000000000148000000000000145300000000000000000000000000000000000000000000000000000000000000000000000000000000000000000000000000000000000000000000000000000000000000000000000000000000000000000000000004e, 0x28300000000000000000000000000000000000000000000000000000000000000000000000000000000000000000000000000000000000000a10000000000000000000000000000000000000000000, [⟨.quantity, 6, 0x600000000082000⟩, ⟨.parameter, 3, 0x21000⟩]⟩,
   ⟨0x4f0000000053000000000000000000000000000000000000000014000000000000000000000000000000000000000000000000148000000000000144000000000000000000000000000000000000000000000000000000000000000000000000000000000000000000000000000000000000000000000000000000000000000000000000000000000000000000000000004e, 0xa14000000000000000000000000000000000000000000, [⟨.parameter, 5, 0x21000⟩]⟩],
  [⟨0, 0, [⟨.parameter, 6, 0x21000⟩]⟩,
   ⟨0, 0, [⟨.plainOperand, 3, 0x80330d48ad0408b007feeffffd7ff801⟩]⟩,
   ⟨0x24800080000002b000320008c000000000000000000000c40021c0000038000000b0000000000000000000009100021000000000000000000860b80000000000000b4000cc370002f00000000300008922000000000008b22800000850000000084000000000000000000000000000000000000000000000000000000000000000000000000287070000a4360d4340ec3a0e424098280002a, 0xa18781dc791e87b1f07d1f87f200810008220c230881e07c8e23c3c0f41a2349006c2507427, []⟩,
   ⟨0x28800000000000000000000000000000000000, 0, []⟩,
   ⟨0, 0, [⟨.plainOperand, 8, 0x80330d48ad0408b007feeffffd7ff801⟩]⟩,
   ⟨0x24800080000002b000320008c000000000000000000000c40021c0000038000000b0000000000000000000009100021000000000000000000860b80000000000000b4000cc370002f00000000300008922000000000008b22800000850000000084000000000000000000000000000000000000000000000000000000000000000000000000000070000a4360d4340ec3a0e424098280002a, 0xa24781dc791e87b1f07d1f87f200810008220c230881e07c8e23c3c0f41a2349006c2507427, []⟩,
   ⟨0, 0, [⟨.expressionTail, 0, 0x25000⟩]⟩,
   ⟨0, 0, [⟨.assignment, 0, 0x175000⟩]⟩,
   ⟨0, 0, [⟨.assignment, 1, 0x175000⟩]⟩,
   ⟨0, 0, [⟨.assignment, 2, 0x175000⟩]⟩,
   ⟨0, 0, [⟨.assignment, 3, 0x175000⟩]⟩,
   ⟨0, 0, [⟨.assignment, 4, 0x175000⟩]⟩,
   ⟨0, 0, [⟨.assignment, 5, 0x175000⟩]⟩,
   ⟨0, 0, [⟨.assignment, 6, 0x175000⟩]⟩,
   ⟨0, 0, [⟨.assignment, 7, 0x175000⟩]⟩,
   ⟨0, 0, [⟨.assignment, 8, 0x175000⟩]⟩,
   ⟨0, 0, [⟨.assignment, 9, 0x175000⟩]⟩,
   ⟨0, 0, [⟨.assignment, 10, 0x175000⟩]⟩,
   ⟨0x28a00000000000000000000000000000000000000000000000000, 0, []⟩,
   ⟨0x43400000000000000000000000000000000000000000000000000000000000000000000000000000000000000000000000000000000000, 0, [⟨.disjunction, 0, 0x40ffd375000⟩]⟩,
   ⟨0x43d0e000000000000000000000000000000000000000000000000000000000000000000000000000000000000000000, 0, [⟨.conjunction, 0, 0xc0ffd375000⟩]⟩,
   ⟨0x44d114491000000000000000000000000000000000000000000000000000000000000000000000000000000000000000000000000, 0, [⟨.equality, 0, 0xc3ffd375000⟩]⟩,
   ⟨0x44d114491000000000000000000000000000000000000000000000000000000000000000000000000000000000000000000000000, 0, [⟨.equality, 1, 0xc3ffd375000⟩]⟩,
   ⟨0x4500000000000000000000000000000000000000000000000000000000000000000000000000000000000000000000000000000000000000000, 0, [⟨.comparison, 0, 0xffffd375000⟩]⟩,
   ⟨0x4500000000000000000000000000000000000000000000000000000000000000000000000000000000000000000000000000000000000000000, 0, [⟨.comparison, 1, 0xffffd375000⟩]⟩,
   ⟨0x4500000000000000000000000000000000000000000000000000000000000000000000000000000000000000000000000000000000000000000, 0, [⟨.comparison, 2, 0xffffd375000⟩]⟩,
   ⟨0x4500000000000000000000000000000000000000000000000000000000000000000000000000000000000000000000000000000000000000000, 0, [⟨.comparison, 3, 0xffffd375000⟩]⟩,
   ⟨0x1150000000000000000000000000000000000000000000000000000000000000000000000000000000000000000000000000000000000000000000, 0, [⟨.bitDisjunction, 0, 0x2ffffd375000⟩]⟩,
   ⟨0x458000000000000000000000000000000000000000000000000000000000000000000000000000000000000000000000000000000000000000000000, 0, [⟨.bitDifference, 0, 0x6ffffd375000⟩]⟩,
   ⟨0x11845c00000000000000000000000000000000000000000000000000000000000000000000000000000000000000000000000000000000000000000000000000, 0, [⟨.bitConjunction, 0, 0xeffffd375000⟩]⟩,
   ⟨0x11a4640000000000000000000000000000000000000000000000000000000000000000000000000000000000000000000000000000000000000000000000000000000, 0, [⟨.shifted, 0, 0x6effffd375000⟩]⟩,
   ⟨0x11a4640000000000000000000000000000000000000000000000000000000000000000000000000000000000000000000000000000000000000000000000000000000, 0, [⟨.shifted, 1, 0x6effffd375000⟩]⟩],
  [⟨0x4751c46c000000000000000000000000000000000000000000000000000000000000000000000000000000000000000000000000000000000000000000000000000000000000, 0, [⟨.sum, 0, 0x1eeffffd375000⟩]⟩,
   ⟨0x4751c46c000000000000000000000000000000000000000000000000000000000000000000000000000000000000000000000000000000000000000000000000000000000000, 0, [⟨.sum, 1, 0x1eeffffd375000⟩]⟩,
   ⟨0, 0, [⟨.product, 0, 0xfeeffffd375000⟩]⟩,
   ⟨0, 0, [⟨.product, 1, 0xfeeffffd375000⟩]⟩,
   ⟨0, 0, [⟨.product, 2, 0xfeeffffd375000⟩]⟩,
   ⟨0, 0, [⟨.power, 0, 0xfeeffffd375000⟩]⟩,
   ⟨0x24800080000002b000320008c000000000000000000000c40021c0000038000000b0000000000000000000009100021000000000000000000860b80000000000000b4000cc370002f00000000300008922000000000008b22800000850000000084000000000000000000000000000000000000000000000000000000000000000000000000000070000a4360d4340ec3a0e424098280002a, 0x1c800000000000028b00000000000000000000000000000000000000000000000000000000000000000000000000000000000000000000000000000000000000000000000026c781dc791e87b1f07d1f87f200810008220c230881e07c8e23c9a0f41a2349006c2507427, [⟨.optionalEntry, 1, 0x21000⟩]⟩,
   ⟨0, 0, [⟨.optionalEntryTail, 0, 0x21000⟩]⟩,
   ⟨0, 0, [⟨.optionalEntry, 0, 0x21000⟩]⟩,
   ⟨0, 0, [⟨.entry, 0, 0x21000⟩]⟩,
   ⟨0x28c0000000000000000000000000000000000000000000000000000000, 0, []⟩,
   ⟨0x24800080000002b0003200000000000000000000000000c4000000000038000000b0000000000000000000009100021000000000000000000000b80000000000000b4000cc370002f00000000300000000000000000000000000000000000000000000000000000000000000000000000000000000000000000000000000000000000000000000070000a4360d4340ec3a0e424098280002a, 0x230881e07c8e23e8d0f41a0649006c2507427, []⟩,
   ⟨0, 0, [⟨.functionCall, 0, 0x80338d48ad0408f007feeffffd7ff801⟩]⟩,
   ⟨0x28e0000000000000000000000000000000000000000, 0, []⟩,
   ⟨0, 0, [⟨.namedArgumentListOrNone, 1, 0x10000⟩]⟩,
   ⟨0x16f00000000000000000000000000000000000000000000000000, 0, []⟩,
   ⟨0x28f000000000000000000000000000000, 0, []⟩,
   ⟨0, 0, [⟨.eventParameterListOrNone, 1, 0x1000⟩]⟩,
   ⟨0xa44000000000000000000000000000000000000000000, 0xa40000000000000000000000000000000000000000000000000000000000000000000000000000000000000000000000000000000000000000000000000000000000000000000000000000000000000000000000000000000000000000000000000000000000000000000000000000000000000000000000000000000000000000000000000000000000000000000000000000000000000000000000000000000000000000000000000000000000000000000000000000000000000000000000000000, [⟨.eventParameterList, 0, 0x1000⟩]⟩,
   ⟨0x4f0000000053000000000000000000000000000000000000000014000000000029200000000000000000000000000000000000148000000000000144000000000000000000000000000000000000000000000000000000000000000000000000000000000000000000000000000000000000000000000000000000000000000000000000000000000000000000000000004e, 0xa4c000000000000000000000000000000000000000000, [⟨.eventParameter, 3, 0x21000⟩, ⟨.quantity, 6, 0x600000000082000⟩]⟩,
   ⟨0, 0, [⟨.structDefinition, 0, 0x10a9c2296925b0d2d1800000000052fff⟩]⟩,
   ⟨0x24800080000002b0003200000000000000000000000000c4000000000038000000b0000000000000000000009100021000000000000000000000b80000000000000b4000cc370002f00000000300000000000000000000000000000000000000000000000000000000000000000000000000000000000000000000000000000000000029400000070000a4360d4340ec3a0e424098280002a, 0x295000000000000000000000000000000000000000000000000230881e07c8e23ce30f41a0649006c2507427, []⟩,
   ⟨0x296000000000000000000000000000000000000000000000, 0, []⟩,
   ⟨0x2970000000000000000000000000000000000000000, 0, []⟩,
   ⟨0, 0, [⟨.nameOrFailureListOrNone, 1, 0x10000⟩]⟩,
   ⟨0xa64000000000000000000000000000000000000000000, 0xa6000000000000000000000000000000000000000000000000000000000000000000000000000000000000000000000000000000000000000000000000000000000000000000000000000000000000000000000000000000000000000000000000000000000000000000000000000000000000000000000000000000000000000000000000000000000000000000000000000000000000000000000000000000000000000000000000000000000000000000000000000000000000000000000000000000000, [⟨.nameOrFailureList, 0, 0x10000⟩]⟩,
   ⟨0x29a000000000000000000000000000000000000000000000, 0, []⟩,
   ⟨0x4f0000000053000000000000000000000000000000000000000014000000000000000000000000000000000000000000000000148000000000000144000000000000000000000000000000000000000000000000000000000000000000000000000000000000000000000000000000000000000000000000000000000000000000000000000000000000000000000000004e, 0xa6c000000000000000000000000000000000000000000, []⟩,
   ⟨0x4f0000000053000000000000000000000000000000000000000014000000000000000000000000000000000000000000000000148000000000000144000000000000000000000000000000000000000000000000000000000000000000000000000000000000000000000000000000000000000000000000000000000000000000000000000000000000000000000000004e, 0xa70000000000000000000000000000000000000000000, []⟩,
   ⟨0xa74000000000000000000000000000000000000000000, 0, [⟨.importRenameList, 1, 0x10000⟩]⟩,
   ⟨0x4f0000000053000000000000000000000000000000000000000014000000000000000000000000000000000000000000000000148000000000000144000000000000000000000000000000000000000000000000000000000000000000000000000000000000000000000000000000000000000000000000000000000000000000000000000000000000000000000000004e, 0x29e00000000000000000000000000000000000000000000000000000000000000000000000000000000000000000000000000000000000000000000000000000000000000000000000004f0000000000000000000000000000000000000000000, []⟩,
   ⟨0x4f0000000053000000000000000000000000000000000000000014000000000000000000000000000000000000000000000000148000000000000144000000000000000000000000000000000000000000000000000000000000000000000000000000000000000000000000000000000000000000000000000000000000000000000000000000000000000000000000004e, 0xa7c000000000000000000000000000000000000000000, []⟩],
  [⟨0, 0, [⟨.pragmaDirective, 0, 0x10a9c028692530c2d1800000000042fff⟩]⟩,
   ⟨0, 0, [⟨.pragmaDirective, 1, 0x10a9c028692530c2d1800000000042fff⟩]⟩,
   ⟨0, 0, [⟨.pragmaDirective, 2, 0x10a9c028692530c2d1800000000042fff⟩]⟩,
   ⟨0x1e4000000000000000000000000000000000000000000000000000000000000000000000000000000000000000000000000000000000, 0, [⟨.versionChoices, 1, 0x2143c001040020⟩]⟩,
   ⟨0x53000000000014a0014b000000000051d465254800000000000000000000000000000000145000000000000000000000000000000000000000000000510000000000000, 0x50ea000000000000000000000000000000000000000000000000000000000014200000000000000000000000000000000000000000000000000000000000000000000000000000000000000000000000000000000000000000000000000000000000000000000, []⟩,
   ⟨0x510000000000000, 0x2a100000000000000000000000000000000000000000000000000000000000000000000000000000000000000000000000000000000000000000000000000000000000000000000, []⟩,
   ⟨0, 0, [⟨.versionRange, 1, 0x2147c001040020⟩]⟩,
   ⟨0xa8800000000000000000000000000000000000000000000000, 0, [⟨.version, 1, 0x3147c001040020⟩]⟩,
   ⟨0xa8c000000000000, 0, []⟩,
   ⟨0x440005000080000002b0fc320000000000ad40000000000000c400002b700038000000b0000000000000000000001800021ad0000f84000000000000b800002b6000000b4000cc370002f00000000300000000000000000000000000000000000000000000000000000000000000000000000000000000000000000000000000000002b1002a400000070000a4360d4340ec3a0e4240982804c2a, 0x2a50000000000000000000000000000000000000000000000000000000000000000000000abaadacc0000000a980000000000000000000000000000000000000000000000000000acaacac2afaaeaaaa6a8a9c000000000000000000000000000000000480000000000000000000000000000000000000000000000000000000000000000000000000000000000000230881e07c150583c0f41a0641706c2507427, []⟩,
   ⟨0, 0, [⟨.bases, 1, 0x8000⟩]⟩,
   ⟨0xae4000000000000000000000000000000000000000000, 0xae00000000000000000000000000000000000000000000000000000000000000000000000000000000000000000000000000000000000000000000000000000000000000000000000000000000000000000000000000000000000000000000000000000000000000000000000000000000000000000000000000000000000000000000000000000000000000000000000000000000000000000000000000000000000000000000000000000000000000000, [⟨.baseList, 0, 0x8000⟩]⟩,
   ⟨0x2ba000000000000000000000000000000000000000000000, 0, []⟩,
   ⟨0, 0, [⟨.usingDirective, 1, 0x10a9c2296925b0d2d1800000000052fff⟩]⟩,
   ⟨0x2bb000000000000000000000000000000000000000000000, 0, []⟩,
   ⟨0, 0, [⟨.usingDirective, 3, 0x10a9c2296925b0d2d1800000000052fff⟩]⟩,
   ⟨0x4f0000000053000000000000000000000000000000000000000014000000000000000000000000000000000000000000000000148000000000000144000000000000000000000000000000000000000000000000000000000000000000000000000000000000000000000000000000000000000000000000000000000000000000000000000000000000000000000000004e, 0xaf00000000000000000000000000000000000000000000000000000000000000000000000000000000000000000000000000000000000000000000000000000000000b400000000000000000000000000000000000134000000000000000000000000000000000000000000, []⟩,
   ⟨0, 0, [⟨.usingFunctionTail, 0, 0x30000⟩]⟩,
   ⟨0, 0, [⟨.boundOperator, 0, 0x30000⟩]⟩,
   ⟨0, 0, [⟨.boundOperator, 1, 0x30000⟩]⟩,
   ⟨0, 0, [⟨.boundOperator, 2, 0x30000⟩]⟩,
   ⟨0, 0, [⟨.boundOperator, 3, 0x30000⟩]⟩,
   ⟨0, 0, [⟨.boundOperator, 4, 0x30000⟩]⟩,
   ⟨0, 0, [⟨.boundOperator, 5, 0x30000⟩]⟩,
   ⟨0, 0, [⟨.boundOperator, 6, 0x30000⟩]⟩,
   ⟨0, 0, [⟨.boundOperator, 7, 0x30000⟩]⟩,
   ⟨0, 0, [⟨.boundOperator, 8, 0x30000⟩]⟩,
   ⟨0, 0, [⟨.boundOperator, 9, 0x30000⟩]⟩,
   ⟨0, 0, [⟨.boundOperator, 10, 0x30000⟩]⟩,
   ⟨0, 0, [⟨.boundOperator, 11, 0x30000⟩]⟩,
   ⟨0, 0, [⟨.boundOperator, 12, 0x30000⟩]⟩,
   ⟨0, 0, [⟨.boundOperator, 13, 0x30000⟩]⟩],
  [⟨0, 0, [⟨.boundOperator, 14, 0x30000⟩]⟩,
   ⟨0, 0, [⟨.namePathSteps, 1, 0xb011dcc0a12408a040000000000f9801⟩]⟩,
   ⟨0, 0, [⟨.typeDefinition, 0, 0x10a9c2296925b0d2d1800000000052fff⟩]⟩,
   ⟨0x2bd000000000000000000000000000000000000000000000, 0, []⟩,
   ⟨0xaf8000000000000000000000000000000000000000000, 0, [⟨.errorParameterList, 1, 0x1000⟩]⟩,
   ⟨0x24800080000002b0003200000000000000000000000000c4000000000038000000b0000000000000000000009100021000000000000000000000b80000000000000b4000cc370002f00000000300000000000000000000000000000000000000000000000000000000000000000000000000000000000000000000000000000000000000000000070000a4360d4340ec3a0e424098280002a, 0xafc00000000000000000000000000000000000000000000000000000000000000000000000000000000000000000000000000000000000000000000000000000000000000000000000000000000000000000000000000230881e07c8e23d5f0f41a0649006c2507427, []⟩,
   ⟨0, 0, [⟨.errorParameter, 0, 0x21000⟩]⟩,
   ⟨0, 0, [⟨.variableDefinition, 0, 0x10a9c2296925b0d2d1800000000052fff⟩]⟩,
   ⟨0x2c0000000000000000000000000000000000000000000000, 0, []⟩,
   ⟨0, 0, [⟨.variableDefinition, 5, 0x10a9c2296925b0d2d1800000000052fff⟩]⟩,
   ⟨0, 0, [⟨.variableAttribute, 5, 0x80310d40a90408a00000000000000001⟩]⟩,
   ⟨0xb04000000000000000000000000000000000000000000, 0, [⟨.namePathList, 1, 0x1000⟩]⟩,
   ⟨0x4f0000000053000000000000000000000000000000000000000014000000000000000000000000000000000000000000000000148000000000000144000000000000000000000000000000000000000000000000000000000000000000000000000000000000000000000000000000000000000000000000000000000000000000000000000000000000000000000000004e, 0x2c200000000000000000000000000000000000134000000000000000000000000000000000000000000, []⟩,
   ⟨0, 0, [⟨.variableDefinition, 6, 0x10a9c2296925b0d2d1800000000052fff⟩]⟩,
   ⟨0x4f000000005300000000000000000000000000000000000000001400000000000000000000000000000000000000000000000014800000000000014400000000000000000001cf00000000000000000000000000000000000000000000000000000000000000000000000000000000000000000000000000000000000000000000000000000000000000000000000000004e, 0xb0c00000000000000000000000000000000000000000000000000000000000000000000000000000000000000031c000000000000000000000000000000000000000000, []⟩,
   ⟨0, 0, [⟨.namedArgumentTail, 0, 0x30000⟩]⟩,
   ⟨0, 0, [⟨.namedArgument, 0, 0x30000⟩]⟩,
   ⟨0, 0, [⟨.namedArgument, 1, 0x30000⟩]⟩,
   ⟨0x24800080000002b000320008c000000000000000000000c40021c0000038000000b0000000000000000000009100021000000000000000000860b80000000000000b4000cc370002f00000000300008922000000000008b228000008500000000840000000000000000000000000000000000000000000000000000000000000000000000b1400070000a4360d4340ec3a0e424098280002a, 0x1d400b100000000000000000000000000000000000000000000000000000000000000000000000001d8781dc791e87b1f07d1f87f200810008220c230881e07c8e23c3c0f41a2349006c2507427, [⟨.expressionListOrNone, 0, 0x1000⟩]⟩,
   ⟨0x2c6000000000000000000000000000000, 0, []⟩,
   ⟨0x4f000000005300000000000000000000000000000000000000001400000000000000000000000000000000000000000000000014800000000000014400000000000000000001cf00000000000000000000000000000000000000000000000000000000000000000000000000000000000000000000000000000000000000000000000000000000000000000000000000004e, 0xb1c000000000000000000000000000001ce0000000000000000000000000000000000000000000000000031800000000000000000000000000000000000000000000000000000000000000000000000000000000000000031c000000000000000000000000000000000000000000, [⟨.namedArgumentListOrNone, 0, 0x10000⟩]⟩,
   ⟨0x2c8000000000000000000000000000000, 0, []⟩,
   ⟨0x2c9000000000000000000000000000000, 0, []⟩,
   ⟨0x2ca000000000000000000000000000000000000000000000, 0, []⟩,
   ⟨0x24800080000002b000320008c000000000000000000000c40021c0000038000000b0000000000000000000009100021000000000000000000860b80000000000000b4000cc370002f00000000300008922000000000008b22800000850000000084000000000000000000000000000000000000000000000000000000000000002cc0000000000070000a4360d4340ec3a0e424098280002a, 0xb2c781dc791e87b1f07d1f87f200810008220c230881e07c8e23c3c0f41a2349006c2507427, []⟩,
   ⟨0, 0, [⟨.plainStatement, 1, 0xc79540a480f0fa2f961910000001affd⟩]⟩,
   ⟨0x348d500000000d8248df080000002b000320016a000de0000000000000000c40021c0000038000000b000000000000000000350913582100000000003800036c860b80037000000000b4000cc373742f36400000300008922000000000008b2280000085000000008400000000000000000000000000000000000000000000000000000000000000000002cd1ac00070000a4360d4340ec3a0e424098280002a, 0x16900000000000000000000000000000034cd13400036800000e100000000d7388781dc791e87b1f07d1f87f200810008220c230881e07c8e23ce30f41a2349006c2507427, []⟩,
   ⟨0x5e40000000000000000000000000000000000000, 0x2ce000000000000000000000000000000000000000000000000000000000000000000000000000000000000000000000000000000000, []⟩,
   ⟨0, 0, [⟨.plainStatement, 4, 0xc79540a480f0fa2f961910000001affd⟩]⟩,
   ⟨0, 0, [⟨.plainStatement, 5, 0xc79540a480f0fa2f961910000001affd⟩]⟩,
   ⟨0, 0, [⟨.yulBlock, 0, 0xffdffefff7fffffffe1910000001affd⟩]⟩,
   ⟨0x8b26398a61982670025f0025e0022e976669723496e3396a5995a5895c009565494e529465093e6a8a64e92e4a002499364c8c22d8bc009224791a449164390800002418ae408fe3d0023e8f23b8aa3a8e6388de358d8000000000000000000000000000000000000000000000000000000000000000000000000000000000000000000000000000000002cf5e40000000000009926500000000000000000232, 0x9a0000000088a23896260000089e28b40000000000000000000000000000000000000000000000000000000000000000000000000000000000000000000000000000000000000000000000000000000000224000009a4000022100000000000000000000000008c400000000000000000000000000000000000000000000000000000000000000000000000000000, []⟩],
  [⟨0, 0, [⟨.yulStatements, 0, 0xfd5ffefff7efe7dff800000000018301⟩]⟩,
   ⟨0, 0, [⟨.yulStatement, 0, 0xfd5ffefff7efe7dff800000000018301⟩]⟩,
   ⟨0, 0, [⟨.yulStatement, 1, 0xfd5ffefff7efe7dff800000000018301⟩]⟩,
   ⟨0, 0, [⟨.yulStatement, 2, 0xfd5ffefff7efe7dff800000000018301⟩]⟩,
   ⟨0, 0, [⟨.yulStatement, 3, 0xfd5ffefff7efe7dff800000000018301⟩]⟩,
   ⟨0, 0, [⟨.yulStatement, 4, 0xfd5ffefff7efe7dff800000000018301⟩]⟩,
   ⟨0, 0, [⟨.yulStatement, 5, 0xfd5ffefff7efe7dff800000000018301⟩]⟩,
   ⟨0, 0, [⟨.yulStatement, 6, 0xfd5ffefff7efe7dff800000000018301⟩]⟩,
   ⟨0, 0, [⟨.yulStatement, 7, 0xfd5ffefff7efe7dff800000000018301⟩]⟩,
   ⟨0, 0, [⟨.yulStatement, 8, 0xfd5ffefff7efe7dff800000000018301⟩]⟩,
   ⟨0, 0, [⟨.yulStatement, 9, 0xfd5ffefff7efe7dff800000000018301⟩]⟩,
   ⟨0, 0, [⟨.yulStatement, 10, 0xfd5ffefff7efe7dff800000000018301⟩]⟩,
   ⟨0, 0, [⟨.yulStatement, 11, 0xfd5ffefff7efe7dff800000000018301⟩]⟩,
   ⟨0x26398a61982670025f0025e00000976669723496e3396a5995a5895c009565494e529465093c000024e92e4a002499364c00000000009224791a44916439080000241002408fe3d0023e8f23b0023a8e6388de358d8000000000000000000000000000000000000000000000000000000000000000000000000000000000000000000000000000000000000000000000000009926500000000000000000232, 0xb4400000000000000000000000000000000000000000000000000000000000000000000000000000, []⟩,
   ⟨0x26398a61982670025fb5a5e00000976669723496e3396a5995a5895c009565494e529465093c000024e92e4a002499364c00000002d79224791a44916439080000241002408fe3d0023e8f23b0023a8e6388de358d80000000000000000000000000000000000000000000000000000000000000000000000000000000000000000000000000000000000000000000000000099265b6400b6000b682800232, 0xb4ad5002d400000b4c000000000000000000000000000000008c4000000000000000000000000000000000000000000000000000000000000000000000000002db, []⟩,
   ⟨0x5e40000000000000000000000000000000000000, 0x2dc000000000000000000000000000000000000000000000000000000000000000000000000000000000000000000000000000000000, []⟩,
   ⟨0x26398a61982670025fb5a5e00000976669723496e3396a5995a5895c009565494e529465093c000024e92e4a002499364c00000002d79224791a44916439080000241002408fe3d0023e8f23b0023a8e6388de358d80000000000000000000000000000000000000000000000000000000000000000000000000000000000000000000000000000000000000000000000000099265b6400b6000b682800232, 0xb76d5002d400000b4c000000000000000000000000000000008c4000000000000000000000000000000000000000000000000000000000000000000000000002db, []⟩,
   ⟨0xb78000000000000000000000000000, 0, [⟨.yulPath, 0, 0xfd5ffefff7efeffff8000000020b9301⟩]⟩,
   ⟨0, 0, [⟨.yulName, 0, 0xfd5ffefff7efeffff8000000021b9b01⟩]⟩,
   ⟨0, 0, [⟨.yulName, 1, 0xfd5ffefff7efeffff8000000021b9b01⟩]⟩,
   ⟨0, 0, [⟨.yulName, 2, 0xfd5ffefff7efeffff8000000021b9b01⟩]⟩,
   ⟨0, 0, [⟨.yulName, 3, 0xfd5ffefff7efeffff8000000021b9b01⟩]⟩,
   ⟨0, 0, [⟨.yulName, 4, 0xfd5ffefff7efeffff8000000021b9b01⟩]⟩,
   ⟨0, 0, [⟨.yulName, 5, 0xfd5ffefff7efeffff8000000021b9b01⟩]⟩,
   ⟨0, 0, [⟨.yulName, 6, 0xfd5ffefff7efeffff8000000021b9b01⟩]⟩,
   ⟨0, 0, [⟨.yulName, 7, 0xfd5ffefff7efeffff8000000021b9b01⟩]⟩,
   ⟨0, 0, [⟨.yulName, 8, 0xfd5ffefff7efeffff8000000021b9b01⟩]⟩,
   ⟨0, 0, [⟨.yulName, 9, 0xfd5ffefff7efeffff8000000021b9b01⟩]⟩,
   ⟨0, 0, [⟨.yulName, 10, 0xfd5ffefff7efeffff8000000021b9b01⟩]⟩,
   ⟨0, 0, [⟨.yulName, 11, 0xfd5ffefff7efeffff8000000021b9b01⟩]⟩,
   ⟨0, 0, [⟨.yulName, 12, 0xfd5ffefff7efeffff8000000021b9b01⟩]⟩,
   ⟨0, 0, [⟨.yulName, 13, 0xfd5ffefff7efeffff8000000021b9b01⟩]⟩],
  [⟨0, 0, [⟨.yulName, 14, 0xfd5ffefff7efeffff8000000021b9b01⟩]⟩,
   ⟨0, 0, [⟨.yulName, 15, 0xfd5ffefff7efeffff8000000021b9b01⟩]⟩,
   ⟨0, 0, [⟨.yulName, 16, 0xfd5ffefff7efeffff8000000021b9b01⟩]⟩,
   ⟨0, 0, [⟨.yulName, 17, 0xfd5ffefff7efeffff8000000021b9b01⟩]⟩,
   ⟨0, 0, [⟨.yulName, 18, 0xfd5ffefff7efeffff8000000021b9b01⟩]⟩,
   ⟨0, 0, [⟨.yulName, 19, 0xfd5ffefff7efeffff8000000021b9b01⟩]⟩,
   ⟨0, 0, [⟨.yulName, 20, 0xfd5ffefff7efeffff8000000021b9b01⟩]⟩,
   ⟨0, 0, [⟨.yulName, 21, 0xfd5ffefff7efeffff8000000021b9b01⟩]⟩,
   ⟨0, 0, [⟨.yulName, 22, 0xfd5ffefff7efeffff8000000021b9b01⟩]⟩,
   ⟨0, 0, [⟨.yulName, 23, 0xfd5ffefff7efeffff8000000021b9b01⟩]⟩,
   ⟨0, 0, [⟨.yulName, 24, 0xfd5ffefff7efeffff8000000021b9b01⟩]⟩,
   ⟨0, 0, [⟨.yulName, 25, 0xfd5ffefff7efeffff8000000021b9b01⟩]⟩,
   ⟨0, 0, [⟨.yulName, 26, 0xfd5ffefff7efeffff8000000021b9b01⟩]⟩,
   ⟨0, 0, [⟨.yulName, 27, 0xfd5ffefff7efeffff8000000021b9b01⟩]⟩,
   ⟨0, 0, [⟨.yulName, 28, 0xfd5ffefff7efeffff8000000021b9b01⟩]⟩,
   ⟨0, 0, [⟨.yulName, 29, 0xfd5ffefff7efeffff8000000021b9b01⟩]⟩,
   ⟨0, 0, [⟨.yulName, 30, 0xfd5ffefff7efeffff8000000021b9b01⟩]⟩,
   ⟨0, 0, [⟨.yulName, 31, 0xfd5ffefff7efeffff8000000021b9b01⟩]⟩,
   ⟨0, 0, [⟨.yulName, 32, 0xfd5ffefff7efeffff8000000021b9b01⟩]⟩,
   ⟨0, 0, [⟨.yulName, 33, 0xfd5ffefff7efeffff8000000021b9b01⟩]⟩,
   ⟨0, 0, [⟨.yulName, 34, 0xfd5ffefff7efeffff8000000021b9b01⟩]⟩,
   ⟨0, 0, [⟨.yulName, 35, 0xfd5ffefff7efeffff8000000021b9b01⟩]⟩,
   ⟨0, 0, [⟨.yulName, 36, 0xfd5ffefff7efeffff8000000021b9b01⟩]⟩,
   ⟨0, 0, [⟨.yulName, 37, 0xfd5ffefff7efeffff8000000021b9b01⟩]⟩,
   ⟨0, 0, [⟨.yulName, 38, 0xfd5ffefff7efeffff8000000021b9b01⟩]⟩,
   ⟨0, 0, [⟨.yulName, 39, 0xfd5ffefff7efeffff8000000021b9b01⟩]⟩,
   ⟨0, 0, [⟨.yulName, 40, 0xfd5ffefff7efeffff8000000021b9b01⟩]⟩,
   ⟨0, 0, [⟨.yulName, 41, 0xfd5ffefff7efeffff8000000021b9b01⟩]⟩,
   ⟨0, 0, [⟨.yulName, 42, 0xfd5ffefff7efeffff8000000021b9b01⟩]⟩,
   ⟨0, 0, [⟨.yulName, 43, 0xfd5ffefff7efeffff8000000021b9b01⟩]⟩,
   ⟨0, 0, [⟨.yulName, 44, 0xfd5ffefff7efeffff8000000021b9b01⟩]⟩,
   ⟨0, 0, [⟨.yulName, 45, 0xfd5ffefff7efeffff8000000021b9b01⟩]⟩],
  [⟨0, 0, [⟨.yulName, 46, 0xfd5ffefff7efeffff8000000021b9b01⟩]⟩,
   ⟨0, 0, [⟨.yulName, 47, 0xfd5ffefff7efeffff8000000021b9b01⟩]⟩,
   ⟨0, 0, [⟨.yulName, 48, 0xfd5ffefff7efeffff8000000021b9b01⟩]⟩,
   ⟨0, 0, [⟨.yulName, 49, 0xfd5ffefff7efeffff8000000021b9b01⟩]⟩,
   ⟨0, 0, [⟨.yulName, 50, 0xfd5ffefff7efeffff8000000021b9b01⟩]⟩,
   ⟨0, 0, [⟨.yulName, 51, 0xfd5ffefff7efeffff8000000021b9b01⟩]⟩,
   ⟨0, 0, [⟨.yulName, 52, 0xfd5ffefff7efeffff8000000021b9b01⟩]⟩,
   ⟨0, 0, [⟨.yulName, 53, 0xfd5ffefff7efeffff8000000021b9b01⟩]⟩,
   ⟨0xb7c00000000000000000000000000000000000000000000000000000000000000, 0, []⟩,
   ⟨0xb8000b88000000000000000000000000000000000000000000, 0xb840000000000000000000000000000000000000000000000000000000000000000000000000000000000000000000000000000000000000000000000000000000000000000000000000000000000000000000000000000000000000000000000000000000000000000000000000000000000000000000000000000000000000000000000000000000000000000000000000000000000000000000000000000000000000000000000000000000000000000000000000000000000000000000000, [⟨.yulPathList, 0, 0x2000000⟩]⟩,
   ⟨0x26398a61982670025f0025e00000976669723496e3396a5995a5895c009565494e529465093c000024e92e4a002499364c00000000009224791a44916439080000241002408fe3d0023e8f23b0023a8e6388de358d8000000000000000000000000000000000000000000000000000000000000000000000000000000000000000000000000000000000000000000000000009926500000000000000000232, 0xb9000b8c000000000000000000000000000000000000000000b94000000000000000000000000000000000000000000000000000000000b9800000000000000000000000000000000000000000000000000000000000000000000000000000, []⟩,
   ⟨0x2e7000000000000000000000000000000, 0, []⟩,
   ⟨0xba4000000000000000000000000000000000000000000, 0x2e8000000000000000000000000000000000000000000000000000000000000000000000000000000000000000000000000000000000000000000000000000000000000000000000000000000000000000000000000000000000000000000000000000000000000000000000000000000000000000000000000000000000000000000000000000000000000000000000000000000000000000000000000000000000000000000000000000000000000000000000000000000000000000, [⟨.textLiteralList, 0, 0x1000⟩]⟩,
   ⟨0xba8000000000000000000000000000, 0, []⟩,
   ⟨0, 0, [⟨.plainStatement, 12, 0xc79540a480f0fa2f961910000001affd⟩]⟩,
   ⟨0x2720000000000000000000000000000000000000000000000000000000000000000000000000000000000000000000000000000000000000000000000000000000000000000000000000000000000000000000000000000000, 0x2eb0000000000000000000000000000000000000000000000000000000000000000000000000000000000000000000000000271000000000000000000000000000000000000000000000000000000000000000000000000000000000000000000000000000000000000000000000000000000000000000000000000000000000000000000000000000000000000, []⟩,
   ⟨0x2720000000000000000000000000000000000000000000000000000000000000000000000000000000000000000000000000000000000000000000000000000000000000000000000000000000000000000000000000000000, 0x2ec000000000000000000000000000000000000000000000000000000000000000000000000000000000000000000000000000000000000000000000000000000000000000000000000000000000000000000000000000000000000, [⟨.plainStatement, 14, 0xc79540a480f0fa2f961910000001affd⟩]⟩,
   ⟨0, 0, [⟨.catchClauses, 0, 0xc79540a480f0fa6f961910000001affd⟩]⟩,
   ⟨0x4f00000000530000000000000000000000000000000000000000140000000000000000000000000000000000000000000000001480000000000001440000000000000000000000000000000000000000000000000000000000000000000000000000000000000000000000000000000000000000000000000000000000001ac0000000bb400000000000000000000000004e, 0x2ee000000000000000000000000000000bbc000000000000000000000000000000000000000000, []⟩,
   ⟨0x1bc000000000000000000000000000, 0xbc0000000000000000000000000000000000000000000000000000000000000000000000000000000000000000, []⟩,
   ⟨0, 0, [⟨.plainOperand, 2, 0x60000000008a800⟩, ⟨.tryCall, 0, 0x8000000000400000000000000000⟩]⟩,
   ⟨0, 0, [⟨.plainStatement, 15, 0xc79540a480f0fa2f961910000001affd⟩]⟩,
   ⟨0, 0, [⟨.simpleStatement, 0, 0x40000⟩]⟩,
   ⟨0, 0, [⟨.variableDeclaration, 0, 0x1040000⟩]⟩,
   ⟨0xec00000000000000000000000000000000000000ea18865000003b400000000000000000000001900000000000e700000000000006300000000000000000000000003ac000000000000000000000000000000000000000000000000000000000000000000000000000000000000000000000000000000000000000000000000000000000000000000000000000000000000000000000000000000000, 0x18a000000000000000000000000000000000e8000e9000000000000000000000000000000000000000000000000000000000000000000000000000000000000000000, [⟨.functionType, 1, 0x801300088400083007feeffffd7ff001⟩]⟩,
   ⟨0xec00000000000000000000000000000000000000ea18865000003b400000000000000000000001900000000000e700000000000006300000000000000000000000003ac000000000000000000000000000000000000000000000000000000000000000000000000000000000000000000000000000000000000000000000000000000000000000000000000000000000000000000000000000000000, 0x2f100000000000000000000000000000000000000000000000000000000000000000000000000000000000e6000000000000000000000000000000000e8000e9000000000000000000000000000000000000000000000000000000000000000000000000000000000000000000, [⟨.functionType, 3, 0x801300088400083007feeffffd7ff001⟩]⟩,
   ⟨0x69000001ac0000000000000000000000000000000000000, 0xbc8000006a000000000000000000000000000000000000000000000000000000000000000000000000000, []⟩,
   ⟨0x1bc000000000000000000000000000, 0xbcc000000000000000000000000000000000000000000000000000000000000000000000000000000000000000, []⟩,
   ⟨0, 0, [⟨.functionDefinition, 3, 0x10a9c2296925b0d2d1800000000052fff⟩]⟩,
   ⟨0, 0, [⟨.functionAttributes, 1, 0xb011dcc0a10408a00000000000048001⟩]⟩,
   ⟨0x4f0000000053000000000000000000000000000000000000000014000000000000000000000000000000000000000000000000148000000000000144000000000000000000000000000000000000000000000000000000000000000000000000000000000000000000000000000000000000000000000000000000000000000000000000000000000000000000000000004e, 0x2f400000000000000000000000000000000000000000000000000000000000000000000000000000000000000000000000000000000000000000000000000000000000000000000000000000000000000000000000000000000000000000000000016600000000000000000000000000000000000134000000000000000000000000000000000000000000, []⟩,
   ⟨0x24800080000002b000320008c000000000000000000000c40021c0000038000000b0000000000000000000009100021000000000000000000860b80000000000000b4000cc370002f00000000300008922000000000008b22800000850000000084000000000000000000000000000000000000000000000000000000000000000000000000000070000a4360d4340ec3a0e424098280002a, 0x1d400bd40000000000000000000000000000000000000000000000000000000000000000000000001d8781dc791e87b1f07d1f87f200810008220c230881e07c8e23c3c0f41a2349006c2507427, [⟨.expressionListOrNone, 0, 0x1000⟩]⟩],
  [⟨0x24800080000002b0003200000000000000000000000000c4000000000038000000b0000000000000000000009100021000000000000000000000b80000000000000b4000cc370002f00000000300000000000000000000000000000000000000000000000000000000000000000000000000000000000000000000000000000000000000000000070000a4360d4340ec3a0e4240982804c2a, 0xbd8000000000000000000000000000000000000000000000f4a08000000000000000003d80000000000000000000000000000000000000000000000000000000000000000000000000000000000000230881e07c8e23cf50f41a0649006c2507427, [⟨.optionalParameter, 1, 0x21000⟩]⟩,
   ⟨0, 0, [⟨.optionalParameterTail, 0, 0x21000⟩]⟩,
   ⟨0, 0, [⟨.optionalParameter, 0, 0x21000⟩]⟩,
   ⟨0x4f0000000053000000000000000000000000000000000000000014000000000000000000000000000000000000000000000000148000000000000144000000000000000000000000000000000000000000000000000000000000000000000000000000000000000000000000000000000000000000000000000000000000000000000000000000000000000000000000004e, 0xbdc000000000000000000000000000000000000000000, [⟨.parameter, 1, 0x21000⟩]⟩,
   ⟨0, 0, [⟨.parameter, 2, 0x21000⟩]⟩,
   ⟨0, 0, [⟨.parameter, 4, 0x21000⟩]⟩,
   ⟨0x2f800000000000000000000000000000000000, 0, []⟩,
   ⟨0, 0, [⟨.plainOperand, 6, 0x80330d48ad0408b007feeffffd7ff801⟩]⟩,
   ⟨0, 0, [⟨.plainOperand, 7, 0x80330d48ad0408b007feeffffd7ff801⟩]⟩,
   ⟨0, 0, [⟨.expressionTail, 1, 0x25000⟩]⟩,
   ⟨0x24800080000002b000320008c000000000000000000000c40021c0000038000000b0000000000000000000009100021000000000000000000860b80000000000000b4000cc370002f00000000300008922000000000008b22800000850000000084000000000000000000000000000000000000000000000000000000000000000000000000000070000a4360d4340ec3a0e424098280002a, 0x78be4791e87b1f07d1f87f200810008220c230881e07c8e23c3c0f41a2349006c2507427, []⟩,
   ⟨0, 0, [⟨.optionalEntryTail, 1, 0x21000⟩]⟩,
   ⟨0x24800080000002b0003200000000000000000000000000c4000000000038000000b0000000000000000000009100021000000000000000000000b80000000000000b4000cc370002f00000000300000000000000000000000000000000000000000000000000000000000000000000000000000000000000000000000000000000000000000000070000a4360d4340ec3a0e424098280002a, 0x230881e07c8e23efa0f41a0649006c2507427, []⟩,
   ⟨0x4f000000005300000000000000000000000000000000000000001400000000000000000000000000000000000000000000000014800000000000014400000000000000000000000000000000000000000000000000000000000000000000000000000000000000000000000000000000000000000000000000000000000000000002fc00000000000000000000000000004e, 0xbec000000000000000000000000000000000000000000, [⟨.quantity, 6, 0x600000000082000⟩]⟩,
   ⟨0x2fd000000000000000000000000000000, 0, []⟩,
   ⟨0xbf8000000000000000000000000000000000000000000000000000000000000000000000000000000000000000000000000000000002ff000000000000000000000000000000000000000000000, 0, []⟩,
   ⟨0xc00000000000000000000000000000000000000000000, 0, [⟨.eventParameterList, 1, 0x1000⟩]⟩,
   ⟨0x24800080000002b0003200000000000000000000000000c4000000000038000000b0000000000000000000009100021000000000000000000000b80000000000000b4000cc370002f00000000300000000000000000000000000000000000000000000000000000000000000000000000000000000000000000000000000000000000000000000070000a4360d4340ec3a0e424098280002a, 0x301000000000000000000000000000000000000000000000000000000000000000000000000000000000000000000000000000000000000000000000000000000000000000000000000000000000000000000000000230881e07c8e23dd30f41a0649006c2507427, []⟩,
   ⟨0x4f0000000053000000000000000000000000000000000000000014000000000000000000000000000000000000000000000000148000000000000144000000000000000000000000000000000000000000000000000000000000000000000000000000000000000000000000000000000000000000000000000000000000000000000000000000000000000000000000004e, 0xc08000000000000000000000000000000000000000000, [⟨.eventParameter, 1, 0x21000⟩]⟩,
   ⟨0, 0, [⟨.eventParameter, 2, 0x21000⟩]⟩,
   ⟨0, 0, [⟨.structDefinition, 1, 0x10a9c2296925b0d2d1800000000052fff⟩]⟩,
   ⟨0x303000000000000000000000000000000000000000000000, 0, []⟩,
   ⟨0, 0, [⟨.structFields, 0, 0x29400848050082d1000000000012ffd⟩]⟩,
   ⟨0, 0, [⟨.enumDefinition, 0, 0x10a9c2296925b0d2d1800000000052fff⟩]⟩,
   ⟨0xc10000000000000000000000000000000000000000000, 0, [⟨.nameOrFailureList, 1, 0x10000⟩]⟩,
   ⟨0x19800000000000000000000000004f0000000053000000000000000000000000000000000000000014000000000000000000000000000000000000000000000000148000000000000144000000000000000000000000000000000000000000000000000000000000000000000000000000000000000000000000000000000000000000000000000000000000000000000000000000000000000000000000004e, 0x305000000000000000000000000000000000000000000000000000000000000000001b8000000000000000000000000000000000000000000, []⟩,
   ⟨0, 0, [⟨.importDirective, 1, 0x10a9c028692530c2d1800000000042fff⟩]⟩,
   ⟨0x4f0000000053000000000000000000000000000000000000000014000000000000000000000000000000000000000000000000148000000000000144000000000000000000000000000000000000000000000000000000000000000000000000000000000000000000000000000000000000000000000000000000000000000000000000000000000000000000000280004e, 0xc180000000000000000000000000000000000000000000000000000000000000000000000000000000000000000000000000000000000000000000aa000000000000000000000000000000000001340000000000000000000000000000000000000000a9, []⟩,
   ⟨0x4f0000000053000000000000000000000000000000000000000014000000000000000000000000000000000000000000000000148000000000000144000000000000000000000000000000000000000000000000000000000000000000000000000000000000000000000000000000000000000000000000000000000000000000000000000000000000000000000280004e, 0xc1c0000000000000000000000000000000000000000000000000000000000000000000000000000000000000000000000000000000000000000000aa000000000000000000000000000000000001340000000000000000000000000000000000000000a9, []⟩,
   ⟨0x4f0000000053000000000000000000000000000000000000000014000000000000000000000000000000000000000000000000148000000000000144000000000000000000000000000000000000000000000000000000000000000000000000000000000000000000000000000000000000000000000000000000000000000000000000000000000000000000000000004e, 0x30800000000000000000000000000000000000000000000000000000000000000000000000000000000000000000000000000000000000000000000000000000000000000000000000004f0000000000000000000000000000000000000000000, []⟩,
   ⟨0, 0, [⟨.importRenameTail, 0, 0x30000⟩]⟩,
   ⟨0, 0, [⟨.importRename, 1, 0x30000⟩]⟩],
  [⟨0, 0, [⟨.versionChoice, 0, 0x2147c001040020⟩]⟩,
   ⟨0, 0, [⟨.versionRange, 2, 0x2147c001040020⟩]⟩,
   ⟨0xc24000000000000, 0, []⟩,
   ⟨0, 0, [⟨.versionSteps, 0, 0x3147c0010c0020⟩]⟩,
   ⟨0, 0, [⟨.contractDefinition, 0, 0x10a9c028692530c2d1800000000042fff⟩]⟩,
   ⟨0x440005000080000002b0fc320000000000ad40000000000000c400002b700038000000b0000000000000000000001800021ad0000f84000000000000b800002b6000000b4000cc370002f00000000300000000000000000000000000000000000000000000000000000000000000000000000000000000000000000000000000000002b10030a00000070000a4360d4340ec3a0e4240982804c2a, 0xabaadacc0000000c2c0000000000000000000000000000000000000000000000000000acaacac2afaaeaaaa6a8a9c000000000000000000000000000000000480000000000000000000000000000000000000000000000000000000000000000000000000000000000000230881e07c150583c0f41a0641706c2507427, []⟩,
   ⟨0, 0, [⟨.contractParts, 0, 0xa9c2094805b092d1000000000052fff⟩]⟩,
   ⟨0, 0, [⟨.contractPart, 0, 0xa9c2094805b092d1000000000052fff⟩]⟩,
   ⟨0, 0, [⟨.contractPart, 1, 0xa9c2094805b092d1000000000052fff⟩]⟩,
   ⟨0, 0, [⟨.contractPart, 2, 0xa9c2094805b092d1000000000052fff⟩]⟩,
   ⟨0, 0, [⟨.contractPart, 3, 0xa9c2094805b092d1000000000052fff⟩]⟩,
   ⟨0, 0, [⟨.contractPart, 4, 0xa9c2094805b092d1000000000052fff⟩]⟩,
   ⟨0, 0, [⟨.contractPart, 5, 0xa9c2094805b092d1000000000052fff⟩]⟩,
   ⟨0, 0, [⟨.contractPart, 6, 0xa9c2094805b092d1000000000052fff⟩]⟩,
   ⟨0, 0, [⟨.contractPart, 7, 0xa9c2094805b092d1000000000052fff⟩]⟩,
   ⟨0, 0, [⟨.contractPart, 8, 0xa9c2094805b092d1000000000052fff⟩]⟩,
   ⟨0, 0, [⟨.contractPart, 9, 0xa9c2094805b092d1000000000052fff⟩]⟩,
   ⟨0, 0, [⟨.contractPart, 10, 0xa9c2094805b092d1000000000052fff⟩]⟩,
   ⟨0, 0, [⟨.contractPart, 11, 0xa9c2094805b092d1000000000052fff⟩]⟩,
   ⟨0x4f000000005300000000000000000000000000000000000000001400000000000000000000000000000000000000000000000014800000000000014400000000000000000000000000000000000000000000000000000000000000000000000000000000000000000000000000000000000000000000000000000000000000000000001bc00000000000000000000000004e, 0xc34000000000000000000000000000000000000000000c30000000000000000000000000000000000000000000, []⟩,
   ⟨0, 0, [⟨.specialKind, 0, 0x110000800008200000000000000801⟩]⟩,
   ⟨0, 0, [⟨.specialKind, 1, 0x110000800008200000000000000801⟩]⟩,
   ⟨0, 0, [⟨.specialKind, 2, 0x110000800008200000000000000801⟩]⟩,
   ⟨0x4f0000000053000000000000000000000000000000000000000014000000000000000000000000000000000000000000000000148000000000000144000000000000000000000000000000000000000000000000000000000000000000000000000000000000000000000000000000000000000000000000000000000000000000000000000000000000000000000000004e, 0xc38000000000000000000000000000000000000000000, []⟩,
   ⟨0xc3c000000000000000000000000000000000000000000, 0, [⟨.baseList, 1, 0x8000⟩]⟩,
   ⟨0x4f0000000053000000000000000000000000000000000000000014000000000000000000000000000000000000000000000000148000000000000144000000000000000000000000000000000000000000000000000000000000000000000000000000000000000000000000000000000000000000000000000000000000000000000000000000000000000000000000004e, 0xc4000000000000000000000000019600000000000000000000000000000000000134000000000000000000000000000000000000000000, []⟩,
   ⟨0, 0, [⟨.usingDirective, 0, 0x10a9c2296925b0d2d1800000000052fff⟩]⟩,
   ⟨0, 0, [⟨.usingDirective, 2, 0x10a9c2296925b0d2d1800000000052fff⟩]⟩,
   ⟨0, 0, [⟨.usingFunctionTail, 1, 0x30000⟩]⟩,
   ⟨0, 0, [⟨.errorDefinition, 0, 0x10a9c2296925b0d2d1800000000052fff⟩]⟩,
   ⟨0x24800080000002b0003200000000000000000000000000c4000000000038000000b0000000000000000000009100021000000000000000000000b80000000000000b4000cc370002f00000000300000000000000000000000000000000000000000000000000000000000000000000000000000000000000000000000000000000000000000000070000a4360d4340ec3a0e424098280002a, 0xc4400000000000000000000000000000000000000000000000000000000000000000000000000000000000000000000000000000000000000000000000000000000000000000000000000000000000000000000000000230881e07c8e23d5f0f41a0649006c2507427, []⟩,
   ⟨0, 0, [⟨.errorParameterTail, 0, 0x21000⟩]⟩],
  [⟨0, 0, [⟨.variableDefinition, 2, 0x10a9c2296925b0d2d1800000000052fff⟩]⟩,
   ⟨0x4f0000000053000000000000000000000000000000000000000014000000000000000000000000000000000000000000000000148000000000000144000000000000000000000000000000000000000000000000000000000000000000000000000000000000000000000000000000000000000000000000000000000000000000000000000000000000000000000000004e, 0x31200000000000000000000000000000000000134000000000000000000000000000000000000000000, []⟩,
   ⟨0, 0, [⟨.namePathTail, 0, 0x21000⟩]⟩,
   ⟨0, 0, [⟨.namedArgumentTail, 1, 0x30000⟩]⟩,
   ⟨0x313000000000000000000000000000000, 0, []⟩,
   ⟨0x4f000000005300000000000000000000000000000000000000001400000000000000000000000000000000000000000000000014800000000000014400000000000000000001cf00000000000000000000000000000000000000000000000000000000000000000000000000000000000000000000000000000000000000000000000000000000000000000000000000004e, 0xc50000000000000000000000000000001ce0000000000000000000000000000000000000000000000000031800000000000000000000000000000000000000000000000000000000000000000000000000000000000000031c000000000000000000000000000000000000000000, [⟨.namedArgumentListOrNone, 0, 0x10000⟩]⟩,
   ⟨0x315000000000000000000000000000000000000000000000, 0, []⟩,
   ⟨0x3160000000000000000000000000000000000000000, 0, []⟩,
   ⟨0x348d500000000d8248df080000002b000320016a000de0000000000000000c40021c0000038000000b000000000000000000350913582100000000003800036c860b80037000000000b4000cc373742f36400000300008922000000000008b2280000085000000008400000000000000000000000000000000000000000000000000000000000000000000001ac00070000a4360d4340ec3a0e424098280002a, 0x31700000000000000000000000000000034f183400036800000e100000000d7388781dc791e87b1f07d1f87f200810008220c230881e07c8e23ce30f41a2349006c2507427, []⟩,
   ⟨0xd500000000d8248df080000002b000320016a000de0000000000000000c40021c0000038000000b000000000000000000350913582100000000003800036c860b80037000000000b4000cc373742f36400000300008922000000000008b2280000085000000008400000000000000000000000000000000000000000000000000000000000000000000001ac00070000a4360d4340ec3a0e424098280002a, 0x34f1ac640036800000e100000000d7388781dc791e87b1f07d1f87f200810008220c230881e07c8e23ce30f41a2349006c2507427, []⟩,
   ⟨0x24800080000002b000320008c000000000000000000000c40021c0000038000000b0000000000000000000009100021000000000000000000860b80000000000000b4000cc370002f00000000300008922000000000008b228000008500000000840000000000000000000000000000000000000000000000000000000000000031c0000000000070000a4360d4340ec3a0e424098280002a, 0xc6c781dc791e87b1f07d1f87f200810008220c230881e07c8e23c3c0f41a2349006c2507427, []⟩,
   ⟨0x31d000000000000000000000000000000000000000000000, 0, []⟩,
   ⟨0x24800080000002b000320008c000000000000000000000c40021c0000038000000b0000000000000000000009100021000000000000000000860b80000000000000b4000cc370002f00000000300008922000000000008b228000008500000000840000000000000000000000000000000000000000000000000000000000000000000000000000731f0a4360d4340ec3a0e424098280002a, 0xc78781dc791e87b1f07d1f87f200810008220c230881e07c8e23c3c0f41a2349006c2507427, []⟩,
   ⟨0, 0, [⟨.plainStatement, 2, 0xc79540a480f0fa2f961910000001affd⟩]⟩,
   ⟨0, 0, [⟨.plainStatement, 3, 0xc79540a480f0fa2f961910000001affd⟩]⟩,
   ⟨0, 0, [⟨.yulBlock, 1, 0xffdffefff7fffffffe1910000001affd⟩]⟩,
   ⟨0, 0, [⟨.yulStatements, 1, 0xfd5ffefff7efe7dff800000000018301⟩]⟩,
   ⟨0xc80000000000000000000000000000, 0, []⟩,
   ⟨0xc94000000000000c900000000000000000000000000000000000000000000000000000000000000000000000000000000000000000000000000000000000000000000000000000000000000000000000000000000000000000000000000000, 0xc880000000000000000000000000000000000000000000000000000000000000000000000000000000000c8f2100000000000000000000000000000000000000000000000000000000000000000000000000000000000000000000000000000000000000000000000000000000000000000000000000000000000000000000000000000000000000000000000000000000000000000000000000000000000000000000000000000000000000000000, []⟩,
   ⟨0xb8000000000000000000000000000000000000000000000000, 0, [⟨.yulExpression, 0, 0xfd5ffefff7efeffff800000000039301⟩]⟩,
   ⟨0, 0, [⟨.yulExpression, 1, 0xfd5ffefff7efeffff800000000039301⟩]⟩,
   ⟨0, 0, [⟨.yulExpression, 2, 0xfd5ffefff7efeffff800000000039301⟩]⟩,
   ⟨0x32600000000000000000000000000000000000000000000000000, 0, [⟨.yulLiteral, 1, 0xfd5ffefff7efeffff800000000039301⟩]⟩,
   ⟨0x32700000000000000000000000000000000000000000000000000, 0, [⟨.yulLiteral, 3, 0xfd5ffefff7efeffff800000000039301⟩]⟩,
   ⟨0x32800000000000000000000000000000000000000000000000000, 0, [⟨.yulLiteral, 5, 0xfd5ffefff7efeffff800000000039301⟩]⟩,
   ⟨0x32900000000000000000000000000000000000000000000000000, 0, [⟨.yulLiteral, 7, 0xfd5ffefff7efeffff800000000039301⟩]⟩,
   ⟨0x32a00000000000000000000000000000000000000000000000000, 0, [⟨.yulLiteral, 9, 0xfd5ffefff7efeffff800000000039301⟩]⟩,
   ⟨0x32b00000000000000000000000000000000000000000000000000, 0, [⟨.yulLiteral, 11, 0xfd5ffefff7efeffff800000000039301⟩]⟩,
   ⟨0x26398a61982670025fb5a5e00000976669723496e3396a5995a5895c009565494e529465093c000024e92e4a002499364c00000002d79224791a44916439080000241002408fe3d0023e8f23b0023a8e6388de358d80000000000000000000000000000000000000000000000000000000000000000000000000000000000000000000000000000000000000000000000000099265b6400b6000b682800232, 0xcb2d5002d400000b4c000000000000000000000000000000008c4000000000000000000000000000000000000000000000000000000000000000000000000002db, []⟩,
   ⟨0x5e40000000000000000000000000000000000000, 0x32d000000000000000000000000000000000000000000000000000000000000000000000000000000000000000000000000000000000, []⟩,
   ⟨0x26398a61982670025fb5a5e00000976669723496e3396a5995a5895c009565494e529465093c000024e92e4a002499364c00000002d79224791a44916439080000241002408fe3d0023e8f23b0023a8e6388de358d80000000000000000000000000000000000000000000000000000000000000000000000000000000000000000000000000000000000000000000000000099265b6400b6000b682800232, 0xcbc0000000000000000000000000000032e00000000000000000000000000000000000000000000000000000000000000000000000000000000000000000000000000000000000000000000000000000000000000000000000000000000000000000000000000000000000000000000000000000000000000000000000cc2d5002d400000b4c000000000000000000000000000000008c4000000000000000000000000000000000000000000000000000000000000000000000000002db, [⟨.yulExpressionListOrNone, 0, 0x1000⟩]⟩,
   ⟨0x26398a61982670025fb5a5e00000976669723496e3396a5995a5895c009565494e529465093c000024e92e4a002499364c00000002d79224791a44916439080000241002408fe3d0023e8f23b0023a8e6388de358d80000000000000000000000000000000000000000000000000000000000000000000000000000000000000000000000000000000000000000000000000099265b6400b6000b682800232, 0xcc6d5002d400000b4c000000000000000000000000000000008c4000000000000000000000000000000000000000000000000000000000000000000000000002db, []⟩],
  [⟨0x26398a61982670025f0025e00000976669723496e3396a5995a5895c009565494e529465093c000024e92e4a002499364c00000000009224791a44916439080000241002408fe3d0023e8f23b0023a8e6388de358d8000000000000000000000000000000000000000000000000000000000000000000000000000000000000000000000000000000000000000000000000009926500000000000000000232, 0xcc800000000000000000000000000000000000000000000000000000000000000000000000000000, []⟩,
   ⟨0xccc000000000000000000000000000000000000000000, 0, [⟨.yulPathList, 1, 0x2000000⟩]⟩,
   ⟨0x26398a61982670025f0025e00000976669723496e3396a5995a5895c009565494e529465093c000024e92e4a002499364c00000000009224791a44916439080000241002408fe3d0023e8f23b0023a8e6388de358d8000000000000000000000000000000000000000000000000000000000000000000000000000000000000000000000000000000000000000000000000009926500000000000000000232, 0xcd000000000000000000000000000000000cd400000000000000000000000000000000000000000000000000000000000000000000000000000, []⟩,
   ⟨0xcd800000000000000000000000000000000000000000000000000000000000000, 0, [⟨.yulVariable, 1, 0xfd5ffefff7efe7dff800000000018301⟩]⟩,
   ⟨0, 0, [⟨.yulTypedNames, 0, 0xfd5ffefff7efe7dff800000002019301⟩]⟩,
   ⟨0xce0000000000000000000000000000000000000000000, 0x33700000000000000000000000000000000000000000000000000000000000000000000000000000000000000000000000000000000000000000000000000000000000000000000000000000000000000000000000000000000000000000000000000000000000000000000000000000000000000000000000000000000000000000000000000000000000000000000000000000000000000000000000000000000000000000000000000000000000000000000000000000000000000000000, [⟨.yulTypedNameList, 0, 0xfd5ffefff7efe7dff800000002019301⟩]⟩,
   ⟨0x33900000000000000000000000000000000000000000000000000, 0, [⟨.yulTypedName, 1, 0xfd5ffefff7efe7dff800000002039301⟩]⟩,
   ⟨0, 0, [⟨.assemblyFlags, 0, 0x8000⟩]⟩,
   ⟨0xce8000000000000000000000000000000000000000000, 0, [⟨.textLiteralList, 1, 0x1000⟩]⟩,
   ⟨0x2800000, 0x33b, []⟩,
   ⟨0x24800080000002b000320008c000000000000000000000c40021c0000038000000b0000000000000000000009100021000000000000000000860b80000000000000b4000cc370002f00000000300008922000000000008b22800000850000000084000000000000000000000000000000000000000000000000000000000000000000000000000070000a4360d4340ec3a0e424098280002a, 0xcf0781dc791e87b1f07d1f87f200810008220c230881e07c8e23c3c0f41a2349006c2507427, []⟩,
   ⟨0x2720000000000000000000000000000000000000000000000000000000000000000000000000000000000000000000000000000000000000000000000000000000000000000000000000000000000000000000000000000000, 0x2ec000000000000000000000000000000000000000000000000000000000000000000000000000000000000000000000000000000000000000000000000000000000000000000000000000000000000000000000000000000000000, [⟨.plainStatement, 13, 0xc79540a480f0fa2f961910000001affd⟩]⟩,
   ⟨0, 0, [⟨.catchClauses, 1, 0xc79540a480f0fa6f961910000001affd⟩]⟩,
   ⟨0x24800080000002b0003200000000000000000000000000c4000000000038000000b0000000000000000000009100021000000000000000000000b80000000000000b4000cc370002f00000000300000000000000000000000000000000000000000000000000000000000000000000000000000000000000000000000000000000000000000000070000a4360d4340ec3a0e4240982804c2a, 0xf4cf4000000000000000003d80000000000000000000000000000000000000000000000000000000000000000000000000000000000000230881e07c8e23cf50f41a0649006c2507427, []⟩,
   ⟨0, 0, [⟨.catchClause, 1, 0xc79540a480f0fa6f961910000001affd⟩]⟩,
   ⟨0xcf8000000000000000000000000000, 0, []⟩,
   ⟨0x1ac0000000000000000000000000000000000000, 0x33f000000000000000000000000000000000000000000000000000000000000000000000000000, []⟩,
   ⟨0xec00000000000000000000000000000000000000ea18865000003b400000000000000000000001900000000000e700000000000006300000000000000000000000003ac000000000000000000000000000000000000000000000000000000000000000000000000000000000000000000000000000000000000000000000000000000000000000000000000000000000000000000000000000000000, 0x18a000000000000000000000000000000000e8000e9000000000000000000000000000000000000000000000000000000000000000000000000000000000000000000, [⟨.functionType, 4, 0x801300088400083007feeffffd7ff001⟩]⟩,
   ⟨0, 0, [⟨.functionDefinition, 0, 0x10a9c2296925b0d2d1800000000052fff⟩]⟩,
   ⟨0x69000001ac0000000000000000000000000000000000000, 0xd00000006a000000000000000000000000000000000000000000000000000000000000000000000000000, []⟩,
   ⟨0x341000000000000000000000000000000, 0, []⟩,
   ⟨0x342000000000000000000000000000000, 0, []⟩,
   ⟨0, 0, [⟨.optionalParameterTail, 1, 0x21000⟩]⟩,
   ⟨0, 0, [⟨.parameter, 0, 0x21000⟩]⟩,
   ⟨0, 0, [⟨.plainOperand, 5, 0x80330d48ad0408b007feeffffd7ff801⟩]⟩,
   ⟨0, 0, [⟨.assignment, 11, 0x175000⟩]⟩,
   ⟨0x4f0000000053000000000000000000000000000000000000000014000000000000000000000000000000000000000000000000148000000000000144000000000000000000000000000000000000000000000000000000000000000000000000000000000000000000000000000000000000000000000000000000000000000000034400000000000000000000000000004e, 0xd0c000000000000000000000000000000000000000000, [⟨.quantity, 6, 0x600000000082000⟩]⟩,
   ⟨0x345000000000000000000000000000000, 0, []⟩,
   ⟨0, 0, [⟨.builtinType, 13, 0x80330d48ad0408b007feeffffd7ff801⟩]⟩,
   ⟨0, 0, [⟨.functionCall, 2, 0x80338d48ad0408f007feeffffd7ff801⟩]⟩,
   ⟨0x346000000000000000000000000000000000000000000000, 0, []⟩,
   ⟨0, 0, [⟨.eventDefinition, 1, 0x10a9c2296925b0d2d1800000000052fff⟩]⟩],
  [⟨0x24800080000002b0003200000000000000000000000000c4000000000038000000b0000000000000000000009100021000000000000000000000b80000000000000b4000cc370002f00000000300000000000000000000000000000000000000000000000000000000000000000000000000000000000000000000000000000000000000000000070000a4360d4340ec3a0e424098280002a, 0x347000000000000000000000000000000000000000000000000000000000000000000000000000000000000000000000000000000000000000000000000000000000000000000000000000000000000000000000000230881e07c8e23dd30f41a0649006c2507427, []⟩,
   ⟨0, 0, [⟨.eventParameterTail, 0, 0x21000⟩]⟩,
   ⟨0, 0, [⟨.eventParameter, 0, 0x21000⟩]⟩,
   ⟨0, 0, [⟨.structFields, 1, 0x29400848050082d1000000000012ffd⟩]⟩,
   ⟨0x19800000000000000000000000004f0000000053000000000000000000000000000000000000000014000000000000000000000000000000000000000000000000148000000000000144000000000000000000000000000000000000000000000000000000000000000000000000000000000000000000000000000000000000000000000000000000000000000000000000000000000000000000000000004e, 0x348000000000000000000000000000000000000000000000000000000000000000001b8000000000000000000000000000000000000000000, []⟩,
   ⟨0, 0, [⟨.nameOrFailureTail, 0, 0x30000⟩]⟩,
   ⟨0x349000000000000000000000000000000000000000000000, 0, []⟩,
   ⟨0x34a000000000000000000000000000000000000000000000, 0, []⟩,
   ⟨0, 0, [⟨.importRenameTail, 1, 0x30000⟩]⟩,
   ⟨0, 0, [⟨.versionSteps, 1, 0x3147c0010c0020⟩]⟩,
   ⟨0, 0, [⟨.contractDefinition, 1, 0x10a9c028692530c2d1800000000042fff⟩]⟩,
   ⟨0, 0, [⟨.contractParts, 1, 0xa9c2094805b092d1000000000052fff⟩]⟩,
   ⟨0x1bc000000000000000000000000000, 0xd2c000000000000000000000000000000000000000000000000000000000000000000000000000000000000000, []⟩,
   ⟨0x65400648ec0000000000000000004f000000005365d98000ea18865000003b5930000000000000001400019000000000019100000000000006300000000000000014800000003ac001440000000000000000000000000000000000000000000000000000000000000000000000000000000000000000000000000000000000000000000000000000069000001ac000000000000000000000000000000000004e, 0x34e000000000000000000000000000000d318e0000065000000000018f0019000000d35960006a000000000000000000000000000000134000000000000000000000000000000000000000000, []⟩,
   ⟨0x65400648ec0000000000000000004f000000005365d98000ea18865000003b5930000000000000001400019000000000019100000000000006300000000000000014800000003ac001440000000000000000000000000000000000000000000000000000000000000000000000000000000000000000000000000000000000000000000000000000069000001ac00000001bc00000000000000000000000004e, 0x352000000000000000000000000000000d418e0000065000000000018f00190d3c00d45960006a000000000000000000000000000000134000000000000000000000000000000000000000000, []⟩,
   ⟨0x4f0000000053000000000000000000000000000000000000000014000000000000000000000000000000000000000000000000148000000000000144000000000000000000000000000000000000000000000000000000000000000000000000000000000000000000000000000000000000000000000000000000000000000000000000000000000000000000000000004e, 0xd4c00000000000000000000000019600000000000000000000000000000000000134000000000000000000000000000000000000000000, []⟩,
   ⟨0, 0, [⟨.baseTail, 0, 0x28000⟩]⟩,
   ⟨0, 0, [⟨.errorParameterTail, 1, 0x21000⟩]⟩,
   ⟨0, 0, [⟨.namePathTail, 1, 0x21000⟩]⟩,
   ⟨0x354000000000000000000000000000000000000000000000, 0, []⟩,
   ⟨0x3550000000000000000000000000000000000000000, 0, []⟩,
   ⟨0, 0, [⟨.plainStatement, 17, 0xc79540a480f0fa2f961910000001affd⟩]⟩,
   ⟨0x356000000000000000000000000000000, 0, []⟩,
   ⟨0, 0, [⟨.openStatement, 0, 0xc79540a480f0ba2f961910000001affd⟩]⟩,
   ⟨0x357000000000000000000000000000000000000000000000000000000000000000000000000000000000000000000000000000000000000000000000000000000000000000000000000000000000000000000000000000000000000000000000000000, 0, [⟨.statement, 1, 0xc79540a480f0ba2f961910000001affd⟩]⟩,
   ⟨0, 0, [⟨.openStatement, 10, 0xc79540a480f0ba2f961910000001affd⟩]⟩,
   ⟨0, 0, [⟨.closedStatement, 2, 0xc79540a480f0fa2f961910000001affd⟩]⟩,
   ⟨0x358000000000000000000000000000000000000000000000, 0, []⟩,
   ⟨0x24800080000002b000320008c000000000000000000000c40021c0000038000000b0000000000000000000009100021000000000000000000860b80000000000000b4000cc370002f00000000300008922000000000008b228000008500000000840000000000000000000000000000000000000000000000000000000000000000000000000000735a0a4360d4340ec3a0e424098280002a, 0xd64781dc791e87b1f07d1f87f200810008220c230881e07c8e23c3c0f41a2349006c2507427, []⟩,
   ⟨0x24800080000002b000320008c000000000000000000000c40021c0000038000000b0000000000000000000009100021000000000000000000860b80000000000000b4000cc370002f00000000300008922000000000008b228000008500000000840000000000000000000000000000000000000000000000000000000000000000000000000000735c0a4360d4340ec3a0e424098280002a, 0xd6c781dc791e87b1f07d1f87f200810008220c230881e07c8e23c3c0f41a2349006c2507427, []⟩,
   ⟨0x35d000000000000000000000000000000, 0, []⟩,
   ⟨0xd500000000d8248df080000002b000320016a000de0000000000000000c40021c0000038000000b000000000000000000350913582100000000003800036c860b80037000000000b4000cc373742f36400000300008922000000000008b2280000085000000008400000000000000000000000000000000000000000000000000000000000000360000001ac00070000a4360d4340ec3a0e424098280002a, 0x34f5fd780036800000e100000000d7388781dc791e87b1f07d1f87f200810008220c230881e07c8e23ce30f41a2349006c2507427, []⟩],
  [⟨0x26398a61982670025f0025e00000976669723496e3396a5995a5895c009565494e529465093c000024e92e4a002499364c00000000009224791a44916439080000241002408fe3d0023e8f23b0023a8e6388de358d8000000000000000000000000000000000000000000000000000000000000000000000000000000000000000000000000000000000000000000362000009926500000000000000000232, 0xb9000d84000000000000000000000000000000000000000000b94000000000000000000000000000000000000000000000000000000000b9800000000000000000000000000000000000000000000000000000000000000000000000000000, []⟩,
   ⟨0, 0, [⟨.yulSwitch, 0, 0xfd5ffefff7efe7dff800000000018301⟩]⟩,
   ⟨0xc94000000000000c900000000000000000000000000000000000000000000000000000000000000000000000000000000000000000000000000000000000000000000000000000000000000000000000000000000000000000000000000000, 0xd936300000000000000000000000000000000000000000000000000000000000000000000000000000000000000000000000000000000000000000000000000000000000000000000000000000000000000000000000000000000000000000000000000000000000000000000000000000000000000000000000000000000000000000000, [⟨.yulSwitch, 2, 0xfd5ffefff7efe7dff800000000018301⟩]⟩,
   ⟨0, 0, [⟨.yulCases, 0, 0xfd5ffefff7efeffff800000000018301⟩]⟩,
   ⟨0xb580000000000000000000000000000000000000000000000000000000000000000000000000000000000002d70000000000000000000000000000000000000000000000000000000000000000000000000000000000000000000000000000000000000000000000000000000000000000000000000000000000000000000000000000000000000000000000b6400b6000b682800000, 0x365000000000000000000000000000000000000000000000000000000000000000000000000000000000000000000000000000000000000000000000000002db, []⟩,
   ⟨0x5e40000000000000000000000000000000000000, 0x366000000000000000000000000000000000000000000000000000000000000000000000000000000000000000000000000000000000, []⟩,
   ⟨0x26398a61982670025f0025e00000976669723496e3396a5995a5895c009565494e529465093c000024e92e4a002499364c00000000009224791a44916439080000241002408fe3d0023e8f23b0023a8e6388de358d8000000000000000000000000000000000000000000000000000000000000000000000000000000000000000000000000000000000000000000000000009926500000000000000000232, 0xd9c00000000000000000000000000000000000000000000000000000000000000000000000000000, []⟩,
   ⟨0x26398a61982670025f0025e00000976669723496e3396a5995a5895c009565494e529465093c000024e92e4a002499364c00000000009224791a44916439080000241002408fe3d0023e8f23b0023a8e6388de358d8000000000000000000000000000000000000000000000000000000000000000000000000000000000000000000000000000000000000000000000000009926500000000000000000232, 0xda000000000000000000000000000000000000000000000000000000000000000000000000000000, []⟩,
   ⟨0x26398a61982670025f0025e00000976669723496e3396a5995a5895c009565494e529465093c000024e92e4a002499364c00000000009224791a44916439080000241002408fe3d0023e8f23b0023a8e6388de358d8000000000000000000000000000000000000000000000000000000000000000000000000000000000000000000000000000000000000000000000000009926500000000000000000232, 0xda400000000000000000000000000000000000000000000000000000000000000000000000000000, []⟩,
   ⟨0x26398a61982670025f0025e00000976669723496e3396a5995a5895c009565494e529465093c000024e92e4a002499364c00000000009224791a44916439080000241002408fe3d0023e8f23b0023a8e6388de358d8000000000000000000000000000000000000000000000000000000000000000000000000000000000000000000000000000000000000000000000000009926500000000000000000232, 0xda800000000000000000000000000000000000000000000000000000000000000000000000000000, []⟩,
   ⟨0x26398a61982670025f0025e00000976669723496e3396a5995a5895c009565494e529465093c000024e92e4a002499364c00000000009224791a44916439080000241002408fe3d0023e8f23b0023a8e6388de358d8000000000000000000000000000000000000000000000000000000000000000000000000000000000000000000000000000000000000000000000000009926500000000000000000232, 0xdac00000000000000000000000000000000000000000000000000000000000000000000000000000, []⟩,
   ⟨0x26398a61982670025f0025e00000976669723496e3396a5995a5895c009565494e529465093c000024e92e4a002499364c00000000009224791a44916439080000241002408fe3d0023e8f23b0023a8e6388de358d8000000000000000000000000000000000000000000000000000000000000000000000000000000000000000000000000000000000000000000000000009926500000000000000000232, 0xdb000000000000000000000000000000000000000000000000000000000000000000000000000000, []⟩,
   ⟨0x5e40000000000000000000000000000000000000, 0x36d000000000000000000000000000000000000000000000000000000000000000000000000000000000000000000000000000000000, []⟩,
   ⟨0, 0, [⟨.yulIf, 0, 0xfd5ffefff7efe7dff800000000018301⟩]⟩,
   ⟨0x36e000000000000000000000000000000, 0, []⟩,
   ⟨0, 0, [⟨.yulExpressionListOrNone, 1, 0x1000⟩]⟩,
   ⟨0xdc0000000000000000000000000000000000000000000, 0xdbc0000000000000000000000000000000000000000000000000000000000000000000000000000000000000000000000000000000000000000000000000000000000000000000000000000000000000000000000000000000000000000000000000000000000000000000000000000000000000000000000000000000000000000000000000000000000000000000000000000000000000000000000000000000000000000000000000000000000000000000000000000000000000000000000000000000000000, [⟨.yulExpressionList, 0, 0x1000⟩]⟩,
   ⟨0, 0, [⟨.yulAssignment, 0, 0xfd5ffefff7efe7dff800000000018301⟩]⟩,
   ⟨0, 0, [⟨.yulPath, 1, 0xfd5ffefff7efeffff8000000020b9301⟩]⟩,
   ⟨0x26398a61982670025f0025e00000976669723496e3396a5995a5895c009565494e529465093c000024e92e4a002499364c00000000009224791a44916439080000241002408fe3d0023e8f23b0023a8e6388de358d8000000000000000000000000000000000000000000000000000000000000000000000000000000000000000000000000000000000000000000000000009926500000000000000000232, 0xdc400000000000000000000000000000000cd400000000000000000000000000000000000000000000000000000000000000000000000000000, []⟩,
   ⟨0xb8000000000000000000000000000000000000000000000000, 0, [⟨.yulPathTail, 0, 0x2020000⟩]⟩,
   ⟨0, 0, [⟨.yulPath, 0, 0x20a0000⟩]⟩,
   ⟨0x26398a61982670025fb5a5e00000976669723496e3396a5995a5895c009565494e529465093c000024e92e4a002499364c00000002d79224791a44916439080000241002408fe3d0023e8f23b0023a8e6388de358d80000000000000000000000000000000000000000000000000000000000000000000000000000000000000000000000000000000000000000000000000099265b6400b6000b682800232, 0xdcad5002d400000b4c000000000000000000000000000000008c4000000000000000000000000000000000000000000000000000000000000000000000000002db, []⟩,
   ⟨0xdcc000000000000000000000000000000000000000000, 0, [⟨.yulTypedNameList, 1, 0xfd5ffefff7efe7dff800000002019301⟩]⟩,
   ⟨0x26398a61982670025f0025e00000976669723496e3396a5995a5895c009565494e529465093c000024e92e4a002499364c00000000009224791a44916439080000241002408fe3d0023e8f23b0023a8e6388de358d8000000000000000000000000000000000000000000000000000000000000000000000000000000000000000000000000000000000000000000000000009926500000000000000000232, 0xdd0000000000000000000000000000000000000000000000000000000000b9800000000000000000000000000000000000000000000000000000000000000000000000000000, []⟩,
   ⟨0x26398a61982670025f0025e00000976669723496e3396a5995a5895c009565494e529465093c000024e92e4a002499364c00000000009224791a44916439080000241002408fe3d0023e8f23b0023a8e6388de358d8000000000000000000000000000000000000000000000000000000000000000000000000000000000000000000000000000000000000000000000000009926500000000000000000232, 0xdd400000000000000000000000000000000000000000000000000000000000000000000000000000, []⟩,
   ⟨0x2800000, 0x376, []⟩,
   ⟨0, 0, [⟨.textLiteralTail, 0, 0x21000⟩]⟩,
   ⟨0x377000000000000000000000000000000, 0, []⟩,
   ⟨0x378000000000000000000000000000000, 0, []⟩,
   ⟨0x24800080000002b0003200000000000000000000000000c4000000000038000000b0000000000000000000009100021000000000000000000000b80000000000000b4000cc370002f00000000300000000000000000000000000000000000000000000000000000000000000000000000000000000000000000000000000000000000000000000070000a4360d4340ec3a0e4240982804c2a, 0xf4de4000000000000000003d80000000000000000000000000000000000000000000000000000000000000000000000000000000000000230881e07c8e23cf50f41a0649006c2507427, []⟩,
   ⟨0, 0, [⟨.trySuccess, 0, 0x400000000000000000⟩]⟩],
  [⟨0, 0, [⟨.functionDefinition, 2, 0x10a9c2296925b0d2d1800000000052fff⟩]⟩,
   ⟨0, 0, [⟨.functionAttribute, 5, 0xb011dcc0a10408a00000000000048001⟩]⟩,
   ⟨0, 0, [⟨.base, 0, 0xb011dcc0a10408a00000000000068001⟩]⟩,
   ⟨0x37a000000000000000000000000000000, 0, []⟩,
   ⟨0, 0, [⟨.builtinType, 11, 0x80330d48ad0408b007feeffffd7ff801⟩]⟩,
   ⟨0, 0, [⟨.builtinType, 12, 0x80330d48ad0408b007feeffffd7ff801⟩]⟩,
   ⟨0, 0, [⟨.eventDefinition, 0, 0x10a9c2296925b0d2d1800000000052fff⟩]⟩,
   ⟨0, 0, [⟨.eventParameterTail, 1, 0x21000⟩]⟩,
   ⟨0, 0, [⟨.nameOrFailureTail, 1, 0x30000⟩]⟩,
   ⟨0, 0, [⟨.importDirective, 2, 0x10a9c028692530c2d1800000000042fff⟩]⟩,
   ⟨0, 0, [⟨.importDirective, 3, 0x10a9c028692530c2d1800000000042fff⟩]⟩,
   ⟨0x65400648ec0000000000000000004f000000005365d98000ea18865000003b5930000000000000001400019000000000019100000000000006300000000000000014800000003ac001440000000000000000000000000000000000000000000000000000000000000000000000000000000000000000000000000000000000000000000000000000069000001ac000000000000000000000000000000000004e, 0x37d000000000000000000000000000000ded8e0000065000000000018f0019000000df1960006a000000000000000000000000000000134000000000000000000000000000000000000000000, []⟩,
   ⟨0x1bc000000000000000000000000000, 0xdf8000000000000000000000000000000000000000000000000000000000000000000000000000000000000000, []⟩,
   ⟨0, 0, [⟨.specialDefinition, 5, 0xa9c2094805b092d1000000000052fff⟩]⟩,
   ⟨0x65400648ec0000000000000000004f000000005365d98000ea18865000003b5930000000000000001400019000000000019100000000000006300000000000000014800000003ac001440000000000000000000000000000000000000000000000000000000000000000000000000000000000000000000000000000000000000000000000000000069000001ac000000000000000000000000000000000004e, 0xdfe7d0000065000000000018f0019000000e01960006a000000000000000000000000000000134000000000000000000000000000000000000000000, []⟩,
   ⟨0x65400648ec0000000000000000004f000000005365d98000ea18865000003b5930000000000000001400019000000000019100000000000006300000000000000014800000003ac001440000000000000000000000000000000000000000000000000000000000000000000000000000000000000000000000000000000000000000000000000000069000001ac000000000000000000000000000000000004e, 0x383000000000000000000000000000000e058e0000065000000000018f0019000000e09960006a000000000000000000000000000000134000000000000000000000000000000000000000000, []⟩,
   ⟨0x1bc000000000000000000000000000, 0xe10000000000000000000000000000000000000000000000000000000000000000000000000000000000000000, []⟩,
   ⟨0, 0, [⟨.modifierDefinition, 5, 0xa9c2094805b092d1000000000052fff⟩]⟩,
   ⟨0x65400648ec0000000000000000004f000000005365d98000ea18865000003b5930000000000000001400019000000000019100000000000006300000000000000014800000003ac001440000000000000000000000000000000000000000000000000000000000000000000000000000000000000000000000000000000000000000000000000000069000001ac000000000000000000000000000000000004e, 0xe167d0000065000000000018f0019000000e19960006a000000000000000000000000000000134000000000000000000000000000000000000000000, []⟩,
   ⟨0, 0, [⟨.baseTail, 1, 0x28000⟩]⟩,
   ⟨0, 0, [⟨.plainStatement, 16, 0xc79540a480f0fa2f961910000001affd⟩]⟩,
   ⟨0x387000000000000000000000000000000, 0, []⟩,
   ⟨0x388000000000000000000000000000000000000000000000, 0, []⟩,
   ⟨0xd500000000d8248df080000002b000320016a000de0000000000000000c40021c0000038000000b000000000000000000350913582100000000003800036c860b80037000000000b4000cc373742f36400000300008922000000000008b2280000085000000008400000000000000000000000000000000000000000000000000000000000000000000001ac00070000a4360d4340ec3a0e424098280002a, 0x34f8ae240036800000e100000000d7388781dc791e87b1f07d1f87f200810008220c230881e07c8e23ce30f41a2349006c2507427, []⟩,
   ⟨0x24800080000002b000320008c000000000000000000000c40021c0000038000000b0000000000000000000009100021000000000000000000860b80000000000000b4000cc370002f00000000300008922000000000008b228000008500000000840000000000000000000000000000000000000000000000000000000000000000000000000000738c0a4360d4340ec3a0e424098280002a, 0xe2c781dc791e87b1f07d1f87f200810008220c230881e07c8e23c3c0f41a2349006c2507427, []⟩,
   ⟨0x38d000000000000000000000000000000, 0, []⟩,
   ⟨0xd500000000d8248df080000002b000320016a000de0000000000000000c40021c0000038000000b000000000000000000350913582100000000003800036c860b80037000000000b4000cc373742f36400000300008922000000000008b2280000085000000008400000000000000000000000000000000000000000000000000000000000000390000001ac00070000a4360d4340ec3a0e424098280002a, 0x34f8fe380036800000e100000000d7388781dc791e87b1f07d1f87f200810008220c230881e07c8e23ce30f41a2349006c2507427, []⟩,
   ⟨0x391000000000000000000000000000000, 0, []⟩,
   ⟨0xd500000000d8248df080000002b000320016a000de0000000000000000c40021c0000038000000b000000000000000000350913582100000000003800036c860b80037000000000b4000cc373742f36400000300008922000000000008b2280000085000000008400000000000000000000000000000000000000000000000000000000000000394000001ac00070000a4360d4340ec3a0e424098280002a, 0x34f93e480036800000e100000000d7388781dc791e87b1f07d1f87f200810008220c230881e07c8e23ce30f41a2349006c2507427, []⟩,
   ⟨0xd500000000d8248df080000002b000320016a000de0000000000000000c40021c0000038000000b000000000000000000350913582100000000003800036c860b80037000000000b4000cc373742f36400000300008922000000000008b2280000085000000008400000000000000000000000000000000000000000000000000000000000000397000001ac00070000a4360d4340ec3a0e424098280002a, 0x34f96e540036800000e100000000d7388781dc791e87b1f07d1f87f200810008220c230881e07c8e23ce30f41a2349006c2507427, []⟩,
   ⟨0, 0, [⟨.openStatement, 9, 0xc79540a480f0ba2f961910000001affd⟩]⟩,
   ⟨0, 0, [⟨.closedStatement, 10, 0xc79540a480f0fa2f961910000001affd⟩]⟩],
  [⟨0, 0, [⟨.closedStatement, 18, 0xc79540a480f0fa2f961910000001affd⟩]⟩,
   ⟨0x398000000000000000000000000000000, 0, []⟩,
   ⟨0xe64000000000000000005e40000000000000000000000000000000000000, 0x39a000000000000000000000000000000000000000000000000000000000000000000000000000000000000000000000000000000000, []⟩,
   ⟨0, 0, [⟨.yulSwitch, 1, 0xfd5ffefff7efe7dff800000000018301⟩]⟩,
   ⟨0, 0, [⟨.yulCases, 1, 0xfd5ffefff7efeffff800000000018301⟩]⟩,
   ⟨0x5e40000000000000000000000000000000000000, 0x39b000000000000000000000000000000000000000000000000000000000000000000000000000000000000000000000000000000000, []⟩,
   ⟨0, 0, [⟨.yulDefault, 0, 0xfd5ffefff7efe7dff800000000018301⟩]⟩,
   ⟨0, 0, [⟨.yulLiteral, 0, 0xfd5ffefff7efeffff800000000039301⟩]⟩,
   ⟨0, 0, [⟨.yulLiteral, 2, 0xfd5ffefff7efeffff800000000039301⟩]⟩,
   ⟨0, 0, [⟨.yulLiteral, 4, 0xfd5ffefff7efeffff800000000039301⟩]⟩,
   ⟨0, 0, [⟨.yulLiteral, 6, 0xfd5ffefff7efeffff800000000039301⟩]⟩,
   ⟨0, 0, [⟨.yulLiteral, 8, 0xfd5ffefff7efeffff800000000039301⟩]⟩,
   ⟨0, 0, [⟨.yulLiteral, 10, 0xfd5ffefff7efeffff800000000039301⟩]⟩,
   ⟨0x5e40000000000000000000000000000000000000, 0x39c000000000000000000000000000000000000000000000000000000000000000000000000000000000000000000000000000000000, []⟩,
   ⟨0, 0, [⟨.yulCall, 0, 0xfd5ffefff7efeffff800000000039301⟩]⟩,
   ⟨0xe74000000000000000000000000000000000000000000, 0, [⟨.yulExpressionList, 1, 0x1000⟩]⟩,
   ⟨0x26398a61982670025fb5a5e00000976669723496e3396a5995a5895c009565494e529465093c000024e92e4a002499364c00000002d79224791a44916439080000241002408fe3d0023e8f23b0023a8e6388de358d80000000000000000000000000000000000000000000000000000000000000000000000000000000000000000000000000000000000000000000000000099265b6400b6000b682800232, 0xe7ad5002d400000b4c000000000000000000000000000000008c4000000000000000000000000000000000000000000000000000000000000000000000000002db, []⟩,
   ⟨0xb8000000000000000000000000000000000000000000000000, 0, [⟨.yulPathTail, 1, 0x2020000⟩]⟩,
   ⟨0, 0, [⟨.yulVariable, 0, 0xfd5ffefff7efe7dff800000000018301⟩]⟩,
   ⟨0x26398a61982670025f0025e00000976669723496e3396a5995a5895c009565494e529465093c000024e92e4a002499364c00000000009224791a44916439080000241002408fe3d0023e8f23b0023a8e6388de358d8000000000000000000000000000000000000000000000000000000000000000000000000000000000000000000000000000000000000000000000000009926500000000000000000232, 0xe7c000000000000000000000000000000000000000000000000000000000b9800000000000000000000000000000000000000000000000000000000000000000000000000000, []⟩,
   ⟨0, 0, [⟨.yulTypedNameTail, 0, 0xfd5ffefff7efe7dff800000002039301⟩]⟩,
   ⟨0, 0, [⟨.yulTypedName, 0, 0xfd5ffefff7efe7dff800000002039301⟩]⟩,
   ⟨0, 0, [⟨.textLiteralTail, 1, 0x21000⟩]⟩,
   ⟨0x3a0000000000000000000000000000000000000000000000, 0, []⟩,
   ⟨0x1ac0000000000000000000000000000000000000, 0x3a1000000000000000000000000000000000000000000000000000000000000000000000000000, []⟩,
   ⟨0x3a2000000000000000000000000000000, 0, []⟩,
   ⟨0, 0, [⟨.builtinType, 10, 0x80330d48ad0408b007feeffffd7ff801⟩]⟩,
   ⟨0x1bc000000000000000000000000000, 0xe8c000000000000000000000000000000000000000000000000000000000000000000000000000000000000000, []⟩,
   ⟨0, 0, [⟨.specialDefinition, 1, 0xa9c2094805b092d1000000000052fff⟩]⟩,
   ⟨0x65400648ec0000000000000000004f000000005365d98000ea18865000003b5930000000000000001400019000000000019100000000000006300000000000000014800000003ac001440000000000000000000000000000000000000000000000000000000000000000000000000000000000000000000000000000000000000000000000000000069000001ac000000000000000000000000000000000004e, 0xe927d0000065000000000018f0019000000e95960006a000000000000000000000000000000134000000000000000000000000000000000000000000, []⟩,
   ⟨0x69000001ac0000000000000000000000000000000000000, 0xe98000006a000000000000000000000000000000000000000000000000000000000000000000000000000, []⟩,
   ⟨0x1bc000000000000000000000000000, 0xe9c000000000000000000000000000000000000000000000000000000000000000000000000000000000000000, []⟩],
  [⟨0, 0, [⟨.specialDefinition, 7, 0xa9c2094805b092d1000000000052fff⟩]⟩,
   ⟨0x1bc000000000000000000000000000, 0xea0000000000000000000000000000000000000000000000000000000000000000000000000000000000000000, []⟩,
   ⟨0, 0, [⟨.modifierDefinition, 1, 0xa9c2094805b092d1000000000052fff⟩]⟩,
   ⟨0x65400648ec0000000000000000004f000000005365d98000ea18865000003b5930000000000000001400019000000000019100000000000006300000000000000014800000003ac001440000000000000000000000000000000000000000000000000000000000000000000000000000000000000000000000000000000000000000000000000000069000001ac000000000000000000000000000000000004e, 0xea67d0000065000000000018f0019000000ea9960006a000000000000000000000000000000134000000000000000000000000000000000000000000, []⟩,
   ⟨0x69000001ac0000000000000000000000000000000000000, 0xeac000006a000000000000000000000000000000000000000000000000000000000000000000000000000, []⟩,
   ⟨0x1bc000000000000000000000000000, 0xeb0000000000000000000000000000000000000000000000000000000000000000000000000000000000000000, []⟩,
   ⟨0, 0, [⟨.modifierDefinition, 7, 0xa9c2094805b092d1000000000052fff⟩]⟩,
   ⟨0x3ad000000000000000000000000000000000000000000000, 0, []⟩,
   ⟨0, 0, [⟨.plainStatement, 19, 0xc79540a480f0fa2f961910000001affd⟩]⟩,
   ⟨0, 0, [⟨.openStatement, 1, 0xc79540a480f0ba2f961910000001affd⟩]⟩,
   ⟨0, 0, [⟨.closedStatement, 1, 0xc79540a480f0fa2f961910000001affd⟩]⟩,
   ⟨0x3ae000000000000000000000000000000, 0, []⟩,
   ⟨0xd500000000d8248df080000002b000320016a000de0000000000000000c40021c0000038000000b000000000000000000350913582100000000003800036c860b80037000000000b4000cc373742f36400000300008922000000000008b22800000850000000084000000000000000000000000000000000000000000000000000000000000003b1000001ac00070000a4360d4340ec3a0e424098280002a, 0x34fb0ebc0036800000e100000000d7388781dc791e87b1f07d1f87f200810008220c230881e07c8e23ce30f41a2349006c2507427, []⟩,
   ⟨0xd500000000d8248df080000002b000320016a000de0000000000000000c40021c0000038000000b000000000000000000350913582100000000003800036c860b80037000000000b4000cc373742f36400000300008922000000000008b22800000850000000084000000000000000000000000000000000000000000000000000000000000003b4000001ac00070000a4360d4340ec3a0e424098280002a, 0x34fb3ec80036800000e100000000d7388781dc791e87b1f07d1f87f200810008220c230881e07c8e23ce30f41a2349006c2507427, []⟩,
   ⟨0, 0, [⟨.openStatement, 5, 0xc79540a480f0ba2f961910000001affd⟩]⟩,
   ⟨0, 0, [⟨.closedStatement, 6, 0xc79540a480f0fa2f961910000001affd⟩]⟩,
   ⟨0, 0, [⟨.closedStatement, 14, 0xc79540a480f0fa2f961910000001affd⟩]⟩,
   ⟨0xd500000000d8248df080000002b000320016a000de0000000000000000c40021c0000038000000b000000000000000000350913582100000000003800036c860b80037000000000b4000cc373742f36400000300008922000000000008b22800000850000000084000000000000000000000000000000000000000000000000000000000000003b7000001ac00070000a4360d4340ec3a0e424098280002a, 0x34fb6ed40036800000e100000000d7388781dc791e87b1f07d1f87f200810008220c230881e07c8e23ce30f41a2349006c2507427, []⟩,
   ⟨0, 0, [⟨.openStatement, 7, 0xc79540a480f0ba2f961910000001affd⟩]⟩,
   ⟨0, 0, [⟨.closedStatement, 8, 0xc79540a480f0fa2f961910000001affd⟩]⟩,
   ⟨0, 0, [⟨.closedStatement, 16, 0xc79540a480f0fa2f961910000001affd⟩]⟩,
   ⟨0, 0, [⟨.openStatement, 8, 0xc79540a480f0ba2f961910000001affd⟩]⟩,
   ⟨0, 0, [⟨.closedStatement, 9, 0xc79540a480f0fa2f961910000001affd⟩]⟩,
   ⟨0, 0, [⟨.closedStatement, 17, 0xc79540a480f0fa2f961910000001affd⟩]⟩,
   ⟨0xee0000000000000000005e40000000000000000000000000000000000000, 0x3b9000000000000000000000000000000000000000000000000000000000000000000000000000000000000000000000000000000000, []⟩,
   ⟨0x26398a61982670025f0025e00000976669723496e3396a5995a5895c009565494e529465093c000024e92e4a002499364c00000000009224791a44916439080000241002408fe3d0023e8f23b0023a8e6388de358d8000000000000000000000000000000000000000000000000000000000000000000000000000000000000000000000000000000000000000000000000009926500000000000000000232, 0xb9000ee8000000000000000000000000000000000000000000b94000000000000000000000000000000000000000000000000000000000b9800000000000000000000000000000000000000000000000000000000000000000000000000000, []⟩,
   ⟨0, 0, [⟨.yulFunction, 3, 0xfd5ffefff7efe7dff800000000018301⟩]⟩,
   ⟨0, 0, [⟨.yulCase, 0, 0xfd5ffefff7efeffff800000000018301⟩]⟩,
   ⟨0, 0, [⟨.yulFor, 0, 0xfd5ffefff7efe7dff800000000018301⟩]⟩,
   ⟨0x26398a61982670025fb5a5e00000976669723496e3396a5995a5895c009565494e529465093c000024e92e4a002499364c00000002d79224791a44916439080000241002408fe3d0023e8f23b0023a8e6388de358d80000000000000000000000000000000000000000000000000000000000000000000000000000000000000000000000000000000000000000000000000099265b6400b6000b682800232, 0xeeed5002d400000b4c000000000000000000000000000000008c4000000000000000000000000000000000000000000000000000000000000000000000000002db, []⟩,
   ⟨0, 0, [⟨.yulExpressionTail, 0, 0x21000⟩]⟩,
   ⟨0, 0, [⟨.yulTypedNameTail, 1, 0xfd5ffefff7efe7dff800000002039301⟩]⟩],
  [⟨0, 0, [⟨.plainStatement, 8, 0xc79540a480f0fa2f961910000001affd⟩]⟩,
   ⟨0, 0, [⟨.catchClause, 0, 0xc79540a480f0fa6f961910000001affd⟩]⟩,
   ⟨0x1ac0000000000000000000000000000000000000, 0x3bc000000000000000000000000000000000000000000000000000000000000000000000000000, []⟩,
   ⟨0x69000001ac0000000000000000000000000000000000000, 0xef4000006a000000000000000000000000000000000000000000000000000000000000000000000000000, []⟩,
   ⟨0x1bc000000000000000000000000000, 0xef8000000000000000000000000000000000000000000000000000000000000000000000000000000000000000, []⟩,
   ⟨0, 0, [⟨.specialDefinition, 3, 0xa9c2094805b092d1000000000052fff⟩]⟩,
   ⟨0, 0, [⟨.specialDefinition, 4, 0xa9c2094805b092d1000000000052fff⟩]⟩,
   ⟨0x69000001ac0000000000000000000000000000000000000, 0xefc000006a000000000000000000000000000000000000000000000000000000000000000000000000000, []⟩,
   ⟨0x69000001ac0000000000000000000000000000000000000, 0xf00000006a000000000000000000000000000000000000000000000000000000000000000000000000000, []⟩,
   ⟨0x1bc000000000000000000000000000, 0xf04000000000000000000000000000000000000000000000000000000000000000000000000000000000000000, []⟩,
   ⟨0, 0, [⟨.modifierDefinition, 3, 0xa9c2094805b092d1000000000052fff⟩]⟩,
   ⟨0, 0, [⟨.modifierDefinition, 4, 0xa9c2094805b092d1000000000052fff⟩]⟩,
   ⟨0x69000001ac0000000000000000000000000000000000000, 0xf08000006a000000000000000000000000000000000000000000000000000000000000000000000000000, []⟩,
   ⟨0, 0, [⟨.plainStatement, 18, 0xc79540a480f0fa2f961910000001affd⟩]⟩,
   ⟨0xd500000000d8248df080000002b000320016a000de0000000000000000c40021c0000038000000b000000000000000000350913582100000000003800036c860b80037000000000b4000cc373742f36400000300008922000000000008b22800000850000000084000000000000000000000000000000000000000000000000000000000000003c5000001ac00070000a4360d4340ec3a0e424098280002a, 0x34fc4f0c0036800000e100000000d7388781dc791e87b1f07d1f87f200810008220c230881e07c8e23ce30f41a2349006c2507427, []⟩,
   ⟨0, 0, [⟨.openStatement, 3, 0xc79540a480f0ba2f961910000001affd⟩]⟩,
   ⟨0, 0, [⟨.closedStatement, 4, 0xc79540a480f0fa2f961910000001affd⟩]⟩,
   ⟨0, 0, [⟨.closedStatement, 12, 0xc79540a480f0fa2f961910000001affd⟩]⟩,
   ⟨0, 0, [⟨.openStatement, 4, 0xc79540a480f0ba2f961910000001affd⟩]⟩,
   ⟨0, 0, [⟨.closedStatement, 5, 0xc79540a480f0fa2f961910000001affd⟩]⟩,
   ⟨0, 0, [⟨.closedStatement, 13, 0xc79540a480f0fa2f961910000001affd⟩]⟩,
   ⟨0, 0, [⟨.openStatement, 6, 0xc79540a480f0ba2f961910000001affd⟩]⟩,
   ⟨0, 0, [⟨.closedStatement, 7, 0xc79540a480f0fa2f961910000001affd⟩]⟩,
   ⟨0, 0, [⟨.closedStatement, 15, 0xc79540a480f0fa2f961910000001affd⟩]⟩,
   ⟨0x26398a61982670025f0025e00000976669723496e3396a5995a5895c009565494e529465093c000024e92e4a002499364c00000000009224791a44916439080000241002408fe3d0023e8f23b0023a8e6388de358d8000000000000000000000000000000000000000000000000000000000000000000000000000000000000000000000000000000000000000000000000009926500000000000000000232, 0xb9000f18000000000000000000000000000000000000000000b94000000000000000000000000000000000000000000000000000000000b9800000000000000000000000000000000000000000000000000000000000000000000000000000, []⟩,
   ⟨0, 0, [⟨.yulFunction, 1, 0xfd5ffefff7efe7dff800000000018301⟩]⟩,
   ⟨0x5e40000000000000000000000000000000000000, 0x3c7000000000000000000000000000000000000000000000000000000000000000000000000000000000000000000000000000000000, []⟩,
   ⟨0, 0, [⟨.yulExpressionTail, 1, 0x21000⟩]⟩,
   ⟨0, 0, [⟨.catchClause, 2, 0xc79540a480f0fa6f961910000001affd⟩]⟩,
   ⟨0, 0, [⟨.specialDefinition, 0, 0xa9c2094805b092d1000000000052fff⟩]⟩,
   ⟨0x69000001ac0000000000000000000000000000000000000, 0xf20000006a000000000000000000000000000000000000000000000000000000000000000000000000000, []⟩,
   ⟨0, 0, [⟨.specialDefinition, 6, 0xa9c2094805b092d1000000000052fff⟩]⟩],
  [⟨0, 0, [⟨.modifierDefinition, 0, 0xa9c2094805b092d1000000000052fff⟩]⟩,
   ⟨0x69000001ac0000000000000000000000000000000000000, 0xf24000006a000000000000000000000000000000000000000000000000000000000000000000000000000, []⟩,
   ⟨0, 0, [⟨.modifierDefinition, 6, 0xa9c2094805b092d1000000000052fff⟩]⟩,
   ⟨0, 0, [⟨.openStatement, 2, 0xc79540a480f0ba2f961910000001affd⟩]⟩,
   ⟨0, 0, [⟨.closedStatement, 3, 0xc79540a480f0fa2f961910000001affd⟩]⟩,
   ⟨0, 0, [⟨.closedStatement, 11, 0xc79540a480f0fa2f961910000001affd⟩]⟩,
   ⟨0x5e40000000000000000000000000000000000000, 0x3ca000000000000000000000000000000000000000000000000000000000000000000000000000000000000000000000000000000000, []⟩,
   ⟨0, 0, [⟨.yulFunction, 2, 0xfd5ffefff7efe7dff800000000018301⟩]⟩,
   ⟨0, 0, [⟨.specialDefinition, 2, 0xa9c2094805b092d1000000000052fff⟩]⟩,
   ⟨0, 0, [⟨.modifierDefinition, 2, 0xa9c2094805b092d1000000000052fff⟩]⟩,
   ⟨0, 0, [⟨.yulFunction, 0, 0xfd5ffefff7efe7dff800000000018301⟩]⟩]]

/-- The state with a given number; past the last one, a state that leads nowhere. -/
def state (number : Nat) : AutomatonState :=
  ((blocks.getD (number / 32) []).getD (number % 32) ⟨0, 0, []⟩)

/-- The digit of a map at a code, if it is not 0. -/
def digit? (map code : Nat) : Option Nat :=
  match (map >>> (10 * code)) % 1024 with
  | 0 => none
  | next => some next

/-- The state after reading a terminal. -/
def read? (number : Nat) (t : Terminal) : Option Nat := digit? (state number).reads t.code

/-- The state after a nonterminal has been put together. -/
def join? (number : Nat) (n : Nonterminal) : Option Nat := digit? (state number).joins n.ctorIdx

/-- The rule that is complete before a terminal. -/
def complete? (number : Nat) (t : Terminal) : Option (Nonterminal × Nat) :=
  ((state number).completions.find? fun c => c.before.testBit t.code).map fun c => (c.nonterminal, c.rule)

end Automaton

end SoliditySchema.Grammar

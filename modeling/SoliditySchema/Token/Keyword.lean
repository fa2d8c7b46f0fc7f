/-
  SoliditySchema.Token.Keyword — the reserved words.

  A word spelled like one of these is that keyword and never an identifier, though the grammar takes
  some of them as names (`revert`, `default`, and many more inside assembly).
-/

import SoliditySchema.Identifier

namespace SoliditySchema

/-- A reserved word, named by its spelling. -/
inductive Keyword where
  | kwAbstract | kwAddress | kwAnonymous | kwAs | kwAssembly | kwBool | kwBreak | kwByte | kwBytes
  | kwCalldata | kwCase | kwCatch | kwConstant | kwConstructor | kwContinue | kwContract | kwDefault
  | kwDelete | kwDo | kwElse | kwEmit | kwEnum | kwEvent | kwExternal | kwFallback | kwFalse | kwFor
  | kwFunction | kwIf | kwImmutable | kwImport | kwIndexed | kwInstance | kwInterface | kwInternal
  | kwIs | kwLeave | kwLet | kwLibrary | kwMapping | kwMemory | kwModifier | kwNew | kwOverride
  | kwPayable | kwPersistent | kwPragma | kwPrivate | kwPublic | kwPure | kwReceive | kwReturn
  | kwReturns | kwRevert | kwStorage | kwString | kwStruct | kwSwitch | kwTemporary | kwThrow | kwTrue
  | kwTry | kwType | kwUnchecked | kwUsing | kwView | kwVirtual | kwWhile
  deriving DecidableEq, Repr

namespace Keyword

/-- The word itself. -/
def spelling : Keyword → String
  | .kwAbstract => "abstract"
  | .kwAddress => "address"
  | .kwAnonymous => "anonymous"
  | .kwAs => "as"
  | .kwAssembly => "assembly"
  | .kwBool => "bool"
  | .kwBreak => "break"
  | .kwByte => "byte"
  | .kwBytes => "bytes"
  | .kwCalldata => "calldata"
  | .kwCase => "case"
  | .kwCatch => "catch"
  | .kwConstant => "constant"
  | .kwConstructor => "constructor"
  | .kwContinue => "continue"
  | .kwContract => "contract"
  | .kwDefault => "default"
  | .kwDelete => "delete"
  | .kwDo => "do"
  | .kwElse => "else"
  | .kwEmit => "emit"
  | .kwEnum => "enum"
  | .kwEvent => "event"
  | .kwExternal => "external"
  | .kwFallback => "fallback"
  | .kwFalse => "false"
  | .kwFor => "for"
  | .kwFunction => "function"
  | .kwIf => "if"
  | .kwImmutable => "immutable"
  | .kwImport => "import"
  | .kwIndexed => "indexed"
  | .kwInstance => "instance"
  | .kwInterface => "interface"
  | .kwInternal => "internal"
  | .kwIs => "is"
  | .kwLeave => "leave"
  | .kwLet => "let"
  | .kwLibrary => "library"
  | .kwMapping => "mapping"
  | .kwMemory => "memory"
  | .kwModifier => "modifier"
  | .kwNew => "new"
  | .kwOverride => "override"
  | .kwPayable => "payable"
  | .kwPersistent => "persistent"
  | .kwPragma => "pragma"
  | .kwPrivate => "private"
  | .kwPublic => "public"
  | .kwPure => "pure"
  | .kwReceive => "receive"
  | .kwReturn => "return"
  | .kwReturns => "returns"
  | .kwRevert => "revert"
  | .kwStorage => "storage"
  | .kwString => "string"
  | .kwStruct => "struct"
  | .kwSwitch => "switch"
  | .kwTemporary => "temporary"
  | .kwThrow => "throw"
  | .kwTrue => "true"
  | .kwTry => "try"
  | .kwType => "type"
  | .kwUnchecked => "unchecked"
  | .kwUsing => "using"
  | .kwView => "view"
  | .kwVirtual => "virtual"
  | .kwWhile => "while"

/-- Every keyword, in the order of the alphabet. -/
def all : List Keyword := [
  .kwAbstract, .kwAddress, .kwAnonymous, .kwAs, .kwAssembly, .kwBool, .kwBreak, .kwByte, .kwBytes,
  .kwCalldata, .kwCase, .kwCatch, .kwConstant, .kwConstructor, .kwContinue, .kwContract, .kwDefault,
  .kwDelete, .kwDo, .kwElse, .kwEmit, .kwEnum, .kwEvent, .kwExternal, .kwFallback, .kwFalse, .kwFor,
  .kwFunction, .kwIf, .kwImmutable, .kwImport, .kwIndexed, .kwInstance, .kwInterface, .kwInternal,
  .kwIs, .kwLeave, .kwLet, .kwLibrary, .kwMapping, .kwMemory, .kwModifier, .kwNew, .kwOverride,
  .kwPayable, .kwPersistent, .kwPragma, .kwPrivate, .kwPublic, .kwPure, .kwReceive, .kwReturn,
  .kwReturns, .kwRevert, .kwStorage, .kwString, .kwStruct, .kwSwitch, .kwTemporary, .kwThrow, .kwTrue,
  .kwTry, .kwType, .kwUnchecked, .kwUsing, .kwView, .kwVirtual, .kwWhile]

/-- The keyword that a word spells. -/
def ofWord? (word : List Char) : Option Keyword := all.find? fun k => k.spelling.toList == word

/-- The keyword read as a name, where the grammar allows that. -/
def toIdentifier (k : Keyword) : Identifier :=
  ⟨k.spelling, by cases k <;> decide +kernel, by cases k <;> decide +kernel⟩

end Keyword

end SoliditySchema

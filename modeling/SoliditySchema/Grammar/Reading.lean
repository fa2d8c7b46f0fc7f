/-
  SoliditySchema.Grammar.Reading — reading the tokens of a source file into its tree.

  A stack holds the symbols read so far, each with the state of the automaton behind it. As long as a
  rule is complete before the next token its symbols are replaced by the nonterminal; then the token is
  read. A token with which no state goes on is an error, and reading tries to go on all the same:

  1. the rules that are complete before text that cannot be read are completed;
  2. from the top of the stack down, a state is looked for in which such text may stand and behind
     which the next token can then be read; while there is none, tokens are skipped;
  3. everything above that state is given up for the symbol `failure`, whose value is the error.

  An error counts when a rule takes in its `failure`; one at which no state can be found is the last.
  A file without any error is a tree.
-/

import SoliditySchema.Grammar.Automaton
import SoliditySchema.Token.Lexeme

namespace SoliditySchema

namespace Grammar

/-- What the automaton does in a state before a terminal. -/
inductive Action where
  | read (next : Nat)
  | complete (nonterminal : Nonterminal) (rule : Rule)
  | stuck

/-- The action in a state before a terminal. -/
def Automaton.action (state : Nat) (t : Terminal) : Action :=
  match read? state t with
  | some next => .read next
  | none =>
    match complete? state t with
    | some (n, place) =>
      match (Rule.all n)[place]? with
      | some rule => .complete n rule
      | none => .stuck
    | none => .stuck

/-- A symbol on the stack: the state behind it and its value. -/
structure Frame where
  state : Nat
  value : Value

/-- The symbols read so far, the last one first. -/
abbrev Stack := List Frame

namespace Stack

/-- The states of a stack, the last one first. -/
def states (stack : Stack) : List Nat := stack.map Frame.state

/-- The state of the automaton, which begins in state 0. -/
def state : Stack → Nat
  | [] => 0
  | top :: _ => top.state

/-- The values of the last symbols, as many as the rule has, in order. -/
def ruleValues (stack : Stack) (rule : Rule) : List Value :=
  ((stack.take rule.symbols.length).map Frame.value).reverse

/-- The stack of states after a rule has been completed. -/
def joinStates (states : List Nat) (n : Nonterminal) (rule : Rule) : List Nat :=
  let below := states.drop rule.symbols.length
  (Automaton.join? (below.headD 0) n).getD 0 :: below

/-- The stack after a rule has been completed. -/
def join (stack : Stack) (n : Nonterminal) (rule : Rule) : Stack :=
  let below : Stack := stack.drop rule.symbols.length
  let values := stack.ruleValues rule
  ⟨(Automaton.join? below.state n).getD 0, rule.value fun i => values.getD i .absent⟩ :: below

/-- The errors that a rule takes in. -/
def failures (stack : Stack) (rule : Rule) : List SyntaxError :=
  (stack.ruleValues rule).filterMap Value.failure?

end Stack

namespace Reading

/-- The terminal that comes next. -/
def next (tokens : List PlacedToken) : Terminal :=
  match tokens with
  | [] => .finish
  | t :: _ => .ofToken t.token

/-- The error that the next token is wrong; `finish` is where the last token ends. -/
def unexpected (finish : Nat) (tokens : List PlacedToken) : SyntaxError :=
  match tokens with
  | [] => ⟨finish, .unexpectedEnd⟩
  | t :: _ => ⟨t.start, .unexpectedToken t.token⟩

/-- A terminal can be read after completing rules, or ends the file. -/
def canRead : Nat → List Nat → Terminal → Bool
  | 0, _, _ => false
  | fuel + 1, states, t =>
    match Automaton.action (states.headD 0) t with
    | .read _ => true
    | .complete n rule => n == .start || canRead fuel (Stack.joinStates states n rule) t
    | .stuck => false

/-- Completes the rules that are complete before text that cannot be read. -/
def settle : Nat → Stack → List SyntaxError → Stack × List SyntaxError
  | 0, stack, errors => (stack, errors)
  | fuel + 1, stack, errors =>
    match Automaton.action (stack.state) .failure with
    | .complete n rule => settle fuel (stack.join n rule) (errors ++ stack.failures rule)
    | _ => (stack, errors)

/-- The longest lower part of the stack at which unreadable text may stand with `t` after it, and the
state behind that text. -/
def restart? (fuel : Nat) (stack : Stack) (t : Terminal) : Option (Stack × Nat) :=
  let here := (Automaton.read? (stack.state) .failure).filter fun next =>
    canRead fuel (next :: stack.states) t
  match here, stack with
  | some next, _ => some (stack, next)
  | none, [] => none
  | none, _ :: below => restart? fuel below t

/-- Skips tokens up to one at which reading can restart. -/
def skipTo? (fuel : Nat) (stack : Stack) : List PlacedToken → Option (Stack × Nat × List PlacedToken)
  | [] => (restart? fuel stack .finish).map fun r => (r.1, r.2, [])
  | t :: ts =>
    match restart? fuel stack (.ofToken t.token) with
    | some r => some (r.1, r.2, t :: ts)
    | none => skipTo? fuel stack ts

/-- The tree of a whole file, from the value of its last symbol. -/
def treeOf : Stack → SourceTree
  | ⟨_, .sourceTree tree⟩ :: _ => tree
  | _ => ⟨[]⟩

/-- Reads on: the errors that count, and the tree if the file could be read to its end. -/
def run (finish : Nat) : Nat → Stack → List SyntaxError → List PlacedToken → List SyntaxError × Option SourceTree
  | 0, _, errors, tokens => (errors ++ [unexpected finish tokens], none)
  | fuel + 1, stack, errors, tokens =>
    match Automaton.action (stack.state) (next tokens), tokens with
    | .read state, t :: rest => run finish fuel (⟨state, .token t⟩ :: stack) errors rest
    | .complete n rule, _ =>
      if n = .start then (errors, some (treeOf stack))
      else run finish fuel (stack.join n rule) (errors ++ stack.failures rule) tokens
    | _, _ =>
      let error := unexpected finish tokens
      let (settled, errors') := settle fuel stack errors
      match skipTo? fuel settled tokens with
      | some (below, state, rest) => run finish fuel (⟨state, .failure error⟩ :: below) errors' rest
      | none => (errors' ++ [error], none)

/-- Enough steps for so many tokens: no token makes more than a few dozen rules complete. -/
def fuel (tokens : Nat) : Nat := 256 * (tokens + 4)

/-- Where the last token ends. -/
def finish (tokens : List PlacedToken) : Nat := (tokens.getLast?.map PlacedToken.stop).getD 0

/-- Reads the tokens of a whole file: the errors that count, and the tree if there is one. -/
def ofTokens (tokens : List PlacedToken) : List SyntaxError × Option SourceTree :=
  run (finish tokens) (fuel tokens.length) [] [] tokens

end Reading

end Grammar

namespace SourceTree

/-- Reads a text as a source file: its tree, or all its errors, those of the characters before those of
the tokens. -/
def ofText (text : List Char) : Except (List SyntaxError) SourceTree :=
  let scan := Scan.ofText text
  match Grammar.Reading.ofTokens scan.tokens with
  | (errors, some tree) =>
    match scan.faults ++ errors with
    | [] => .ok tree
    | e :: es => .error (e :: es)
  | (errors, none) => .error (scan.faults ++ errors)

end SourceTree

end SoliditySchema

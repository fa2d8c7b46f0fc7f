/-
  SoliditySchema.Item.ByteWalk — cutting a text by a walk over its bytes.

  The walk keeps byte offsets: where the item begins, where it stands, and how many braces are open. It
  leaps over a comment to its end, which it looks for in the rest of the text, and over a literal byte by
  byte, a backslash taking one more byte with it. An item is the part of the text between two offsets.
  Both a rest and a part may fail to be there, if an offset falls inside a character; then there is no
  result.
-/

import SoliditySchema.Item
import SoliditySchema.Proofs.Text.Slice

namespace SoliditySchema.Item

/-- A character below U+0080 as its byte. -/
def byte (c : Char) : UInt8 := c.toUInt8

/-- The number of bytes before the closing quote of a literal; a backslash at the very end counts
twice. -/
def closing (quote : UInt8) : List UInt8 → Nat
  | [] => 0
  | [b] => if b = quote then 0 else if b = byte '\\' then 2 else 1
  | b :: b' :: bs =>
    if b = quote then 0
    else if b = byte '\\' then closing quote bs + 2
    else closing quote (b' :: bs) + 1

/-- Adds the part between two offsets to the items, unless it is blank. -/
def push? (text : List Char) (start stop : Nat) (items : List Item) : Option (List Item) :=
  (Text.slice? text start stop).map fun part =>
    if Text.isBlankText part then items else items ++ [⟨start, part⟩]

/-- The end of a line comment lies behind its beginning, since the byte there is no newline. -/
theorem here_lt_lineEnd {text rest : List Char} {here : Nat} {bs : List UInt8}
    (h : (Text.bytes text).drop here = byte '/' :: bs) (hrest : Text.dropBytes? text here = some rest) :
    here < ((Text.find? ['\n'] rest).map (here + ·)).getD (Text.bytes text).length := by
  have hlt : here < (Text.bytes text).length := by
    have := congrArg List.length h
    rw [List.length_drop, List.length_cons] at this
    omega
  have hbytes := (Text.drop_bytes_of_dropBytes? hrest).symm.trans h
  cases hfind : Text.find? ['\n'] rest with
  | none => exact hlt
  | some k =>
    have hk : 0 < k := by
      cases rest with
      | nil => cases hfind
      | cons c cs =>
        unfold Text.find? at hfind
        split at hfind
        · rename_i hprefix
          obtain ⟨cs', hcs⟩ := List.isPrefixOf_iff_prefix.mp hprefix
          injection hcs with hc _
          subst hc
          rw [Text.bytes_cons, Text.encode_ascii (by decide)] at hbytes
          injection hbytes with hb _
          exact absurd hb (by decide)
        · obtain ⟨n, -, rfl⟩ := Option.map_eq_some_iff.mp hfind
          have := c.utf8Size_pos
          omega
    show here < here + k
    omega

/-- Walks on at byte offset `here`, in an item that begins at `start`, behind `depth` open braces. -/
def walk (text : List Char) (start depth here : Nat) (items : List Item) : Option (List Item) :=
  match h : (Text.bytes text).drop here with
  | [] => if start < (Text.bytes text).length then push? text start (Text.bytes text).length items else some items
  | b :: bs =>
    if hb : b = byte '/' ∧ bs.head? = some (byte '/') then
      match _hrest : Text.dropBytes? text here with
      | none => none
      | some rest =>
        walk text start depth (((Text.find? ['\n'] rest).map (here + ·)).getD (Text.bytes text).length) items
    else if b = byte '/' ∧ bs.head? = some (byte '*') then
      match Text.dropBytes? text (here + 2) with
      | none => none
      | some rest =>
        walk text start depth (((Text.find? ['*', '/'] rest).map (here + 2 + · + 2)).getD (Text.bytes text).length) items
    else if b = byte '"' ∨ b = byte '\'' then
      walk text start depth (here + 1 + closing b bs + 1) items
    else if b = byte '{' then walk text start (depth + 1) (here + 1) items
    else if b = byte '}' then
      if depth - 1 = 0 then do
        let items' ← push? text start (here + 1) items
        walk text (here + 1) 0 (here + 1) items'
      else walk text start (depth - 1) (here + 1) items
    else if b = byte ';' ∧ depth = 0 then do
      let items' ← push? text start (here + 1) items
      walk text (here + 1) depth (here + 1) items'
    else walk text start depth (here + 1) items
termination_by (Text.bytes text).length - here
decreasing_by
  all_goals
    have hlt : here < (Text.bytes text).length := by
      have := congrArg List.length h
      rw [List.length_drop, List.length_cons] at this
      omega
  · have := here_lt_lineEnd (hb.1 ▸ h) _hrest
    omega
  · cases Text.find? ['*', '/'] rest with
    | none =>
      show (Text.bytes text).length - (Text.bytes text).length < (Text.bytes text).length - here
      omega
    | some k =>
      show (Text.bytes text).length - (here + 2 + k + 2) < (Text.bytes text).length - here
      omega
  all_goals omega

/-- The items of a text, found by the walk. -/
def ofBytes? (text : List Char) : Option (List Item) := walk text 0 0 0 []

end SoliditySchema.Item

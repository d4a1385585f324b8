import Attestation.Json.Basic
import Attestation.Text.Utf8

/-!
Reading structured values in two steps. `Tree.parse?` follows the grammar alone and keeps every
member in order, also two of one name. `Tree.value?` gives the tree a meaning: strings must be text,
numbers must be in range, nesting is limited and the last member of a name stands. A reader that
skips a member never asks for its meaning.
-/
namespace Attestation.Json

inductive Tree where
  | null
  | bool (b : Bool)
  /-- `none` is a number too large for any value. -/
  | number (n : Option Number)
  /-- `none` is a string with half of a surrogate pair, or one that is not UTF-8. -/
  | string (s : Option String)
  | array (items : List Tree)
  | object (members : List (Option String × Tree))
  deriving Inhabited

namespace Tree

/-! Numbers. -/

def isDigit (b : UInt8) : Bool := 48 ≤ b && b ≤ 57

def digitValue (b : UInt8) : Nat := b.toNat - 48

/-- The significand holds at most 64 bits. -/
def significandLimit : Nat := 1 <<< 64

/-- Takes digits into a significand as long as it has room, and says how many were left out. -/
def significandOf : Nat → List UInt8 → Nat × Nat
  | n, [] => (n, 0)
  | n, d :: ds =>
    if n * 10 + digitValue d < significandLimit then significandOf (n * 10 + digitValue d) ds
    else (n, ds.length + 1)

def natOf (digits : List UInt8) : Nat := digits.foldl (fun n d => n * 10 + digitValue d) 0

/-- The parts of a number as it is written. -/
structure Numeral where
  negative : Bool
  whole : List UInt8
  fraction : Option (List UInt8)
  exponent : Option (Bool × List UInt8)

namespace Numeral

/-- The whole part as a number if nothing but a sign is beside it and it fits 64 bits. -/
def integer? (n : Numeral) : Option Int :=
  let value := natOf n.whole
  if n.fraction.isSome || n.exponent.isSome then none
  else if n.negative then
    if 0 < value ∧ value ≤ 1 <<< 63 then some (-Int.ofNat value) else none
  else if value < significandLimit then some (Int.ofNat value)
  else none

/-- The significand and the decimal exponent that the digits stand for. -/
def decimal (n : Numeral) : Nat × Int :=
  let (s, dropped) := significandOf 0 n.whole
  let fraction := n.fraction.getD []
  let (s, ignored) := significandOf s fraction
  let shift := match n.exponent with
    | none => 0
    | some (negative, digits) => if negative then -Int.ofNat (natOf digits) else Int.ofNat (natOf digits)
  (s, Int.ofNat dropped - Int.ofNat (fraction.length - ignored) + shift)

def value? (n : Numeral) : Option Number :=
  match n.integer? with
  | some i => some (.integer i)
  | none =>
    let (s, e) := n.decimal
    (Binary64.ofDecimal? s e).map fun x => .real (if n.negative then x.neg else x)

end Numeral

def digits (bytes : Bytes) : List UInt8 × Bytes := bytes.span isDigit

def fractionPart? : Bytes → Option (Option (List UInt8) × Bytes)
  | 46 :: rest =>
    let (ds, rest) := digits rest
    if ds.isEmpty then none else some (some ds, rest)
  | rest => some (none, rest)

def exponentSign : Bytes → Bool × Bytes
  | 43 :: rest => (false, rest)
  | 45 :: rest => (true, rest)
  | rest => (false, rest)

def exponentPart? : Bytes → Option (Option (Bool × List UInt8) × Bytes)
  | [] => some (none, [])
  | b :: rest =>
    if b = 101 ∨ b = 69 then
      let (negative, rest) := exponentSign rest
      let (ds, rest) := digits rest
      if ds.isEmpty then none else some (some (negative, ds), rest)
    else some (none, b :: rest)

/-- No digit follows a leading zero. -/
def wholePart? (bytes : Bytes) : Option (List UInt8 × Bytes) :=
  let (ds, rest) := digits bytes
  match ds with
  | [] => none
  | 48 :: _ :: _ => none
  | ds => some (ds, rest)

def numeral? (negative : Bool) (bytes : Bytes) : Option (Numeral × Bytes) := do
  let (whole, rest) ← wholePart? bytes
  let (fraction, rest) ← fractionPart? rest
  let (exponent, rest) ← exponentPart? rest
  return (⟨negative, whole, fraction, exponent⟩, rest)

/-! Strings. -/

def hexValue? (b : UInt8) : Option Nat :=
  if 48 ≤ b ∧ b ≤ 57 then some (b.toNat - 48)
  else if 97 ≤ b ∧ b ≤ 102 then some (b.toNat - 87)
  else if 65 ≤ b ∧ b ≤ 70 then some (b.toNat - 55)
  else none

/-- The number of a four-digit escape. -/
def codeUnit? : Bytes → Option (Nat × Bytes)
  | a :: b :: c :: d :: rest => do
    let a ← hexValue? a
    let b ← hexValue? b
    let c ← hexValue? c
    let d ← hexValue? d
    return (((a * 16 + b) * 16 + c) * 16 + d, rest)
  | _ => none

/-- The second half of a surrogate pair, if the escape that follows is one. -/
def trailingUnit? : Bytes → Option (Nat × Bytes)
  | 92 :: 117 :: rest => do
    let (unit, rest) ← codeUnit? rest
    if 0xdc00 ≤ unit ∧ unit < 0xe000 then return (unit, rest) else none
  | _ => none

/-- The bytes that a two-character escape stands for. -/
def simpleEscape? (b : UInt8) : Option UInt8 :=
  if b = 34 ∨ b = 92 ∨ b = 47 then some b
  else if b = 98 then some 8
  else if b = 102 then some 12
  else if b = 110 then some 10
  else if b = 114 then some 13
  else if b = 116 then some 9
  else none

/-- What follows a backslash: its text (`none` for half of a surrogate pair) and the rest. -/
def escape? : Bytes → Option (Option Bytes × Bytes)
  | [] => none
  | 117 :: rest => do
    let (unit, rest) ← codeUnit? rest
    if unit < 0xd800 ∨ 0xe000 ≤ unit then
      return (some (Utf8.encodeChar (Char.ofNat unit)), rest)
    else if unit < 0xdc00 then
      match trailingUnit? rest with
      | some (low, rest) =>
        let n := 0x10000 + (unit - 0xd800) * 0x400 + (low - 0xdc00)
        return (some (Utf8.encodeChar (Char.ofNat n)), rest)
      | none => return (none, rest)
    else return (none, rest)
  | b :: rest => (simpleEscape? b).map fun x => (some [x], rest)

/-- Reads to the closing quote; `seen` holds the content in reverse, `none` once it is no text. -/
def stringBody? : Nat → Option Bytes → Bytes → Option (Option String × Bytes)
  | 0, _, _ => none
  | _, _, [] => none
  | fuel + 1, seen, b :: rest =>
    if b = 34 then some (seen.bind fun s => Utf8.decode? s.reverse, rest)
    else if b = 92 then do
      let (piece, rest) ← escape? rest
      stringBody? fuel (seen.bind fun s => piece.map (·.reverse ++ s)) rest
    else if b < 32 then none
    else stringBody? fuel (seen.map (b :: ·)) rest

def string? (bytes : Bytes) : Option (Option String × Bytes) :=
  stringBody? (bytes.length + 1) (some []) bytes

/-! Values. -/

def isBlank (b : UInt8) : Bool := b == 32 || b == 10 || b == 13 || b == 9

def skipBlanks (bytes : Bytes) : Bytes := bytes.dropWhile isBlank

def word? (word : Bytes) (t : Tree) (bytes : Bytes) : Option (Tree × Bytes) :=
  if word.isPrefixOf bytes then some (t, bytes.drop word.length) else none

def number? (negative : Bool) (bytes : Bytes) : Option (Tree × Bytes) :=
  (numeral? negative bytes).map fun (n, rest) => (number n.value?, rest)

mutual

def read? : Nat → Bytes → Option (Tree × Bytes)
  | 0, _ => none
  | fuel + 1, bytes =>
    match skipBlanks bytes with
    | [] => none
    | 110 :: rest => word? [117, 108, 108] null rest
    | 116 :: rest => word? [114, 117, 101] (bool true) rest
    | 102 :: rest => word? [97, 108, 115, 101] (bool false) rest
    | 45 :: rest => number? true rest
    | 34 :: rest => (string? rest).map fun (s, rest) => (string s, rest)
    | 91 :: rest =>
      match skipBlanks rest with
      | 93 :: rest => some (array [], rest)
      | rest => (items? fuel rest).map fun (items, rest) => (array items, rest)
    | 123 :: rest =>
      match skipBlanks rest with
      | 125 :: rest => some (object [], rest)
      | rest => (members? fuel rest).map fun (members, rest) => (object members, rest)
    | rest => number? false rest

/-- The items up to the closing bracket; there is at least one. -/
def items? : Nat → Bytes → Option (List Tree × Bytes)
  | 0, _ => none
  | fuel + 1, bytes => do
    let (item, rest) ← read? fuel bytes
    match skipBlanks rest with
    | 44 :: rest =>
      let (items, rest) ← items? fuel rest
      return (item :: items, rest)
    | 93 :: rest => return ([item], rest)
    | _ => none

/-- The members up to the closing brace; there is at least one. -/
def members? : Nat → Bytes → Option (List (Option String × Tree) × Bytes)
  | 0, _ => none
  | fuel + 1, bytes =>
    match skipBlanks bytes with
    | 34 :: rest => do
      let (name, rest) ← string? rest
      match skipBlanks rest with
      | 58 :: rest =>
        let (value, rest) ← read? fuel rest
        match skipBlanks rest with
        | 44 :: rest =>
          let (members, rest) ← members? fuel rest
          return ((name, value) :: members, rest)
        | 125 :: rest => return ([(name, value)], rest)
        | _ => none
      | _ => none
    | _ => none

end

/-- Each value takes at least one byte, so nesting never exceeds the length. -/
def parse? (bytes : Bytes) : Option Tree := do
  let (t, rest) ← read? (2 * bytes.length + 2) bytes
  if (skipBlanks rest).isEmpty then return t else none

/-! Meaning. -/

mutual

/-- The value of a tree in which arrays and objects are nested less than `depth` deep. -/
def valueWithin? : Nat → Tree → Option Json
  | _, null => some .null
  | _, bool b => some (.bool b)
  | _, number n => n.map .number
  | _, string s => s.map .string
  | depth, array items =>
    if depth ≤ 1 then none else (itemsWithin? (depth - 1) items).map .array
  | depth, object members =>
    if depth ≤ 1 then none else (membersWithin? (depth - 1) members).map ofMembers

def itemsWithin? : Nat → List Tree → Option (List Json)
  | _, [] => some []
  | depth, item :: rest => do
    let value ← valueWithin? depth item
    let values ← itemsWithin? depth rest
    return value :: values

def membersWithin? : Nat → List (Option String × Tree) → Option (List (String × Json))
  | _, [] => some []
  | depth, (name, item) :: rest => do
    let name ← name
    let value ← valueWithin? depth item
    let values ← membersWithin? depth rest
    return (name, value) :: values

end

def depthLimit : Nat := 128

mutual

/-- The tree of a value, which has one member of each name. -/
def ofJson : Json → Tree
  | .null => null
  | .bool b => bool b
  | .number n => number (some n)
  | .string s => string (some s)
  | .array items => array (ofItems items)
  | .object members => object (ofMembers members)

def ofItems : List Json → List Tree
  | [] => []
  | item :: rest => ofJson item :: ofItems rest

def ofMembers : List (String × Json) → List (Option String × Tree)
  | [] => []
  | (name, value) :: rest => (some name, ofJson value) :: ofMembers rest

end

end Tree

/-- Reads one value that takes up the whole text. -/
def parse? (bytes : Bytes) : Option Json := do
  let t ← Tree.parse? bytes
  t.valueWithin? Tree.depthLimit

end Attestation.Json

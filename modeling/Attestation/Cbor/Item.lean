import Attestation.Bytes
import Attestation.Text.Utf8

/-!
Concise binary objects, and reading one from the front of a byte string. Every reader gives what it
read and the bytes behind it. Lengths need not be in shortest form and may be left open.
-/
namespace Attestation.Cbor

inductive Item where
  | integer (n : Int)
  | bytes (content : Bytes)
  | text (content : String)
  | array (items : List Item)
  | map (entries : List (Item × Item))
  | tag (n : Nat) (item : Item)
  | bool (b : Bool)
  | null
  /-- A floating-point number, by the octets it is written with. -/
  | float (octets : Bytes)
  deriving Inhabited

/-- The head of an item. A length that is left open is `none`. -/
inductive Head where
  | unsigned (n : Nat)
  | negative (n : Nat)
  | bytes (length : Option Nat)
  | text (length : Option Nat)
  | array (length : Option Nat)
  | map (length : Option Nat)
  | tag (n : Nat)
  | simple (n : Nat)
  | float (octets : Bytes)
  | stop
  deriving DecidableEq, Repr

namespace Head

/-- The octets after the first one that hold its argument, where it does not hold it itself. -/
def argumentWidth? (info : Nat) : Option Nat :=
  if info = 24 then some 1
  else if info = 25 then some 2
  else if info = 26 then some 4
  else if info = 27 then some 8
  else none

/-- The argument, with the octets that hold it and the rest. -/
def argument? (info : Nat) (rest : Bytes) : Option (Nat × Bytes × Bytes) :=
  if info < 24 then some (info, [], rest)
  else do
    let width ← argumentWidth? info
    let (octets, rest) ← Bytes.takeExactly width rest
    return (Bytes.toNat octets, octets, rest)

/-- Item types that may leave their length open, and the end mark for it. -/
def openEnded? (major : Nat) : Option Head :=
  if major = 2 then some (bytes none)
  else if major = 3 then some (text none)
  else if major = 4 then some (array none)
  else if major = 5 then some (map none)
  else if major = 7 then some stop
  else none

/-- Type seven holds floating-point numbers of two, four and eight octets, and simple values. -/
def withArgument (major n : Nat) (octets : Bytes) : Head :=
  if major = 0 then unsigned n
  else if major = 1 then negative n
  else if major = 2 then bytes (some n)
  else if major = 3 then text (some n)
  else if major = 4 then array (some n)
  else if major = 5 then map (some n)
  else if major = 6 then tag n
  else if octets.length ≤ 1 then simple n
  else float octets

def read? : Bytes → Option (Head × Bytes)
  | [] => none
  | first :: rest =>
    let major := first.toNat / 32
    let info := first.toNat % 32
    if info = 31 then (openEnded? major).map (·, rest)
    else (argument? info rest).map fun (n, octets, rest) => (withArgument major n octets, rest)

end Head

/-! Sequences of items. -/

section
variable {α : Type} (item? : Bytes → Option (α × Bytes))

def exactly? : Nat → Bytes → Option (List α × Bytes)
  | 0, bytes => some ([], bytes)
  | n + 1, bytes => do
    let (x, rest) ← item? bytes
    let (xs, rest) ← exactly? n rest
    return (x :: xs, rest)

def untilStopWithin? : Nat → Bytes → Option (List α × Bytes)
  | 0, _ => none
  | fuel + 1, bytes =>
    match Head.read? bytes with
    | some (.stop, rest) => some ([], rest)
    | _ => do
      let (x, rest) ← item? bytes
      let (xs, rest) ← untilStopWithin? fuel rest
      return (x :: xs, rest)

/-- Each item takes at least one byte. -/
def untilStop? (bytes : Bytes) : Option (List α × Bytes) :=
  untilStopWithin? item? (bytes.length + 1) bytes

def sequence? : Option Nat → Bytes → Option (List α × Bytes)
  | some n, bytes => exactly? item? n bytes
  | none, bytes => untilStop? item? bytes

def pair? (bytes : Bytes) : Option ((α × α) × Bytes) := do
  let (key, rest) ← item? bytes
  let (value, rest) ← item? rest
  return ((key, value), rest)

end

/-! Strings. A string of open length is written in segments, which may be of open length too. -/

def segmentLength? (isText : Bool) : Head → Option (Option Nat)
  | .bytes n => if isText then none else some n
  | .text n => if isText then some n else none
  | _ => none

/-- The segments up to the stop that closes the outermost string; `inner` strings are open in it. -/
def segmentsWithin? (isText : Bool) : Nat → Nat → Bytes → Option (List Bytes × Bytes)
  | 0, _, _ => none
  | fuel + 1, inner, bytes => do
    let (head, rest) ← Head.read? bytes
    if head = .stop then
      match inner with
      | 0 => return ([], rest)
      | outer + 1 => segmentsWithin? isText fuel outer rest
    else
      match ← segmentLength? isText head with
      | none => segmentsWithin? isText fuel (inner + 1) rest
      | some n =>
        let (segment, rest) ← Bytes.takeExactly n rest
        let (segments, rest) ← segmentsWithin? isText fuel inner rest
        return (segment :: segments, rest)

def segments? (isText : Bool) : Option Nat → Bytes → Option (List Bytes × Bytes)
  | some n, bytes => (Bytes.takeExactly n bytes).map fun (segment, rest) => ([segment], rest)
  | none, bytes => segmentsWithin? isText (bytes.length + 1) 0 bytes

def byteString? (length : Option Nat) (bytes : Bytes) : Option (Bytes × Bytes) :=
  (segments? false length bytes).map fun (segments, rest) => (segments.flatten, rest)

/-- Every segment of a text must be a text by itself. -/
def textString? (length : Option Nat) (bytes : Bytes) : Option (String × Bytes) := do
  let (segments, rest) ← segments? true length bytes
  let texts ← segments.mapM Utf8.decode?
  return (String.join texts, rest)

/-! Items. -/

def integerLimit : Nat := 1 <<< 64

/-- Big numbers have at most sixteen octets. -/
def bigNumberWidth : Nat := 16

/-- The least number that a tagged byte string may stand for is `-bigNegativeLimit`. -/
def bigNegativeLimit : Nat := 1 <<< 127

/-- The octets of a big number: a byte string of stated length under one of the two tags for it. -/
def bigOctets? (tag : Nat) (bytes : Bytes) : Option (Bytes × Bytes) :=
  if tag = 2 ∨ tag = 3 then
    match Head.read? bytes with
    | some (.bytes (some n), rest) =>
      if n ≤ bigNumberWidth then Bytes.takeExactly n rest else none
    | _ => none
  else none

/-- The number that tagged octets stand for. One outside the range of integers stays tagged. -/
def bigNumber? (tag : Nat) (octets : Bytes) : Option Item :=
  let n := Bytes.toNat octets
  if n < integerLimit then some (.integer (if tag = 2 then Int.ofNat n else -1 - Int.ofNat n))
  else if tag = 3 ∧ bigNegativeLimit ≤ n then none
  else some (.tag tag (.bytes octets))

def simple? (n : Nat) : Option Item :=
  if n = 20 then some (.bool false)
  else if n = 21 then some (.bool true)
  else if n = 22 ∨ n = 23 then some .null
  else none

abbrev Reader := Bytes → Option (Item × Bytes)

/-- Reads an item whose parts are read by `part?`; without one, items with parts are refused. -/
def itemWith? (part? : Option Reader) (bytes : Bytes) : Option (Item × Bytes) := do
  let (head, rest) ← Head.read? bytes
  match head with
  | .unsigned n => return (.integer n, rest)
  | .negative n => return (.integer (-1 - Int.ofNat n), rest)
  | .bytes length => (byteString? length rest).map fun (content, rest) => (.bytes content, rest)
  | .text length => (textString? length rest).map fun (content, rest) => (.text content, rest)
  | .array length =>
    let part? ← part?
    (sequence? part? length rest).map fun (items, rest) => (.array items, rest)
  | .map length =>
    let part? ← part?
    (sequence? (pair? part?) length rest).map fun (entries, rest) => (.map entries, rest)
  | .tag n =>
    match bigOctets? n rest with
    | some (octets, rest) => (bigNumber? n octets).map (·, rest)
    | none =>
      let part? ← part?
      (part? rest).map fun (item, rest) => (.tag n item, rest)
  | .simple n => (simple? n).map (·, rest)
  | .float octets => return (.float octets, rest)
  | .stop => none

/-- Reads an item in which arrays, maps and tags are nested at most `depth` deep. -/
def itemWithin? : Nat → Reader
  | 0 => itemWith? none
  | depth + 1 => itemWith? (some (itemWithin? depth))

def depthLimit : Nat := 256

/-- The item at the front of a byte string. What follows it is of no account. -/
def Item.ofBytes? (bytes : Bytes) : Option Item := (itemWithin? depthLimit bytes).map (·.1)

end Attestation.Cbor

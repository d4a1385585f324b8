import Attestation.Bytes

/-!
The distinguished encoding of structured data: elements of an identifier octet, a length and
content, with one encoding for each value.
-/
namespace Attestation.Der

structure Element where
  tag : UInt8
  content : Bytes
  deriving DecidableEq, Repr

def boolean : UInt8 := 0x01
def integer : UInt8 := 0x02
def bitString : UInt8 := 0x03
def octetString : UInt8 := 0x04
def objectIdentifier : UInt8 := 0x06
def utf8String : UInt8 := 0x0c
def printableString : UInt8 := 0x13
def teletexString : UInt8 := 0x14
def ia5String : UInt8 := 0x16
def utcTime : UInt8 := 0x17
def generalizedTime : UInt8 := 0x18
def sequence : UInt8 := 0x30
def set : UInt8 := 0x31

/-- The identifier octets of the universal types that are in use. -/
def universalTags : List UInt8 :=
  [0x01, 0x02, 0x03, 0x04, 0x05, 0x06, 0x09, 0x0a, 0x0c, 0x12, 0x13, 0x14, 0x15, 0x16, 0x17, 0x18,
    0x1a, 0x1e, 0x30, 0x31]

/-- Whether an octet identifies a type; type numbers above thirty need more than one octet. -/
def isTag (b : UInt8) : Bool :=
  b.toNat % 32 != 31 && (64 ≤ b.toNat || universalTags.contains b)

/-- The identifier octet of a field tagged by position. -/
def contextTag (constructed : Bool) (n : Nat) : UInt8 :=
  UInt8.ofNat ((if constructed then 0xa0 else 0x80) + n)

/-- The number of a field tagged by position. -/
def contextNumber? (tag : UInt8) : Option Nat :=
  if 0x80 ≤ tag.toNat ∧ tag.toNat < 0xc0 then some (tag.toNat % 32) else none

/-- Lengths are below `2 ^ 28`. -/
def lengthLimit : Nat := 1 <<< 28

def bytesNeeded (n : Nat) : Nat :=
  if n < 1 <<< 8 then 1 else if n < 1 <<< 16 then 2 else if n < 1 <<< 24 then 3 else 4

def encodeLength (n : Nat) : Bytes :=
  if n < 128 then [UInt8.ofNat n]
  else UInt8.ofNat (0x80 + bytesNeeded n) :: Bytes.ofNat (bytesNeeded n) n

/-- Reads a length in its shortest form. -/
def length? : Bytes → Option (Nat × Bytes)
  | [] => none
  | b :: rest =>
    if b.toNat < 0x80 then some (b.toNat, rest)
    else if b.toNat = 0x80 ∨ 0x84 < b.toNat then none
    else
      match Bytes.takeExactly (b.toNat - 0x80) rest with
      | none => none
      | some (octets, rest) =>
        let n := Bytes.toNat octets
        if n < lengthLimit ∧ 128 ≤ n ∧ bytesNeeded n = octets.length then some (n, rest) else none

def Element.encode (e : Element) : Bytes := e.tag :: (encodeLength e.content.length ++ e.content)

def element? : Bytes → Option (Element × Bytes)
  | [] => none
  | tag :: rest =>
    if isTag tag then do
      let (n, rest) ← length? rest
      let (content, rest) ← Bytes.takeExactly n rest
      return (⟨tag, content⟩, rest)
    else none

def elementsWithin : Nat → Bytes → Option (List Element)
  | _, [] => some []
  | 0, _ => none
  | fuel + 1, bytes => do
    let (e, rest) ← element? bytes
    let es ← elementsWithin fuel rest
    return e :: es

/-- The elements that make up a byte string from end to end. -/
def elements? (bytes : Bytes) : Option (List Element) := elementsWithin bytes.length bytes

/-- The one element that makes up a byte string. -/
def single? (bytes : Bytes) : Option Element :=
  match element? bytes with
  | some (e, []) => some e
  | _ => none

namespace Element

/-- The content of an element of the given type. -/
def expect? (e : Element) (tag : UInt8) : Option Bytes :=
  if e.tag = tag then some e.content else none

/-- The elements inside a constructed element of the given type. -/
def inside? (e : Element) (tag : UInt8) : Option (List Element) := e.expect? tag >>= elements?

end Element

def encodeAll (elements : List Element) : Bytes := elements.flatMap Element.encode

/-- An element made of other elements. -/
def construct (tag : UInt8) (elements : List Element) : Element := ⟨tag, encodeAll elements⟩

/-- Whether integer octets are the shortest two's complement form of their number. -/
def isMinimal : Bytes → Bool
  | [] => false
  | [_] => true
  | a :: b :: _ => !(a == 0 && b.toNat < 0x80) && !(a == 0xff && 0x80 ≤ b.toNat)

/-- The number of integer octets that are not negative. -/
def unsigned? (content : Bytes) : Option Nat :=
  if isMinimal content && (content.headD 0).toNat < 0x80 then some (Bytes.toNat content) else none

def stripZeros (bytes : Bytes) : Bytes := bytes.dropWhile (· == 0)

/-- The integer element of a big-endian number: leading zeros are dropped, and one is put back
where the first byte would read as a sign. -/
def unsigned (bytes : Bytes) : Element :=
  match stripZeros bytes with
  | [] => ⟨integer, [0]⟩
  | b :: rest => ⟨integer, if b.toNat < 0x80 then b :: rest else 0 :: b :: rest⟩

/-- The octets of a bit string and how many bits of the last one are unused. -/
def bits? : Bytes → Option (Nat × Bytes)
  | [] => none
  | unused :: octets =>
    if 7 < unused.toNat ∨ unused ≠ 0 ∧ octets = [] then none else some (unused.toNat, octets)

def boolean? : Bytes → Option Bool
  | [0x00] => some false
  | [0xff] => some true
  | _ => none

end Attestation.Der

import Attestation.Der.ObjectId.Name
import Attestation.Text.Utf8

/-!
Distinguished names: their encoding, and the text by which issuers are looked up.
-/
namespace Attestation.Certificate

structure Attribute where
  kind : ObjectId
  value : Der.Element
  deriving DecidableEq, Repr

namespace Attribute

def element (a : Attribute) : Der.Element :=
  Der.construct Der.sequence [a.kind.element, a.value]

def ofElement? (e : Der.Element) : Option Attribute := do
  match ← e.inside? Der.sequence with
  | [kind, value] =>
    let kind ← ObjectId.ofElement? kind
    return ⟨kind, value⟩
  | _ => none

/-- Attributes are ordered by their length, then by kind, then by value; of two kinds or values the
shorter one comes first. -/
def orderKey (a : Attribute) : List Nat :=
  let bytes (xs : Bytes) := xs.length :: xs.map (·.toNat)
  a.element.content.length ::
    (bytes a.kind.octets ++ a.value.tag.toNat :: bytes a.value.content)

/-- The registered name of the kind, in capitals. -/
def name? (a : Attribute) : Option String := a.kind.name?.map String.toUpper

def isPrintable (b : UInt8) : Bool :=
  let c := Char.ofNat b.toNat
  c.isAlphanum || " '()+,-./:=?".toList.contains c

/-- The characters of a value of one of the four string types in common use. -/
def string? (a : Attribute) : Option (List Char) :=
  let content := a.value.content
  if a.value.tag = Der.utf8String then Utf8.decodeChars? content
  else
    let allowed :=
      if a.value.tag = Der.printableString then content.all isPrintable
      else if a.value.tag = Der.ia5String ∨ a.value.tag = Der.teletexString then
        content.all (·.toNat < 0x80)
      else false
    if allowed then some (content.map fun b => Char.ofNat b.toNat) else none

def escapeChar (first last : Bool) (c : Char) : List Char :=
  if c = '#' ∧ first then ['\\', '#']
  else if c = ' ' ∧ (first ∨ last) then ['\\', ' ']
  else if "\"+,;<>\\".toList.contains c then ['\\', c]
  else if c.toNat < 0x20 ∨ c.toNat = 0x7f then '\\' :: Hex.encodeByte (UInt8.ofNat c.toNat)
  else [c]

def escape (first : Bool) : List Char → List Char
  | [] => []
  | [c] => escapeChar first true c
  | c :: rest => escapeChar first false c ++ escape false rest

/-- The name and the string of the attribute, or else its identifier and its encoding. -/
def text (a : Attribute) : String :=
  match a.name?, a.string? with
  | some name, some chars => name ++ "=" ++ String.ofList (escape true chars)
  | _, _ => a.kind.text ++ "=#" ++ Hex.encode a.value.encode

/-- Puts an attribute into its place among ordered ones; no two may be equal. -/
def insert? (a : Attribute) : List Attribute → Option (List Attribute)
  | [] => some [a]
  | b :: rest =>
    if a.orderKey = b.orderKey then none
    else if a.orderKey < b.orderKey then some (a :: b :: rest)
    else (insert? a rest).map (b :: ·)

end Attribute

/-- A sequence of sets of attributes, the most general one first. -/
structure Name where
  parts : List (List Attribute)
  deriving DecidableEq, Repr

namespace Name

def partOfElement? (e : Der.Element) : Option (List Attribute) := do
  let elements ← e.inside? Der.set
  let attributes ← elements.mapM Attribute.ofElement?
  attributes.foldlM (fun sorted a => a.insert? sorted) []

def ofElement? (e : Der.Element) : Option Name := do
  let elements ← e.inside? Der.sequence
  let parts ← elements.mapM partOfElement?
  return ⟨parts⟩

def element (n : Name) : Der.Element :=
  Der.construct Der.sequence
    (n.parts.map fun part => Der.construct Der.set (part.map Attribute.element))

/-- The parts from the most specific to the most general one. -/
def text (n : Name) : String :=
  ",".intercalate (n.parts.reverse.map fun part => "+".intercalate (part.map Attribute.text))

end Name

end Attestation.Certificate

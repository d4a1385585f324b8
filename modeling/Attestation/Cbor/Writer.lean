import Attestation.Bytes

/-!
Writing concise binary objects, each head in its shortest form.
-/
namespace Attestation.Cbor

/-- The head of the given type with an argument below `2 ^ 64`. -/
def writeHead (major n : Nat) : Bytes :=
  let first (info : Nat) := UInt8.ofNat (32 * major + info)
  if n < 24 then [first n]
  else if n < 1 <<< 8 then first 24 :: Bytes.ofNat 1 n
  else if n < 1 <<< 16 then first 25 :: Bytes.ofNat 2 n
  else if n < 1 <<< 32 then first 26 :: Bytes.ofNat 4 n
  else first 27 :: Bytes.ofNat 8 n

def writeBytes (content : Bytes) : Bytes := writeHead 2 content.length ++ content

/-- A text, given in its encoding. -/
def writeText (utf8 : Bytes) : Bytes := writeHead 3 utf8.length ++ utf8

/-- An array of items that are already written. -/
def writeArray (items : List Bytes) : Bytes := writeHead 4 items.length ++ items.flatten

end Attestation.Cbor

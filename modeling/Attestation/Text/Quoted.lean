import Attestation.Bytes
import Attestation.Text.Unprintable

/-!
Texts between double quotes, as reasons show them.
-/
namespace Attestation.Text

/-- The number of a character in hexadecimal. -/
def numberEscape (c : Char) : List Char :=
  '\\' :: 'u' :: '\x7b' :: ((Hex.ofNat c.toNat).toList ++ ['\x7d'])

/-- Quotes, backslashes and what has no picture of its own are escaped. -/
def escapeChar (c : Char) : List Char :=
  if c = '"' ∨ c = '\\' then ['\\', c]
  else if c = '\n' then ['\\', 'n']
  else if c = '\r' then ['\\', 'r']
  else if c = '\t' then ['\\', 't']
  else if c.toNat = 0 then ['\\', '0']
  else if unprintable.contains c then numberEscape c
  else [c]

def quoted (s : String) : String := String.ofList ('"' :: (s.toList.flatMap escapeChar ++ ['"']))

end Attestation.Text

import Attestation.Bytes
import Attestation.Json.Basic

/-!
The text of a structured value, without spaces and on one line.
-/
namespace Attestation

namespace Number

/-- The decimal point of a number with these digits goes after the first `point` of them. -/
def positional (digits : List Char) (point : Int) : List Char :=
  if point ≤ 0 then '0' :: '.' :: (List.replicate (-point).toNat '0' ++ digits)
  else if digits.length ≤ point.toNat then
    digits ++ List.replicate (point.toNat - digits.length) '0' ++ ['.', '0']
  else digits.take point.toNat ++ '.' :: digits.drop point.toNat

/-- One digit before the point, and an exponent with its sign. -/
def scientific (digits : List Char) (point : Int) : List Char :=
  let exponent := point - 1
  let fraction := if digits.length ≤ 1 then [] else '.' :: digits.drop 1
  let sign := if exponent < 0 then '-' else '+'
  digits.take 1 ++ fraction ++ 'e' :: sign :: Nat.toDigits 10 exponent.natAbs

/-- Numbers from `1e-5` to below `1e16` are written positionally, all others with an exponent. -/
def renderReal (x : Binary64) : String :=
  let sign := if x.negative then ['-'] else []
  if x.isZero then String.ofList (sign ++ ['0', '.', '0'])
  else
    let (digits, power) := x.shortest
    let digits := Nat.toDigits 10 digits
    let point := Int.ofNat digits.length + power
    let body := if -5 < point ∧ point ≤ 16 then positional digits point else scientific digits point
    String.ofList (sign ++ body)

def render : Number → String
  | integer n => toString n
  | real x => renderReal x

end Number

namespace Json

def escapeChar (c : Char) : List Char :=
  if c = '"' then ['\\', '"']
  else if c = '\\' then ['\\', '\\']
  else if c = '\n' then ['\\', 'n']
  else if c = '\r' then ['\\', 'r']
  else if c = '\t' then ['\\', 't']
  else if c.toNat = 8 then ['\\', 'b']
  else if c.toNat = 12 then ['\\', 'f']
  else if c.toNat < 32 then '\\' :: 'u' :: '0' :: '0' :: Hex.encodeByte (UInt8.ofNat c.toNat)
  else [c]

def quote (s : String) : String :=
  String.ofList ('"' :: (s.toList.flatMap escapeChar ++ ['"']))

mutual

def render : Json → String
  | null => "null"
  | bool b => if b then "true" else "false"
  | number n => n.render
  | string s => quote s
  | array items => "[" ++ ",".intercalate (renderItems items) ++ "]"
  | object members => "\x7b" ++ ",".intercalate (renderMembers members) ++ "\x7d"

def renderItems : List Json → List String
  | [] => []
  | item :: rest => render item :: renderItems rest

def renderMembers : List (String × Json) → List String
  | [] => []
  | (name, value) :: rest => (quote name ++ ":" ++ render value) :: renderMembers rest

end

end Json

end Attestation

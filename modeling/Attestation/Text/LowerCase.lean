import Attestation.Text.CaseTables

/-!
The lower-case form of a text. All characters but two map by themselves to one character: the
capital I with a dot keeps its dot as a mark of its own, and a capital sigma becomes the final one
at the end of a word.
-/
namespace Attestation.Text

def inRow (n : Nat) (row : Nat × Nat × Nat × Int) : Bool :=
  let (first, last, step, _) := row
  first ≤ n && n ≤ last && (n - first) % step == 0

def lowerChar (c : Char) : Char :=
  match lowerRows.find? (inRow c.toNat) with
  | some (_, _, _, distance) => Char.ofNat (Int.ofNat c.toNat + distance).toNat
  | none => c

def dottedCapital : Char := Char.ofNat 0x130

def combiningDot : Char := Char.ofNat 0x307

def capitalSigma : Char := Char.ofNat 0x3a3

def smallSigma : Char := Char.ofNat 0x3c3

def finalSigma : Char := Char.ofNat 0x3c2

/-- Whether the next character that counts has a case. -/
def nextCased (cs : List Char) : Bool :=
  match cs.dropWhile caseIgnorable.contains with
  | c :: _ => cased.contains c
  | [] => false

/-- The lower-case form of a character between those before it, in reverse, and those after it. -/
def lowerBetween (before : List Char) (c : Char) (after : List Char) : List Char :=
  if c = capitalSigma then
    if nextCased before && !nextCased after then [finalSigma] else [smallSigma]
  else if c = dottedCapital then ['i', combiningDot]
  else [lowerChar c]

def lowerFrom (before : List Char) : List Char → List Char
  | [] => []
  | c :: after => lowerBetween before c after ++ lowerFrom (c :: before) after

def lowerCase (s : List Char) : List Char := lowerFrom [] s

/-- The lower-case form of a character of ASCII; all others stay as they are. -/
def lowerAscii (c : Char) : Char :=
  if 'A' ≤ c ∧ c ≤ 'Z' then Char.ofNat (c.toNat + 32) else c

/-- Whether a text is part of another one. -/
def occursIn (part : List Char) : List Char → Bool
  | [] => part.isEmpty
  | c :: rest => part.isPrefixOf (c :: rest) || occursIn part rest

end Attestation.Text

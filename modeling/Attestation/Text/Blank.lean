/-!
White space, as Unicode lists it, and texts without it at their ends.
-/
namespace Attestation.Text

def isBlank (c : Char) : Bool :=
  let n := c.toNat
  (9 ≤ n && n ≤ 13) || n == 0x20 || n == 0x85 || n == 0xa0 || n == 0x1680 ||
    (0x2000 ≤ n && n ≤ 0x200a) || n == 0x2028 || n == 0x2029 || n == 0x202f || n == 0x205f ||
    n == 0x3000

def trimEnd (p : Char → Bool) (cs : List Char) : List Char := (cs.reverse.dropWhile p).reverse

/-- The text without blanks at either end. -/
def trim (cs : List Char) : List Char := trimEnd isBlank (cs.dropWhile isBlank)

end Attestation.Text

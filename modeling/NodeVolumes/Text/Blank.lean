/-! # Blank characters and trimming

Blank means the Unicode property White_Space, which is wider than the six ASCII characters:
it contains the no-break spaces, the typographic spaces and the line separators.

`trim` drops the blank characters at both ends of a text. -/

namespace NodeVolumes.Text

/-- Tells the characters with the Unicode property White_Space. -/
def isBlank (c : Char) : Bool :=
  let n := c.toNat
  (9 ≤ n && n ≤ 13) || n == 0x20 || n == 0x85 || n == 0xA0 || n == 0x1680 ||
    (0x2000 ≤ n && n ≤ 0x200A) || n == 0x2028 || n == 0x2029 || n == 0x202F || n == 0x205F ||
    n == 0x3000

/-! ### Trimming -/

/-- The characters without the blank ones in front. -/
def trimStart (cs : List Char) : List Char := cs.dropWhile isBlank

/-- The characters without the blank ones at the end. -/
def trimEnd (cs : List Char) : List Char := (cs.reverse.dropWhile isBlank).reverse

/-- The characters without the blank ones at both ends. -/
def trimChars (cs : List Char) : List Char := trimEnd (trimStart cs)

/-- A text without the blank characters at both ends. -/
def trim (s : String) : String := String.ofList (trimChars s.toList)

end NodeVolumes.Text

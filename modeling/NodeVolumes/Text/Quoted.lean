import NodeVolumes.Text.Invisible

/-! # Quoted text

Error messages show a text from outside in double quotes, with every character that could
mislead the reader written as an escape.

* `escape` gives the written form of one character.
* `quoted` gives the written form of a text, quotes included.
* `quotedPairs` writes a list of pairs of texts in braces. -/

namespace NodeVolumes.Text

/-- The digits of a number in base sixteen, in lower case and without leading zeros. -/
def hexDigits (n : Nat) : List Char := Nat.toDigits 16 n

/-- The written form of one character of a quoted text. -/
def escape (c : Char) : List Char :=
  if c = '"' then ['\\', '"']
  else if c = '\\' then ['\\', '\\']
  else if c = '\n' then ['\\', 'n']
  else if c = '\t' then ['\\', 't']
  else if c = '\r' then ['\\', 'r']
  else if c = '\x00' then ['\\', '0']
  else if isInvisible c then ['\\', 'u', '\x7b'] ++ hexDigits c.toNat ++ ['\x7d']
  else [c]

/-- A text in double quotes, its characters escaped. -/
def quoted (s : String) : String :=
  String.ofList ('"' :: s.toList.flatMap escape ++ ['"'])

/-- Pairs of texts in braces, each written as key, colon and value, separated by commas. -/
def quotedPairs (pairs : List (String × String)) : String :=
  "\x7b" ++ String.intercalate ", " (pairs.map fun (k, v) => quoted k ++ ": " ++ quoted v) ++ "\x7d"

example : quoted "a\"b\\\n\x00" = "\"a\\\"b\\\\\\n\\0\"" := by decide +kernel
example : quoted "\x7fé" = "\"\\u\x7b7f\x7dé\"" := by decide +kernel

end NodeVolumes.Text

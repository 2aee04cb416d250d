/-! # Tags

A tag says how a scalar is to be read. It is a sequence of octets and not a text, as escapes can
write octets that form no character; nothing of it counts from an octet zero on.

* `Tag.core` gives the tags that force a reading.
* `Tag.isLocal` tells the tags that leave the reading to the application. -/

namespace NodeVolumes.Yaml

/-- A sequence of octets. -/
abbrev Octets : Type := List UInt8

namespace Octets

/-- The octets of a text. -/
def ofString (s : String) : Octets := s.toUTF8.data.toList

/-- The octets in front of the first zero. -/
def untilZero (os : Octets) : Octets := os.takeWhile (· ≠ 0)

/-- Tells whether octets form characters. -/
def isText (os : Octets) : Bool := (String.fromUTF8? ⟨os.toArray⟩).isSome

end Octets

/-- A tag in its full form. -/
structure Tag where
  octets : Octets
  deriving DecidableEq, Repr

namespace Tag

/-- What the usual short form of core tags stands for. -/
def coreHead : Octets := Octets.ofString "tag:yaml.org,2002:"

/-- The core tag with a name. -/
def core (name : String) : Tag := ⟨coreHead ++ Octets.ofString name⟩

/-- Tells whether a tag starts with the mark of local tags. -/
def isMarked (t : Tag) : Bool := t.octets.head? == some 33

/-- Tells the local tags: a mark and then a name, which may be empty but has to be a text. -/
def isLocal (t : Tag) : Bool := t.isMarked && Octets.isText (t.octets.drop 1)

example : (Tag.mk (Octets.ofString "!é")).isLocal = true := by decide +kernel
example : (Tag.mk [33, 0xED, 0xA0, 0x80]).isLocal = false := by decide +kernel

end Tag
end NodeVolumes.Yaml

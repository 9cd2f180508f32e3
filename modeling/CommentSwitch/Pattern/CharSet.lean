import CommentSwitch.Text.Blank
import CommentSwitch.Text.LetterCase
import CommentSwitch.Text.WordChar

/-!
# Sets of characters

The sets that a pattern may name: ranges, the classes of digits, blank and word
characters, and what can be built from them.  A set is an expression; membership
is computed on it, so that no list of ranges is ever combined.

- `CharSet.mem`: membership
- `CharSet.asciiClass?`: the classes that are known by name within brackets
-/

namespace CommentSwitch

/-- A set of characters. -/
inductive CharSet
  | empty
  /-- The code points from `first` to `last`. -/
  | range (first last : Nat)
  /-- Decimal digits of all scripts. -/
  | digit
  /-- Blank characters. -/
  | blank
  /-- Word characters of all scripts. -/
  | word
  | union (a b : CharSet)
  | inter (a b : CharSet)
  | diff (a b : CharSet)
  /-- What is in exactly one of two sets. -/
  | symmDiff (a b : CharSet)
  | compl (a : CharSet)
  /-- All characters that differ from a member in case only. -/
  | anyCase (a : CharSet)
  /-- The same for ASCII letters alone. -/
  | anyAsciiCase (a : CharSet)
  deriving Repr

namespace CharSet

/-! ## §1 Membership -/

/-- The ASCII letters that differ from a character in case only, with the character. -/
def asciiVariants (c : Char) : Text := [c, c.toLower, c.toUpper]

/-- Whether a character is in a set. -/
def mem : CharSet → Char → Bool
  | empty, _ => false
  | range first last, c => first ≤ c.toNat && c.toNat ≤ last
  | digit, c => Text.isDecimalDigit c
  | blank, c => Text.isBlank c
  | word, c => Text.isWordChar c
  | union a b, c => a.mem c || b.mem c
  | inter a b, c => a.mem c && b.mem c
  | diff a b, c => a.mem c && !b.mem c
  | symmDiff a b, c => a.mem c != b.mem c
  | compl a, c => !a.mem c
  | anyCase a, c => (Text.caseVariants c).any a.mem || a.mem c
  | anyAsciiCase a, c => (asciiVariants c).any a.mem

/-! ## §2 Building sets -/

/-- The set of one character. -/
def single (c : Char) : CharSet := range c.toNat c.toNat

/-- The union of a list of sets. -/
def unionAll (sets : List CharSet) : CharSet := sets.foldr union empty

/-- The set, or its complement if `negated`. -/
def negateIf (negated : Bool) (s : CharSet) : CharSet := if negated then compl s else s

private def span (first last : Char) : CharSet := range first.toNat last.toNat

private def asciiLower : CharSet := span 'a' 'z'
private def asciiUpper : CharSet := span 'A' 'Z'
private def asciiLetter : CharSet := union asciiUpper asciiLower

/-- The ASCII decimal digits. -/
def asciiDigit : CharSet := span '0' '9'

/-- The blank ASCII characters. -/
def asciiSpace : CharSet := union (range 0x09 0x0D) (single ' ')

/-- ASCII letters, digits and the underscore. -/
def asciiWord : CharSet := unionAll [asciiDigit, asciiLetter, single '_']

/-- The ASCII classes known by name. -/
def asciiClass? (name : Text) : Option CharSet :=
  match Text.asString name with
  | "alnum" => some (union asciiDigit asciiLetter)
  | "alpha" => some asciiLetter
  | "ascii" => some (range 0 0x7F)
  | "blank" => some (union (single '\t') (single ' '))
  | "cntrl" => some (union (range 0 0x1F) (range 0x7F 0x7F))
  | "digit" => some asciiDigit
  | "graph" => some (span '!' '~')
  | "lower" => some asciiLower
  | "print" => some (span ' ' '~')
  | "punct" => some (unionAll [span '!' '/', span ':' '@', range 0x5B 0x60, range 0x7B 0x7E])
  | "space" => some asciiSpace
  | "upper" => some asciiUpper
  | "word" => some asciiWord
  | "xdigit" => some (unionAll [asciiDigit, span 'A' 'F', span 'a' 'f'])
  | _ => none

/-- Whether a set, seen as a set of bytes, holds a byte that is no ASCII character. -/
def exceedsAscii (s : CharSet) : Bool :=
  (List.range 0x80).any fun i => s.mem (Char.ofNat (0x80 + i))

end CharSet

end CommentSwitch

/-!
# Blank characters

Annotation lines, type words and doc comments are trimmed and split at the characters with the
Unicode property `White_Space`. Text is handled as a list of characters.
-/

namespace DocApi

/-- The characters with the Unicode property `White_Space`. -/
def isBlank (c : Char) : Bool :=
  let code := c.toNat
  (0x09 ≤ code && code ≤ 0x0D) || code == 0x20 || code == 0x85 || code == 0xA0 || code == 0x1680 ||
    (0x2000 ≤ code && code ≤ 0x200A) || code == 0x2028 || code == 0x2029 || code == 0x202F ||
    code == 0x205F || code == 0x3000

/-- Drops the leading blanks. -/
def trimStart (text : List Char) : List Char := text.dropWhile isBlank

/-- Drops the trailing blanks. -/
def trimEnd (text : List Char) : List Char := (text.reverse.dropWhile isBlank).reverse

/-- Drops the blanks on both sides. -/
def trim (text : List Char) : List Char := trimEnd (trimStart text)

/-- Dropping a run at the front never makes a text longer. -/
theorem length_dropWhile_le {α : Type} (p : α → Bool) (text : List α) :
    (text.dropWhile p).length ≤ text.length :=
  (List.dropWhile_sublist p).length_le

/-- Trimming never makes a text longer. -/
theorem length_trim_le (text : List Char) : (trim text).length ≤ text.length := by
  have atStart := length_dropWhile_le isBlank text
  have atEnd := length_dropWhile_le isBlank (text.dropWhile isBlank).reverse
  simp only [trim, trimEnd, trimStart, List.length_reverse] at *
  omega

end DocApi

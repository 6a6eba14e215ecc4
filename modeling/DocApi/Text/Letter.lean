import DocApi.Text.LetterTable

/-!
# Identifiers

An identifier begins with an underscore or a character that may start one and goes on with the
characters that may continue one. The ASCII characters are decided without the tables.
-/

namespace DocApi

/-- Whether an identifier may begin with `c`. -/
def startsIdentifier (c : Char) : Bool :=
  if c.toNat < 0x80 then c.isAlpha || c == '_' else identifierStarts.has c

/-- Whether an identifier may go on with `c`. -/
def continuesIdentifier (c : Char) : Bool :=
  if c.toNat < 0x80 then c.isAlphanum || c == '_'
  else identifierStarts.has c || identifierTails.has c

end DocApi

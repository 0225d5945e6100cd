import GlobalSurvey.Text.Identifier.Table

/-!
# Identifiers

An identifier opens with a start character and goes on with continue characters. The ASCII part is decided without
a table.
-/
namespace GlobalSurvey.Text.Identifier

def isAsciiWord (c : Char) : Bool := c.isAlphanum || c == '_'

/-- An identifier may open with the character. -/
def isStart (c : Char) : Bool :=
  if c.toNat < 128 then c.isAlpha || c == '_' else startRanges.get.contains c.toNat

/-- An identifier may go on with the character. -/
def isContinue (c : Char) : Bool :=
  if c.toNat < 128 then isAsciiWord c else continueRanges.get.contains c.toNat

/-- The whole text is one identifier. -/
def isIdentifier : List Char → Bool
  | [] => false
  | c :: rest => isStart c && rest.all isContinue

end GlobalSurvey.Text.Identifier

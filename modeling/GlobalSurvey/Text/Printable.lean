import GlobalSurvey.Text.Printable.Table

/-!
# Printable characters
-/
namespace GlobalSurvey.Text

/-- The character has a graphic form, or is the space. -/
def isPrintable (c : Char) : Bool :=
  if c.toNat < 127 then 32 ≤ c.toNat else !(Printable.hiddenRanges.get.contains c.toNat)

end GlobalSurvey.Text

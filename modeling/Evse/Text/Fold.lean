/-!
Names compared under simple case folding against names written in ASCII.
-/
namespace Evse.Text

/-- The fold key of a character. -/
def foldKey (c : Char) : Char :=
  if 'a' ≤ c && c ≤ 'z' then Char.ofNat (c.toNat - 32)
  else if c.toNat = 0x17F then 'S'
  else if c.toNat = 0x212A then 'K'
  else c

/-- Whether two names, one of them in ASCII, are equal under simple case folding. -/
def foldEqual (a b : String) : Bool :=
  a.toList.map foldKey == b.toList.map foldKey

end Evse.Text

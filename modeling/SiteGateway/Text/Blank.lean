import SiteGateway.Text.Basic

/-!
# Blank characters

The Unicode property `White_Space`, and trimming by it. Settings and proxy mappings are trimmed
this way, so a no-break space around a value is dropped and a zero-width space is kept.
-/

namespace SiteGateway

/-- Unicode `White_Space`. -/
def isBlank (c : Char) : Bool :=
  let n := c.toNat
  (9 ≤ n && n ≤ 13) || n == 0x20 || n == 0x85 || n == 0xA0 || n == 0x1680 ||
    (0x2000 ≤ n && n ≤ 0x200A) || n == 0x2028 || n == 0x2029 || n == 0x202F || n == 0x205F ||
    n == 0x3000

namespace Text

/-- Drops blank characters from both ends. -/
def trim (t : Text) : Text := trimBy isBlank t

def trimStart (t : Text) : Text := t.dropWhile isBlank

end Text

end SiteGateway

/-!
White space and trimming. White space is the set of code points with the property White_Space, and
`trim` takes it off both ends.
-/

namespace ThreatModel.Unicode

/-- Characters with the property White_Space. -/
def isBlank (c : Char) : Bool :=
  let point := c.toNat
  (0x09 ≤ point && point ≤ 0x0d) || point == 0x20 || point == 0x85 || point == 0xa0 ||
    point == 0x1680 || (0x2000 ≤ point && point ≤ 0x200a) || point == 0x2028 || point == 0x2029 ||
    point == 0x202f || point == 0x205f || point == 0x3000

/-- The characters without the white space at either end. -/
def trimChars (chars : List Char) : List Char :=
  ((chars.dropWhile isBlank).reverse.dropWhile isBlank).reverse

/-- The text without the white space at either end. -/
def trim (text : String) : String :=
  .ofList (trimChars text.toList)

/-- Nothing but white space. -/
def isBlankText (text : String) : Bool :=
  text.toList.all isBlank

theorem toList_trim (text : String) : (trim text).toList = trimChars text.toList := by
  simp [trim]

end ThreatModel.Unicode

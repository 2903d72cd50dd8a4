/-!
# White space

The characters that count as white space around a name or a setting, and `trim`, which takes
them off both ends.  The table is the White_Space property of the Unicode standard.
-/
namespace CqlDispatch

/-- White_Space of the Unicode standard. -/
def isBlank (c : Char) : Bool :=
  let n := c.toNat
  (9 ≤ n && n ≤ 13) || n == 0x20 || n == 0x85 || n == 0xA0 || n == 0x1680 ||
    (0x2000 ≤ n && n ≤ 0x200A) || n == 0x2028 || n == 0x2029 || n == 0x202F || n == 0x205F ||
    n == 0x3000

def trimFront (cs : List Char) : List Char := cs.dropWhile isBlank

def trimChars (cs : List Char) : List Char := (trimFront (trimFront cs).reverse).reverse

def trim (s : String) : String := String.ofList (trimChars s.toList)

/-- Lower-cases the letters of ASCII and leaves every other character. -/
def lowerAscii (s : String) : String := String.ofList (s.toList.map Char.toLower)

end CqlDispatch

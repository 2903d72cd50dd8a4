/-!
# Spaces

The blanks within a line of a settings document: spaces and tabs.
-/
namespace CqlDispatch

def isSpace (c : Char) : Bool := c = ' ' || c = '\t'

def skipSpaces (cs : List Char) : List Char := cs.dropWhile isSpace

/-- Whether the next character is one of a class; past the end there is none. -/
def nextIs (p : Char → Bool) (cs : List Char) : Bool := (cs.head?.map p).getD false

end CqlDispatch

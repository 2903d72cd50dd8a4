import CqlDispatch.Text.VisibleTable
/-!
# Quoted text

A text between double quotes, the form in which descriptions show names and credentials: the
quote, the backslash, and the four control characters with a letter of their own are escaped by a
backslash.  Every other character that could not be told by looking at it is written by its number;
all else stands for itself.
-/
namespace CqlDispatch

def inRuns (runs : List (Nat × Nat)) (n : Nat) : Bool := runs.any fun r => r.1 ≤ n && n ≤ r.2

/-- Whether a character shows by itself what it is; ASCII is looked up without the tables. -/
def isVisible (c : Char) : Bool :=
  let n := c.toNat
  if n < 128 then 32 ≤ n && n < 127
  else !inRuns VisibleTable.joining n && !inRuns VisibleTable.blank n

/-- A character by its number in hexadecimal. -/
def numbered (c : Char) : List Char := "\\u\x7b".toList ++ Nat.toDigits 16 c.toNat ++ ['\x7d']

def quotedChar : Char → List Char
  | '"' => ['\\', '"']
  | '\\' => ['\\', '\\']
  | '\x00' => ['\\', '0']
  | '\n' => ['\\', 'n']
  | '\r' => ['\\', 'r']
  | '\t' => ['\\', 't']
  | c => if isVisible c then [c] else numbered c

def quoted (s : String) : String :=
  String.ofList ('"' :: (s.toList.flatMap quotedChar ++ ['"']))

/-- A list of texts in brackets, each quoted. -/
def quotedList (names : List String) : String :=
  "[" ++ String.intercalate ", " (names.map quoted) ++ "]"

end CqlDispatch

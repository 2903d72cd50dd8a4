import CqlDispatch.Text.CaseTable
/-!
# Letter case

Upper and lower case of single characters over all of Unicode.  One character may have a form of
several (`ß` becomes `SS`); a character without another case stays as it is.
-/
namespace CqlDispatch

/-- The form of a character under a table of long forms and a table of runs. -/
def caseForm (long : List (Nat × List Nat)) (runs : List CaseRun) (c : Char) : List Char :=
  match long.lookup c.toNat with
  | some form => form.map Char.ofNat
  | none =>
    match findRun runs c.toNat with
    | some run => [Char.ofNat (c.toNat + run.shift).toNat]
    | none => [c]

/-- The upper-case form of a character; ASCII is looked up without the tables. -/
def upperForm (c : Char) : List Char :=
  if c.toNat < 128 then [c.toUpper] else caseForm CaseTable.longUpper CaseTable.upper c

def lowerForm (c : Char) : List Char :=
  if c.toNat < 128 then [c.toLower] else caseForm CaseTable.longLower CaseTable.lower c

/-- Whether a character is upper case; ASCII is looked up without the table. -/
def isUpperCase (c : Char) : Bool :=
  if c.toNat < 128 then c.isUpper else (findRun CaseTable.isUpper c.toNat).isSome

theorem upperForm_ascii {c : Char} (h : c.toNat < 128) : upperForm c = [c.toUpper] := by
  simp [upperForm, h]

theorem lowerForm_ascii {c : Char} (h : c.toNat < 128) : lowerForm c = [c.toLower] := by
  simp [lowerForm, h]

theorem isUpperCase_ascii {c : Char} (h : c.toNat < 128) : isUpperCase c = c.isUpper := by
  simp [isUpperCase, h]

end CqlDispatch

import TableFormula.Text.Blank
import TableFormula.Text.CaseTable

/-!
# Letter case

`upper` and `lower` are the full case mappings: a letter may become several (`ß` has the capital
`SS`), and the capital sigma has two small forms.  Column names are matched by their small forms,
so two names are the same *ignoring case* exactly when `lower` sends them to one text.

## Where a word ends

A capital sigma becomes the final form `ς` when a letter with case stands before it and none stands
after it.  Marks such as the apostrophe are looked across on both sides.
-/

namespace TableFormula.Text

/-! ## One character -/

/-- The capital form of a character. -/
def upperChar (c : Char) : List Char :=
  if c.toNat < 128 then [c.toUpper]
  else match capitalWords.lookup c.toNat with
    | some word => word.map Char.ofNat
    | none => [Char.ofNat ((CaseRun.lookup capitalRuns c.toNat).getD c.toNat)]

/-- The small form of a character that stands alone. -/
def lowerChar (c : Char) : List Char :=
  if c.toNat < 128 then [c.toLower]
  else match smallWords.lookup c.toNat with
    | some word => word.map Char.ofNat
    | none => [Char.ofNat ((CaseRun.lookup smallRuns c.toNat).getD c.toNat)]

theorem upperChar_ascii {c : Char} (h : c.toNat < 128) : upperChar c = [c.toUpper] := by
  simp [upperChar, h]

theorem lowerChar_ascii {c : Char} (h : c.toNat < 128) : lowerChar c = [c.toLower] := by
  simp [lowerChar, h]

/-! ## Words -/

/-- Whether the nearest character that is not looked across is a letter with case. -/
def meetsCased (cs : List Char) : Bool :=
  match cs.dropWhile fun c => within caseIgnorableRanges c.toNat with
  | [] => false
  | c :: _ => within casedRanges c.toNat

/-- The small form of a capital sigma with `before` (nearest first) and `after` around it. -/
def smallSigma (before after : List Char) : Char :=
  if meetsCased before && !meetsCased after then 'ς' else 'σ'

/-- The small form of a text that follows `before`, nearest character first. -/
def lowerAfter (before : List Char) : List Char → List Char
  | [] => []
  | c :: rest =>
    (if c = 'Σ' then [smallSigma before rest] else lowerChar c) ++ lowerAfter (c :: before) rest

/-! ## Whole texts -/

/-- The capital form of a text. -/
def upper (s : String) : String :=
  String.ofList (s.toList.flatMap upperChar)

/-- The small form of a text. -/
def lower (s : String) : String :=
  String.ofList (lowerAfter [] s.toList)

/-- Two names are the same ignoring case when they have one small form. -/
def sameIgnoringCase (a b : String) : Bool :=
  lower a == lower b

theorem sameIgnoringCase_comm (a b : String) : sameIgnoringCase a b = sameIgnoringCase b a := by
  simp [sameIgnoringCase, Bool.beq_comm]

@[simp] theorem sameIgnoringCase_self (a : String) : sameIgnoringCase a a = true := by
  simp [sameIgnoringCase]

end TableFormula.Text

/-!
# Quoted text

A quoted text holds every character as it is, except for quotes, backslashes and the control
characters below the blank, which are escaped: five of them by a letter, the others by their number
in four hexadecimal digits.  A reader takes any character by number; one beyond `U+FFFF` is then a
pair of two numbers.
-/

namespace TableFormula.Json

/-! ## Writing -/

/-- The hexadecimal digit for a number below 16. -/
def hexDigit (n : Nat) : Char :=
  if n < 10 then Char.ofNat (48 + n) else Char.ofNat (87 + n)

/-- A control character by letter or by number. -/
def escapeControl (c : Char) : List Char :=
  match c with
  | '\x08' => ['\\', 'b']
  | '\t' => ['\\', 't']
  | '\n' => ['\\', 'n']
  | '\x0c' => ['\\', 'f']
  | '\r' => ['\\', 'r']
  | _ => ['\\', 'u', '0', '0', hexDigit (c.toNat / 16), hexDigit (c.toNat % 16)]

/-- A character as it stands between quotes. -/
def escape (c : Char) : List Char :=
  if c = '"' ∨ c = '\\' then ['\\', c]
  else if c.toNat < 32 then escapeControl c
  else [c]

/-- A text between quotes. -/
def quoted (cs : List Char) : List Char :=
  '"' :: cs.flatMap escape ++ ['"']

/-! ## Reading -/

/-- The value of a hexadecimal digit. -/
def hexValue? (c : Char) : Option Nat :=
  if '0' ≤ c ∧ c ≤ '9' then some (c.toNat - 48)
  else if 'a' ≤ c ∧ c ≤ 'f' then some (c.toNat - 87)
  else if 'A' ≤ c ∧ c ≤ 'F' then some (c.toNat - 55)
  else none

/-- The number that four hexadecimal digits spell. -/
def codeOf? (a b c d : Char) : Option Nat := do
  return (((← hexValue? a) * 16 + (← hexValue? b)) * 16 + (← hexValue? c)) * 16 + (← hexValue? d)

/-- The character for an escaping letter. -/
def unescape? : Char → Option Char
  | '"' => some '"'
  | '\\' => some '\\'
  | '/' => some '/'
  | 'b' => some '\x08'
  | 't' => some '\t'
  | 'n' => some '\n'
  | 'f' => some '\x0c'
  | 'r' => some '\r'
  | _ => none

/-- Reads up to the closing quote; gives the numbers of the characters, those that are written by
number as they are written.  Control characters have to be escaped. -/
def readNumbers? : List Char → Option (List Nat × List Char)
  | [] => none
  | '"' :: rest => some ([], rest)
  | '\\' :: 'u' :: a :: b :: c :: d :: rest => do
    let n ← codeOf? a b c d
    let (numbers, rest) ← readNumbers? rest
    return (n :: numbers, rest)
  | '\\' :: c :: rest => do
    let x ← unescape? c
    let (numbers, rest) ← readNumbers? rest
    return (x.toNat :: numbers, rest)
  | c :: rest => do
    if c.toNat < 32 then none
    let (numbers, rest) ← readNumbers? rest
    return (c.toNat :: numbers, rest)

/-- Whether a number is the first of a pair. -/
def isHigh (n : Nat) : Bool :=
  0xD800 ≤ n && n < 0xDC00

/-- Whether a number is the second of a pair. -/
def isLow (n : Nat) : Bool :=
  0xDC00 ≤ n && n < 0xE000

/-- The character of a pair of numbers. -/
def ofPair (high low : Nat) : Char :=
  Char.ofNat (0x10000 + (high - 0xD800) * 0x400 + (low - 0xDC00))

/-- The characters of some numbers, with pairs put together. -/
def joinPairs : List Nat → List Char
  | [] => []
  | [n] => [Char.ofNat n]
  | high :: low :: rest =>
    if isHigh high && isLow low then ofPair high low :: joinPairs rest
    else Char.ofNat high :: joinPairs (low :: rest)

/-- Reads up to the closing quote. -/
def readQuoted? (cs : List Char) : Option (List Char × List Char) :=
  (readNumbers? cs).map fun (numbers, rest) => (joinPairs numbers, rest)

/-! ## What is written is read -/

/-- No character is half of a pair. -/
theorem isHigh_toNat (c : Char) : isHigh c.toNat = false := by
  have h := c.valid
  have hn : c.val.toNat = c.toNat := rfl
  simp only [UInt32.isValidChar, Nat.isValidChar] at h
  simp only [isHigh, Bool.and_eq_false_iff, decide_eq_false_iff_not]
  omega

theorem joinPairs_map_toNat (cs : List Char) : joinPairs (cs.map Char.toNat) = cs := by
  match cs with
  | [] => rfl
  | [c] => simp [joinPairs]
  | c :: d :: rest =>
    have ih := joinPairs_map_toNat (d :: rest)
    simp only [List.map_cons] at ih
    simp [joinPairs, isHigh_toNat, ih]

theorem codeOf?_control {n : Nat} (h : n < 32) :
    codeOf? '0' '0' (hexDigit (n / 16)) (hexDigit (n % 16)) = some n := by
  have all : ∀ k : Fin 32,
      codeOf? '0' '0' (hexDigit (k.val / 16)) (hexDigit (k.val % 16)) = some k.val := by decide
  exact all ⟨n, h⟩

/-- Puts a number in front of what was read. -/
def consNumber (n : Nat) (read : List Nat × List Char) : List Nat × List Char :=
  (n :: read.1, read.2)

theorem readNumbers?_escapeControl {c : Char} (h : c.toNat < 32) (rest : List Char) :
    readNumbers? (escapeControl c ++ rest) = (readNumbers? rest).map (consNumber c.toNat) := by
  unfold escapeControl
  split
  case h_6 =>
    cases hr : readNumbers? rest <;> simp [readNumbers?, codeOf?_control h, hr, consNumber]
  all_goals cases hr : readNumbers? rest <;> simp [readNumbers?, unescape?, hr, consNumber]

theorem readNumbers?_escape (c : Char) (rest : List Char) :
    readNumbers? (escape c ++ rest) = (readNumbers? rest).map (consNumber c.toNat) := by
  unfold escape
  split
  · rename_i hc
    rcases hc with rfl | rfl <;> cases hr : readNumbers? rest <;>
      simp [readNumbers?, unescape?, hr, consNumber]
  · rename_i hc
    simp only [not_or] at hc
    split
    · exact readNumbers?_escapeControl (by assumption) rest
    · rename_i hn
      cases hr : readNumbers? rest <;> simp [readNumbers?, hc.1, hc.2, hn, hr, consNumber]

theorem readNumbers?_flatMap_escape (cs rest : List Char) :
    readNumbers? (cs.flatMap escape ++ '"' :: rest) = some (cs.map Char.toNat, rest) := by
  induction cs with
  | nil => simp [readNumbers?]
  | cons c cs ih =>
    simp [List.flatMap_cons, List.append_assoc, readNumbers?_escape, ih, consNumber]

/-- A quoted text reads back, whatever follows it. -/
theorem readQuoted?_quoted (cs rest : List Char) :
    readQuoted? ((quoted cs).drop 1 ++ rest) = some (cs, rest) := by
  simp [quoted, readQuoted?, List.append_assoc, readNumbers?_flatMap_escape, joinPairs_map_toNat]

end TableFormula.Json

import TableFormula.Calendar.Moment

/-!
# Clocks

A clock tells the present moment.  How an everyday date is read depends on the present as well, so
the reader of everyday dates comes with the clock.  What counts as such a date is a matter of taste:
all that is asked of a reader is that an empty text is none, and that too many digits are the only
fault.
-/

namespace TableFormula

/-- A reader of everyday dates. -/
structure Everyday.Reader where
  /-- The moment that a text names, if it names one. -/
  read : List Char → Except Fault (Option Moment)
  read_nil : read [] = .ok none
  eq_tooManyDigits : ∀ {cs : List Char} {fault : Fault}, read cs = .error fault →
    fault = .tooManyDigits

/-- The present moment, and how everyday dates are read at present. -/
structure Clock where
  now : Stamp
  everyday : Everyday.Reader

end TableFormula

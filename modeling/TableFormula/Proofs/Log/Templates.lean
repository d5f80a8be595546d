import TableFormula.Log.Console
import Mathlib.Tactic.Common

/-!
# Templates that can be filled

A template all of whose places have names is filled from members exactly if every place fits them
(`exists_fillTemplate_iff`): it names one of them, its letter can show that one, and its width and
its precision are written out.  A star has no argument to take: the member that the place names is
the only one.
-/

namespace TableFormula.Log

/-! ## Steps that may fail -/

section Steps

variable {ε α β : Type}

lemma exists_map_eq_ok_iff {x : Except ε α} {f : α → β} :
    (∃ b, x.map f = .ok b) ↔ ∃ a, x = .ok a := by
  cases x with
  | error fault => exact ⟨nofun, nofun⟩
  | ok a => exact ⟨fun _ => ⟨a, rfl⟩, fun _ => ⟨f a, rfl⟩⟩

lemma exists_mapError_eq_ok_iff {δ : Type} {x : Except ε α} {f : ε → δ} :
    (∃ a, x.mapError f = .ok a) ↔ ∃ a, x = .ok a := by
  cases x with
  | error fault => exact ⟨nofun, nofun⟩
  | ok a => exact ⟨fun _ => ⟨a, rfl⟩, fun _ => ⟨a, rfl⟩⟩

end Steps

/-! ## Letters -/

/-- Whether a letter can show what fills a place: as text, unless a number in it has too many digits,
or as a number or a character, if it is one. -/
def CanShow (letter : Char) (f : Filling) : Prop :=
  (letter ∈ ['s', 'r', 'a'] ∧ f.hasText = true) ∨
    (letter ∈ ['d', 'i', 'u'] ∧ ∃ n, f.datum >>= decimalArgument = .ok n) ∨
    (letter ∈ ['o', 'x', 'X'] ∧ ∃ n, f.datum >>= wholeArgument false = .ok n) ∨
    (letter ∈ ['e', 'E', 'f', 'F', 'g', 'G'] ∧ ∃ x, f.datum >>= fractionArgument = .ok x) ∨
    (letter = 'c' ∧ ∃ c, f.datum >>= charArgument = .ok c)

namespace Filling

lemma exists_literal_iff {f : Filling} : (∃ cs, f.literal = .ok cs) ↔ f.hasText = true := by
  match f with
  | data d => by_cases h : d.hasText <;> simp [literal, hasText, h]
  | other (some _) => simp [literal, hasText]
  | other none => simp [literal, hasText]

lemma exists_text_iff {f : Filling} : (∃ cs, f.text = .ok cs) ↔ f.hasText = true := by
  rw [← exists_literal_iff]
  unfold text
  split
  · simp [literal, Json.hasText]
  · rfl

end Filling

/-- The frame does not matter for whether a letter can show what fills a place. -/
lemma Frame.exists_show_iff (f : Frame) {letter : Char} {filling : Filling} :
    (∃ text, f.show letter filling = .ok text) ↔ CanShow letter filling := by
  unfold Frame.show
  split
  case h_17 =>
    -- no letter of a list
    refine ⟨nofun, fun h => ?_⟩
    simp_all [CanShow]
  all_goals
    simp [CanShow, exists_map_eq_ok_iff, Filling.exists_literal_iff, Filling.exists_text_iff]

/-! ## Places -/

/-- Whether a measure is written out, below a limit, or left out. -/
def Measure.IsWritten (limit : Nat) : Measure → Prop
  | absent => True
  | given n => n < limit
  | asked => False

instance (limit : Nat) (m : Measure) : Decidable (m.IsWritten limit) := by
  cases m <;> unfold Measure.IsWritten <;> infer_instance

lemma Measure.exists_take {m : Measure} {limit : Nat} (h : m.IsWritten limit) (s : Supply) :
    ∃ n, m.take limit s = .ok (n, s) := by
  cases m with
  | absent => exact ⟨none, rfl⟩
  | given n => exact ⟨some n, if_pos h⟩
  | asked => exact h.elim

lemma Supply.next_eq_ok {s s' : Supply} {argument : Filling} (h : s.next = .ok (argument, s')) :
    s'.arguments.length < s.arguments.length := by
  unfold next at h
  split at h
  · cases h
  · rename_i heq
    cases h
    rw [heq]
    exact Nat.lt_succ_self _

/-- A measure that is taken from the arguments uses one of them. -/
lemma Measure.take_eq_ok {m : Measure} {limit : Nat} {s s' : Supply} {n : Option Int}
    (h : m.take limit s = .ok (n, s')) :
    (m.IsWritten limit ∧ s' = s) ∨ s'.arguments.length < s.arguments.length := by
  cases m with
  | absent =>
    cases h
    exact .inl ⟨trivial, rfl⟩
  | given n =>
    rw [take] at h
    split at h
    · cases h
      exact .inl ⟨by assumption, rfl⟩
    · cases h
  | asked =>
    obtain ⟨⟨argument, rest⟩, hnext, h⟩ := bind_eq_ok_iff.mp h
    have hrest : s' = rest := by
      simp only [bind, Except.bind, pure, Except.pure, throw, throwThe, MonadExceptOf.throw] at h
      repeat' split at h
      all_goals cases h
      all_goals rfl
    exact .inr (hrest ▸ Supply.next_eq_ok hnext)

namespace Place

/-- Whether the measures of a place are written out. -/
def IsMeasured (p : Place) : Prop :=
  p.width.IsWritten (Nat.pow 2 63) ∧ p.precision.IsWritten (Nat.pow 2 31)

instance (p : Place) : Decidable p.IsMeasured :=
  inferInstanceAs (Decidable (_ ∧ _))

lemma exists_frame {p : Place} (h : p.IsMeasured) (s : Supply) :
    ∃ f, p.frame s = .ok (f, s) := by
  obtain ⟨width, hwidth⟩ := Measure.exists_take h.1 s
  obtain ⟨precision, hprecision⟩ := Measure.exists_take h.2 s
  rw [frame, hwidth]
  simp only [bind, Except.bind, hprecision]
  exact ⟨_, rfl⟩

lemma frame_eq_ok {p : Place} {s s' : Supply} {f : Frame} (h : p.frame s = .ok (f, s')) :
    (p.IsMeasured ∧ s' = s) ∨ s'.arguments.length < s.arguments.length := by
  obtain ⟨⟨width, t⟩, hwidth, h⟩ := bind_eq_ok_iff.mp h
  obtain ⟨⟨precision, t'⟩, hprecision, h⟩ := bind_eq_ok_iff.mp h
  cases h
  rcases Measure.take_eq_ok hwidth with ⟨hw, rfl⟩ | hw
  · exact (Measure.take_eq_ok hprecision).imp_left fun hp => ⟨⟨hw, hp.1⟩, hp.2⟩
  · refine .inr ?_
    rcases Measure.take_eq_ok hprecision with ⟨-, rfl⟩ | hp
    · exact hw
    · exact Nat.lt_trans hp hw

/-- Whether a place names a member that it can show. -/
def Fits (p : Place) (members : List (String × Filling)) : Prop :=
  p.IsMeasured ∧ ∃ name filling letter, p.name = .given name ∧
    Supply.lookup members name = .ok filling ∧ p.letter = some letter ∧ CanShow letter filling

end Place

/-- Whether a supply gives some members. -/
def Supply.Gives (s : Supply) (members : List (String × Filling)) : Prop :=
  s.members = some (lookup members)

section Members

variable {members : List (String × Filling)} {s : Supply}

/-- A supply turns to a member, which then is its only argument. -/
lemma Supply.Gives.turnTo (hs : s.Gives members) (name : String) :
    s.turnTo (.given name) =
      (lookup members name).map fun filling => { s with arguments := [filling] } := by
  obtain ⟨arguments, found⟩ := s
  cases hs
  simp only [Supply.turnTo]
  cases lookup members name <;> rfl

namespace Place

/-- A place that fits some members is filled from them. -/
lemma Fits.exists_fill {p : Place} (h : p.Fits members) (hs : s.Gives members) :
    ∃ text s', p.fill s = .ok (text, s') ∧ s'.Gives members := by
  obtain ⟨hmeasured, name, filling, letter, hname, hfound, hletter, hshow⟩ := h
  obtain ⟨f, hf⟩ := exists_frame hmeasured { s with arguments := [filling] }
  obtain ⟨text, htext⟩ := f.exists_show_iff.mpr hshow
  refine ⟨text, { s with arguments := [] }, ?_, hs⟩
  rw [fill, hname, hs.turnTo, hfound]
  simp only [Except.map, bind, Except.bind, hf, hletter, Supply.next, htext]
  rfl

/-- A place that has a name and is filled from some members fits them. -/
lemma fits_of_fill {p : Place} {name : String} (hname : p.name = .given name)
    (hs : s.Gives members) {text : List Char} {s' : Supply} (h : p.fill s = .ok (text, s')) :
    p.Fits members ∧ s'.Gives members := by
  rw [fill, hname, hs.turnTo] at h
  obtain ⟨t, ht, h⟩ := bind_eq_ok_iff.mp h
  cases hfound : Supply.lookup members name with
  | error fault =>
    rw [hfound] at ht
    cases ht
  | ok filling =>
  rw [hfound] at ht
  cases ht
  obtain ⟨⟨f, t⟩, hf, h⟩ := bind_eq_ok_iff.mp h
  cases hletter : p.letter with
  | none =>
    rw [hletter] at h
    cases h
  | some letter =>
    rw [hletter] at h
    obtain ⟨⟨argument, t'⟩, hnext, h⟩ := bind_eq_ok_iff.mp h
    obtain ⟨shown, hshown, h⟩ := bind_eq_ok_iff.mp h
    cases h
    -- the member is still there only if no measure has taken it
    rcases frame_eq_ok hf with ⟨hmeasured, rfl⟩ | hless
    · cases hnext
      exact ⟨⟨hmeasured, name, filling, letter, hname, hfound, hletter,
        f.exists_show_iff.mp ⟨_, hshown⟩⟩, hs⟩
    · exact absurd (Supply.next_eq_ok hnext) (by simp_all)

end Place

/-! ## Templates -/

/-- A part of a template that is a place has a name. -/
def Piece.IsNamed : Piece → Prop
  | char _ => True
  | place p => ∃ name, p.name = .given name

instance : DecidablePred Piece.IsNamed
  | .char _ => isTrue trivial
  | .place ⟨.given name, _, _, _, _⟩ => isTrue ⟨name, rfl⟩
  | .place ⟨.absent, _, _, _, _⟩ => isFalse nofun
  | .place ⟨.unclosed, _, _, _, _⟩ => isFalse nofun

/-- A part of a template that is a place fits some members. -/
def Piece.Fits (members : List (String × Filling)) : Piece → Prop
  | char _ => True
  | place p => p.Fits members

lemma exists_fillPieces {pieces : List Piece} (h : ∀ piece ∈ pieces, piece.Fits members)
    (hs : s.Gives members) :
    ∃ text s', fillPieces pieces s = .ok (text, s') ∧ s'.Gives members := by
  induction pieces generalizing s with
  | nil => exact ⟨[], s, rfl, hs⟩
  | cons piece pieces ih =>
    obtain ⟨hpiece, hrest⟩ := List.forall_mem_cons.mp h
    cases piece with
    | char c =>
      obtain ⟨text, s', htext, hs'⟩ := ih hrest hs
      refine ⟨c :: text, s', ?_, hs'⟩
      rw [fillPieces, htext]
      rfl
    | place p =>
      obtain ⟨shown, t, hshown, ht⟩ := Place.Fits.exists_fill hpiece hs
      obtain ⟨text, s', htext, hs'⟩ := ih hrest ht
      refine ⟨shown ++ text, s', ?_, hs'⟩
      rw [fillPieces, hshown]
      simp only [bind, Except.bind, htext]
      rfl

lemma fits_of_fillPieces {pieces : List Piece} (hnamed : ∀ piece ∈ pieces, piece.IsNamed)
    (hs : s.Gives members) {text : List Char} {s' : Supply}
    (h : fillPieces pieces s = .ok (text, s')) : ∀ piece ∈ pieces, piece.Fits members := by
  induction pieces generalizing s text s' with
  | nil => exact List.forall_mem_nil _
  | cons piece pieces ih =>
    obtain ⟨hname, hothers⟩ := List.forall_mem_cons.mp hnamed
    rw [List.forall_mem_cons]
    cases piece with
    | char c =>
      obtain ⟨⟨rest, t⟩, hrest, -⟩ := bind_eq_ok_iff.mp h
      exact ⟨trivial, ih hothers hs hrest⟩
    | place p =>
      obtain ⟨name, hname⟩ := hname
      obtain ⟨⟨shown, t⟩, hshown, h⟩ := bind_eq_ok_iff.mp h
      obtain ⟨⟨rest, t'⟩, hrest, -⟩ := bind_eq_ok_iff.mp h
      obtain ⟨hfits, ht⟩ := p.fits_of_fill hname hs hshown
      exact ⟨hfits, ih hothers ht hrest⟩

end Members

/-- A template all of whose places have names is filled from some members exactly if all of them
fit these. -/
theorem exists_fillTemplate_iff {template : String} {members : List (String × Filling)}
    (hnamed : ∀ piece ∈ piecesOf template, piece.IsNamed) :
    (∃ text, fillTemplate template (.ofMembers members) = .ok text) ↔
      ∀ piece ∈ piecesOf template, piece.Fits members := by
  have hs : (Supply.ofMembers members).Gives members := rfl
  constructor
  · rintro ⟨text, h⟩
    obtain ⟨⟨cs, s⟩, hcs, -⟩ := bind_eq_ok_iff.mp h
    exact fits_of_fillPieces hnamed hs hcs
  · intro h
    obtain ⟨cs, s, hcs, hs⟩ := exists_fillPieces h hs
    have hdone : s.isDone = true := by
      rw [Supply.isDone, show s.members = _ from hs]
      exact Bool.or_true _
    refine ⟨String.ofList cs, ?_⟩
    rw [fillTemplate, hcs]
    exact if_pos hdone

end TableFormula.Log

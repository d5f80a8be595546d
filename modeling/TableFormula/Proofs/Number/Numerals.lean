import Mathlib.Data.Int.Notation
import Mathlib.Data.List.Basic
import Mathlib.Tactic.Common
import TableFormula.Number.Numeral

/-!
# Numerals in a text

Said without the reader: which texts spell a numeral, and which numeral that is (`SpellsNumeral`).

**The longest one.**  A text may begin with many numerals, since every part that ends behind a digit
is one.  The reader takes the longest (`LongestNumeral`), in one pass: the digits, the point and the
exponent go as far as they can, and none of them takes what a longer numeral would need for
something else.  An exponent without digits is left in the rest, and so is all that follows it.
-/

namespace TableFormula.Number

/-! ## What spells a numeral -/

/-- The sign in front of a number; the flag says whether it is a minus. -/
inductive SpellsSign : List Char → Bool → Prop where
  | none : SpellsSign [] false
  | plus : SpellsSign ['+'] false
  | minus : SpellsSign ['-'] true

/-- Digits with an optional point among them, behind them or in front: those before the point and
those behind it. -/
inductive SpellsPoint : List Char → List Char → List Char → Prop where
  | whole {digits : List Char} (hdigits : ∀ c ∈ digits, c.isDigit = true) (hne : digits ≠ []) :
      SpellsPoint digits digits []
  | point {digits places : List Char} (hdigits : ∀ c ∈ digits, c.isDigit = true)
      (hne : digits ≠ []) (hplaces : ∀ c ∈ places, c.isDigit = true) :
      SpellsPoint (digits ++ '.' :: places) digits places
  | front {places : List Char} (hplaces : ∀ c ∈ places, c.isDigit = true) (hne : places ≠ []) :
      SpellsPoint ('.' :: places) [] places

/-- A complete exponent, or none. -/
inductive SpellsExponent : List Char → ℤ → Prop where
  | none : SpellsExponent [] 0
  | some {mark : Char} (hmark : mark = 'e' ∨ mark = 'E') {sign : List Char} {negative : Bool}
      (hsign : SpellsSign sign negative) {digits : List Char}
      (hdigits : ∀ c ∈ digits, c.isDigit = true) (hne : digits ≠ []) :
      SpellsExponent (mark :: (sign ++ digits))
        (if negative then -(natOf digits : ℤ) else natOf digits)

/-- A number without its sign. -/
inductive SpellsSize : List Char → Magnitude → Prop where
  | infinite : SpellsSize infinityWord .infinite
  | decimal {point whole places mark : List Char} {exponent : ℤ}
      (hpoint : SpellsPoint point whole places) (hexponent : SpellsExponent mark exponent) :
      SpellsSize (point ++ mark) (.decimal (natOf (whole ++ places)) (exponent - places.length))

/-- A text that is a numeral, and the numeral. -/
inductive SpellsNumeral : List Char → Numeral → Prop where
  | mk {sign size : List Char} {negative : Bool} {value : Magnitude}
      (hsign : SpellsSign sign negative) (hsize : SpellsSize size value) :
      SpellsNumeral (sign ++ size) ⟨negative, value⟩

/-- The longest numeral that a text begins with: all others are shorter. -/
structure LongestNumeral (cs word : List Char) (numeral : Numeral) : Prop where
  isPrefix : word <+: cs
  spells : SpellsNumeral word numeral
  longest : ∀ word' numeral', word' <+: cs → SpellsNumeral word' numeral' →
    word'.length < word.length ∨ word' = word ∧ numeral' = numeral

/-! ## What is read is spelled -/

lemma eq_append_of_spanDigits {cs digits rest : List Char} (h : spanDigits cs = (digits, rest)) :
    cs = digits ++ rest ∧ ∀ c ∈ digits, c.isDigit = true := by
  cases h
  exact ⟨(spanDigits_append cs).symm, List.all_eq_true.mp List.all_takeWhile⟩

lemma exists_spanDigits (cs : List Char) :
    ∃ digits rest, cs = digits ++ rest ∧ spanDigits cs = (digits, rest) ∧
      ∀ c ∈ digits, c.isDigit = true := by
  obtain ⟨digits, rest, h⟩ : ∃ digits rest, spanDigits cs = (digits, rest) := ⟨_, _, rfl⟩
  obtain ⟨hcs, hdigits⟩ := eq_append_of_spanDigits h
  exact ⟨digits, rest, hcs, h, hdigits⟩

lemma exists_spellsSign (cs : List Char) :
    ∃ word rest negative, cs = word ++ rest ∧ readSign cs = (negative, rest) ∧
      SpellsSign word negative := by
  unfold readSign
  split
  · exact ⟨['+'], _, false, rfl, rfl, .plus⟩
  · exact ⟨['-'], _, true, rfl, rfl, .minus⟩
  · exact ⟨[], _, false, rfl, rfl, .none⟩

lemma exists_spellsPoint {cs whole places rest : List Char}
    (h : readPoint? cs = some (whole, places, rest)) :
    ∃ word, cs = word ++ rest ∧ SpellsPoint word whole places := by
  unfold readPoint? at h
  split at h
  case h_1 rest' hspan =>
    obtain ⟨rfl, -⟩ := eq_append_of_spanDigits hspan
    split at h
    · cases h
    · rename_i hne hspan'
      cases h
      obtain ⟨rfl, hplaces⟩ := eq_append_of_spanDigits hspan'
      exact ⟨'.' :: places, rfl, .front hplaces hne⟩
  case h_2 => cases h
  case h_3 digits rest' hne hspan =>
    obtain ⟨rfl, hdigits⟩ := eq_append_of_spanDigits hspan
    obtain ⟨places', rest'', rfl, hspan', hplaces⟩ := exists_spanDigits rest'
    rw [hspan'] at h
    cases h
    exact ⟨whole ++ '.' :: places, by simp, .point hdigits hne hplaces⟩
  case h_4 hne _ hspan =>
    cases h
    obtain ⟨rfl, hdigits⟩ := eq_append_of_spanDigits hspan
    exact ⟨whole, rfl, .whole hdigits hne⟩

lemma exists_spellsExponent (cs : List Char) :
    ∃ word rest exponent, cs = word ++ rest ∧ readExponent cs = (exponent, rest) ∧
      SpellsExponent word exponent := by
  have hnone (h : readExponent cs = (0, cs)) : ∃ word rest exponent, cs = word ++ rest ∧
      readExponent cs = (exponent, rest) ∧ SpellsExponent word exponent :=
    ⟨[], cs, 0, rfl, h, .none⟩
  cases cs with
  | nil => exact hnone rfl
  | cons mark rest =>
    by_cases hmark : mark = 'e' ∨ mark = 'E'
    · obtain ⟨sign, body, negative, rfl, hread, hsign⟩ := exists_spellsSign rest
      obtain ⟨digits, rest, rfl, hspan, hdigits⟩ := exists_spanDigits body
      by_cases hne : digits = []
      · refine hnone ?_
        rw [readExponent, if_pos hmark, hread, hspan, hne]
      · refine ⟨mark :: (sign ++ digits), rest,
          if negative then -(natOf digits : ℤ) else natOf digits, by simp, ?_,
          .some hmark hsign hdigits hne⟩
        obtain ⟨c, digits, rfl⟩ := List.exists_cons_of_ne_nil hne
        rw [readExponent, if_pos hmark, hread, hspan]
    · exact hnone (by rw [readExponent, if_neg hmark])

lemma exists_spellsSize {cs rest : List Char} {size : Magnitude}
    (h : readDecimal? cs = some (size, rest)) :
    ∃ word, cs = word ++ rest ∧ SpellsSize word size := by
  unfold readDecimal? at h
  split at h
  · cases h
  · rename_i whole places rest' hread
    obtain ⟨point, rfl, hpoint⟩ := exists_spellsPoint hread
    obtain ⟨mark, rest'', exponent, rfl, hread', hexponent⟩ := exists_spellsExponent rest'
    rw [hread'] at h
    cases h
    exact ⟨point ++ mark, (List.append_assoc _ _ _).symm, .decimal hpoint hexponent⟩

/-- What is read as a numeral spells it. -/
lemma exists_spellsNumeral {cs rest : List Char} {numeral : Numeral}
    (h : Numeral.read? cs = some (numeral, rest)) :
    ∃ word, cs = word ++ rest ∧ SpellsNumeral word numeral := by
  obtain ⟨sign, body, negative, rfl, hread, hsign⟩ := exists_spellsSign cs
  rw [Numeral.read?, hread] at h
  dsimp only at h
  split at h
  · rename_i hinfinity
    cases h
    obtain ⟨rest, rfl⟩ := List.isPrefixOf_iff_prefix.mp hinfinity
    refine ⟨sign ++ infinityWord, ?_, .mk hsign .infinite⟩
    rw [List.drop_left, List.append_assoc]
  · obtain ⟨⟨size, rest'⟩, hsize, heq⟩ := Option.map_eq_some_iff.mp h
    cases heq
    obtain ⟨word, rfl, hspells⟩ := exists_spellsSize hsize
    exact ⟨sign ++ word, (List.append_assoc _ _ _).symm, .mk hsign hspells⟩

/-! ## What is spelled is read

Where a text begins with a numeral, the reader takes all of it, and possibly more.  If it takes no
more, it finds the numeral that is spelled.
-/

/-- More digits behind digits are read with them. -/
lemma spanDigits_digits_append {digits rest more rest' : List Char}
    (hdigits : ∀ c ∈ digits, c.isDigit = true) (h : spanDigits rest = (more, rest')) :
    spanDigits (digits ++ rest) = (digits ++ more, rest') := by
  cases h
  rw [spanDigits, List.takeWhile_append_of_pos hdigits, List.dropWhile_append_of_pos hdigits]

lemma readPoint?_whole {cs digits rest : List Char} (h : spanDigits cs = (digits, rest))
    (hne : digits ≠ []) (hpoint : ∀ rest', rest ≠ '.' :: rest') :
    readPoint? cs = some (digits, [], rest) := by
  unfold readPoint?
  rw [h]
  split
  case h_1 heq => exact absurd (Prod.mk.inj heq).1 hne
  case h_2 heq => exact absurd (Prod.mk.inj heq).1 hne
  case h_3 heq => exact absurd (Prod.mk.inj heq).2 (hpoint _)
  case h_4 heq =>
    cases heq
    rfl

lemma readPoint?_point {cs digits rest places rest' : List Char}
    (h : spanDigits cs = (digits, '.' :: rest)) (hne : digits ≠ [])
    (h' : spanDigits rest = (places, rest')) : readPoint? cs = some (digits, places, rest') := by
  obtain ⟨c, digits, rfl⟩ := List.exists_cons_of_ne_nil hne
  rw [readPoint?, h]
  exact congrArg (fun parts => some (c :: digits, parts)) h'

lemma readPoint?_front {cs rest places rest' : List Char} (h : spanDigits cs = ([], '.' :: rest))
    (h' : spanDigits rest = (places, rest')) (hne : places ≠ []) :
    readPoint? cs = some ([], places, rest') := by
  obtain ⟨c, places, rfl⟩ := List.exists_cons_of_ne_nil hne
  rw [readPoint?, h]
  simp only [h']

/-- Behind a point and its digits, only more digits and a first point can be taken. -/
lemma SpellsPoint.readPoint?_append {word whole places : List Char}
    (h : SpellsPoint word whole places) (rest : List Char) :
    ∃ more rest' whole' places', rest = more ++ rest' ∧
      readPoint? (word ++ rest) = some (whole', places', rest') ∧
      (∀ c ∈ more.head?, c.isDigit = true ∨ c = '.') ∧
      (more = [] → whole' = whole ∧ places' = places) := by
  obtain ⟨more, rest', hrest, hspan, hmore⟩ := exists_spanDigits rest
  have hhead : ∀ c ∈ more.head?, c.isDigit = true ∨ c = '.' :=
    fun c hc => .inl (hmore c (List.mem_of_mem_head? hc))
  cases h with
  | whole hdigits hne =>
    have hread := spanDigits_digits_append hdigits hspan
    have hne' : word ++ more ≠ [] := List.append_ne_nil_of_left_ne_nil hne _
    by_cases hpoint : ∃ rest'', rest' = '.' :: rest''
    · obtain ⟨rest'', rfl⟩ := hpoint
      obtain ⟨places', rest', rfl, hspan', -⟩ := exists_spanDigits rest''
      refine ⟨more ++ '.' :: places', rest', _, _, by simp [hrest],
        readPoint?_point hread hne' hspan', ?_, by simp⟩
      intro c hc
      cases more with
      | nil => exact .inr (Option.some.inj hc).symm
      | cons d more => exact hhead c hc
    · refine ⟨more, rest', _, _, hrest,
        readPoint?_whole hread hne' fun rest'' heq => hpoint ⟨rest'', heq⟩, hhead, ?_⟩
      rintro rfl
      exact ⟨List.append_nil word, rfl⟩
  | @point digits places hdigits hne hplaces =>
    have hstop : spanDigits ('.' :: (places ++ rest)) = ([], '.' :: (places ++ rest)) := rfl
    have hread := spanDigits_digits_append hdigits hstop
    rw [List.append_nil] at hread
    refine ⟨more, rest', whole, places ++ more, hrest, ?_, hhead, ?_⟩
    · rw [List.append_assoc, List.cons_append]
      exact readPoint?_point hread hne (spanDigits_digits_append hplaces hspan)
    · rintro rfl
      exact ⟨rfl, List.append_nil _⟩
  | front hplaces hne =>
    refine ⟨more, rest', [], places ++ more, hrest, readPoint?_front rfl
      (spanDigits_digits_append hplaces hspan) (List.append_ne_nil_of_left_ne_nil hne _), hhead, ?_⟩
    rintro rfl
    exact ⟨rfl, List.append_nil _⟩

lemma readSign_append {sign body : List Char} {negative : Bool} (h : SpellsSign sign negative)
    (hbody : ∀ c ∈ body.head?, c ≠ '+' ∧ c ≠ '-') : readSign (sign ++ body) = (negative, body) := by
  cases h with
  | none =>
    rw [List.nil_append]
    unfold readSign
    split
    · exact absurd rfl (hbody '+' rfl).1
    · exact absurd rfl (hbody '-' rfl).2
    · rfl
  | plus => rfl
  | minus => rfl

lemma ne_sign_of_isDigit {c : Char} (h : c.isDigit = true) : c ≠ '+' ∧ c ≠ '-' := by
  constructor <;> rintro rfl <;> cases h

lemma SpellsExponent.readExponent_append {word : List Char} {exponent : ℤ}
    (h : SpellsExponent word exponent) (rest : List Char) :
    ∃ more rest' exponent', rest = more ++ rest' ∧
      readExponent (word ++ rest) = (exponent', rest') ∧ (more = [] → exponent' = exponent) := by
  cases h with
  | none =>
    obtain ⟨more, rest', exponent, hrest, hread, hspells⟩ := exists_spellsExponent rest
    refine ⟨more, rest', exponent, hrest, hread, ?_⟩
    rintro rfl
    cases hspells
    rfl
  | @some mark hmark sign negative hsign digits hdigits hne =>
    obtain ⟨more, rest', hrest, hspan, -⟩ := exists_spanDigits rest
    have hread := spanDigits_digits_append hdigits hspan
    have hsign' : readSign (sign ++ (digits ++ rest)) = (negative, digits ++ rest) := by
      refine readSign_append hsign fun c hc => ne_sign_of_isDigit (hdigits c ?_)
      rw [List.head?_append_of_ne_nil _ hne] at hc
      exact List.mem_of_mem_head? hc
    refine ⟨more, rest', if negative then -(natOf (digits ++ more) : ℤ) else natOf (digits ++ more),
      hrest, ?_, ?_⟩
    · rw [List.cons_append, List.append_assoc, readExponent, if_pos hmark, hsign', hread]
      obtain ⟨c, digits, rfl⟩ := List.exists_cons_of_ne_nil hne
      rfl
    · rintro rfl
      rw [List.append_nil]

/-! ### Sizes and numerals -/

lemma SpellsExponent.head?_eq {word : List Char} {exponent : ℤ} (h : SpellsExponent word exponent)
    (hne : word ≠ []) : ∀ c ∈ word.head?, c = 'e' ∨ c = 'E' := by
  cases h with
  | none => exact absurd rfl hne
  | some hmark =>
    intro c hc
    rwa [← Option.some.inj hc]

lemma SpellsPoint.exists_head? {word whole places : List Char} (h : SpellsPoint word whole places) :
    ∃ c rest, word = c :: rest ∧ (c.isDigit = true ∨ c = '.') := by
  cases h with
  | whole hdigits hne =>
    obtain ⟨c, rest, rfl⟩ := List.exists_cons_of_ne_nil hne
    exact ⟨c, rest, rfl, .inl (hdigits c List.mem_cons_self)⟩
  | point hdigits hne =>
    obtain ⟨c, rest, rfl⟩ := List.exists_cons_of_ne_nil hne
    exact ⟨c, _, rfl, .inl (hdigits c List.mem_cons_self)⟩
  | front => exact ⟨'.', _, rfl, .inr rfl⟩

/-- A decimal, or more of it, is read. -/
lemma exists_readDecimal?_append {point whole places mark : List Char} {exponent : ℤ}
    (hpoint : SpellsPoint point whole places) (hexponent : SpellsExponent mark exponent)
    (rest : List Char) :
    ∃ more rest' size', rest = more ++ rest' ∧
      readDecimal? (point ++ mark ++ rest) = some (size', rest') ∧
      (more = [] → size' = .decimal (natOf (whole ++ places)) (exponent - places.length)) := by
  obtain ⟨more, rest', whole', places', hrest, hread, hmore, hvalue⟩ :=
    hpoint.readPoint?_append (mark ++ rest)
  by_cases hmark : mark = []
  · -- No exponent is spelled, so more digits may follow, and then an exponent.
    subst hmark
    cases hexponent
    obtain ⟨mark, rest'', exponent', rfl, hread', hspells⟩ := exists_spellsExponent rest'
    refine ⟨more ++ mark, rest'', .decimal (natOf (whole' ++ places')) (exponent' - places'.length),
      by simpa using hrest, ?_, ?_⟩
    · rw [List.append_nil, readDecimal?]
      rw [List.nil_append] at hread
      rw [hread]
      dsimp only
      rw [hread']
    · intro hnil
      obtain ⟨rfl, rfl⟩ := List.append_eq_nil_iff.mp hnil
      obtain ⟨rfl, rfl⟩ := hvalue rfl
      cases hspells
      rfl
  · -- The exponent ends the digits.
    have hnone : more = [] := by
      obtain ⟨c, mark, rfl⟩ := List.exists_cons_of_ne_nil hmark
      cases more with
      | nil => rfl
      | cons d more =>
        obtain rfl : c = d := (List.cons.inj hrest).1
        obtain rfl | rfl := hexponent.head?_eq hmark c rfl <;> obtain h | h := hmore _ rfl <;> cases h
    subst hnone
    obtain ⟨rfl, rfl⟩ := hvalue rfl
    rw [List.nil_append] at hrest
    obtain ⟨more, rest'', exponent', rfl, hread', hvalue'⟩ := hexponent.readExponent_append rest
    refine ⟨more, rest'', .decimal (natOf (whole' ++ places')) (exponent' - places'.length), rfl,
      ?_, ?_⟩
    · rw [List.append_assoc, readDecimal?, hread]
      dsimp only
      rw [← hrest, hread']
    · intro hnil
      rw [hvalue' hnil]

lemma infinityWord_not_isPrefixOf {c : Char} {cs : List Char} (h : c.isDigit = true ∨ c = '.') :
    infinityWord.isPrefixOf (c :: cs) = false := by
  have hne : c ≠ 'I' := by
    rintro rfl
    obtain h | h := h <;> cases h
  rw [infinityWord, List.isPrefixOf, beq_eq_false_iff_ne.mpr hne.symm, Bool.false_and]

/-- **The reader goes on** at least to the end of every numeral that a text begins with. -/
lemma SpellsNumeral.exists_read? {word : List Char} {numeral : Numeral}
    (h : SpellsNumeral word numeral) (rest : List Char) :
    ∃ more rest' numeral', rest = more ++ rest' ∧
      Numeral.read? (word ++ rest) = some (numeral', rest') ∧ (more = [] → numeral' = numeral) := by
  obtain ⟨hsign, hsize⟩ := h
  rename_i sign size negative value
  cases hsize with
  | infinite =>
    have hread : readSign (sign ++ (infinityWord ++ rest)) = (negative, infinityWord ++ rest) :=
      readSign_append hsign fun c hc => by
        cases hc
        decide
    refine ⟨[], rest, ⟨negative, .infinite⟩, rfl, ?_, fun _ => rfl⟩
    rw [List.append_assoc, Numeral.read?, hread]
    dsimp only
    rw [if_pos (List.isPrefixOf_iff_prefix.mpr (List.prefix_append _ _)), List.drop_left]
  | @decimal point whole places mark exponent hpoint hexponent =>
    obtain ⟨c, tail, hhead, hc⟩ := hpoint.exists_head?
    have hread : readSign (sign ++ (point ++ mark ++ rest)) = (negative, point ++ mark ++ rest) := by
      refine readSign_append hsign fun d hd => ?_
      rw [hhead] at hd
      cases hd
      obtain hdigit | rfl := hc
      · exact ne_sign_of_isDigit hdigit
      · decide
    obtain ⟨more, rest', size, hrest, hsize, hvalue⟩ :=
      exists_readDecimal?_append hpoint hexponent rest
    refine ⟨more, rest', ⟨negative, size⟩, hrest, ?_, fun hnil => by rw [hvalue hnil]⟩
    have hinfinity : infinityWord.isPrefixOf (point ++ mark ++ rest) = false := by
      rw [hhead]
      exact infinityWord_not_isPrefixOf hc
    rw [List.append_assoc, Numeral.read?, hread]
    dsimp only
    rw [hinfinity, if_neg Bool.false_ne_true, hsize]
    rfl

/-- A text that is a numeral is read as this numeral, and nothing is left. -/
lemma SpellsNumeral.read?_eq {word : List Char} {numeral : Numeral}
    (h : SpellsNumeral word numeral) : Numeral.read? word = some (numeral, []) := by
  obtain ⟨more, rest, numeral', hnil, hread, hvalue⟩ := h.exists_read? []
  obtain ⟨rfl, rfl⟩ := List.append_eq_nil_iff.mp hnil.symm
  rw [List.append_nil] at hread
  rw [hread, hvalue rfl]

/-! ## The longest numeral -/

/-- **The reader finds the longest numeral**, and none if the text begins with none. -/
theorem longestNumeral_of_read? (cs : List Char) :
    (∃ word rest numeral, cs = word ++ rest ∧ Numeral.read? cs = some (numeral, rest) ∧
      LongestNumeral cs word numeral) ∨
    Numeral.read? cs = none ∧ ∀ word numeral, word <+: cs → ¬ SpellsNumeral word numeral := by
  cases hread : Numeral.read? cs with
  | none =>
    refine .inr ⟨rfl, fun word numeral hprefix hspells => ?_⟩
    obtain ⟨rest, rfl⟩ := hprefix
    obtain ⟨more, rest', numeral', -, hsome, -⟩ := hspells.exists_read? rest
    rw [hread] at hsome
    cases hsome
  | some found =>
    obtain ⟨numeral, rest⟩ := found
    obtain ⟨word, hcs, hspells⟩ := exists_spellsNumeral hread
    refine .inl ⟨word, rest, numeral, hcs, rfl, ⟨⟨rest, hcs.symm⟩, hspells, ?_⟩⟩
    rintro word' numeral' ⟨rest', hcs'⟩ hspells'
    obtain ⟨more, rest'', numeral'', hrest', hread', hvalue⟩ := hspells'.exists_read? rest'
    rw [hcs', hread] at hread'
    cases hread'
    -- What both have in common is the rest behind the longest numeral.
    have hword : word = word' ++ more := by
      have hboth : word ++ rest = word' ++ more ++ rest := by
        rw [← hcs, ← hcs', hrest', List.append_assoc]
      exact List.append_cancel_right hboth
    obtain rfl | hne := eq_or_ne more []
    · rw [List.append_nil] at hword
      exact .inr ⟨hword.symm, (hvalue rfl).symm⟩
    · refine .inl ?_
      rw [hword, List.length_append]
      exact Nat.lt_add_of_pos_right (List.length_pos_of_ne_nil hne)

end TableFormula.Number

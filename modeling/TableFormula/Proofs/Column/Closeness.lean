import Mathlib.Data.List.Nodup
import Mathlib.Data.Prod.Lex
import Mathlib.Order.Bounds.Basic
import TableFormula.Proofs.Column.Insertion

/-!
# The column that answers most closely

Several columns may answer to one reference.  How closely a column answers is its *stage*: 0 if the
reference is its identifier, 1 if it is its name, 2 if it is either of them only ignoring case.  The
reference means the column with the least stage and, among columns of one stage, the first.  So the
columns that answer are ordered by stage and index, lexicographically, and three searches one after
another find the least place in this order (`find?_eq_some_iff_isLeast`).

**Further columns.**  A column that is put behind the others has a greater index than all of them, so
it takes a reference over only by a lesser stage (`find?_append_eq_some_iff`).  Columns that are
computed one after another are appended in this way: what a formula refers to moves to a later column
only if that column is given the reference as its identifier or, where the reference was answered
ignoring case, as its name.
-/

namespace TableFormula.Column

open Text

variable {columns further : List Column} {reference : String} {c : Column} {s i : ℕ}

/-! ## How closely a column answers -/

lemma answersTo_iff :
    c.answersTo reference = true ↔ lower c.id = lower reference ∨ lower c.name = lower reference := by
  simp [answersTo, sameIgnoringCase, or_comm]

/-- How closely a column answers to a reference: 0 by its identifier, 1 by its name, 2 by either of
them ignoring case. -/
def stage? (c : Column) (reference : String) : Option ℕ :=
  if c.id = reference then some 0
  else if c.name = reference then some 1
  else if lower c.id = lower reference ∨ lower c.name = lower reference then some 2
  else none

lemma stage?_eq_zero_iff : c.stage? reference = some 0 ↔ c.id = reference := by
  grind [stage?]

lemma stage?_eq_one_iff :
    c.stage? reference = some 1 ↔ c.id ≠ reference ∧ c.name = reference := by
  grind [stage?]

lemma stage?_eq_two_iff :
    c.stage? reference = some 2 ↔
      c.id ≠ reference ∧ c.name ≠ reference ∧ c.answersTo reference = true := by
  grind [stage?, answersTo_iff]

/-- There are three stages. -/
lemma le_two_of_stage? (h : c.stage? reference = some s) : s ≤ 2 := by
  grind [stage?]

/-- A column has no stage before one of the three exactly if neither its identifier, from stage 1 on,
nor its name, at stage 2, is the reference. -/
lemma forall_stage?_le_iff (hs : s ≤ 2) :
    (∀ t, c.stage? reference = some t → s ≤ t) ↔
      (s ≠ 0 → c.id ≠ reference) ∧ (s = 2 → c.name ≠ reference) := by
  grind [stage?]

/-- A column that has a stage answers ignoring case. -/
lemma answersTo_of_stage? (h : c.stage? reference = some s) : c.answersTo reference = true := by
  rw [answersTo_iff]
  grind [stage?]

/-! ## Places -/

/-- The stage and the index of each column that answers to a reference, ordered by the stage first. -/
def places (columns : List Column) (reference : String) : Set (ℕ ×ₗ ℕ) :=
  {p | ∃ c, columns[(ofLex p).2]? = some c ∧ c.stage? reference = some (ofLex p).1}

lemma mem_places :
    toLex (s, i) ∈ places columns reference ↔
      ∃ c, columns[i]? = some c ∧ c.stage? reference = some s :=
  Iff.rfl

lemma isLeast_places_iff :
    IsLeast (places columns reference) (toLex (s, i)) ↔
      (∃ c, columns[i]? = some c ∧ c.stage? reference = some s) ∧
        ∀ j d t, columns[j]? = some d → d.stage? reference = some t → s < t ∨ s = t ∧ i ≤ j := by
  refine and_congr mem_places ⟨fun hlow j d t hd ht => ?_, fun hlow p hp => ?_⟩
  · exact Prod.Lex.toLex_le_toLex.mp (hlow (mem_places.mpr ⟨d, hd, ht⟩))
  · obtain ⟨d, hd, ht⟩ := hp
    exact Prod.Lex.le_iff.mpr (hlow _ d _ hd ht)

/-- No column has a lesser stage than the least place. -/
lemma le_of_isLeast_places {t : ℕ} (hleast : IsLeast (places columns reference) (toLex (s, i)))
    (hc : c ∈ columns) (ht : c.stage? reference = some t) : s ≤ t := by
  obtain ⟨j, hj⟩ := List.getElem?_of_mem hc
  obtain hlt | ⟨heq, -⟩ := (isLeast_places_iff.mp hleast).2 j c t hj ht
  · exact hlt.le
  · exact heq.le

/-- The column at the least place has its stage. -/
lemma stage?_of_isLeast_places (hleast : IsLeast (places columns reference) (toLex (s, i)))
    (hc : columns[i]? = some c) : c.stage? reference = some s := by
  obtain ⟨c', hc', hstage⟩ := mem_places.mp hleast.1
  obtain rfl : c' = c := Option.some.inj (hc'.symm.trans hc)
  exact hstage

/-- A search for the columns of one stage finds the least place, if no column has a lesser stage. -/
lemma exists_isLeast_of_search {p : Column → Bool} (hfound : columns.find? p = some c)
    (hp : ∀ d ∈ columns, p d = true ↔ d.stage? reference = some s)
    (hs : ∀ d ∈ columns, ∀ t, d.stage? reference = some t → s ≤ t) :
    ∃ i, IsLeast (places columns reference) (toLex (s, i)) ∧ columns[i]? = some c := by
  obtain ⟨hpc, i, hi, rfl, hbefore⟩ := List.find?_eq_some_iff_getElem.mp hfound
  have hat : columns[i]? = some columns[i] := List.getElem?_eq_getElem hi
  refine ⟨i, isLeast_places_iff.mpr ⟨⟨_, hat, (hp _ (List.getElem_mem hi)).mp hpc⟩, ?_⟩, hat⟩
  intro j d t hd ht
  obtain ⟨hj, rfl⟩ := List.getElem?_eq_some_iff.mp hd
  obtain hlt | rfl := (hs _ (List.getElem_mem hj) t ht).lt_or_eq
  · exact .inl hlt
  · refine .inr ⟨rfl, not_lt.mp fun hji => ?_⟩
    have hmissed : (!p columns[j]) = true := hbefore j hji
    rw [(hp _ (List.getElem_mem hj)).mpr ht] at hmissed
    contradiction

/-! ## The least place -/

/-- A reference means no column exactly if no column answers to it ignoring case. -/
lemma find?_eq_none_iff :
    find? columns reference = none ↔ ∀ c ∈ columns, c.answersTo reference = false := by
  rw [find?, Option.or_eq_none_iff, Option.or_eq_none_iff]
  constructor
  · rintro ⟨-, -, h⟩ c hc
    exact Bool.eq_false_of_not_eq_true (List.find?_eq_none.mp h c hc)
  · intro h
    refine ⟨List.find?_eq_none.mpr fun c hc => ?_, List.find?_eq_none.mpr fun c hc => ?_,
      List.find?_eq_none.mpr fun c hc => ?_⟩
    · simpa using id_ne_of_answersTo_eq_false (h c hc)
    · simpa using name_ne_of_answersTo_eq_false (h c hc)
    · simp [h c hc]

/-- The column that a reference means is at the least place. -/
lemma exists_isLeast_of_find?_eq_some (h : find? columns reference = some c) :
    ∃ s i, IsLeast (places columns reference) (toLex (s, i)) ∧ columns[i]? = some c := by
  rw [find?, Option.or_eq_some_iff, Option.or_eq_some_iff] at h
  -- One case for each search: the searches before it found nothing, so no column has their stages.
  obtain hid | ⟨hnoId, hname | ⟨hnoName, hcase⟩⟩ := h
  · exact ⟨0, exists_isLeast_of_search hid (fun d _ => beq_iff_eq.trans stage?_eq_zero_iff.symm)
      fun _ _ _ _ => Nat.zero_le _⟩
  · have hid : ∀ d ∈ columns, d.id ≠ reference := by simpa using hnoId
    refine ⟨1, exists_isLeast_of_search hname (fun d hd => ?_) fun d hd => ?_⟩
    · simp [stage?_eq_one_iff, hid d hd]
    · exact (forall_stage?_le_iff (Nat.le_succ 1)).mpr ⟨fun _ => hid d hd, by simp⟩
  · have hid : ∀ d ∈ columns, d.id ≠ reference := by simpa using hnoId
    have hname : ∀ d ∈ columns, d.name ≠ reference := by simpa using hnoName
    refine ⟨2, exists_isLeast_of_search hcase (fun d hd => ?_) fun d hd => ?_⟩
    · simp [stage?_eq_two_iff, hid d hd, hname d hd]
    · exact (forall_stage?_le_iff le_rfl).mpr ⟨fun _ => hid d hd, fun _ => hname d hd⟩

/-- A reference means a column exactly if that column is at the least place. -/
lemma find?_eq_some_iff_isLeast :
    find? columns reference = some c ↔
      ∃ s i, IsLeast (places columns reference) (toLex (s, i)) ∧ columns[i]? = some c := by
  refine ⟨exists_isLeast_of_find?_eq_some, ?_⟩
  rintro ⟨s, i, hleast, hc⟩
  obtain ⟨c', hc', hstage⟩ := mem_places.mp hleast.1
  cases hfound : find? columns reference with
  | none =>
    have hmissed := find?_eq_none_iff.mp hfound c' (List.mem_of_getElem? hc')
    rw [answersTo_of_stage? hstage] at hmissed
    contradiction
  | some d =>
    obtain ⟨t, j, hleast', hd⟩ := exists_isLeast_of_find?_eq_some hfound
    have hplace : (s, i) = (t, j) := toLex.injective (hleast.unique hleast')
    cases hplace
    exact hd.symm.trans hc

/-- The stage of the column that a reference means is the stage of the least place. -/
lemma exists_isLeast_of_stage? (hfound : find? columns reference = some c)
    (hstage : c.stage? reference = some s) :
    ∃ i, IsLeast (places columns reference) (toLex (s, i)) ∧ columns[i]? = some c := by
  obtain ⟨t, i, hleast, hc⟩ := exists_isLeast_of_find?_eq_some hfound
  obtain rfl : s = t :=
    Option.some.inj (hstage.symm.trans (stage?_of_isLeast_places hleast hc))
  exact ⟨i, hleast, hc⟩

/-! ## Further columns -/

/-- The least place stays the least one when further columns are put behind the others, exactly if
none of them has a lesser stage. -/
lemma isLeast_append_iff (hleast : IsLeast (places columns reference) (toLex (s, i))) :
    IsLeast (places (columns ++ further) reference) (toLex (s, i)) ↔
      ∀ x ∈ further, ∀ t, x.stage? reference = some t → s ≤ t := by
  refine ⟨fun hleast' x hx t ht => le_of_isLeast_places hleast' (List.mem_append_right _ hx) ht,
    fun hfurther => ?_⟩
  obtain ⟨⟨c, hc, hstage⟩, hlow⟩ := isLeast_places_iff.mp hleast
  obtain ⟨hi, -⟩ := List.getElem?_eq_some_iff.mp hc
  refine isLeast_places_iff.mpr
    ⟨⟨c, (List.getElem?_append_left hi).trans hc, hstage⟩, fun j d t hd ht => ?_⟩
  obtain hj | hj := lt_or_ge j columns.length
  · exact hlow j d t ((List.getElem?_append_left hj).symm.trans hd) ht
  · have hd' : further[j - columns.length]? = some d :=
      (List.getElem?_append_right hj).symm.trans hd
    obtain hlt | heq := (hfurther d (List.mem_of_getElem? hd') t ht).lt_or_eq
    · exact .inl hlt
    · exact .inr ⟨heq, (hi.trans_le hj).le⟩

/-- A reference keeps its meaning when further columns are put behind the others, exactly if none of
them has a lesser stage than the column that it means. -/
lemma find?_append_eq_some_iff (hfound : find? columns reference = some c)
    (hstage : c.stage? reference = some s) :
    find? (columns ++ further) reference = some c ↔
      ∀ x ∈ further, ∀ t, x.stage? reference = some t → s ≤ t := by
  constructor
  · intro hfound' x hx t ht
    obtain ⟨i, hleast, -⟩ := exists_isLeast_of_stage? hfound' hstage
    exact le_of_isLeast_places hleast (List.mem_append_right _ hx) ht
  · intro hfurther
    obtain ⟨i, hleast, hc⟩ := exists_isLeast_of_stage? hfound hstage
    obtain ⟨hi, -⟩ := List.getElem?_eq_some_iff.mp hc
    exact find?_eq_some_iff_isLeast.mpr
      ⟨s, i, (isLeast_append_iff hleast).mpr hfurther, (List.getElem?_append_left hi).trans hc⟩

/-- A reference is taken over from the column that it means: this column has another identifier and
a further column has the reference as its identifier, or this column answers only ignoring case and a
further column has the reference as its name. -/
def TakenOver (c : Column) (further : List Column) (reference : String) : Prop :=
  (c.stage? reference ≠ some 0 ∧ ∃ x ∈ further, x.id = reference) ∨
    (c.stage? reference = some 2 ∧ ∃ x ∈ further, x.name = reference)

/-- A reference is not taken over exactly if no further column has a lesser stage. -/
lemma not_takenOver_iff (hstage : c.stage? reference = some s) :
    ¬ c.TakenOver further reference ↔
      ∀ x ∈ further, ∀ t, x.stage? reference = some t → s ≤ t := by
  have hs : s ≤ 2 := le_two_of_stage? hstage
  simp only [forall_stage?_le_iff hs, TakenOver, hstage]
  grind

/-! ## Identifiers -/

/-- The identifier of a column means that column, if no other column has it. -/
lemma find?_id_of_nodup (hids : (columns.map Column.id).Nodup) (hc : c ∈ columns) :
    find? columns c.id = some c := by
  cases hfound : columns.find? (·.id == c.id) with
  | none =>
    have hmissed := List.find?_eq_none.mp hfound c hc
    simp at hmissed
  | some d =>
    have hid : d.id = c.id := by simpa using List.find?_some hfound
    obtain rfl : d = c :=
      List.inj_on_of_nodup_map hids (List.mem_of_find?_eq_some hfound) hc hid
    rw [find?, hfound, Option.some_or]

/-! ## The choice of a column -/

/-- **The choice of a column.**  A reference means no column exactly if it is neither identifier nor
name of a column, ignoring case.  Otherwise it means the column with the least stage and index.  When
further columns are put behind the others, it goes on to mean this column, at this place, exactly if
it is not taken over.  And if the identifiers are distinct, each of them means its own column. -/
theorem closest_laws (columns : List Column) (reference : String) :
    (find? columns reference = none ↔
      ∀ c ∈ columns, lower c.id ≠ lower reference ∧ lower c.name ≠ lower reference) ∧
    (∀ c, find? columns reference = some c ↔
      ∃ s i, IsLeast (places columns reference) (toLex (s, i)) ∧ columns[i]? = some c) ∧
    (∀ c, find? columns reference = some c → ∀ further,
      (find? (columns ++ further) reference ≠ some c ↔ c.TakenOver further reference) ∧
      ∀ p, IsLeast (places columns reference) p →
        (IsLeast (places (columns ++ further) reference) p ↔
          ¬ c.TakenOver further reference)) ∧
    ((columns.map Column.id).Nodup → ∀ c ∈ columns, find? columns c.id = some c) := by
  refine ⟨?_, fun c => find?_eq_some_iff_isLeast, fun c hfound further => ?_,
    fun hids c hc => find?_id_of_nodup hids hc⟩
  · rw [find?_eq_none_iff]
    exact forall₂_congr fun c _ => by rw [← Bool.not_eq_true, answersTo_iff, not_or]
  · obtain ⟨s, i, hleast, hc⟩ := exists_isLeast_of_find?_eq_some hfound
    have hstage : c.stage? reference = some s := stage?_of_isLeast_places hleast hc
    refine ⟨?_, fun p hp => ?_⟩
    · rw [ne_eq, find?_append_eq_some_iff hfound hstage, ← not_takenOver_iff hstage, not_not]
    · obtain rfl : toLex (s, i) = p := hleast.unique hp
      rw [isLeast_append_iff hleast, not_takenOver_iff hstage]

/-- Two columns, each with the identifier of the other as its name but for the case. -/
def crossed : List Column :=
  [⟨"q1", "Total", .number⟩, ⟨"total", "Q1", .number⟩]

/-- A reference that is answered ignoring case is taken over by its exact name, and an identifier is
not by a column of that name before it. -/
theorem closest_laws_crossed :
    find? crossed "TOTAL" = some ⟨"q1", "Total", .number⟩ ∧
      find? (crossed ++ [⟨"all", "TOTAL", .number⟩]) "TOTAL" ≠ some ⟨"q1", "Total", .number⟩ ∧
      (crossed.map Column.id).Nodup ∧
      find? crossed "total" = some ⟨"total", "Q1", .number⟩ := by
  have hfound : find? crossed "TOTAL" = some ⟨"q1", "Total", .number⟩ := by decide +kernel
  have hids : (crossed.map Column.id).Nodup := by decide +kernel
  obtain ⟨-, -, happend, hown⟩ := closest_laws crossed "TOTAL"
  have htaken : TakenOver ⟨"q1", "Total", .number⟩ [⟨"all", "TOTAL", .number⟩] "TOTAL" :=
    .inr ⟨by decide +kernel, _, List.mem_singleton_self _, rfl⟩
  exact ⟨hfound, (happend _ hfound _).1.mpr htaken, hids,
    hown hids ⟨"total", "Q1", .number⟩ (by decide +kernel)⟩

end TableFormula.Column

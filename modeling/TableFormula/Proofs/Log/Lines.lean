import TableFormula.Log.Line
import TableFormula.Proofs.Json.Decoding

/-!
# What log lines say

The line for a record is an object on one line.  It decodes to the members of the record itself, an
error if there is one, and the further attributes that are data, as one member of their own
(`line_of_extras`).  So what an attribute is called never changes what the line says of the record.

A record has a line unless its time, its message or its error cannot be told.  The time can be told
for two thousand million years around 1970 (`Record.IsDated.exists_timestamp`).
-/

namespace TableFormula

/-! ## Times -/

namespace Epoch

lemma year_reading_le {seconds : ℤ} (h : seconds ≤ 60000000000000000) :
    (reading seconds).year ≤ lastYear := by
  unfold reading lastYear
  simp only [startDay, cycleDays]
  split
  · rename_i d hd
    have hyear := d.inCalendar.1.2
    have hdays : seconds.fdiv 86400 ≤ 694444444445 := by
      rw [Int.fdiv_eq_ediv_of_nonneg _ (by decide)]
      omega
    have hcycle : (seconds.fdiv 86400 + 719162).fdiv 146097 ≤ 4753316 := by
      rw [Int.fdiv_eq_ediv_of_nonneg _ (by decide)]
      omega
    push_cast
    omega
  · decide

/-- Every second within two thousand million years has a date. -/
lemma exists_text {seconds : ℤ} (h : -60000000000000000 ≤ seconds)
    (h' : seconds ≤ 60000000000000000) : ∃ cs, text seconds = .ok cs := by
  have hlong : ¬ (seconds < -9223372036854775808 ∨ 9223372036854775807 < seconds) := by omega
  have hclock : ¬ (seconds < firstSecond ∨ lastSecond < seconds) := by
    unfold firstSecond lastSecond
    omega
  have hyear : ¬ lastYear < (reading seconds).year := Int.not_lt.mpr (year_reading_le h')
  rw [text, if_neg hlong, if_neg hclock]
  exact ⟨_, if_neg hyear⟩

end Epoch

namespace Log

open Json

/-- A record that tells when it was made: the seconds since 1970, within two thousand million years,
and thousandths. -/
def Record.IsDated (r : Record) : Prop :=
  ∃ seconds millis, wholeSeconds r.origin.created = .ok seconds ∧
    decimalArgument r.origin.millis = .ok millis ∧
    -60000000000000000 ≤ seconds ∧ seconds ≤ 60000000000000000

lemma piecesOf_timestamp : piecesOf "%s,%03d" =
    [.place ⟨.absent, [], .absent, .absent, some 's'⟩, .char ',',
      .place ⟨.absent, ['0'], .given 3, .absent, some 'd'⟩] := by
  decide

/-- A time and a whole number of thousandths fill the template for a timestamp. -/
lemma exists_fillTemplate_timestamp (time : String) {data : Json} {millis : ℤ}
    (h : decimalArgument data = .ok millis) :
    ∃ timestamp, fillTemplate "%s,%03d" (.ofArguments [.string time, data]) = .ok timestamp := by
  rw [fillTemplate, piecesOf_timestamp]
  simp [fillPieces, Place.fill, Supply.turnTo, Place.frame, Measure.take, Supply.next,
    Supply.ofArguments, Supply.isDone, Frame.show, Filling.text, Filling.datum, h, bind,
    Except.bind, Except.map, pure, Except.pure]

/-- The time of a dated record can be told. -/
lemma Record.IsDated.exists_timestamp {r : Record} (h : r.IsDated) :
    ∃ timestamp, r.timestamp = .ok timestamp := by
  obtain ⟨seconds, millis, hseconds, hmillis, hfirst, hlast⟩ := h
  obtain ⟨cs, hcs⟩ := Epoch.exists_text hfirst hlast
  have htime : r.origin.timeText = .ok (String.ofList cs) := by
    rw [Origin.timeText, hseconds]
    simp only [bind, Except.bind, hcs]
    rfl
  obtain ⟨timestamp, htimestamp⟩ := exists_fillTemplate_timestamp (String.ofList cs) hmillis
  refine ⟨timestamp, ?_⟩
  rw [Record.timestamp, htime]
  simp only [Except.mapError, bind, Except.bind, htimestamp]

/-! ## Attributes -/

/-- The names that no further attribute has: those of a record's own attributes, and two that are
kept for what a record may get later. -/
def standardNames : List String :=
  Record.ownNames ++ ["taskName", "message"]

/-- A name of data: it is not a standard one and does not begin with an underscore. -/
def IsExtra (name : String) : Prop :=
  name ∉ standardNames ∧ name.toList.head? ≠ some '_'

instance (name : String) : Decidable (IsExtra name) :=
  inferInstanceAs (Decidable (_ ∧ _))

lemma isData_iff {name : String} : Record.isData name = true ↔ IsExtra name := by
  simp [Record.isData, IsExtra, standardNames, and_assoc]

/-- The data of some attributes as a member, if there are any. -/
def extraMember (attributes : List (String × Json)) : List (String × Json) :=
  match attributes.filter fun a => IsExtra a.1 with
  | [] => []
  | a :: rest => [("extra", .object (a :: rest))]

namespace Record

/-- An attribute that is none of a record's own is a further one. -/
lemma withAttribute_of_not_mem {name : String} (h : name ∉ ownNames) (r : Record) (value : Json) :
    r.withAttribute name value =
      { r with attributes := setAttribute name value r.attributes } := by
  unfold withAttribute
  split
  all_goals first | rfl | exact absurd (by decide) h

/-- A new attribute comes behind the others. -/
lemma setAttribute_of_not_mem {name : String} {attributes : List (String × Json)}
    (h : name ∉ attributes.map Prod.fst) (value : Json) :
    setAttribute name value attributes = attributes ++ [(name, value)] := by
  induction attributes with
  | nil => rfl
  | cons a attributes ih =>
    obtain ⟨other, old⟩ := a
    rw [List.map_cons, List.mem_cons, not_or] at h
    rw [setAttribute, if_neg (Ne.symm h.1), ih h.2, List.cons_append]

/-- Attributes with names of their own come in the order in which they are set. -/
lemma withAttributes_eq {r : Record} {extras : List (String × Json)}
    (hfree : ∀ a ∈ extras, a.1 ∉ ownNames)
    (hnames : ((r.attributes ++ extras).map Prod.fst).Nodup) :
    r.withAttributes extras = { r with attributes := r.attributes ++ extras } := by
  induction extras generalizing r with
  | nil => rw [List.append_nil]; rfl
  | cons a extras ih =>
    obtain ⟨hown, hfree⟩ := List.forall_mem_cons.mp hfree
    have hnew : a.1 ∉ r.attributes.map Prod.fst := by
      rw [List.map_append, List.map_cons] at hnames
      exact fun hold => (List.nodup_append.mp hnames).2.2 _ hold _ List.mem_cons_self rfl
    have hstep : r.withAttributes (a :: extras) =
        { r with attributes := r.attributes ++ [a] }.withAttributes extras := by
      show (r.withAttribute a.1 a.2).withAttributes extras = _
      rw [withAttribute_of_not_mem hown, setAttribute_of_not_mem hnew]
    rw [hstep, ih hfree (by simpa using hnames)]
    simp

/-! ## Lines -/

/-- What the line for a record says of the record itself, where its time, its message and its error
are told. -/
def toldMembers (r : Record) (timestamp text : String) (error : Option String) :
    List (String × Json) :=
  [("timestamp", .string timestamp), ("level", r.levelName), ("logger", r.logger),
    ("message", .string text), ("module", r.origin.moduleName), ("function", r.origin.function),
    ("line", r.origin.line)] ++ (error.map fun text => ("exception", .string text)).toList

/-- The data that the line for a record shows as they are. -/
def shown (r : Record) : List Json :=
  [r.levelName, r.logger, r.origin.moduleName, r.origin.function, r.origin.line]

lemma toList_dataMember (r : Record) :
    (r.dataMember.map ("extra", ·)).toList = extraMember r.attributes := by
  have hdata : r.data = r.attributes.filter fun a => IsExtra a.1 :=
    List.filter_congr fun a _ => by simp [← isData_iff]
  rw [dataMember, extraMember, ← hdata]
  cases r.data with
  | nil => rfl
  | cons a rest => rfl

/-- The object for a record. -/
lemma toJson_eq {r : Record} {timestamp text : String} {error : Option String}
    (htimestamp : r.timestamp = .ok timestamp) (htext : r.text = .ok text)
    (herror : r.error.text? = .ok error) :
    r.toJson = .ok (.object (r.toldMembers timestamp text error ++ extraMember r.attributes)) := by
  rw [toJson, htimestamp, htext, herror, ← toList_dataMember]
  simp only [Except.mapError, bind, Except.bind, Json.ofMembers, toldMembers]
  cases error with
  | none => cases r.dataMember <;> rfl
  | some message => cases r.dataMember <;> rfl

end Record

/-! ### What can be written -/

/-- A piece of data of which a line keeps everything: no number is a fraction, and all numbers fit
64 bits. -/
def IsKept (data : Json) : Prop :=
  data.isWhole = true ∧ fits data = true

instance (data : Json) : Decidable (IsKept data) :=
  inferInstanceAs (Decidable (_ ∧ _))

lemma fits_object_iff {members : List (String × Json)} :
    fits (.object members) = true ↔ ∀ m ∈ members, fits m.2 = true := by
  show membersFit members = true ↔ _
  induction members with
  | nil => simp [membersFit]
  | cons m members ih => rw [List.forall_mem_cons, ← ih, membersFit, Bool.and_eq_true]

lemma isWhole_object_iff {members : List (String × Json)} :
    (Json.object members).isWhole = true ↔ ∀ m ∈ members, m.2.isWhole = true := by
  show membersWhole members = true ↔ _
  induction members with
  | nil => simp [membersWhole]
  | cons m members ih => rw [List.forall_mem_cons, ← ih, membersWhole, Bool.and_eq_true]

lemma isKept_object_iff {members : List (String × Json)} :
    IsKept (.object members) ↔ ∀ m ∈ members, IsKept m.2 := by
  rw [IsKept, isWhole_object_iff, fits_object_iff]
  exact forall₂_and.symm

lemma isKept_string (s : String) : IsKept (.string s) :=
  ⟨rfl, rfl⟩

lemma isKept_toldMembers {r : Record} (hshown : ∀ data ∈ r.shown, IsKept data)
    (timestamp text : String) (error : Option String) :
    ∀ m ∈ r.toldMembers timestamp text error, IsKept m.2 := by
  simp only [Record.shown, List.forall_mem_cons] at hshown
  obtain ⟨hlevel, hlogger, hmodule, hfunction, hline, -⟩ := hshown
  have herror : ∀ m ∈ (error.map fun text => ("exception", Json.string text)).toList,
      IsKept m.2 := by
    cases error with
    | none => exact List.forall_mem_nil _
    | some message => exact List.forall_mem_singleton.mpr (isKept_string message)
  refine List.forall_mem_append.mpr ⟨?_, herror⟩
  simp only [List.forall_mem_cons]
  exact ⟨isKept_string _, hlevel, hlogger, isKept_string _, hmodule, hfunction, hline,
    List.forall_mem_nil _⟩

/-- A property that an object has through its members is one of the data among some attributes. -/
lemma forall_mem_extraMember_iff {P : Json → Prop}
    (hP : ∀ {members}, P (.object members) ↔ ∀ m ∈ members, P m.2)
    {attributes : List (String × Json)} :
    (∀ m ∈ extraMember attributes, P m.2) ↔ ∀ a ∈ attributes, IsExtra a.1 → P a.2 := by
  have hdata : (∀ a ∈ attributes.filter fun a => IsExtra a.1, P a.2) ↔
      ∀ a ∈ attributes, IsExtra a.1 → P a.2 := by
    simp only [List.mem_filter, decide_eq_true_eq, and_imp]
  rw [← hdata, extraMember]
  split
  · rename_i heq
    simp [heq]
  · rename_i a rest heq
    rw [heq, List.forall_mem_singleton, hP]

/-- A record has a line exactly if its numbers fit. -/
lemma Record.line_eq {r : Record} {data : Json} (hjson : r.toJson = .ok data) :
    r.line = if fits data then .ok data.render else .error .number := by
  rw [line, hjson]
  rfl

/-- A record of kept data has a line, which decodes to the object for the record. -/
lemma Record.line_eq_of_isKept {r : Record} {data : Json} (hjson : r.toJson = .ok data)
    (hkept : IsKept data) :
    ∃ line, r.line = .ok line ∧ OnOneLine line.toList ∧ Json.parse? line = some data := by
  refine ⟨data.render, ?_, ?_, parse?_render hkept.1⟩
  · rw [line_eq hjson, if_pos hkept.2]
  · rw [render, String.toList_ofList]
    exact onOneLine_chars data hkept.1

/-- **Lines.**  The line for a record with further attributes is on one line and decodes to what it
says of the record itself, whatever the attributes are, and behind that to those of them that are
data, in the order in which they were set.  A dated record has a time that can be told. -/
theorem line_of_extras {r : Record} {extras : List (String × Json)} {text : String}
    {error : Option String} (htext : r.text = .ok text) (herror : r.error.text? = .ok error)
    (hshown : ∀ data ∈ r.shown, IsKept data) (hbare : r.attributes = [])
    (hnames : (extras.map Prod.fst).Nodup) (hfree : ∀ a ∈ extras, a.1 ∉ Record.ownNames)
    (hextras : ∀ a ∈ extras, IsExtra a.1 → IsKept a.2) :
    (∀ timestamp, r.timestamp = .ok timestamp →
      ∃ line, (r.withAttributes extras).line = .ok line ∧ OnOneLine line.toList ∧
        Json.parse? line =
          some (.object (r.toldMembers timestamp text error ++ extraMember extras))) ∧
    (r.IsDated → ∃ timestamp, r.timestamp = .ok timestamp) := by
  refine ⟨fun timestamp htimestamp => ?_, Record.IsDated.exists_timestamp⟩
  have hrecord : r.withAttributes extras = { r with attributes := extras } := by
    rw [Record.withAttributes_eq hfree (by rwa [hbare, List.nil_append]), hbare, List.nil_append]
  have hjson : (r.withAttributes extras).toJson =
      .ok (.object (r.toldMembers timestamp text error ++ extraMember extras)) := by
    rw [hrecord]
    exact Record.toJson_eq (r := { r with attributes := extras }) htimestamp htext herror
  have hkept := List.forall_mem_append.mpr
    ⟨isKept_toldMembers hshown timestamp text error,
      (forall_mem_extraMember_iff isKept_object_iff).mpr hextras⟩
  exact Record.line_eq_of_isKept hjson (isKept_object_iff.mpr hkept)

/-- A record with an error, at a line of a file. -/
def failedRecord : Record :=
  { Record.plain "dashcalc.formula" (.integer 10) (.string "\"1/0\"\nfails") []
      (.ofPath "/app/api.py" (.integer 7) (.string "run") (.integer 1718454645) (.integer 7)) with
    error := .raised ⟨"ValueError", [.string "boom"]⟩ }

/-- Attributes with names of members, and others that are not shown. -/
def failedExtras : List (String × Json) :=
  [("level", .string "\x01"), ("_row", .float 0.5), ("taskName", .null),
    ("logger", .array [.integer (-9223372036854775808), .object [("é", .bool true)]])]

/-- The members of a record keep what they are though attributes have their names. -/
theorem line_of_failedExtras :
    failedRecord.text = .ok "\"1/0\"\nfails" ∧
      failedRecord.error.text? = .ok (some "ValueError: boom") ∧
      (∀ data ∈ failedRecord.shown, IsKept data) ∧ failedRecord.attributes = [] ∧
      (failedExtras.map Prod.fst).Nodup ∧ (∀ a ∈ failedExtras, a.1 ∉ Record.ownNames) ∧
      (∀ a ∈ failedExtras, IsExtra a.1 → IsKept a.2) ∧
      ∃ timestamp line, (failedRecord.withAttributes failedExtras).line = .ok line ∧
        OnOneLine line.toList ∧ Json.parse? line = some (.object
          [("timestamp", .string timestamp), ("level", .string "DEBUG"),
            ("logger", .string "dashcalc.formula"), ("message", .string "\"1/0\"\nfails"),
            ("module", .string "api"), ("function", .string "run"), ("line", .integer 7),
            ("exception", .string "ValueError: boom"),
            ("extra", .object [("level", .string "\x01"), ("logger", .array
              [.integer (-9223372036854775808), .object [("é", .bool true)]])])]) := by
  have htext : failedRecord.text = .ok "\"1/0\"\nfails" := rfl
  have herror : failedRecord.error.text? = .ok (some "ValueError: boom") := rfl
  have hshown : ∀ data ∈ failedRecord.shown, IsKept data := by decide
  have hnames : (failedExtras.map Prod.fst).Nodup := by decide
  have hfree : ∀ a ∈ failedExtras, a.1 ∉ Record.ownNames := by decide
  have hextras : ∀ a ∈ failedExtras, IsExtra a.1 → IsKept a.2 := by decide
  have hdated : failedRecord.IsDated :=
    ⟨1718454645, 7, rfl, rfl, by decide, by decide⟩
  obtain ⟨hline, htimestamp⟩ := line_of_extras htext herror hshown rfl hnames hfree hextras
  obtain ⟨timestamp, htimestamp⟩ := htimestamp hdated
  obtain ⟨line, hline⟩ := hline timestamp htimestamp
  exact ⟨htext, herror, hshown, rfl, hnames, hfree, hextras, timestamp, line, hline⟩

end Log

end TableFormula

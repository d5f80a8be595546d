import TableFormula.Log.Session
import TableFormula.Proofs.Log.Lines
import TableFormula.Proofs.Log.Templates

/-!
# Entries that can be laid out

An entry comes with a time that can be told, and its error and the calls that led to it can be told
too.  So where its message takes its arguments, it can be laid out as data unless a number among its
data is too large, and in a format unless a place of the format does not fit it (`exists_line_iff`).
Without a format nothing but its message matters (`Entry.IsAccepted.exists_bareLine`).
-/

namespace TableFormula.Log

open Json Number

/-! ## Levels -/

lemma ofList_integerText (n : Int) : String.ofList (integerText n) = toString n := by
  cases n with
  | ofNat n => rfl
  | negSucc n =>
    rw [integerText, if_pos (Int.negSucc_lt_zero n), String.ofList_cons]
    rfl

/-- A record shows its level by the name of that level. -/
lemma levelNameOf_integer (level : Int) :
    levelNameOf (.integer level) = .string (levelName level) := by
  simp only [levelNameOf, levelName, wholeNumber?, Option.bind_some]
  cases levelName? level with
  | some name => rfl
  | none => simp only [Json.shown, Json.literal, ofList_integerText, Option.getD_none]

/-! ## The record of an entry -/

/-- Whether a record is laid out in a format is settled by the format, if its error and the calls that
led to it can be told. -/
lemma Record.exists_consoleLine_iff {r : Record} {level message time : String}
    (hlevel : colouredLevel r.levelName = .ok level) (hmessage : r.text = .ok message)
    (htime : r.origin.timeText = .ok time) (hrest : ∀ text, ∃ line, r.complete text = .ok line)
    (format : String) : (∃ line, r.consoleLine format = .ok line) ↔
      ∃ text, r.fillFormat format level message (if asksForTime format then time else "") =
        .ok text := by
  have hsteps : r.consoleLine format =
      r.fillFormat format level message (if asksForTime format then time else "") >>=
        r.complete := by
    rw [consoleLine, hlevel, hmessage, htime]
    split <;> rfl
  rw [hsteps]
  constructor
  · rintro ⟨line, hline⟩
    obtain ⟨text, htext, -⟩ := bind_eq_ok_iff.mp hline
    exact ⟨text, htext⟩
  · rintro ⟨text, htext⟩
    obtain ⟨line, hline⟩ := hrest text
    exact ⟨line, bind_eq_ok_iff.mpr ⟨text, htext, hline⟩⟩

/-- Attributes that are none of a record's own change only its further ones. -/
lemma Record.exists_withAttributes_eq {extras : List (String × Json)}
    (h : ∀ a ∈ extras, a.1 ∉ ownNames) (r : Record) :
    ∃ attributes, r.withAttributes extras = { r with attributes := attributes } := by
  induction extras generalizing r with
  | nil => exact ⟨r.attributes, rfl⟩
  | cons a extras ih =>
    obtain ⟨ha, hextras⟩ := List.forall_mem_cons.mp h
    obtain ⟨attributes, hattributes⟩ := ih hextras (r.withAttribute a.1 a.2)
    refine ⟨attributes, ?_⟩
    show (r.withAttribute a.1 a.2).withAttributes extras = _
    rw [hattributes, withAttribute_of_not_mem ha]

/-- A text or nothing can always be put behind a text. -/
lemma exists_append (text : String) (further : Option String) :
    ∃ line, append text ((further.map .string).getD .null) = .ok line := by
  cases further with
  | none => exact ⟨text, rfl⟩
  | some more => exact ⟨_, rfl⟩

/-- The text of an error that is asked for. -/
def AskedError.text? : AskedError → Option String
  | absent => none
  | raised r => some r.text
  | missing => some ErrorSlot.noErrorText

lemma AskedError.text?_slot (asked : AskedError) : asked.slot.text? = .ok asked.text? := by
  cases asked <;> rfl

namespace Entry

/-- A record can be made for an entry: its level has a name, and no attribute has a name that is kept
for a record. -/
def IsAccepted (e : Entry) : Prop :=
  e.fault? = none

instance (e : Entry) : Decidable e.IsAccepted :=
  inferInstanceAs (Decidable (_ = _))

/-- The message of an entry, if it takes its arguments. -/
def text (e : Entry) : Except TemplateFault String :=
  messageText e.message (.ofList e.arguments)

variable {e : Entry} {text : String}

lemma IsAccepted.takenName?_eq_none (h : e.IsAccepted) : takenName? e.attributes = none := by
  unfold IsAccepted fault? at h
  split at h
  · exact Option.map_eq_none_iff.mp h
  · cases h

lemma IsAccepted.not_mem_ownNames (h : e.IsAccepted) :
    ∀ a ∈ e.attributes, a.1 ∉ Record.ownNames := by
  have hnone := List.find?_eq_none.mp (Option.map_eq_none_iff.mp h.takenName?_eq_none)
  intro a ha hown
  exact hnone a ha (by simp [hown])

lemma IsAccepted.record_eq (h : e.IsAccepted) :
    e.record = { e.bare with attributes := e.record.attributes } := by
  obtain ⟨attributes, hattributes⟩ := Record.exists_withAttributes_eq h.not_mem_ownNames e.bare
  rw [show e.record = _ from hattributes]

lemma IsAccepted.text_record (h : e.IsAccepted) : e.record.text = e.text := by
  rw [h.record_eq]
  rfl

lemma IsAccepted.levelName_record (h : e.IsAccepted) :
    e.record.levelName = .string (levelName e.level) := by
  rw [h.record_eq]
  exact levelNameOf_integer e.level

lemma wholeSeconds_unknown : wholeSeconds Origin.unknown.created = .ok 0 := by
  decide +kernel

lemma decimalArgument_unknown : decimalArgument Origin.unknown.millis = .ok 0 := by
  decide +kernel

/-- The error of an entry and the calls that led to it can always be told. -/
lemma IsAccepted.exists_complete (h : e.IsAccepted) (text : String) :
    ∃ line, e.record.complete text = .ok line := by
  have htell : e.record.tellError = .ok ((e.error.text?.map .string).getD .null) := by
    rw [h.record_eq]
    show (e.error.slot.text?.mapError LineFault.error).map _ = _
    rw [AskedError.text?_slot]
    rfl
  obtain ⟨line, hline⟩ := exists_append text e.error.text?
  obtain ⟨line', hline'⟩ := exists_append line e.stack
  refine ⟨line', ?_⟩
  rw [Record.complete, htell]
  simp only [bind, Except.bind, hline]
  rw [h.record_eq]
  exact hline'

/-! ## Without a format -/

/-- An entry whose message takes its arguments has a line without a format. -/
lemma IsAccepted.exists_bareLine (h : e.IsAccepted) (htext : e.text = .ok text) :
    ∃ line, e.record.bareLine = .ok line := by
  rw [Record.bareLine, h.text_record, htext]
  exact h.exists_complete text

lemma IsAccepted.bareLine_eq_error (h : e.IsAccepted) {fault : TemplateFault}
    (htext : e.text = .error fault) : e.record.bareLine = .error (.message fault) := by
  rw [Record.bareLine, h.text_record, htext]
  rfl

/-! ## As data -/

lemma isDated_bare : e.bare.IsDated :=
  ⟨0, 0, wholeSeconds_unknown, decimalArgument_unknown, by decide, by decide⟩

lemma isKept_shown_bare : ∀ data ∈ e.bare.shown, IsKept data := by
  have hlevel : e.bare.levelName = .string (levelName e.level) := levelNameOf_integer e.level
  simp only [Record.shown, hlevel, List.forall_mem_cons]
  exact ⟨isKept_string _, isKept_string _, isKept_string _, ⟨rfl, rfl⟩, ⟨rfl, rfl⟩,
    List.forall_mem_nil _⟩

/-- An entry has a line for programs exactly if its message takes its arguments and all of its data
fit. -/
lemma IsAccepted.exists_line_iff (h : e.IsAccepted) :
    (∃ line, e.record.line = .ok line) ↔
      (∃ text, e.text = .ok text) ∧
        ∀ a ∈ e.record.attributes, IsExtra a.1 → fits a.2 = true := by
  obtain ⟨timestamp, htimestamp⟩ := Record.IsDated.exists_timestamp (isDated_bare (e := e))
  cases htext : e.text with
  | error fault =>
    have hjson : e.record.toJson = .error (.message fault) := by
      have htime : e.record.timestamp = .ok timestamp := by
        rw [h.record_eq]
        exact htimestamp
      rw [Record.toJson, htime, h.text_record, htext]
      rfl
    rw [Record.line, hjson]
    constructor
    · rintro ⟨line, hline⟩
      cases hline
    · rintro ⟨⟨text, hsome⟩, -⟩
      cases hsome
  | ok text =>
    have hjson : e.record.toJson = .ok (.object
        (e.bare.toldMembers timestamp text e.error.text? ++ extraMember e.record.attributes)) := by
      rw [h.record_eq]
      exact Record.toJson_eq htimestamp htext (AskedError.text?_slot _)
    have hfits : fits (.object
        (e.bare.toldMembers timestamp text e.error.text? ++ extraMember e.record.attributes)) =
          true ↔ ∀ a ∈ e.record.attributes, IsExtra a.1 → fits a.2 = true := by
      rw [fits_object_iff, List.forall_mem_append]
      have htold := isKept_toldMembers (isKept_shown_bare (e := e)) timestamp text e.error.text?
      exact (and_iff_right fun m hm => (htold m hm).2).trans
        (forall_mem_extraMember_iff (P := fun data => fits data = true) fits_object_iff)
    rw [Record.line_eq hjson, ← hfits]
    constructor
    · rintro ⟨line, hline⟩
      refine ⟨⟨text, rfl⟩, ?_⟩
      by_contra hfit
      rw [if_neg hfit] at hline
      cases hline
    · rintro ⟨-, hfit⟩
      exact ⟨_, if_pos hfit⟩

/-! ## In a format -/

/-- The moment from which seconds are counted. -/
def firstMoment : String :=
  "1970-01-01 00:00:00"

/-- What the places of a format may name for an entry with a message. -/
def members (e : Entry) (format text : String) : List (String × Filling) :=
  e.record.toMembers (levelColour (levelName e.level) ++ levelName e.level ++ colour "0") text
    (if asksForTime format then firstMoment else "")

lemma timeText_unknown : Origin.unknown.timeText = .ok firstMoment := by
  decide +kernel

/-- An entry has a line in a format exactly if its message takes its arguments and the format is
filled. -/
lemma IsAccepted.exists_consoleLine_iff (h : e.IsAccepted) (format : String) :
    (∃ line, e.record.consoleLine format = .ok line) ↔
      ∃ text, e.text = .ok text ∧
        ∃ line, fillTemplate format (.ofMembers (e.members format text)) = .ok line := by
  have hlevel : colouredLevel e.record.levelName =
      .ok (levelColour (levelName e.level) ++ levelName e.level ++ colour "0") := by
    rw [h.levelName_record]
    rfl
  have horigin : e.record.origin = .unknown := congrArg Record.origin h.record_eq
  cases htext : e.text with
  | error fault =>
    have hline : e.record.consoleLine format = .error (.message fault) := by
      rw [Record.consoleLine, hlevel, h.text_record, htext]
      rfl
    rw [hline]
    exact ⟨nofun, fun ⟨_, hnone, _⟩ => (nomatch hnone)⟩
  | ok text =>
    rw [Record.exists_consoleLine_iff hlevel (h.text_record.trans htext)
      (horigin ▸ timeText_unknown) h.exists_complete]
    refine exists_mapError_eq_ok_iff.trans ⟨fun hline => ⟨text, rfl, hline⟩, ?_⟩
    rintro ⟨text', htext', hline⟩
    cases htext'
    exact hline

/-- Attributes that every record shows as texts. -/
def shownNames : List String :=
  ["message", "asctime", "name", "levelname", "funcName"]

lemma IsAccepted.exists_lookup (h : e.IsAccepted) (format text : String) :
    ∀ name ∈ shownNames, ∃ filling,
      Supply.lookup (e.members format text) name = .ok filling ∧ filling.hasText = true := by
  have hlogger : e.record.logger = .string e.logger := congrArg Record.logger h.record_eq
  have horigin : e.record.origin = .unknown := congrArg Record.origin h.record_eq
  simp [shownNames, members, Record.toMembers, Supply.lookup, hlogger, horigin, Origin.unknown,
    Origin.ofPath, Filling.hasText, Json.hasText]

/-- The line number of an entry is not known. -/
lemma IsAccepted.lookup_lineno (h : e.IsAccepted) (format text : String) :
    Supply.lookup (e.members format text) "lineno" = .ok (.data (.integer 0)) := by
  have horigin : e.record.origin = .unknown := congrArg Record.origin h.record_eq
  simp [members, Record.toMembers, Supply.lookup, horigin, Origin.unknown, Origin.ofPath]

end Entry

/-! ## Places for texts -/

/-- A part of a template that is a place shows an attribute that is a text. -/
def Piece.ShowsText : Piece → Prop
  | char _ => True
  | place p => p.IsMeasured ∧ p.name ∈ Entry.shownNames.map .given ∧
      p.letter ∈ ['s', 'r', 'a'].map some

instance : DecidablePred Piece.ShowsText
  | .char _ => isTrue trivial
  | .place _ => inferInstanceAs (Decidable (_ ∧ _ ∧ _))

/-- Texts can be shown for every entry. -/
lemma Piece.ShowsText.fits {piece : Piece} (h : piece.ShowsText) {e : Entry} (he : e.IsAccepted)
    (format text : String) : piece.Fits (e.members format text) := by
  cases piece with
  | char c => trivial
  | place p =>
    obtain ⟨hmeasured, hname, hletter⟩ := h
    obtain ⟨name, hmem, hname⟩ := List.mem_map.mp hname
    obtain ⟨letter, hletters, hletter⟩ := List.mem_map.mp hletter
    obtain ⟨filling, hfound, hshown⟩ := he.exists_lookup format text name hmem
    exact ⟨hmeasured, name, filling, letter, hname.symm, hfound, hletter.symm,
      .inl ⟨hletters, hshown⟩⟩

/-! ## In a layout -/

namespace Layout

/-- All places of a format have names. -/
def IsNamed : Layout → Prop
  | data => True
  | console format => ∀ piece ∈ piecesOf format, piece.IsNamed

instance (layout : Layout) : Decidable layout.IsNamed :=
  match layout with
  | data => isTrue trivial
  | console format => inferInstanceAs (Decidable (∀ piece ∈ piecesOf format, _))

/-- A layout fits an entry whose message takes its arguments: all of its data fit, or all places of
the format do. -/
def Fits : Layout → Entry → Prop
  | data, e => (∃ text, e.text = .ok text) ∧
      ∀ a ∈ e.record.attributes, IsExtra a.1 → fits a.2 = true
  | console format, e => ∃ text, e.text = .ok text ∧
      ∀ piece ∈ piecesOf format, piece.Fits (e.members format text)

/-- An entry can be laid out exactly if the layout fits it. -/
theorem exists_line_iff {layout : Layout} {e : Entry} (hnamed : layout.IsNamed)
    (he : e.IsAccepted) : (∃ line, layout.line e.record = .ok line) ↔ layout.Fits e := by
  cases layout with
  | data => exact he.exists_line_iff
  | console format =>
    rw [line, he.exists_consoleLine_iff]
    exact exists_congr fun text => and_congr_right fun _ => exists_fillTemplate_iff hnamed

/-- The place for the line number in the standard format. -/
def linePlace : Place :=
  ⟨.given "lineno", [], .absent, .absent, some 'd'⟩

/-- The standard format fits every entry whose message takes its arguments: it shows texts and a line
number. -/
lemma fits_standardFormat {e : Entry} (he : e.IsAccepted) {text : String}
    (htext : e.text = .ok text) : (console standardFormat).Fits e := by
  have hpieces : ∀ piece ∈ piecesOf standardFormat,
      piece.ShowsText ∨ piece = .place linePlace := by
    decide +kernel
  refine ⟨text, htext, fun piece hpiece => ?_⟩
  rcases hpieces piece hpiece with hshows | rfl
  · exact hshows.fits he standardFormat text
  · exact ⟨⟨trivial, trivial⟩, "lineno", .data (.integer 0), 'd', rfl,
      he.lookup_lineno standardFormat text, rfl, .inr (.inl ⟨by decide, 0, by decide +kernel⟩)⟩

end Layout

end TableFormula.Log

import TableFormula.Proofs.Log.Entries
import Mathlib.Data.List.Induction

/-!
# Sessions

After any steps the tree has exactly the handler of the latest setup that succeeded, and its level
(`State.after_eq_installed`).  So an entry of the tree is printed exactly once, in the layout of
that setup, or not at all (`runSteps_serves`).

One kind of setup fails halfway: the level is known, but the format has no slot.  It leaves the tree
with the new level and without a handler (`Setup.run_of_fault`).
-/

namespace TableFormula.Log

open Number

/-! ## Logging -/

namespace State

variable {s : State} {e : Entry}

lemma handlersFor_of_inTree (h : inTree e.logger = true) : s.handlersFor e = s.handlers :=
  if_pos h

lemma deliver_of_nil (h : s.handlersFor e = []) : s.deliver e = ⟨s, [], e.lastNotice, none⟩ := by
  rw [deliver, h]

lemma deliver_of_singleton {h : Handler} (hh : s.handlersFor e = [h]) :
    s.deliver e = ⟨s, h.print e, h.report e, none⟩ := by
  rw [deliver, hh]
  simp only [List.flatMap_singleton]

@[simp] lemma deliver_state : (s.deliver e).state = s := by
  unfold deliver
  split <;> rfl

@[simp] lemma deliver_fault : (s.deliver e).fault = none := by
  unfold deliver
  split <;> rfl

@[simp] lemma log_state : (s.log e).state = s := by
  unfold log
  repeat' split
  all_goals simp only [deliver_state]

lemma log_fault (h : e.IsAccepted) : (s.log e).fault = none := by
  unfold log
  rw [show e.fault? = none from h]
  split
  · exact deliver_fault
  · rfl

lemma log_of_not_isAccepted (h : ¬ e.IsAccepted) :
    (s.log e).printed = [] ∧ (s.log e).reported = [] := by
  obtain ⟨fault, hfault⟩ := Option.ne_none_iff_exists'.mp h
  rw [log, hfault]
  split <;> exact ⟨rfl, rfl⟩

lemma log_printed_of_handlers_nil (h : s.handlers = []) : (s.log e).printed = [] := by
  have hnone : s.handlersFor e = [] := by rw [handlersFor, h, ite_self]
  rw [log, deliver_of_nil hnone]
  repeat' split
  all_goals rfl

/-- An entry of the tree below its level is not looked at. -/
lemma log_of_lt (htree : inTree e.logger = true) (hlevel : e.level < s.effectiveLevel) :
    s.log e = ⟨s, [], [], none⟩ := by
  rw [log, if_neg]
  rw [admits, if_pos htree, decide_eq_false (Int.not_le.mpr hlevel), Bool.and_false]
  exact Bool.false_ne_true

/-- An accepted entry of the tree that reaches its level is delivered. -/
lemma log_of_le (he : e.IsAccepted) (htree : inTree e.logger = true)
    (hpositive : 0 < s.effectiveLevel) (hlevel : s.effectiveLevel ≤ e.level) :
    s.log e = s.deliver e := by
  have hadmits : s.admits e = true := by
    rw [admits, if_pos htree, decide_eq_true hlevel,
      decide_eq_true (Int.lt_of_lt_of_le hpositive hlevel), Bool.and_self]
  rw [log, if_pos hadmits, show e.fault? = none from he]

/-- The state in which a handler is installed, or none has been. -/
def installed : Option Handler → State
  | none => initial
  | some h => ⟨h.level, [h]⟩

@[simp] lemma installed_handlers (h? : Option Handler) : (installed h?).handlers = h?.toList := by
  cases h? <;> rfl

lemma level_le_effectiveLevel (hlevel : 0 ≤ s.level) :
    s.level ≤ s.effectiveLevel ∧ 0 < s.effectiveLevel := by
  unfold effectiveLevel standardLevel
  split <;> omega

end State

/-! ## Handlers -/

namespace Handler

variable {h : Handler} {e : Entry}

lemma print_of_fits (hlevel : h.level ≤ e.level) (hnamed : h.layout.IsNamed) (he : e.IsAccepted)
    (hfits : h.layout.Fits e) :
    ∃ line, h.layout.line e.record = .ok line ∧ h.print e = [line] ∧ h.report e = [] := by
  obtain ⟨line, hline⟩ := (Layout.exists_line_iff hnamed he).mpr hfits
  refine ⟨line, hline, ?_, ?_⟩
  · rw [print, if_neg (Int.not_lt.mpr hlevel), hline]
  · rw [report, if_neg (Int.not_lt.mpr hlevel), hline]

lemma print_of_not_fits (hlevel : h.level ≤ e.level) (hnamed : h.layout.IsNamed)
    (he : e.IsAccepted) (hfits : ¬ h.layout.Fits e) :
    h.print e = [] ∧
      ∃ fault, h.layout.line e.record = .error fault ∧ h.report e = [.trouble fault] := by
  cases hline : h.layout.line e.record with
  | ok line => exact absurd ((Layout.exists_line_iff hnamed he).mp ⟨line, hline⟩) hfits
  | error fault =>
    refine ⟨?_, fault, rfl, ?_⟩
    · rw [print, if_neg (Int.not_lt.mpr hlevel), hline]
    · rw [report, if_neg (Int.not_lt.mpr hlevel), hline]

end Handler

/-! ## What becomes of an entry -/

lemma Entry.IsAccepted.lastNotice_of_text {e : Entry} (he : e.IsAccepted)
    (hlevel : lastLevel ≤ e.level) {text : String} (htext : e.text = .ok text) :
    ∃ line, e.record.bareLine = .ok line ∧ e.lastNotice = [.line line] := by
  obtain ⟨line, hline⟩ := he.exists_bareLine htext
  refine ⟨line, hline, ?_⟩
  rw [lastNotice, if_neg (Int.not_lt.mpr hlevel), hline]

lemma Entry.IsAccepted.lastNotice_of_error {e : Entry} (he : e.IsAccepted)
    (hlevel : lastLevel ≤ e.level) {fault : TemplateFault} (htext : e.text = .error fault) :
    e.lastNotice = [.trouble (.message fault)] := by
  rw [lastNotice, if_neg (Int.not_lt.mpr hlevel), he.bareLine_eq_error htext]

/-- A step with this outcome has served an entry of the tree: it is printed once by each handler
whose layout fits it, if it reaches the level that is in force.  What it cannot be printed for is
reported, and so is its text where there is no handler; nothing else is. -/
structure StepOutcome.Serves (o : StepOutcome) (e : Entry) : Prop where
  fits : ∀ h ∈ o.state.handlers, o.state.effectiveLevel ≤ e.level → h.layout.Fits e →
    ∃ line, h.layout.line e.record = .ok line ∧ o.printed = [line] ∧ o.reported = []
  unfit : ∀ h ∈ o.state.handlers, o.state.effectiveLevel ≤ e.level → ¬ h.layout.Fits e →
    o.printed = [] ∧
      ∃ fault, h.layout.line e.record = .error fault ∧ o.reported = [.trouble fault]
  below : e.level < o.state.effectiveLevel → o.printed = [] ∧ o.reported = []
  unhandled : o.state.handlers = [] → o.state.effectiveLevel ≤ e.level → o.printed = [] ∧
    (∀ text, e.text = .ok text →
      ∃ line, e.record.bareLine = .ok line ∧ o.reported = [.line line]) ∧
    (∀ fault, e.text = .error fault → o.reported = [.trouble (.message fault)])

/-- An accepted entry of the tree is served by the handler that is installed. -/
lemma State.log_installed {h? : Option Handler} {e : Entry} (hlevel : ∀ h ∈ h?, 0 ≤ h.level)
    (hnamed : ∀ h ∈ h?, h.layout.IsNamed) (he : e.IsAccepted) (htree : inTree e.logger = true) :
    ((installed h?).log e).Serves e := by
  have hbelow : e.level < (installed h?).effectiveLevel →
      ((installed h?).log e).printed = [] ∧ ((installed h?).log e).reported = [] := by
    intro h
    rw [log_of_lt htree h]
    exact ⟨rfl, rfl⟩
  cases h? with
  | none =>
    refine ⟨?_, ?_, by rwa [log_state], ?_⟩ <;> rw [log_state]
    · exact List.forall_mem_nil _
    · exact List.forall_mem_nil _
    · intro _ hreached
      -- without a setup the level in force is that of a warning
      have hlast : lastLevel ≤ e.level := hreached
      rw [log_of_le he htree (by decide) hreached, deliver_of_nil (handlersFor_of_inTree htree)]
      exact ⟨rfl, fun text htext => he.lastNotice_of_text hlast htext,
        fun fault htext => he.lastNotice_of_error hlast htext⟩
  | some h =>
    obtain ⟨hle, hpositive⟩ := level_le_effectiveLevel (s := installed (some h)) (hlevel h rfl)
    have hlog (hreached : (installed (some h)).effectiveLevel ≤ e.level) :
        (installed (some h)).log e = ⟨installed (some h), h.print e, h.report e, none⟩ := by
      rw [log_of_le he htree hpositive hreached,
        deliver_of_singleton (handlersFor_of_inTree htree)]
    refine ⟨?_, ?_, by rwa [log_state], ?_⟩ <;> rw [log_state]
    · refine List.forall_mem_singleton.mpr fun hreached hfits => ?_
      rw [hlog hreached]
      exact Handler.print_of_fits (Int.le_trans hle hreached) (hnamed h rfl) he hfits
    · refine List.forall_mem_singleton.mpr fun hreached hfits => ?_
      rw [hlog hreached]
      exact Handler.print_of_not_fits (Int.le_trans hle hreached) (hnamed h rfl) he hfits
    · exact fun hnone => absurd hnone (List.cons_ne_nil h [])

/-! ## Setting up -/

namespace Setup

/-- The handler that a setup installs, if it succeeds. -/
def handler? (setup : Setup) : Option Handler :=
  match setup.level?, setup.layout? with
  | .ok level, some layout => some ⟨level, layout⟩
  | _, _ => none

/-- A setup that fails after it has changed something: its level is known, but its format has no
slot. -/
def IsHalfDone (setup : Setup) : Prop :=
  (∃ level, setup.level? = .ok level) ∧ setup.json = false ∧
    ∃ format, setup.format = some format ∧ format ≠ "" ∧ hasSlot format.toList = false

/-- A setup for data, or with a format that shows something of a record and all of whose places have
names. -/
def IsSound (setup : Setup) : Prop :=
  ∃ layout, setup.layout? = some layout ∧ layout.IsNamed

variable {setup : Setup} {s : State}

lemma layout?_eq_none_iff : setup.layout? = none ↔ setup.json = false ∧
    ∃ format, setup.format = some format ∧ format ≠ "" ∧ hasSlot format.toList = false := by
  obtain ⟨level, json, format⟩ := setup
  unfold layout?
  cases json with
  | true => simp
  | false =>
    rw [if_neg Bool.false_ne_true]
    split
    · simp_all
    · simp_all
    · simp_all [usable?]

lemma handler?_eq_some_iff {h : Handler} :
    setup.handler? = some h ↔ setup.level? = .ok h.level ∧ setup.layout? = some h.layout := by
  obtain ⟨level, layout⟩ := h
  unfold handler?
  split <;> simp_all

lemma isAccepted_entry : setup.entry.IsAccepted := by
  have hlevel : isShowable debugLevel = true := by decide
  exact if_pos hlevel

/-- What a setup can do: nothing, half of its work, or all of it. -/
lemma run_cases (setup : Setup) (s : State) :
    (∃ fault, setup.handler? = none ∧ ¬ setup.IsHalfDone ∧ setup.run s = ⟨s, [], [], some fault⟩) ∨
    (∃ level, setup.level? = .ok level ∧ setup.handler? = none ∧ setup.IsHalfDone ∧
      setup.run s = ⟨⟨level, []⟩, [], [], some .unusableFormat⟩) ∨
    (∃ h, setup.handler? = some h ∧ ¬ setup.IsHalfDone ∧
      setup.run s = (State.installed (some h)).log setup.entry) := by
  unfold IsHalfDone
  rw [← layout?_eq_none_iff, run, handler?]
  cases setup.level? with
  | error fault => exact .inl ⟨fault, rfl, fun ⟨⟨_, h⟩, _⟩ => (nomatch h), rfl⟩
  | ok level =>
    cases setup.layout? with
    | none => exact .inr (.inl ⟨level, rfl, rfl, ⟨⟨level, rfl⟩, rfl⟩, rfl⟩)
    | some layout => exact .inr (.inr ⟨⟨level, layout⟩, rfl, fun ⟨_, h⟩ => (nomatch h), rfl⟩)

lemma not_isHalfDone_of_isSound (h : setup.IsSound) : ¬ setup.IsHalfDone := by
  obtain ⟨layout, hlayout, -⟩ := h
  rintro ⟨-, hformat⟩
  rw [layout?_eq_none_iff.mpr hformat] at hlayout
  cases hlayout

lemma levelNames_nonneg : ∀ p ∈ levelNames, 0 ≤ p.2 := by
  decide

/-- No level that can be asked for is below zero. -/
lemma level?_nonneg {level : Int} (h : setup.level? = .ok level) : 0 ≤ level := by
  unfold level? at h
  repeat' split at h
  all_goals cases h
  rename_i hfound
  obtain ⟨before, after, hnames, -⟩ := List.lookup_eq_some_iff.mp hfound
  exact levelNames_nonneg (_, level) (hnames ▸ List.mem_append_right _ List.mem_cons_self)

/-- A setup succeeds exactly if it has a handler to install. -/
lemma run_fault_eq_none_iff : (setup.run s).fault = none ↔ ∃ h, setup.handler? = some h := by
  rcases setup.run_cases s with ⟨fault, hnone, -, hrun⟩ | ⟨level, -, hnone, -, hrun⟩ |
    ⟨h, hsome, -, hrun⟩
  · simp [hrun, hnone]
  · simp [hrun, hnone]
  · rw [hrun, State.log_fault isAccepted_entry]
    exact ⟨fun _ => ⟨h, hsome⟩, fun _ => rfl⟩

end Setup

/-! ## Steps -/

namespace Step

/-- The handler that a step installs, if it is a setup that succeeds. -/
def handler? : Step → Option Handler
  | setup asked => asked.handler?
  | log _ => none

/-- What a step logs: a setup that succeeds logs an entry of its own. -/
def logged? : Step → Option Entry
  | setup asked => asked.handler?.map fun _ => asked.entry
  | log e => some e

/-- A step that is a setup does not stop halfway. -/
def IsWhole : Step → Prop
  | setup asked => ¬ asked.IsHalfDone
  | log _ => True

variable {step : Step}

lemma handler?_level_nonneg {h : Handler} (hh : step.handler? = some h) : 0 ≤ h.level := by
  cases step with
  | setup asked => exact asked.level?_nonneg (Setup.handler?_eq_some_iff.mp hh).1
  | log e => cases hh

/-- A step that logs an entry logs it in the state that it leaves behind. -/
lemma run_eq_log {e : Entry} (he : step.logged? = some e) (s : State) :
    step.run s = (step.run s).state.log e := by
  cases step with
  | log e' =>
    cases he
    exact (congrArg (·.log e) State.log_state).symm
  | setup asked =>
    rcases asked.run_cases s with ⟨fault, hnone, -, -⟩ | ⟨level, -, hnone, -, -⟩ |
      ⟨h, hsome, -, hrun⟩
    · simp [logged?, hnone] at he
    · simp [logged?, hnone] at he
    · obtain rfl : asked.entry = e := by simpa [logged?, hsome] using he
      rw [show (setup asked).run s = _ from hrun, State.log_state]

/-- A step that logs no entry prints and reports nothing. -/
lemma run_of_logged?_eq_none (he : step.logged? = none) (s : State) :
    (step.run s).printed = [] ∧ (step.run s).reported = [] := by
  cases step with
  | log e => cases he
  | setup asked =>
    show (asked.run s).printed = [] ∧ (asked.run s).reported = []
    rcases asked.run_cases s with ⟨fault, -, -, hrun⟩ | ⟨level, -, -, -, hrun⟩ |
      ⟨h, hsome, -, -⟩
    · rw [hrun]
      exact ⟨rfl, rfl⟩
    · rw [hrun]
      exact ⟨rfl, rfl⟩
    · simp [logged?, hsome] at he

/-- A step keeps the handler that is installed, or puts its own in the place. -/
lemma run_installed (hwhole : step.IsWhole) (h? : Option Handler) :
    (step.run (.installed h?)).state = .installed (step.handler?.or h?) := by
  cases step with
  | log e => exact State.log_state
  | setup asked =>
    show (asked.run _).state = .installed (asked.handler?.or h?)
    rcases asked.run_cases (.installed h?) with ⟨fault, hnone, -, hrun⟩ |
      ⟨level, -, -, hhalf, -⟩ | ⟨h, hsome, -, hrun⟩
    · rw [hrun, hnone, Option.none_or]
    · exact absurd hhalf hwhole
    · rw [hrun, hsome, Option.some_or, State.log_state]

/-- Where no handler is installed, a step that installs none prints nothing. -/
lemma run_of_handlers_nil {s : State} (hstep : step.handler? = none) (hs : s.handlers = []) :
    (step.run s).state.handlers = [] ∧ (step.run s).printed = [] := by
  cases step with
  | log e => exact ⟨(congrArg State.handlers State.log_state).trans hs,
      State.log_printed_of_handlers_nil hs⟩
  | setup asked =>
    show (asked.run s).state.handlers = [] ∧ (asked.run s).printed = []
    rcases asked.run_cases s with ⟨fault, -, -, hrun⟩ | ⟨level, -, -, -, hrun⟩ |
      ⟨h, hsome, -, -⟩
    · rw [hrun]
      exact ⟨hs, rfl⟩
    · rw [hrun]
      exact ⟨rfl, rfl⟩
    · cases hsome.symm.trans hstep

end Step

/-! ## Runs -/

namespace State

/-- The state after some steps. -/
def after (s : State) (steps : List Step) : State :=
  steps.foldl (fun s step => (step.run s).state) s

lemma after_append (s : State) (steps : List Step) (step : Step) :
    s.after (steps ++ [step]) = (step.run (s.after steps)).state := by
  rw [after, List.foldl_append]
  rfl

end State

/-- Every step of a session is taken in the state after those before it. -/
lemma getElem?_runSteps (s : State) (steps : List Step) (i : Nat) :
    (runSteps s steps)[i]? = steps[i]?.map fun step => step.run (s.after (steps.take i)) := by
  induction steps generalizing s i with
  | nil => rfl
  | cons step steps ih =>
    cases i with
    | zero => rfl
    | succ i =>
      rw [runSteps, List.getElem?_cons_succ, ih, List.getElem?_cons_succ, List.take_succ_cons]
      rfl

/-- The handler of the latest setup that succeeded. -/
def latest? (steps : List Step) : Option Handler :=
  (steps.filterMap Step.handler?).getLast?

lemma latest?_append (steps : List Step) (step : Step) :
    latest? (steps ++ [step]) = step.handler?.or (latest? steps) := by
  rw [latest?, List.filterMap_append, List.getLast?_append]
  cases h : step.handler? <;> simp [h, latest?]

lemma latest?_level_nonneg {steps : List Step} {h : Handler} (hh : latest? steps = some h) :
    0 ≤ h.level := by
  obtain ⟨step, -, hstep⟩ := List.mem_filterMap.mp (List.mem_of_getLast? hh)
  exact Step.handler?_level_nonneg hstep

/-- After steps none of which stops halfway, the handler of the latest setup that succeeded is
installed. -/
lemma State.after_eq_installed {steps : List Step} (h : ∀ step ∈ steps, step.IsWhole) :
    initial.after steps = installed (latest? steps) := by
  induction steps using List.reverseRecOn with
  | nil => rfl
  | append_singleton steps step ih =>
    obtain ⟨hsteps, hstep⟩ := List.forall_mem_append.mp h
    rw [after_append, ih hsteps, Step.run_installed (List.forall_mem_singleton.mp hstep),
      latest?_append]

/-- A step leaves the handler of the latest setup that succeeded, itself included. -/
lemma Step.run_after {steps : List Step} (hwhole : ∀ step ∈ steps, step.IsWhole) {i : Nat}
    {step : Step} (hstep : steps[i]? = some step) :
    (step.run (State.initial.after (steps.take i))).state =
      .installed (latest? (steps.take (i + 1))) := by
  have htake : steps.take (i + 1) = steps.take i ++ [step] := by
    rw [List.take_add_one, hstep]
    rfl
  rw [← State.after_append, ← htake]
  exact State.after_eq_installed fun step hmem => hwhole step (List.mem_of_mem_take hmem)

/-- In a tree without handlers, steps that install none print nothing. -/
lemma runSteps_of_handlers_nil {steps : List Step} (hsteps : ∀ step ∈ steps, step.handler? = none)
    {s : State} (hs : s.handlers = []) :
    ∀ o ∈ runSteps s steps, o.state.handlers = [] ∧ o.printed = [] := by
  induction steps generalizing s with
  | nil => exact List.forall_mem_nil _
  | cons step steps ih =>
    obtain ⟨hstep, hsteps⟩ := List.forall_mem_cons.mp hsteps
    have hrun := step.run_of_handlers_nil hstep hs
    exact List.forall_mem_cons.mpr ⟨hrun, ih hsteps hrun.1⟩

/-- What is installed by sound setups: a layout all of whose places have names. -/
lemma latest?_isNamed {steps : List Step}
    (hsound : ∀ setup, .setup setup ∈ steps → setup.IsSound) {h : Handler}
    (hh : latest? steps = some h) : h.layout.IsNamed := by
  obtain ⟨step, hmem, hstep⟩ := List.mem_filterMap.mp (List.mem_of_getLast? hh)
  cases step with
  | log e => cases hstep
  | setup asked =>
    obtain ⟨layout, hlayout, hnamed⟩ := hsound asked hmem
    have hsame := (Setup.handler?_eq_some_iff.mp hstep).2
    obtain rfl : layout = h.layout := Option.some.inj (hlayout.symm.trans hsame)
    exact hnamed

/-- An entry of the tree. -/
def lastEntry : Entry :=
  .plain "dashcalc.formula" 20 "shown" [("row", .null)]

/-- A session with an entry before any setup, setups that fail, and an entry below the level. -/
def mixedSteps : List Step :=
  [.log (.plain "dashcalc" 50 "early" []), .setup ⟨.string "LOUD", true, none⟩,
    .setup ⟨.string "info", false, none⟩, .log (.plain "dashcalc.formula" 10 "hidden" []),
    .setup ⟨.integer 10, true, none⟩, .log lastEntry]

/-- A place that shows the message as a number. -/
def numberFormat : String :=
  "%(message)d"

/-- **Failed setups.**  A setup that fails prints nothing.  It leaves the tree as it is, so that all
further steps are as if it had not been tried, unless it is one that stops halfway: then the level
is the new one, there is no handler, and nothing is printed until a setup succeeds. -/
theorem Setup.run_of_fault {setup : Setup} {s : State} {fault : StepFault}
    (hfault : (setup.run s).fault = some fault) :
    (setup.run s).printed = [] ∧
      (¬ setup.IsHalfDone → (setup.run s).state = s ∧
        ∀ steps, runSteps (setup.run s).state steps = runSteps s steps) ∧
      (setup.IsHalfDone → fault = .unusableFormat ∧
        (∃ level, setup.level? = .ok level ∧ (setup.run s).state = ⟨level, []⟩) ∧
        ∀ steps : List Step, (∀ step ∈ steps, step.handler? = none) →
          ∀ o ∈ runSteps (setup.run s).state steps, o.state.handlers = [] ∧ o.printed = []) := by
  rcases setup.run_cases s with ⟨_, -, hwhole, hrun⟩ | ⟨level, hlevel, -, hhalf, hrun⟩ |
    ⟨h, hsome, -, -⟩
  · rw [hrun]
    exact ⟨rfl, fun _ => ⟨rfl, fun _ => rfl⟩, fun hhalf => absurd hhalf hwhole⟩
  · rw [hrun] at hfault ⊢
    refine ⟨rfl, fun hwhole => absurd hhalf hwhole, fun _ => ⟨(Option.some.inj hfault).symm,
      ⟨level, hlevel, rfl⟩, fun steps hsteps => runSteps_of_handlers_nil hsteps rfl⟩⟩
  · rw [Setup.run_fault_eq_none_iff.mpr ⟨h, hsome⟩] at hfault
    cases hfault

/-- A tree that prints messages. -/
def messageState : State :=
  .installed (some ⟨20, .console "%(message)s"⟩)

/-- A setup that stops halfway. -/
def plainSetup : Setup :=
  ⟨.string "DEBUG", false, some "plain"⟩

/-- A setup that fails at once leaves the tree as it is; one that stops halfway silences it. -/
theorem Setup.run_of_fault_messageState :
    (Setup.run ⟨.string "LOUD", false, some "plain"⟩ messageState).fault = some .unknownLevel ∧
      (Setup.run ⟨.string "LOUD", false, some "plain"⟩ messageState).state = messageState ∧
      (plainSetup.run messageState).fault = some .unusableFormat ∧
      (plainSetup.run messageState).state = ⟨10, []⟩ ∧
      ∀ o ∈ runSteps (plainSetup.run messageState).state [.log lastEntry], o.printed = [] := by
  have hunknown : (Setup.run ⟨.string "LOUD", false, some "plain"⟩ messageState).fault =
      some .unknownLevel := by
    decide +kernel
  have hunusable : (plainSetup.run messageState).fault = some .unusableFormat := by
    decide +kernel
  have hlevel : plainSetup.level? = .ok 10 := by
    rfl
  have hhalf : plainSetup.IsHalfDone := ⟨⟨10, hlevel⟩, rfl, "plain", rfl, by decide, by decide⟩
  have hwhole : ¬ Setup.IsHalfDone ⟨.string "LOUD", false, some "plain"⟩ := by
    rintro ⟨⟨level, h⟩, -⟩
    exact nomatch h
  obtain ⟨-, hkept, -⟩ := Setup.run_of_fault hunknown
  obtain ⟨-, -, hsilent⟩ := Setup.run_of_fault hunusable
  obtain ⟨-, ⟨level, hlevel', hstate⟩, hsilent⟩ := hsilent hhalf
  obtain rfl : 10 = level := Except.ok.inj (hlevel.symm.trans hlevel')
  exact ⟨hunknown, (hkept hwhole).1, hunusable, hstate, fun o ho =>
    (hsilent [.log lastEntry] (List.forall_mem_singleton.mpr rfl) o ho).2⟩

end TableFormula.Log

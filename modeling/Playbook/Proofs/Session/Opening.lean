import Playbook.Main
import Playbook.Proofs.Session.Admission
import Playbook.Proofs.Settings.Sources
import Playbook.Proofs.Text.Wide
/-!
# Settings that sessions can be opened with

A new session starts in the conversation that the settings name. The settings only ask that this name is not empty, and
conversations ask that it is not blank. So a blank name, which only a file can give, is accepted, and then every new
session is turned down, with a failure that playbooks are not known to have; with any other accepted name every session
opens, in the conversation of that name without the blanks around it.
-/

namespace Playbook

open Text

/-! ### The name in the settings -/

namespace Settings

variable {l : Library} {d : Disk} {cwd : Location} {path : Option String} {env : Environment}
  {given : List (WideString × Setting)} {s : Settings}

theorem context_ne (h : check l.toReaders given = .ok s) : s.defaultContext ≠ "" := by
  have hfield : Field.result l.toReaders given .context = .ok s.defaultContext := check_eq_ok.1 h .context
  unfold Field.result at hfield
  split at hfield
  · have hstandard : standard.defaultContext = s.defaultContext := Except.ok.inj hfield
    rw [← hstandard]
    decide
  · exact l.context_ne (mapError_eq_ok.1 hfield)

/-- A name from the environment has no blanks around it, and is not blank. -/
theorem not_blank_of_override {v : Setting} (hvariable : override? env Field.context.name = some v)
    (h : check l.toReaders (overridden given env) = .ok s) : blank s.defaultContext = false := by
  have hfield : Field.result l.toReaders (overridden given env) .context = .ok s.defaultContext :=
    check_eq_ok.1 h .context
  unfold Field.result at hfield
  rw [lookup_overridden, hvariable] at hfield
  have hread : l.read .context v = .ok s.defaultContext := mapError_eq_ok.1 hfield
  unfold override? at hvariable
  split at hvariable
  · split at hvariable
    · cases hvariable
    · rename_i value hvalue hvisible
      cases hvariable
      have htext : value.strip = s.defaultContext := l.context_text hread
      rw [← WideString.isBlank_ofString, ← htext, WideString.isBlank_strip]
      exact Bool.eq_false_iff.2 hvisible
  · cases hvariable

theorem checked_of_load (h : load l d cwd env path = .ok s) :
    ∃ given, check l.toReaders (overridden given env) = .ok s := by
  rw [load_eq_givenBy] at h
  obtain ⟨given, -, hmerge⟩ := Workbench.bind_eq_ok h
  exact ⟨given, mapError_eq_ok.1 hmerge⟩

end Settings

/-! ### Opening -/

theorem Contexts.new_eq (home : WideString) :
    Contexts.new home =
      if home.isBlank then .error .blankContextName else .ok ⟨[(home.strip, [])], home.strip, home⟩ := by
  unfold Contexts.new Contexts.select
  dsimp only
  by_cases hblank : home.isBlank = true
  · rw [if_pos hblank, if_pos (List.isEmpty_iff.2 (WideString.strip_eq_nil_iff.2 hblank))]
  · have hfilled : ¬ home.strip.isEmpty = true := fun h => hblank (WideString.strip_eq_nil_iff.1 (List.isEmpty_iff.1 h))
    rw [if_neg hblank, if_neg hfilled]
    rfl

namespace Workbench

/-- What comes of opening a session, by the name of its first conversation. -/
inductive Opening (home : String) (w : Workbench) (id : String) : Except Failure (Workbench × Nat) → Prop
  | found {n : Nat} (hn : w.sessions.number? id = some n) : Opening home w id (.ok (w, n))
  | made {w' : Workbench} {n : Nat} (hnone : w.sessions.number? id = none) (hvisible : blank home = false)
      (hn : w'.sessions.number? id = some n)
      (hselected : (w'.session n).contexts.selected = (strip home : WideString)) :
      Opening home w id (.ok (w', n))
  | blank (hnone : w.sessions.number? id = none) (hblank : blank home = true) : Opening home w id (.error .blankContextName)

theorem openSession_opening (w : Workbench) (id : String) : Opening w.settings.defaultContext w id (w.openSession id) := by
  cases hn : w.sessions.number? id with
  | some n =>
      rw [openSession_of_some hn]
      exact .found hn
  | none =>
      cases hblank : Text.blank w.settings.defaultContext with
      | true =>
          have hopen : w.openSession id = .error .blankContextName := by
            unfold openSession Session.new
            rw [hn, Contexts.new_eq, WideString.isBlank_ofString, if_pos hblank]
            rfl
          rw [hopen]
          exact .blank hn hblank
      | false =>
          have hnew : Session.new w.settings w.client id = .ok { Session.blank with
              id := id
              machine := .new id
              contexts := ⟨[(strip w.settings.defaultContext, [])], strip w.settings.defaultContext, w.settings.defaultContext⟩
              client := w.client } := by
            rw [Session.new, Contexts.new_eq, WideString.isBlank_ofString, WideString.strip_ofString, hblank]
            rfl
          cases hopen : w.openSession id with
          | error f =>
              unfold openSession at hopen
              rw [hn, hnew] at hopen
              cases hopen
          | ok result =>
              obtain ⟨w', n⟩ := result
              have hopened := opened_of_ok hopen
              refine .made hn hblank hopened.number? ?_
              cases hopened with
              | found hfound hw =>
                  rw [hn] at hfound
                  cases hfound
              | made s hnone hs hw hlast =>
                  rw [hnew] at hs
                  cases hs
                  rw [hw, hlast, session_eq, Sessions.get_add, if_pos rfl]

/-- Where nothing is in progress, nothing more happens. -/
theorem run_of_idle {w : Workbench} (hturns : w.turns = []) (hresting : w.resting = []) : w.run = w := by
  show w.settle (9999999 + 1) = w
  rw [settle, hturns, hresting]

end Workbench

namespace CommandLine

/-- The workbench that a playbook is run on. -/
def bench (h : Host) (s : Settings) (client : Client) : Workbench :=
  .new (Builtin.registry (s.executeTimeout.map TimeLimit.ofFloat)) s (some client) h

variable {l : Libraries} {h : Host} {s : Settings} {client : Client} {id : String}

/-- A session that does not open ends the program with that failure, if it is not one that playbooks are known to have. -/
theorem runText_of_unopened {failure : Failure} (hopen : (bench h s client).openSession id = .error failure)
    (hpassed : failure.isExpected = false) (asJson : Bool) (text : String) :
    (runText h s id client asJson text).code = .error failure ∧ (runText h s id client asJson text).host = h ∧
      (runText h s id client asJson text).errors = [] := by
  have henter : (bench h s client).enter ⟨id, text, .nobody⟩ = (bench h s client, .error failure) := by
    unfold Workbench.enter
    rw [hopen]
  have hrun : ((bench h s client).addTask (.error failure)).1.run = ((bench h s client).addTask (.error failure)).1 :=
    Workbench.run_of_idle rfl rfl
  have hfinish : runText h s id client asJson text =
      ({ Finish.new h with output := h.prompts.flatMap (· ++ ": ") } : Finish).report "Error" failure := by
    unfold bench at henter hrun
    unfold runText
    simp only [henter, hrun]
    rfl
  rw [hfinish, Finish.report, hpassed]
  exact ⟨rfl, rfl, rfl⟩

/-- The run is that of the text, on the session that opens in the conversation that the settings name; if it cannot open,
that failure is all there is. -/
structure Begins (h : Host) (s : Settings) (id : String) (client : Client) (asJson : Bool) (text : String) (f : Finish) :
    Prop where
  run : f = runText h s id client asJson text
  visible : blank s.defaultContext = false → ∃ w n, (bench h s client).openSession id = .ok (w, n) ∧
    (w.session n).contexts.selected = (strip s.defaultContext : WideString) ∧
    (bench h s client).enter ⟨id, text, .nobody⟩ = w.enter ⟨id, text, .nobody⟩
  blank : blank s.defaultContext = true → f.code = .error .blankContextName ∧ f.host = h ∧ f.errors = []

theorem runText_begins (h : Host) (s : Settings) (id : String) (client : Client) (asJson : Bool) (text : String) :
    Begins h s id client asJson text (runText h s id client asJson text) := by
  have hopening : Workbench.Opening s.defaultContext (bench h s client) id ((bench h s client).openSession id) :=
    (bench h s client).openSession_opening id
  generalize hopen : (bench h s client).openSession id = result at hopening
  cases hopening with
  | found hn => cases hn
  | made _ hvisible hn hselected =>
      refine ⟨rfl, fun _ => ⟨_, _, hopen, hselected, Workbench.enter_of_opened hopen⟩, ?_⟩
      intro hblank
      rw [hvisible] at hblank
      cases hblank
  | blank _ hblank =>
      refine ⟨rfl, ?_, fun _ => runText_of_unopened hopen rfl asJson text⟩
      intro hvisible
      rw [hvisible] at hblank
      cases hblank

/-- The settings of a run, which works in a directory of its own. -/
def settingsOf (h : Host) (s : Settings) (file : String) (workspace : Option String) : Settings :=
  { s with workspace := some (workspaceOf s workspace (resolve h (.ofString file))) }

theorem invoke_run {env : Settings.Environment} {config : Option String} {file text : String}
    {provider model workspace : Option String} {asJson : Bool} {plan : ClientPlan}
    (hload : Settings.load l.settings h.disk h.cwd env config = .ok s) (hread : readFile? h file = .ok (some text))
    (hplan : ClientPlan.ofSettings l.network s provider model = .ok plan) :
    invoke l h env ⟨config, some (.run file provider model workspace asJson)⟩ =
      runText h (settingsOf h s file workspace) (resolve h (.ofString file)).text.plain plan.client asJson text := by
  have hplan' : ClientPlan.ofSettings l.network (settingsOf h s file workspace) provider model = .ok plan := hplan
  unfold settingsOf at hplan' ⊢
  unfold invoke
  simp only [hload]
  unfold carryOut run
  simp only [hread, hplan']

/-- **Settings and sessions.** Accepted settings name a conversation that is not empty, and is blank only if the file says
so. With any other name every session opens; with a blank one, new sessions are turned down, and a run of the program ends
with that failure before it has begun. -/
theorem load_opens {l : Libraries} {h : Host} {env : Settings.Environment} {config : Option String} {s : Settings}
    (hload : Settings.load l.settings h.disk h.cwd env config = .ok s) :
    s.defaultContext ≠ "" ∧
      (blank s.defaultContext = true → Settings.override? env Settings.Field.context.name = none) ∧
      (∀ w : Workbench, w.settings.defaultContext = s.defaultContext →
        ∀ id, Workbench.Opening s.defaultContext w id (w.openSession id)) ∧
      ∀ file provider model workspace asJson text plan, readFile? h file = .ok (some text) →
        ClientPlan.ofSettings l.network s provider model = .ok plan →
        Begins h (settingsOf h s file workspace) (resolve h (.ofString file)).text.plain plan.client asJson text
          (invoke l h env ⟨config, some (.run file provider model workspace asJson)⟩) := by
  obtain ⟨given, hcheck⟩ := Settings.checked_of_load hload
  refine ⟨Settings.context_ne hcheck, ?_, ?_, ?_⟩
  · intro hblank
    cases hvariable : Settings.override? env Settings.Field.context.name with
    | none => rfl
    | some v =>
        rw [Settings.not_blank_of_override hvariable hcheck] at hblank
        cases hblank
  · intro w hsettings id
    rw [← hsettings]
    exact w.openSession_opening id
  · intro file provider model workspace asJson text plan hread hplan
    rw [invoke_run hload hread hplan]
    exact runText_begins ..

/-- Without a file, sessions open in the standard conversation. -/
theorem load_opens_standard :
    let h := Host.bare ⟨[]⟩
    let w := bench h Settings.standard (.new none (.echo none))
    Settings.load Main.libraries.settings h.disk h.cwd [] none = .ok Settings.standard ∧
      ∃ w' n, w.openSession "a" = .ok (w', n) ∧ (w'.session n).contexts.selected = "default" := by
  intro h w
  have hload : Settings.load Main.libraries.settings h.disk h.cwd [] none = .ok Settings.standard := rfl
  obtain ⟨-, -, hopens, -⟩ := load_opens hload
  refine ⟨hload, ?_⟩
  have hopening := hopens w rfl "a"
  generalize hopen : w.openSession "a" = result at hopening
  cases hopening with
  | found hn => cases hn
  | made _ _ _ hselected => exact ⟨_, _, rfl, hselected⟩
  | blank _ hblank => cases hblank

/-- A name that is a space is accepted, and no session opens. -/
theorem not_opens_of_blank : ¬ ∀ h env config s, Settings.load Settings.library (Host.disk h) h.cwd env config = .ok s →
    ∀ client id, ∃ w n, (bench h s client).openSession id = .ok (w, n) := by
  intro hall
  let d := Settings.diskOf "default_context: ' '\n"
  have hfile : Settings.Holding Settings.library d [] (some "c.yaml") [("default_context", .text " ")] :=
    Settings.holding_diskOf (by decide +kernel)
  have hmerges := hfile.merges []
  have hvalid : ∀ f : Settings.Field,
      (f.effect Settings.library.toReaders [("default_context", .text " ")] []).toBool = true := by
    intro f
    cases f <;> decide +kernel
  obtain ⟨s, hs⟩ := hmerges.loaded_iff.2 fun f => Settings.exists_of_toBool (hvalid f)
  have hcontext : s.defaultContext = " " := Except.ok.inj (hmerges.values s hs .context).symm
  obtain ⟨w, n, hopen⟩ := hall (Host.bare d) [] (some "c.yaml") s hs (.new none (.echo none)) "a"
  have hopening := (bench (Host.bare d) s (.new none (.echo none))).openSession_opening "a"
  rw [hopen] at hopening
  cases hopening with
  | found hn => cases hn
  | made _ hvisible =>
      rw [show (bench _ s _).settings.defaultContext = s.defaultContext from rfl, hcontext] at hvisible
      cases hvisible

end CommandLine

end Playbook

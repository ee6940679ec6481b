import Playbook.Proofs.Session.Ownership
import Playbook.Proofs.Session.Tenure
/-!
# Who may run

What comes of an order to run in a session that is open, by the state of the session. A session that somebody has
turns the order down before it looks at the text. Any other session keeps what the text was parsed to, also if the
run does not begin; so a failed session refuses the run and remembers its text all the same. The two are the only
ways to be refused.
-/

namespace Playbook.Workbench

variable {w w' : Workbench} {o : Order} {n : Nat} {r : Refusal}

/-- The session keeps what the text was parsed to. -/
def noting (w : Workbench) (n : Nat) (text : String) : Workbench :=
  w.setSession n ({ w.session n with lastParse := some (Document.parse text) }, [])

theorem machine_noting (w : Workbench) (n : Nat) (text : String) :
    ((w.noting n text).session n).machine = (w.session n).machine := by
  have h := Sessions.apply_get_update w.sessions n n (fun s => { s with lastParse := some (Document.parse text) })
    Session.machine fun _ => rfl
  exact h

/-! ### Starting -/

theorem start_of_error {run : Run} (h : (w.session n).machine.start = .error r) :
    w.start n run = .error (.refused r) := by
  have hact : (w.session n).machine.act .start = .error r := by
    rw [Machine.act, h]
    rfl
  unfold start
  simp only [bind, Except.bind, act_of_error hact]

theorem start_of_ok {run : Run} {m : Machine} (h : (w.session n).machine.start = .ok m) :
    ∃ v, w.start n run = .ok (v, run) := by
  have hact : (w.session n).machine.act .start = .ok (m, none) := by
    rw [Machine.act, h]
    rfl
  unfold start
  simp only [bind, Except.bind, act_of_ok hact]
  exact ⟨_, rfl⟩

/-! ### Orders -/

theorem openSession_of_some {id : String} (hn : w.sessions.number? id = some n) : w.openSession id = .ok (w, n) := by
  unfold openSession
  rw [hn]

/-- A session that nobody has keeps the text, whatever comes after. -/
theorem enter_of_free (hn : w.sessions.number? o.id = some n) (hfree : (w.session n).machine.isOwned = false) :
    w.enter o =
      match (do requireExecutable (Document.parse o.text); (w.noting n o.text).start n (w.ordered n o)) with
      | .ok (v, run) => (v, .ok run)
      | .error e => (w.noting n o.text, .error e) := by
  unfold enter
  simp only [openSession_of_some hn, hfree, Bool.false_eq_true, if_false]
  rfl

theorem enter_of_unexecutable (hn : w.sessions.number? o.id = some n)
    (hfree : (w.session n).machine.isOwned = false) (hbad : (Document.parse o.text).isExecutable = false) :
    w.enter o = (w.noting n o.text, .error (.notExecutable (Document.parse o.text).criticalProblems)) := by
  rw [enter_of_free hn hfree]
  simp only [requireExecutable, hbad, Bool.false_eq_true, if_false, bind, Except.bind]

theorem enter_of_executable (hn : w.sessions.number? o.id = some n) (hfree : (w.session n).machine.isOwned = false)
    (hgood : (Document.parse o.text).isExecutable = true) :
    w.enter o =
      match (w.noting n o.text).start n (w.ordered n o) with
      | .ok (v, run) => (v, .ok run)
      | .error e => (w.noting n o.text, .error e) := by
  rw [enter_of_free hn hfree]
  simp only [requireExecutable, hgood, if_true, bind, Except.bind]

theorem enter_of_idle (hn : w.sessions.number? o.id = some n) (hfree : (w.session n).machine.isOwned = false)
    (hidle : (w.session n).machine.phase = .idle) (hgood : (Document.parse o.text).isExecutable = true) :
    ∃ v, w.enter o = (v, .ok (w.ordered n o)) := by
  have hstart := Machine.start_eq_ok.2 ⟨hfree, hidle, rfl⟩
  rw [← machine_noting w n o.text] at hstart
  obtain ⟨v, hv⟩ : ∃ v, (w.noting n o.text).start n (w.ordered n o) = .ok (v, w.ordered n o) := start_of_ok hstart
  refine ⟨v, ?_⟩
  rw [enter_of_executable hn hfree hgood, hv]

theorem enter_of_failed (hn : w.sessions.number? o.id = some n) (hfree : (w.session n).machine.isOwned = false)
    (hfailed : (w.session n).machine.phase = .failed) (hgood : (Document.parse o.text).isExecutable = true) :
    w.enter o = (w.noting n o.text, .error (.refused (.cannotStart .failed))) := by
  have hstart := Machine.start_of_failed hfree hfailed
  rw [← machine_noting w n o.text] at hstart
  rw [enter_of_executable hn hfree hgood, start_of_error hstart]

/-- An order opens its session first, and goes on as if it had been open. -/
theorem enter_of_opened {w₀ : Workbench} (hopen : w.openSession o.id = .ok (w₀, n)) : w.enter o = w₀.enter o := by
  have hn := (opened_of_ok hopen).number?
  unfold enter
  rw [hopen, openSession_of_some hn]

/-! ### Refusals -/

/-- An order that is refused because of the state of the session, why, and what is left behind. -/
inductive Refuses (w : Workbench) (o : Order) : Refusal → Workbench → Prop
  /-- Somebody has the session: nothing changes. -/
  | busy {n : Nat} (hn : w.sessions.number? o.id = some n) (howned : (w.session n).machine.isOwned = true) :
      Refuses w o (.busy (w.session n).machine.phase o.id) w
  /-- The session failed and was not reset: all that changes is the document that it remembers. -/
  | failed {n : Nat} (hn : w.sessions.number? o.id = some n) (hfailed : (w.session n).machine.phase = .failed)
      (hgood : (Document.parse o.text).isExecutable = true) :
      Refuses w o (.cannotStart .failed) (w.noting n o.text)

theorem openSession_not_refused {id : String} : w.openSession id ≠ .error (.refused r) := by
  unfold openSession
  split
  · exact nofun
  · have hnew : ∀ home, Contexts.new home ≠ .error (.refused r) := by
      intro home
      unfold Contexts.new Contexts.select
      dsimp only
      split
      · exact nofun
      · split <;> exact nofun
    unfold Session.new
    cases hcontexts : Contexts.new w.settings.defaultContext with
    | ok contexts => exact nofun
    | error f =>
        intro h
        cases h
        exact hnew _ hcontexts

/-- A session that is new is idle, so nothing is refused there. -/
theorem number?_of_refused (h : w.enter o = (w', .error (.refused r))) : ∃ n, w.sessions.number? o.id = some n := by
  cases hopen : w.openSession o.id with
  | error f =>
      unfold enter at h
      rw [hopen] at h
      cases h
      exact absurd hopen openSession_not_refused
  | ok result =>
      obtain ⟨w₀, n⟩ := result
      have hopened := opened_of_ok hopen
      have hn₀ := hopened.number?
      rw [enter_of_opened hopen] at h
      cases hopened with
      | found hn hw => exact ⟨n, hn⟩
      | made s hn hs hw hlast =>
          have hmachine : (w₀.session n).machine = .new o.id := by
            rw [hw, hlast, session_eq, Sessions.get_add, if_pos rfl, (machine_new hs).2]
          have hfree : (w₀.session n).machine.isOwned = false := by rw [hmachine]; rfl
          -- Only the text can be turned down now, and that is no refusal.
          cases hgood : (Document.parse o.text).isExecutable with
          | false =>
              rw [enter_of_unexecutable hn₀ hfree hgood] at h
              cases h
          | true =>
              obtain ⟨v, hv⟩ := enter_of_idle hn₀ hfree (by rw [hmachine]; rfl) hgood
              rw [hv] at h
              cases h

theorem enter_refused_iff (hsound : ∀ n, (w.session n).machine.IsSound) :
    w.enter o = (w', .error (.refused r)) ↔ Refuses w o r w' := by
  constructor
  · intro h
    obtain ⟨n, hn⟩ := number?_of_refused h
    cases howned : (w.session n).machine.isOwned with
    | true =>
        rw [enter_of_owned hn howned] at h
        cases h
        exact .busy hn howned
    | false =>
        cases hgood : (Document.parse o.text).isExecutable with
        | false =>
            rw [enter_of_unexecutable hn howned hgood] at h
            cases h
        | true =>
            rcases Machine.phase_of_free (hsound n) howned with hidle | hfailed
            · obtain ⟨v, hv⟩ := enter_of_idle hn howned hidle hgood
              rw [hv] at h
              cases h
            · rw [enter_of_failed hn howned hfailed hgood] at h
              cases h
              exact .failed hn hfailed hgood
  · rintro (⟨hn, howned⟩ | ⟨hn, hfailed, hgood⟩)
    · exact enter_of_owned hn howned
    · exact enter_of_failed hn (Machine.free_of_failed (hsound _) hfailed) hfailed hgood

/-- In every state that a history leads to, these are the ways to be refused, and they come about. A session that
failed is the only one that a refusal changes, and then only in the document that it remembers. -/
theorem following_refused_iff (registry : Registry) (settings : Settings) (client : Option Client) (host : Host)
    (ds : List HostMove) (o : Order) (r : Refusal) (w' : Workbench) :
    ((new registry settings client host).following ds).enter o = (w', .error (.refused r)) ↔
      ((new registry settings client host).following ds).Refuses o r w' :=
  enter_refused_iff (following_tenured (new_tenured registry settings client host) ds).machines

/-- A run that a failed session refuses leaves its text behind. -/
theorem not_refused_untouched :
    ¬∀ (ds : List HostMove) (o : Order) (r : Refusal) (w' : Workbench),
      (Held.bench.following ds).enter o = (w', .error (.refused r)) →
        ∀ n, (w'.session n).lastParse = ((Held.bench.following ds).session n).lastParse := by
  intro h
  let ds : List HostMove := [.move (.start ⟨"s", "@gone", .nobody⟩), .move (.turn 0), .move (.turn 0)]
  have hn : (Held.bench.following ds).sessions.number? "s" = some 0 := by decide +kernel
  have hfree : ((Held.bench.following ds).session 0).machine.isOwned = false := by decide +kernel
  have hfailed : ((Held.bench.following ds).session 0).machine.phase = .failed := by decide +kernel
  have hgood : (Document.parse "hello").isExecutable = true := by decide +kernel
  have hrefused := enter_of_failed (o := ⟨"s", "hello", .nobody⟩) hn hfree hfailed hgood
  have hparse := h ds ⟨"s", "hello", .nobody⟩ _ _ hrefused 0
  revert hparse
  decide +kernel

end Playbook.Workbench

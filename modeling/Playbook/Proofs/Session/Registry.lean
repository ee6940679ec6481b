import Playbook.Proofs.Session.Consistency
/-!
# The registry stays

Whatever happens, the skills that are registered are those that the workbench was made with.
-/

namespace Playbook.Workbench

variable {w w' : Workbench} {t n : Nat} {run : Run} {outer : List Frame}

/-! ### Machines and observers -/

theorem registry_act {a : Action} {reply : Option Bool} (h : w.act n a = .ok (w', reply)) :
    w'.registry = w.registry := by
  obtain ⟨m, -, rfl⟩ := act_eq_ok h
  exact registry_moved w n m

theorem registry_tryAct (w : Workbench) (n : Nat) (a : Action) : (w.tryAct n a).registry = w.registry := by
  unfold tryAct
  cases hact : w.act n a with
  | error f => rfl
  | ok result => exact registry_act hact

theorem registry_tell {c : Callback} {e : Event} {go : Workbench → Workbench} (hgo : ∀ v, (go v).registry = v.registry) :
    (w.tell t run outer c e go).registry = w.registry := by
  unfold tell
  dsimp only
  split
  · rfl
  · exact hgo _

/-! ### Requests and orders -/

theorem registry_carryOut {c : Command} {answer : Answer} (h : w.carryOut c = .ok (w', answer)) :
    w'.registry = w.registry := by
  cases c with
  | pause id | resume id | stop id =>
      obtain ⟨⟨v, reply⟩, hc, hv⟩ := bind_eq_ok h
      obtain ⟨k, m, -, -, rfl⟩ := control_eq_ok hc
      cases hv
      exact registry_moved w k m
  | reset id clear =>
      obtain ⟨v, hc, hv⟩ := bind_eq_ok h
      obtain ⟨k, -, hreset⟩ := bind_eq_ok hc
      obtain ⟨⟨v', reply⟩, hact, hreset⟩ := bind_eq_ok hreset
      have hkept := registry_act hact
      cases hv
      cases hreset
      cases clear with
      | true => exact hkept
      | false => exact hkept
  | close id =>
      cases h
      unfold closeSession
      cases w.sessions.number? id with
      | none => rfl
      | some k => exact registry_tryAct { w with sessions := w.sessions.remove id } k .stop
  | phase id =>
      obtain ⟨p, hc, hv⟩ := bind_eq_ok h
      cases hv
      rfl
  | run id text => cases h

theorem registry_openSession {id : String} (h : w.openSession id = .ok (w', n)) : w'.registry = w.registry :=
  (opened_of_ok h).registry

theorem registry_enter (w : Workbench) (o : Order) : (w.enter o).1.registry = w.registry := by
  unfold enter
  cases hopen : w.openSession o.id with
  | error f => rfl
  | ok result =>
      obtain ⟨w₀, k⟩ := result
      have hopened := registry_openSession hopen
      dsimp only
      split
      · exact hopened
      · split
        · rename_i v run hstart
          obtain ⟨u, -, hstart⟩ := bind_eq_ok hstart
          exact (start_eq_ok hstart).2.2.2.2.2.trans hopened
        · exact hopened

theorem registry_enterApart (w : Workbench) (o : Order) (root : Path) (blocksOnly rests : Bool) :
    (w.enterApart o root blocksOnly rests).1.registry = w.registry := by
  unfold enterApart
  cases hopen : w.openSession o.id with
  | error f => rfl
  | ok result =>
      obtain ⟨w₀, k⟩ := result
      have hopened := registry_openSession hopen
      dsimp only
      split
      · rename_i v run hstart
        cases blocksOnly with
        | true => exact (start_eq_ok hstart).2.2.2.2.2.trans hopened
        | false =>
            obtain ⟨u, -, hstart⟩ := bind_eq_ok hstart
            exact (start_eq_ok hstart).2.2.2.2.2.trans hopened
      · exact hopened

theorem registry_addTask (w : Workbench) (entered : Except Failure Run) :
    (w.addTask entered).1.registry = w.registry := by
  unfold addTask
  cases entered with
  | ok run => rfl
  | error f => rfl

/-! ### Steps -/

theorem registry_stepBoundary : (w.stepBoundary t run outer).registry = w.registry := by
  unfold stepBoundary
  split
  · rfl
  · exact registry_tryAct _ _ _
  · unfold complete
    split
    · rfl
    · rename_i v reply hact
      have hkept := registry_act hact
      refine Eq.trans (registry_tell ?_) hkept
      exact fun _ => rfl
  · exact registry_tell fun _ => rfl
  · rfl

theorem registry_goOnAfterStep : (goOnAfterStep t run outer w).registry = w.registry := by
  unfold goOnAfterStep
  dsimp only
  split
  · rfl
  · rfl

theorem registry_endStep {block : Block} {pending : List Message} {result : Except Failure (List Message)} :
    (w.endStep t run outer block pending result).registry = w.registry := by
  unfold endStep
  cases result with
  | ok messages => exact registry_tell fun _ => registry_goOnAfterStep
  | error f =>
      dsimp only
      split
      · rfl
      · rename_i v reply hact
        have hkept := registry_act hact
        refine Eq.trans (registry_tell ?_) hkept
        exact fun _ => rfl

theorem registry_stepActivity {pending : List Message} {activity : Activity (List Message)} :
    (w.stepActivity t run outer pending activity).registry = w.registry := by
  cases activity with
  | finish result =>
      rw [stepActivity]
      split
      · exact registry_endStep
      · rfl
  | work piece next => rfl
  | wait gate next => rfl
  | command c next =>
      by_cases hrun : ∃ name text, c = .run name text
      · obtain ⟨name, text, rfl⟩ := hrun
        have henter := registry_enter w ⟨name, text, .nobody⟩
        rw [stepActivity_run]
        split
        · rename_i v inner hentered
          rw [hentered] at henter
          exact henter
        · rename_i v f hentered
          rw [hentered] at henter
          exact henter
      · rw [stepActivity_command fun name text h => hrun ⟨name, text, h⟩]
        split
        · rename_i v answer hcarry
          have hkept := registry_carryOut hcarry
          exact hkept
        · rfl

theorem registry_step (w : Workbench) (t : Nat) : (w.step t).registry = w.registry := by
  unfold step
  split
  · exact registry_stepBoundary
  · exact registry_stepActivity
  all_goals rfl

theorem registry_abandon (w : Workbench) (f : Frame) : (w.abandon f).registry = w.registry := by
  have hhalt : ((w.highlight f.run.session .clear).halt f.run.session).registry = w.registry := by
    unfold halt
    split
    · exact registry_tryAct _ _ _
    · rfl
  unfold abandon
  dsimp only
  split
  · exact (registry_tryAct _ _ _).trans hhalt
  · exact hhalt

theorem registry_cancel (w : Workbench) (t : Nat) : (w.cancel t).1.registry = w.registry := by
  have hall : ∀ (frames : List Frame) (v : Workbench), (frames.foldl abandon v).registry = v.registry := by
    intro frames
    induction frames with
    | nil => exact fun _ => rfl
    | cons f frames ih => exact fun v => (ih _).trans (registry_abandon v f)
  unfold cancel
  dsimp only
  split
  · rfl
  · exact hall _ _

theorem registry_move (w : Workbench) (m : Move) : (w.move m).registry = w.registry := by
  cases m with
  | turn t => exact registry_step w t
  | rouse =>
      unfold move
      dsimp only
      split
      · rfl
      · rfl
  | request c =>
      unfold move
      dsimp only
      split
      · rename_i v answer hcarry
        exact registry_carryOut hcarry
      · rfl
  | start o =>
      have henter := registry_enter w o
      rw [move_start]
      exact (registry_addTask _ _).trans henter
  | openSession id =>
      unfold move
      dsimp only
      split
      · rename_i v k hopen
        exact registry_openSession hopen
      · rfl
  | parse id text =>
      unfold move
      dsimp only
      split
      · rename_i v d hparse
        obtain ⟨⟨v₀, k⟩, hopen, hparse⟩ := bind_eq_ok hparse
        have hkept := registry_openSession hopen
        cases hparse
        exact hkept
      · rfl
  | release gate => rfl
  | cancel t => exact registry_cancel w t

theorem registry_serve (w : Workbench) (d : HostMove) : (w.serve d).registry = w.registry := by
  cases d with
  | move m => exact registry_move w m
  | apart o root blocksOnly rests =>
      rw [serve_apart]
      exact (registry_addTask _ _).trans (registry_enterApart w o root blocksOnly rests)

/-- No history changes what is registered. -/
theorem registry_after (w : Workbench) (ms : List Move) : (w.after ms).registry = w.registry := by
  induction ms generalizing w with
  | nil => rfl
  | cons m ms ih => exact (ih _).trans (registry_move w m)

theorem registry_following (w : Workbench) (ds : List HostMove) : (w.following ds).registry = w.registry := by
  induction ds generalizing w with
  | nil => rfl
  | cons d ds ih => exact (ih _).trans (registry_serve w d)

end Playbook.Workbench

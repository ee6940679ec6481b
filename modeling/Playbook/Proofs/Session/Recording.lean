import Playbook.Proofs.Session.Ownership
import Playbook.Proofs.Session.Reading
/-!
# A run keeps its ledger

However a run that nobody interrupts is delayed, and whatever goes on in other sessions, its conversations are at every
moment those that it started with and its ledger behind them. So they tell in the order of the blocks what
came of each block, and it is this that the model is told when a step asks it something.
-/

namespace Playbook.Workbench

variable {w w' : Workbench} {n : Nat} {blocks : List Block} {p p' : Place}

/-! ### Histories -/

/-- Nobody stops or cancels the run of the session and no callback fails, and if the run leaves, it leaves last. -/
structure Uninterrupted (w : Workbench) (n : Nat) (ms : List Move) : Prop where
  calm : ∀ m ∈ ms, m.IsCalm
  uncut : ∀ e ∈ w.chronicle ms, e.isCut n = false
  present : ∀ e ∈ w.chronicle ms.dropLast, e.isEnd n = false

theorem Uninterrupted.tail {m : Move} {ms : List Move} (h : Uninterrupted w n (m :: ms)) :
    Uninterrupted (w.move m) n ms where
  calm m' hm' := h.calm m' (List.mem_cons_of_mem _ hm')
  uncut e he := h.uncut e (List.mem_append_right _ he)
  present e he := by
    cases ms with
    | nil => cases he
    | cons m' ms => exact h.present e (List.mem_append_right _ he)

/-- What has become of a run and of the conversations of its session. -/
structure Accounted (w : Workbench) (n : Nat) (blocks : List Block) (p : Place) (ms : List Move) (p' : Place) : Prop where
  reading : Reading (w.after ms) n blocks p'
  along : p.along blocks ((w.postings n ms).map Posting.happening) = some p'
  names : (w.session n).contexts.names <+: ((w.after ms).session n).contexts.names
  messages : ∀ name, ((w.after ms).session n).contexts.messagesIn name =
    (w.session n).contexts.messagesIn name ++ ledger w.registry blocks (w.postings n ms) name

theorem Reading.next {m : Move} (h : Reading w n blocks p) (hcalm : m.IsCalm) (hstop : .stopped n ∉ w.happenings m)
    (hgoes : Goes w n blocks p (w.happenings m) (w.move m).sessions (w.move m).allStacks p') :
    Reading (w.move m) n blocks p' where
  consistent := move_consistent h.consistent hcalm
  skills := registry_move w m ▸ h.skills
  hasSelected := hgoes.gains.hasSelected
  unstopped := (move_path h.consistent hcalm n).isUnstopped h.unstopped hstop
  seated := hgoes.seated

/-- One more move at the beginning. -/
theorem Accounted.cons {m : Move} {ms : List Move} {p'' : Place}
    (hgoes : Goes w n blocks p (w.happenings m) (w.move m).sessions (w.move m).allStacks p')
    (h : Accounted (w.move m) n blocks p' ms p'') : Accounted w n blocks p (m :: ms) p'' where
  reading := h.reading
  along := by
    have hfirst : (w.postingsOf n m).map Posting.happening = ofSession n (w.happenings m) := by
      rw [postingsOf, List.map_map]
      exact List.map_id _
    rw [postings, List.map_append, hfirst]
    exact Place.along_append hgoes.along h.along
  names := hgoes.gains.names.trans h.names
  messages name := by
    rw [postings, ledger_append, postingsOf, ledger_map, ← List.append_assoc]
    have hrest := h.messages name
    rw [registry_move] at hrest
    exact hrest.trans (congrArg (· ++ _) (hgoes.gains.messages name))

theorem contexts_new {settings : Settings} {client : Option Client} {id : String} {s : Session}
    (h : Session.new settings client id = .ok s) : Contexts.new settings.defaultContext = .ok s.contexts := by
  obtain ⟨contexts, hcontexts, hs⟩ := bind_eq_ok h
  cases hs
  exact hcontexts

/-- What has been said in a conversation of the session of an id: in a session that is yet to be made nothing has. -/
def said (w : Workbench) (id : String) (name : WideString) : List Message :=
  ((w.sessions.get? id).map (·.contexts.messagesIn name)).getD []

end Playbook.Workbench

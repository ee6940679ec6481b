import Mathlib.Tactic.Choose
import Playbook.Proofs.Session.Command
import Playbook.Settings.Check
/-!
# The fields of the settings

Each field has a name, values of its own and a standard value, and a library reads what is given for it. Checking reads
each field by itself: it comes to settings if every field can be read, and then each of them has the value that was read,
and else to one fault for each field that cannot, in the order of the fields. So what is given under other names, and in
which order, does not matter.
-/

namespace Playbook.Settings

open Workbench (bind_eq_ok)

namespace Field

theorem mem_all (f : Field) : f ∈ all := by
  cases f <;> decide

theorem name_mem (f : Field) : f.name ∈ fieldNames := List.mem_map_of_mem f.mem_all

theorem result_congr {readers : Readers} {given given' : List (WideString × Setting)} {f : Field}
    (h : given.lookup (f.name : WideString) = given'.lookup (f.name : WideString)) :
    f.result readers given = f.result readers given' := by
  unfold result
  rw [h]

end Field

/-! ### Checking -/

theorem mapError_eq_ok {ε ε' α : Type} {e : ε → ε'} {r : Except ε α} {v : α} : r.mapError e = .ok v ↔ r = .ok v := by
  cases r <;> simp [Except.mapError]

theorem assemble_eq_ok {r : (f : Field) → Except FieldFault f.Value} {s : Settings} :
    assemble r = .ok s ↔ ∀ f, r f = .ok (f.of s) := by
  constructor
  · intro h
    obtain ⟨provider, hprovider, h⟩ := bind_eq_ok h
    obtain ⟨model, hmodel, h⟩ := bind_eq_ok h
    obtain ⟨timeout, htimeout, h⟩ := bind_eq_ok h
    obtain ⟨retries, hretries, h⟩ := bind_eq_ok h
    obtain ⟨url, hurl, h⟩ := bind_eq_ok h
    obtain ⟨workspace, hworkspace, h⟩ := bind_eq_ok h
    obtain ⟨context, hcontext, h⟩ := bind_eq_ok h
    obtain ⟨execute, hexecute, h⟩ := bind_eq_ok h
    obtain ⟨level, hlevel, h⟩ := bind_eq_ok h
    cases h
    intro f
    cases f <;> assumption
  · intro h
    unfold assemble
    rw [h .provider, h .model, h .timeout, h .retries, h .url, h .workspace, h .context, h .execute, h .level]
    rfl

variable {readers : Readers} {given given' : List (WideString × Setting)}

theorem check_eq_ok {s : Settings} : check readers given = .ok s ↔ ∀ f : Field, f.result readers given = .ok (f.of s) := by
  rw [check, mapError_eq_ok, assemble_eq_ok]

/-- There are settings as soon as each field comes to some value. -/
theorem exists_check_eq_ok : (∃ s, check readers given = .ok s) ↔ ∀ f : Field, ∃ v, f.result readers given = .ok v := by
  constructor
  · rintro ⟨s, hs⟩ f
    exact ⟨f.of s, check_eq_ok.1 hs f⟩
  · intro h
    choose v hv using h
    refine ⟨⟨v .provider, v .model, v .timeout, v .retries, v .url, v .workspace, v .context, v .execute, v .level⟩, ?_⟩
    rw [check_eq_ok]
    intro f
    rw [hv f]
    cases f <;> rfl

theorem check_eq_error (h : ¬ ∃ s, check readers given = .ok s) :
    check readers given = .error (Field.all.flatMap fun f => faultOf (f.result readers given)) := by
  rw [check] at h ⊢
  cases hassemble : assemble (·.result readers given) with
  | ok s =>
      rw [hassemble] at h
      exact absurd ⟨s, rfl⟩ h
  | error e => rfl

theorem check_congr (h : ∀ f : Field, given.lookup (f.name : WideString) = given'.lookup (f.name : WideString)) :
    check readers given = check readers given' := by
  have hresult : (fun f : Field => f.result readers given) = fun f => f.result readers given' := by
    funext f
    exact Field.result_congr (h f)
  rw [check, check, hresult]
  simp only [fun f => congrFun hresult f]

end Playbook.Settings

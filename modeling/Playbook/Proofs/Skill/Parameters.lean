import Playbook.Proofs.Document.Entries
import Playbook.Skill.Basic
/-!
# Flags as parameters

A flag is looked up from the end of a block's flags, while the parameters are filled from their front, each flag in the
place of an earlier one of its name. Both come to the same flag, the last one of the name: a name has a parameter just if
a flag is found, and the parameter has the values of that flag. The order of the parameters is that of the first flags of
the names.
-/

namespace Playbook

/-- No later flag has the same name. -/
def Flag.IsLast (f : Flag) (flags : List Flag) : Prop :=
  ∃ before after, flags = before ++ f :: after ∧ ∀ g ∈ after, g.name ≠ f.name

namespace Block

variable (b : Block) (name : String)

theorem flag?_eq_some_iff (f : Flag) : b.flag? name = some f ↔ f.name = name ∧ f.IsLast b.flags := by
  rw [flag?, find?_reverse_eq_some_iff, beq_iff_eq]
  refine and_congr_right fun hname => ?_
  simp only [Flag.IsLast, hname, beq_eq_false_iff_ne]

theorem lookup_params : b.params.lookup name = (b.flag? name).map Flag.joined := by
  rw [params, lookup_foldl_insertValue, List.lookup_nil, Option.or_none, flag?]

theorem names_params : b.params.map (·.1) = (b.flags.map (·.name)).eraseDups := by
  rw [params, names_foldl_insertValue]

theorem mem_names_params : name ∈ b.params.map (·.1) ↔ b.flag? name ≠ none := by
  rw [mem_names_iff, lookup_params, Option.isSome_map, Option.isSome_iff_ne_none]

theorem lookup_arguments : b.arguments.lookup name = (b.flag? name).map fun f => .str f.joined := by
  rw [arguments, lookup_map_value fun _ (value : String) => Json.str value, lookup_params, Option.map_map]
  rfl

/-- **Parameters.** A block has a parameter of a name just if it has a flag of the name, and the parameter is made of the
values of the last one, which is the one that a look-up finds. No name comes twice, and the names stand in the order in
which they came first. A skill is given the same texts. -/
theorem params_latest (b : Block) :
    (∀ name, name ∈ b.params.map (·.1) ↔ b.flag? name ≠ none) ∧
    (∀ name, b.params.lookup name = (b.flag? name).map fun f => " ".intercalate f.values) ∧
    (∀ name f, b.flag? name = some f ↔ f.name = name ∧ f.IsLast b.flags) ∧
    (b.params.map (·.1) = (b.flags.map (·.name)).eraseDups ∧ (b.params.map (·.1)).Nodup) ∧
    ∀ name, b.arguments.lookup name = (b.flag? name).map fun f => .str (" ".intercalate f.values) :=
  ⟨b.mem_names_params, b.lookup_params, b.flag?_eq_some_iff,
    ⟨b.names_params, b.names_params ▸ nodup_eraseDups _⟩, b.lookup_arguments⟩

/-- A name that comes again keeps its first place, and a flag without values gives the empty text. -/
example :
    let flag (name : String) (values : List String) : Flag := ⟨name, values, none, []⟩
    let flags := [flag "prompt" ["first"], flag "" ["a", "b"], flag "prompt" ["second", "third"], flag "debug" []]
    (Block.mk "task" flags "" 1 1 none none).params = [("prompt", "second third"), ("", "a b"), ("debug", "")] := by
  decide

end Block

end Playbook

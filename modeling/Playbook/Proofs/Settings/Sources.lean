import Playbook.Proofs.Document.Entries
import Playbook.Proofs.Settings.Loading
import Playbook.Proofs.Text.Utf8
/-!
# Where settings come from

A field is set by its variable of the environment, unless that is blank, else by the file, else it has its standard value.
Loading comes to settings exactly if each of these values is valid for its field, whatever else the file may hold; it does
not even look at a value that another one goes before. If some are not valid, all of their fields are reported, each one
once.
-/

namespace Playbook.Settings

/-! ### What is given -/

/-- The values of a mapping by name. The last one of a name counts. -/
abbrev Pairs : Type := List (WideString × Setting)

def Pairs.entries (pairs : Pairs) : List (Setting × Setting) := pairs.map fun (name, v) => (.text name, v)

/-- What a field is set to, if it is set at all. -/
def effective? (pairs : Pairs) (env : Environment) (name : String) : Option Setting :=
  (override? env name).or (pairs.reverse.lookup (name : WideString))

/-- What the field comes to from the variable, the file or the standard. -/
def Field.effect (readers : Readers) (pairs : Pairs) (env : Environment) (f : Field) : Except SettingFault f.Value :=
  match effective? pairs env f.name with
  | some v => readers.read f v
  | none => .ok (f.of standard)

def Field.fault? (readers : Readers) (pairs : Pairs) (env : Environment) (f : Field) : Option SettingFault :=
  match f.effect readers pairs env with
  | .ok _ => none
  | .error e => some e

/-- The settings file holds a mapping with these pairs, or nobody asked for it and it is not there. -/
inductive Holding (l : Library) (d : Disk) (cwd : Location) (path : Option String) : Pairs → Prop
  | file {bytes : Text.Bytes} {cs : List Char} {pairs : Pairs}
      (hthere : TextFile.isThere d cwd (fileOf path) = .ok true) (hbytes : d.readBytes cwd (fileOf path) = .ok bytes)
      (htext : TextFile.decode bytes = .ok cs) (hparse : l.parse cs = .ok (.mapping (Pairs.entries pairs))) :
      Holding l d cwd path pairs
  | absent (hpath : path = none) (hthere : TextFile.isThere d cwd standardFile = .ok false) : Holding l d cwd path []

variable {l : Library} {readers : Readers} {d : Disk} {cwd : Location} {path : Option String} {pairs : Pairs}
  {env : Environment}

/-! ### Values by name -/

/-- Pairs that are named by texts can be taken by name. -/
theorem named_entries (pairs : Pairs) : ∃ given, named (Pairs.entries pairs) = .ok given ∧
    ∀ name, given.lookup name = pairs.reverse.lookup name := by
  induction pairs with
  | nil => exact ⟨[], rfl, fun _ => rfl⟩
  | cons pair pairs ih =>
      obtain ⟨name, v⟩ := pair
      obtain ⟨given, hgiven, hlookup⟩ := ih
      have hnamed : named (Pairs.entries ((name, v) :: pairs)) =
          .ok (if given.any (·.1 = name) then given else (name, v) :: given) := by
        show (named (Pairs.entries pairs) >>= fun rest =>
          Except.ok (if rest.any (·.1 = name) then rest else (name, v) :: rest)) = _
        rw [hgiven]
        rfl
      refine ⟨_, hnamed, fun other => ?_⟩
      rw [any_name_iff, List.reverse_cons, List.lookup_append, lookup_cons_eq, List.lookup_nil]
      by_cases hthere : (given.lookup name).isSome
      · rw [if_pos hthere, hlookup]
        by_cases hother : other = name
        · subst hother
          rw [hlookup] at hthere
          obtain ⟨w, hw⟩ := Option.isSome_iff_exists.1 hthere
          rw [hw]
          rfl
        · rw [if_neg hother, Option.or_none]
      · rw [if_neg hthere, lookup_cons_eq, hlookup]
        by_cases hother : other = name
        · subst hother
          have hnone : pairs.reverse.lookup other = none := by
            rw [hlookup, Bool.not_eq_true, Option.isSome_eq_false_iff, Option.isNone_iff_eq_none] at hthere
            exact hthere
          rw [if_pos rfl, if_pos rfl, hnone]
          rfl
        · rw [if_neg hother, if_neg hother, Option.or_none]

/-- The values with that of one variable in its place. -/
def put (env : Environment) (all : List (WideString × Setting)) (name : String) : List (WideString × Setting) :=
  match override? env name with
  | some v => insertValue (name : WideString) v all
  | none => all

theorem lookup_put (env : Environment) (all : List (WideString × Setting)) (name other : String) :
    (put env all name).lookup (other : WideString) =
      (if other = name then override? env name else none).or (all.lookup (other : WideString)) := by
  unfold put
  cases override? env name with
  | none => simp
  | some v =>
      dsimp only
      rw [lookup_insertValue]
      by_cases hother : other = name <;> simp [hother]

theorem lookup_puts (env : Environment) (names : List String) (all : List (WideString × Setting)) (name : String) :
    (names.foldl (put env) all).lookup (name : WideString) =
      (if name ∈ names then override? env name else none).or (all.lookup (name : WideString)) := by
  induction names generalizing all with
  | nil => simp
  | cons first names ih =>
      rw [List.foldl_cons, ih, lookup_put]
      by_cases hname : name = first
      · subst hname
        by_cases hmem : name ∈ names
        · cases override? env name <;> simp [hmem]
        · simp [hmem]
      · simp [hname]

theorem lookup_overridden (given : List (WideString × Setting)) (env : Environment) (f : Field) :
    (overridden given env).lookup (f.name : WideString) =
      (override? env f.name).or (given.lookup (f.name : WideString)) := by
  show (fieldNames.foldl (put env) given).lookup (f.name : WideString) = _
  rw [lookup_puts, if_pos f.name_mem]

/-! ### Loading -/

/-- What is merged is what each field comes to. -/
theorem result_overridden {given : List (WideString × Setting)}
    (h : ∀ name, given.lookup name = pairs.reverse.lookup name) (f : Field) :
    f.result readers (overridden given env) = (f.effect readers pairs env).mapError (⟨f.name, ·⟩) := by
  unfold Field.result Field.effect effective?
  rw [lookup_overridden, h]
  cases (override? env f.name).or (pairs.reverse.lookup (f.name : WideString)) <;> rfl

theorem Holding.givenBy_eq (h : Holding l d cwd path pairs) : givenBy l d cwd path = named (Pairs.entries pairs) := by
  cases h with
  | absent hpath hthere =>
      subst hpath
      simp only [givenBy, fileEntries, Option.map_none, Option.getD_none, hthere]
      rfl
  | file hthere hbytes htext hparse =>
      rw [givenBy_of_bytes hthere hbytes, namedOf, readEntries_eq htext, hparse]
      rfl

theorem Holding.load_eq (h : Holding l d cwd path pairs) (env : Environment) :
    ∃ given, load l d cwd env path = merge l given env ∧
      ∀ name, given.lookup name = pairs.reverse.lookup name := by
  obtain ⟨given, hgiven, hlookup⟩ := named_entries pairs
  refine ⟨given, ?_, hlookup⟩
  rw [load_eq_givenBy, h.givenBy_eq, hgiven]
  rfl

theorem flatMap_faultOf (given : List (WideString × Setting)) (fields : List Field)
    (h : ∀ f : Field, f.result readers given = (f.effect readers pairs env).mapError (⟨f.name, ·⟩)) :
    (fields.flatMap fun f => faultOf (f.result readers given)).map FieldFault.message =
      fields.filterMap fun f => (f.fault? readers pairs env).map fun fault => f.name ++ ": " ++ fault.message := by
  induction fields with
  | nil => rfl
  | cons f fields ih =>
      rw [List.flatMap_cons, List.map_append, ih, h, List.filterMap_cons, Field.fault?]
      cases f.effect readers pairs env with
      | ok v => rfl
      | error fault => rfl

/-- The fields that have a fault are named once each, in the order of the fields. -/
theorem sublist_flatMap_faultOf (given : List (WideString × Setting)) (fields : List Field)
    (h : ∀ f : Field, f.result readers given = (f.effect readers pairs env).mapError (⟨f.name, ·⟩)) :
    ((fields.flatMap fun f => faultOf (f.result readers given)).map FieldFault.field).Sublist (fields.map Field.name) := by
  induction fields with
  | nil => exact List.Sublist.slnil
  | cons f fields ih =>
      rw [List.flatMap_cons, List.map_append, List.map_cons, h]
      cases f.effect readers pairs env with
      | ok v => exact ih.cons _
      | error fault => exact ih.cons_cons _

/-- What loading comes to, by what the fields come to. -/
structure Merges (readers : Readers) (pairs : Pairs) (env : Environment) (result : Except Failure Settings) : Prop where
  loaded_iff : (∃ s, result = .ok s) ↔ ∀ f : Field, ∃ v, f.effect readers pairs env = .ok v
  values : ∀ s, result = .ok s → ∀ f : Field, f.effect readers pairs env = .ok (f.of s)
  faults : (¬ ∃ s, result = .ok s) → ∃ faults, result = .error (.config (.invalid faults)) ∧
    (Failure.config (.invalid faults)).message = "Invalid configuration" ∧
    (faults.map (·.field)).Nodup ∧ (faults.map (·.field)).Sublist fieldNames ∧
    (Failure.config (.invalid faults)).details =
      Field.all.filterMap fun f => (f.fault? readers pairs env).map fun fault => f.name ++ ": " ++ fault.message

theorem merge_merges {given : List (WideString × Setting)}
    (h : ∀ name, given.lookup name = pairs.reverse.lookup name) : Merges l.toReaders pairs env (merge l given env) := by
  have hresult : ∀ f : Field, f.result l.toReaders (overridden given env) =
      (f.effect l.toReaders pairs env).mapError (⟨f.name, ·⟩) :=
    result_overridden h
  have hok : ∀ s, merge l given env = .ok s ↔ check l.toReaders (overridden given env) = .ok s := fun s => mapError_eq_ok
  constructor
  · simp only [hok, exists_check_eq_ok, hresult, mapError_eq_ok]
  · intro s hs f
    have hfield := check_eq_ok.1 ((hok s).1 hs) f
    rwa [hresult, mapError_eq_ok] at hfield
  · intro hnone
    simp only [hok] at hnone
    refine ⟨_, by rw [merge, check_eq_error hnone]; rfl, rfl, ?_⟩
    have hsublist := sublist_flatMap_faultOf _ Field.all hresult
    have hnodup : (Field.all.map Field.name).Nodup := by decide
    exact ⟨hsublist.nodup hnodup, hsublist, flatMap_faultOf _ _ hresult⟩

theorem Holding.merges (h : Holding l d cwd path pairs) (env : Environment) :
    Merges l.toReaders pairs env (load l d cwd env path) := by
  obtain ⟨given, hload, hgiven⟩ := h.load_eq env
  rw [hload]
  exact merge_merges hgiven

/-! ### Files on a disk

What stands in a file is known once it was read; whether these are given pairs can be computed, as long as no numbers with
a point are among them. -/

def sameScalar : Setting → Setting → Bool
  | .text a, .text b => a = b
  | .int m, .int n => m = n
  | _, _ => false

def Pairs.areEntries : Pairs → List (Setting × Setting) → Bool
  | [], [] => true
  | (name, v) :: pairs, (.text other, w) :: entries => name = other && sameScalar v w && Pairs.areEntries pairs entries
  | _, _ => false

def Pairs.areRead (pairs : Pairs) : Except StoredFault Stored → Bool
  | .ok (.mapping entries) => Pairs.areEntries pairs entries
  | _ => false

theorem eq_of_sameScalar {v w : Setting} (h : sameScalar v w = true) : v = w := by
  unfold sameScalar at h
  split at h
  · rw [of_decide_eq_true h]
  · rw [of_decide_eq_true h]
  · cases h

theorem Pairs.eq_entries {pairs : Pairs} {entries : List (Setting × Setting)}
    (h : Pairs.areEntries pairs entries = true) : entries = Pairs.entries pairs := by
  induction pairs generalizing entries with
  | nil =>
      cases entries with
      | nil => rfl
      | cons _ _ => cases h
  | cons pair pairs ih =>
      obtain ⟨name, v⟩ := pair
      unfold Pairs.areEntries at h
      split at h
      case h_1 hpairs => cases hpairs
      case h_2 hpairs =>
        cases hpairs
        simp only [Bool.and_eq_true, decide_eq_true_eq] at h
        obtain ⟨⟨rfl, hscalar⟩, hentries⟩ := h
        rw [ih hentries, eq_of_sameScalar hscalar]
        rfl
      case h_3 => cases h

theorem Pairs.eq_stored {pairs : Pairs} {r : Except StoredFault Stored} (h : Pairs.areRead pairs r = true) :
    r = .ok (.mapping (Pairs.entries pairs)) := by
  unfold Pairs.areRead at h
  split at h
  case h_1 => rw [Pairs.eq_entries h]
  case h_2 => cases h

/-- A disk with nothing but a settings file on it. -/
def diskOf (text : String) : Disk := ⟨[(.ofNames ["c.yaml"], .file (Text.encodeUtf8 text.toList))]⟩

theorem holding_diskOf {text : String} (h : Pairs.areRead pairs (l.parse (Text.unifyLineEnds text.toList)) = true) :
    Holding l (diskOf text) [] (some "c.yaml") pairs := by
  have htext : TextFile.decode (Text.encodeUtf8 text.toList) = .ok (Text.unifyLineEnds text.toList) := by
    rw [TextFile.decode, Text.decodeUtf8_encodeUtf8]
    rfl
  exact .file rfl rfl htext (Pairs.eq_stored h)

theorem exists_of_toBool {ε α : Type} {r : Except ε α} (h : r.toBool = true) : ∃ v, r = .ok v := by
  cases r with
  | ok v => exact ⟨v, rfl⟩
  | error e => cases h

/-! ### Merging -/

/-- Settings are what each field comes to, and two files that agree on the fields that no variable sets load the same. -/
theorem load_merged (h : Holding l d cwd path pairs) (env : Environment) :
    Merges l.toReaders pairs env (load l d cwd env path) ∧
      ∀ d' cwd' path' pairs', Holding l d' cwd' path' pairs' →
        (∀ f : Field, override? env f.name = none →
          pairs'.reverse.lookup (f.name : WideString) = pairs.reverse.lookup (f.name : WideString)) →
        load l d' cwd' env path' = load l d cwd env path := by
  refine ⟨h.merges env, ?_⟩
  intro d' cwd' path' pairs' h' hsame
  obtain ⟨given, hload, hgiven⟩ := h.load_eq env
  obtain ⟨given', hload', hgiven'⟩ := h'.load_eq env
  have hcheck : check l.toReaders (overridden given' env) = check l.toReaders (overridden given env) := by
    apply check_congr
    intro f
    rw [lookup_overridden, lookup_overridden, hgiven, hgiven']
    cases hvariable : override? env f.name with
    | none => rw [hsame f hvariable]
    | some v => rfl
  rw [hload, hload', merge, merge, hcheck]

/-- A file with an invalid value and an unknown key, and a variable that hides the value: the number of retries is that of
the variable, as it is without the file. -/
theorem load_merged_retries :
    let pairs : Pairs := [("max_retries", .int 99), ("foo", .int 1)]
    let d : Disk := diskOf "max_retries: 99\nfoo: 1\n"
    let env : Environment := [("BRAINY_MAX_RETRIES", " 5 ")]
    Holding library d [] (some "c.yaml") pairs ∧
      (∃ s, load library d [] env (some "c.yaml") = .ok s ∧ s.maxRetries = 5) ∧
      load library ⟨[]⟩ [] env none = load library d [] env (some "c.yaml") := by
  intro pairs d env
  have hfile : Holding library d [] (some "c.yaml") pairs := holding_diskOf (by decide +kernel)
  have hnone : Holding library ⟨[]⟩ [] none [] := .absent rfl rfl
  obtain ⟨hmerges, hsame⟩ := load_merged hfile env
  refine ⟨hfile, ?_, hsame _ _ _ _ hnone ?_⟩
  · have hvalid : ∀ f : Field, (f.effect library.toReaders pairs env).toBool = true := by
      intro f
      cases f <;> decide +kernel
    obtain ⟨s, hs⟩ := hmerges.loaded_iff.2 fun f => exists_of_toBool (hvalid f)
    have hretries : @Except.toOption _ Nat (Field.effect library.toReaders pairs env .retries) = some 5 := by decide +kernel
    rw [hmerges.values s hs .retries] at hretries
    exact ⟨s, hs, Option.some.inj hretries⟩
  · intro f hvariable
    cases f with
    | retries =>
        have hset : (override? env Field.retries.name).isNone = false := by decide +kernel
        rw [hvariable] at hset
        cases hset
    | provider | model | timeout | url | workspace | context | execute | level => rfl

end Playbook.Settings

import Playbook.Proofs.Settings.Fields
import Playbook.Settings.Library
/-!
# How loading fails

Loading comes to settings that have been checked, or to a failure that says what is wrong with the configuration, unless
something is wrong with the file that nobody thought of: a name that is too long to look for, bytes that are not UTF-8, an
error of the library that is none of its own, or an entry whose name is not a text. What goes wrong then is passed on as it
is, and that is not among the failures that playbooks are known to have. On these disks everybody may look everywhere; a
host that forbids to look for the file passes on an error of its own before any of this.
-/

namespace Playbook.Settings

variable {l : Library} {d : Disk} {cwd : Location} {path : Option String} {env : Environment} {failure : Failure}

/-- The settings file: the one that is asked for, or the one that may be missing. -/
def fileOf (path : Option String) : Path := (path.map fun (p : String) => Path.ofString p).getD standardFile

/-- Settings that have been checked, or a fault of the configuration. -/
def Reported (l : Library) (result : Except Failure Settings) : Prop :=
  (∃ s given, result = .ok s ∧ check l.toReaders given = .ok s) ∨ ∃ fault, result = .error (.config fault)

/-! ### What is passed on -/

/-- What comes out of the bytes of a file that is not reported as a fault of the configuration. -/
inductive BytesLeak (l : Library) (bytes : Text.Bytes) : Failure → Prop
  | undecodable {e : Text.Utf8Error} (hbytes : Text.decodeUtf8 bytes = .error e) : BytesLeak l bytes (.undecodable e)
  | foreign {cs : List Char} {fault : HostFault} {text : WideString} (htext : TextFile.decode bytes = .ok cs)
      (hparse : l.parse cs = .error (.foreign fault text)) : BytesLeak l bytes (.host fault text)
  | name {cs : List Char} {entries : List (Setting × Setting)} {key v : Setting} (htext : TextFile.decode bytes = .ok cs)
      (hparse : l.parse cs = .ok (.mapping entries)) (hentry : (key, v) ∈ entries) (hkey : ∀ name, key ≠ .text name) :
      BytesLeak l bytes .settingNameNotText

/-- What comes out of the file. -/
inductive Leaks (l : Library) (d : Disk) (cwd : Location) (path : Option String) : Failure → Prop
  | tooLong {e : FileError} (hnamed : (fileOf path).fault? = none) (hpath : d.locatePath cwd (fileOf path) = .error e)
      (hfault : e.fault = .nameTooLong) : Leaks l d cwd path (.file e)
  | bytes {bytes : Text.Bytes} {failure : Failure} (hthere : TextFile.isThere d cwd (fileOf path) = .ok true)
      (hbytes : d.readBytes cwd (fileOf path) = .ok bytes) (hleak : BytesLeak l bytes failure) :
      Leaks l d cwd path failure

theorem BytesLeak.isExpected {bytes : Text.Bytes} (h : BytesLeak l bytes failure) : failure.isExpected = false := by
  cases h <;> rfl

theorem Leaks.isExpected (h : Leaks l d cwd path failure) : failure.isExpected = false := by
  cases h with
  | tooLong => rfl
  | bytes hthere hbytes hleak => exact hleak.isExpected

/-! ### From the entries to the file -/

theorem bind_eq_error {ε α β : Type} {x : Except ε α} {f : α → Except ε β} {e : ε} (h : x >>= f = .error e) :
    x = .error e ∨ ∃ a, x = .ok a ∧ f a = .error e := by
  cases x with
  | error e' =>
      cases h
      exact .inl rfl
  | ok a => exact .inr ⟨a, rfl, h⟩

theorem named_error {entries : List (Setting × Setting)} (h : named entries = .error failure) :
    failure = .settingNameNotText ∧ ∃ key v, (key, v) ∈ entries ∧ ∀ name, key ≠ .text name := by
  induction entries with
  | nil => cases h
  | cons entry entries ih =>
      obtain ⟨key, v⟩ := entry
      cases key with
      | text name =>
          rcases bind_eq_error h with hrest | ⟨rest, -, hdone⟩
          · obtain ⟨hfailure, key, w, hentry, hkey⟩ := ih hrest
            exact ⟨hfailure, key, w, List.mem_cons_of_mem _ hentry, hkey⟩
          · cases hdone
      | _ =>
          cases h
          refine ⟨rfl, _, _, List.mem_cons_self, ?_⟩
          intro name hname
          cases hname

theorem named_of_key {entries : List (Setting × Setting)} {key v : Setting} (hentry : (key, v) ∈ entries)
    (hkey : ∀ name, key ≠ .text name) : named entries = .error .settingNameNotText := by
  induction entries with
  | nil => cases hentry
  | cons entry entries ih =>
      obtain ⟨first, w⟩ := entry
      cases first with
      | text name =>
          rcases List.mem_cons.1 hentry with hhead | htail
          · cases hhead
            exact absurd rfl (hkey name)
          · show (named entries >>= fun rest => _) = _
            rw [ih htail]
            rfl
      | _ => rfl

/-- What the bytes of a file come to by name. -/
def namedOf (l : Library) (file : Path) (bytes : Text.Bytes) : Except Failure (List (WideString × Setting)) :=
  readEntries l file bytes >>= named

theorem readEntries_eq {file : Path} {bytes : Text.Bytes} {cs : List Char} (htext : TextFile.decode bytes = .ok cs) :
    readEntries l file bytes = (l.parse cs).mapError (faultOfFile file) >>= entriesOf file := by
  rw [readEntries, htext]
  rfl

theorem decode_of_error {bytes : Text.Bytes} {e : Text.Utf8Error} (h : Text.decodeUtf8 bytes = .error e) :
    TextFile.decode bytes = .error (.undecodable e) := by
  rw [TextFile.decode, h]
  rfl

theorem BytesLeak.namedOf_eq {bytes : Text.Bytes} (h : BytesLeak l bytes failure) (file : Path) :
    namedOf l file bytes = .error failure := by
  cases h with
  | undecodable hbytes =>
      rw [namedOf, readEntries, decode_of_error hbytes]
      rfl
  | foreign htext hparse =>
      rw [namedOf, readEntries_eq htext, hparse]
      rfl
  | name htext hparse hentry hkey =>
      rw [namedOf, readEntries_eq htext, hparse]
      exact named_of_key hentry hkey

theorem namedOf_error {file : Path} {bytes : Text.Bytes} (h : namedOf l file bytes = .error failure) :
    (∃ fault, failure = .config fault) ∨ BytesLeak l bytes failure := by
  cases hbytes : Text.decodeUtf8 bytes with
  | error e =>
      rw [(BytesLeak.undecodable hbytes).namedOf_eq] at h
      cases h
      exact .inr (.undecodable hbytes)
  | ok chars =>
      have htext : TextFile.decode bytes = .ok (Text.unifyLineEnds chars) := by
        rw [TextFile.decode, hbytes]
        rfl
      rw [namedOf, readEntries_eq htext] at h
      cases hparse : l.parse (Text.unifyLineEnds chars) with
      | error fault =>
          rw [hparse] at h
          cases h
          cases fault with
          | malformed => exact .inl ⟨_, rfl⟩
          | foreign fault text => exact .inr (.foreign htext hparse)
      | ok stored =>
          rw [hparse] at h
          cases stored with
          | nothing => cases h
          | mapping entries =>
              obtain ⟨rfl, key, v, hentry, hkey⟩ := named_error h
              exact .inr (.name htext hparse hentry hkey)
          | other =>
              cases h
              exact .inl ⟨_, rfl⟩

/-! ### Looking for the file -/

/-- What the file comes to by name. -/
def givenBy (l : Library) (d : Disk) (cwd : Location) (path : Option String) :
    Except Failure (List (WideString × Setting)) :=
  fileEntries l d cwd path >>= named

theorem load_eq_givenBy : load l d cwd env path = givenBy l d cwd path >>= fun given => merge l given env := by
  rw [load, givenBy]
  cases fileEntries l d cwd path with
  | ok entries => rfl
  | error e => rfl

theorem isThere_eq_error {file : Path} (h : TextFile.isThere d cwd file = .error failure) :
    file.fault? = none ∧ ∃ e, d.locatePath cwd file = .error e ∧ e.fault = .nameTooLong ∧ failure = .file e := by
  unfold TextFile.isThere at h
  split at h
  · cases h
  · rename_i hnamed
    refine ⟨Option.not_isSome_iff_eq_none.1 hnamed, ?_⟩
    split at h
    · cases h
    · split at h
      · rename_i e hpath hfault
        cases h
        exact ⟨e, hpath, hfault, rfl⟩
      · cases h

theorem isThere_of_tooLong {file : Path} {e : FileError} (hnamed : file.fault? = none)
    (hpath : d.locatePath cwd file = .error e) (hfault : e.fault = .nameTooLong) :
    TextFile.isThere d cwd file = .error (.file e) := by
  rw [TextFile.isThere, hnamed, hpath]
  exact if_pos hfault

theorem givenBy_of_error (h : TextFile.isThere d cwd (fileOf path) = .error failure) :
    givenBy l d cwd path = .error failure := by
  unfold fileOf at h
  simp only [givenBy, fileEntries, h]
  rfl

theorem givenBy_of_bytes {bytes : Text.Bytes} (hthere : TextFile.isThere d cwd (fileOf path) = .ok true)
    (hbytes : d.readBytes cwd (fileOf path) = .ok bytes) : givenBy l d cwd path = namedOf l (fileOf path) bytes := by
  unfold fileOf at hthere hbytes
  simp only [givenBy, fileEntries, hthere, hbytes]
  rfl

theorem Leaks.givenBy_eq (h : Leaks l d cwd path failure) : givenBy l d cwd path = .error failure := by
  cases h with
  | tooLong hnamed hpath hfault => exact givenBy_of_error (isThere_of_tooLong hnamed hpath hfault)
  | bytes hthere hbytes hleak => rw [givenBy_of_bytes hthere hbytes, hleak.namedOf_eq]

theorem givenBy_error (h : givenBy l d cwd path = .error failure) :
    (∃ fault, failure = .config fault) ∨ Leaks l d cwd path failure := by
  cases hthere : TextFile.isThere d cwd (fileOf path) with
  | error e =>
      rw [givenBy_of_error hthere] at h
      cases h
      obtain ⟨hnamed, e, hpath, hfault, rfl⟩ := isThere_eq_error hthere
      exact .inr (.tooLong hnamed hpath hfault)
  | ok there =>
      cases there with
      | true =>
          cases hbytes : d.readBytes cwd (fileOf path) with
          | ok bytes =>
              rw [givenBy_of_bytes hthere hbytes] at h
              exact (namedOf_error h).imp_right (.bytes hthere hbytes)
          | error e =>
              unfold fileOf at hthere hbytes
              simp only [givenBy, fileEntries, hthere, hbytes] at h
              cases h
              exact .inl ⟨_, rfl⟩
      | false =>
          unfold fileOf at hthere
          simp only [givenBy, fileEntries, hthere] at h
          cases path with
          | none => cases h
          | some name =>
              cases h
              exact .inl ⟨_, rfl⟩

/-! ### Loading -/

theorem merge_reported (given : List (WideString × Setting)) : Reported l (merge l given env) := by
  unfold merge
  cases hcheck : check l.toReaders (overridden given env) with
  | ok s => exact .inl ⟨s, _, rfl, hcheck⟩
  | error faults => exact .inr ⟨_, rfl⟩

theorem Leaks.load_eq (h : Leaks l d cwd path failure) : load l d cwd env path = .error failure := by
  rw [load_eq_givenBy, h.givenBy_eq]
  rfl

theorem load_cases (l : Library) (d : Disk) (cwd : Location) (env : Environment) (path : Option String) :
    Reported l (load l d cwd env path) ∨ ∃ failure, Leaks l d cwd path failure := by
  rw [load_eq_givenBy]
  cases hgiven : givenBy l d cwd path with
  | ok given => exact .inl (merge_reported given)
  | error failure =>
      rcases givenBy_error hgiven with ⟨fault, rfl⟩ | hleak
      · exact .inl (.inr ⟨fault, rfl⟩)
      · exact .inr ⟨failure, hleak⟩

theorem Reported.isExpected {result : Except Failure Settings} (h : Reported l result)
    (hfailure : result = .error failure) :
    failure.isExpected = true := by
  rcases h with ⟨s, given, hs, -⟩ | ⟨fault, hfault⟩
  · rw [hs] at hfailure
    cases hfailure
  · rw [hfault] at hfailure
    cases hfailure
    rfl

/-- Loading comes to settings or a fault of the configuration exactly if nothing is passed on from the file, and what is
passed on is what is wrong with the file, whatever the environment is. This is so with every library; no disk here has a
place where it is forbidden to look. -/
theorem load_reported_iff (l : Library) (d : Disk) (cwd : Location) (env : Environment) (path : Option String) :
    (Reported l (load l d cwd env path) ↔ ¬ ∃ failure, Leaks l d cwd path failure) ∧
      ∀ failure, Leaks l d cwd path failure ↔ load l d cwd env path = .error failure ∧ failure.isExpected = false := by
  constructor
  · constructor
    · rintro hreported ⟨failure, hleak⟩
      have hexpected := hreported.isExpected hleak.load_eq
      rw [hleak.isExpected] at hexpected
      cases hexpected
    · intro hnone
      exact (load_cases l d cwd env path).resolve_right hnone
  · intro failure
    constructor
    · intro hleak
      exact ⟨hleak.load_eq, hleak.isExpected⟩
    · rintro ⟨hload, hpassed⟩
      rcases load_cases l d cwd env path with hreported | ⟨failure', hleak⟩
      · rw [hreported.isExpected hload] at hpassed
        cases hpassed
      · rw [hleak.load_eq] at hload
        cases hload
        exact hleak

/-- One byte that is not UTF-8 is enough. -/
theorem not_reported_of_bytes : ¬ ∀ d cwd env path, Reported library (load library d cwd env path) := by
  intro hall
  have hbytes : Text.decodeUtf8 [0xff] = .error ⟨.badStart, 0, [0xff]⟩ := by
    rw [Text.decodeUtf8, Text.decodeUtf8Of]
    rfl
  have hleak : Leaks library ⟨[(.ofNames ["c.yaml"], .file [0xff])]⟩ [] (some "c.yaml")
      (.undecodable ⟨.badStart, 0, [0xff]⟩) := .bytes rfl rfl (.undecodable hbytes)
  have hexpected := (hall _ _ [] _).isExpected hleak.load_eq
  cases hexpected

end Playbook.Settings

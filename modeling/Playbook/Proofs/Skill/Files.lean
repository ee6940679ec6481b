import Playbook.Proofs.Document.Entries
import Playbook.Proofs.Skill.Frame
import Playbook.Proofs.Text.LineEnds
import Playbook.Proofs.Text.Utf8
import Playbook.Proofs.Workspace.Disk
/-!
# What the file skill makes of a disk

Writing makes the directories above a file and then the file, as UTF-8 and with every character as it is; nothing else on
the disk is touched. Reading takes any kind of line end for a line feed, so a text with a carriage return in it does not
come back as it was written. A failure leaves all files as they are, but a file that is to hold a text that has no bytes is
emptied before the text is looked at. The operating system's own failures are put into the words of the skill; a home
directory that nobody knows, a name that no file can have, bytes that are not UTF-8 and texts that have no bytes are not.
-/

namespace Playbook

/-- The session with another disk under it. -/
def Api.withDisk (api : Api) (disk : Disk) : Api := { api with host := { api.host with disk := disk } }

/-- Whether it is a skill that says what is wrong, with its parameters or in its work. -/
def Failure.isOfSkill : Failure → Bool
  | parameter _ | skill _ => true
  | _ => false

namespace Files

open Text
open Work (run_get_bind run_bind_of_ok run_ofExcept)

variable {args : Arguments} {api : Api} {r : FileRequest} {path : Path} {f : Failure} {p text : WideString}

/-! ### The course of the skill -/

theorem run_of_request_error (h : request args = .error f) : (work args).run api = (.error f, api) := by
  rw [work, run_get_bind, h]
  rfl

theorem run_of_resolve_error (hrequest : request args = .ok r) (h : resolve api r.path = .error f) :
    (work args).run api = (.error f, api) := by
  rw [work, run_get_bind, hrequest, run_bind_of_ok (run_ofExcept _ _), h]
  rfl

/-- What comes of an action on a file. -/
def outcome (api : Api) (r : FileRequest) (path : Path) : Except Failure Product × Api :=
  match r.action with
  | .read => ((read api.host path).map fun text => .messages [.agent text], api)
  | .write =>
    ((write api.host path r.content).2.map fun _ => .messages [.agent ("File written successfully: " ++ path.text)],
      api.withDisk (write api.host path r.content).1)
  | .delete =>
    match delete api.host path with
    | .error f => (.error f, api)
    | .ok disk => (.ok (.messages [.agent ("File deleted successfully: " ++ path.text)]), api.withDisk disk)

theorem run_eq_outcome (hrequest : request args = .ok r) (hpath : resolve api r.path = .ok path) :
    (work args).run api = outcome api r path := by
  rw [work, run_get_bind, hrequest, run_bind_of_ok (run_ofExcept _ _), hpath, run_bind_of_ok (run_ofExcept _ _)]
  unfold outcome
  cases r.action with
  | read => cases read api.host path <;> rfl
  | write =>
      dsimp only
      rcases write api.host path r.content with ⟨disk, f | ⟨⟩⟩ <;> rfl
  | delete => cases delete api.host path <;> rfl

/-! ### What is asked for -/

theorem request_of_named (action : FileAction) (haction : args.lookup "action" = some (.str action.name))
    (hpath : args.lookup "path" = some (.str p))
    (hcontent : action = .write → ∃ content, args.lookup "content" = some (.str content)) :
    request args = if p = [] then .error (.parameter (.missing "path"))
      else .ok ⟨action, .str p, (args.lookup "content").getD .null⟩ := by
  have hpresent : isPresent (some (.str p)) = !p.isEmpty := rfl
  have hnamed : FileAction.all.find? (fun a => (some (Json.str action.name)).bind Json.text? = some (a.name : WideString)) =
      some action := by cases action <;> decide
  have hgiven : isPresent (some (.str action.name)) = true := by cases action <;> decide
  unfold request
  dsimp only
  rw [haction, hpath, hnamed, hgiven, hpresent]
  cases p with
  | nil => rfl
  | cons c p =>
      cases action with
      | write =>
          obtain ⟨content, hcontent⟩ := hcontent rfl
          rw [hcontent]
          rfl
      | read | delete => rfl

/-- A request is turned down for its parameters, or it has a path, and a content if it is to write. -/
theorem request_cases (args : Arguments) :
    (∃ fault, request args = .error (.parameter fault)) ∨ ∃ action path content,
      request args = .ok ⟨action, path, content⟩ ∧ args.lookup "path" = some path ∧
        (action = .write → args.lookup "content" = some content) := by
  unfold request
  dsimp only
  split
  · exact .inl ⟨_, rfl⟩
  · split
    · exact .inl ⟨_, rfl⟩
    · split
      · exact .inl ⟨_, rfl⟩
      · rename_i known _ hpresent
        obtain ⟨path, hpath⟩ : ∃ path, args.lookup "path" = some path := by
          cases hpath : args.lookup "path" with
          | none =>
              rw [hpath] at hpresent
              exact absurd rfl hpresent
          | some path => exact ⟨path, rfl⟩
        rw [hpath]
        cases known with
        | read => exact .inr ⟨.read, _, _, rfl, rfl, nofun⟩
        | delete => exact .inr ⟨.delete, _, _, rfl, rfl, nofun⟩
        | write =>
            cases args.lookup "content" with
            | none => exact .inl ⟨_, rfl⟩
            | some content =>
                cases content with
                | null => exact .inl ⟨_, rfl⟩
                | bool | int | float | str | arr | obj => exact .inr ⟨.write, _, _, rfl, rfl, fun _ => rfl⟩

/-! ### Names of files -/

theorem requireName_of_fault {fault : PathFault} (h : path.fault? = some fault) :
    requireName path = .error (.path fault) := by
  rw [requireName, h]

theorem requireName_of_named (h : path.fault? = none) : requireName path = .ok () := by
  rw [requireName, h]

/-! ### What comes of writing -/

/-- The directories above a file are there after those that were missing were made. -/
structure Above (h : Host) (path : Path) (made : Disk) : Prop where
  named : path.parent.fault? = none
  made : h.disk.ensureDirectory h.cwd path.parent (path.parts.length + 1) = (made, .ok ())

/-- What writing a text leaves of the disk, and what comes of it. -/
inductive Writes (h : Host) (path : Path) (text : WideString) : Disk → Except Failure Unit → Prop
  | aboveUnnamed {fault : PathFault} (hfault : path.parent.fault? = some fault) :
      Writes h path text h.disk (.error (.path fault))
  | aboveUnmade {made : Disk} {e : FileError} (hnamed : path.parent.fault? = none)
      (hmade : h.disk.ensureDirectory h.cwd path.parent (path.parts.length + 1) = (made, .error e)) :
      Writes h path text made (.error (.skill (.cannotWrite path e)))
  | unnamed {made : Disk} {fault : PathFault} (habove : Above h path made) (hfault : path.fault? = some fault) :
      Writes h path text made (.error (.path fault))
  | unopened {made : Disk} {e : FileError} (habove : Above h path made) (hnamed : path.fault? = none) :
      Writes h path text made (.error (.skill (.cannotWrite path e)))
  /-- The file is there, and empty, before the text is encoded. -/
  | emptied {made emptied : Disk} {e : Unencodable} (habove : Above h path made) (hnamed : path.fault? = none)
      (hencode : encode text = .error e) (hopen : made.writeBytes h.cwd path [] = .ok emptied) :
      Writes h path text emptied (.error (.unencodable e))
  | written {made written : Disk} {bytes : Bytes} (habove : Above h path made) (hnamed : path.fault? = none)
      (hencode : encode text = .ok bytes) (hopen : made.writeBytes h.cwd path bytes = .ok written) :
      Writes h path text written (.ok ())

theorem write_of_above {h : Host} {made : Disk} (habove : Above h path made) (text : WideString) :
    write h path (.str text) = writeText h made path text := by
  rw [write, requireName_of_named habove.named]
  dsimp only
  rw [habove.made]
  rfl

theorem writes_writeText {h : Host} {made : Disk} (habove : Above h path made) (text : WideString) :
    Writes h path text (writeText h made path text).1 (writeText h made path text).2 := by
  unfold writeText
  cases hfault : path.fault? with
  | some fault =>
      rw [requireName_of_fault hfault]
      exact .unnamed habove hfault
  | none =>
      rw [requireName_of_named hfault]
      dsimp only
      cases hencode : encode text with
      | error e =>
          cases hopen : made.writeBytes h.cwd path [] with
          | error e' =>
              dsimp only [Except.toOption, Option.getD]
              rw [hopen]
              exact .unopened habove hfault
          | ok emptied =>
              dsimp only [Except.toOption, Option.getD]
              rw [hopen]
              exact .emptied habove hfault hencode hopen
      | ok bytes =>
          cases hopen : made.writeBytes h.cwd path bytes with
          | error e' =>
              dsimp only [Except.toOption, Option.getD]
              rw [hopen]
              exact .unopened habove hfault
          | ok written =>
              dsimp only [Except.toOption, Option.getD]
              rw [hopen]
              exact .written habove hfault hencode hopen

theorem writes_write (h : Host) (path : Path) (text : WideString) :
    Writes h path text (write h path (.str text)).1 (write h path (.str text)).2 := by
  cases hparent : path.parent.fault? with
  | some fault =>
      rw [write, requireName_of_fault hparent]
      exact .aboveUnnamed hparent
  | none =>
      rcases hmade : h.disk.ensureDirectory h.cwd path.parent (path.parts.length + 1) with ⟨made, e | ⟨⟩⟩
      · rw [write, requireName_of_named hparent]
        dsimp only
        rw [hmade]
        exact .aboveUnmade hparent hmade
      · have habove : Above h path made := ⟨hparent, hmade⟩
        rw [write_of_above habove]
        exact writes_writeText habove text

theorem Above.grows {h : Host} {made : Disk} (habove : Above h path made) : h.disk.Grows made := by
  have hgrows := h.disk.ensureDirectory_grows h.cwd path.parent (path.parts.length + 1)
  rw [habove.made] at hgrows
  exact hgrows

/-- The file at a location holds these bytes, and every other file is as it was. -/
structure Replaced (before after : Disk) (loc : Location) (bytes : Bytes) : Prop where
  there : after.find? loc = some (.file bytes)
  others : ∀ other, other ≠ loc → ∀ bytes,
    after.find? other = some (.file bytes) ↔ before.find? other = some (.file bytes)

/-- What is opened for writing is at the place to which the path leads. -/
theorem Above.replaced {h : Host} {made after : Disk} {bytes : Bytes} (habove : Above h path made)
    (hopen : made.writeBytes h.cwd path bytes = .ok after) :
    ∃ loc, after.locatePath h.cwd path = .ok loc ∧ after.readBytes h.cwd path = .ok bytes ∧
      Replaced h.disk after loc bytes := by
  obtain ⟨loc, hlocate, hthere, hread, hothers⟩ := Disk.readBytes_of_writeBytes hopen
  refine ⟨loc, hlocate, hread, hthere, fun other hother bytes => ?_⟩
  rw [hothers other hother]
  exact habove.grows.find?_file

/-! ### Reading what was written -/

theorem read_of_text {h : Host} {content : String} (hnamed : path.fault? = none)
    (hbytes : h.disk.readBytes h.cwd path = .ok (encodeUtf8 content.toList)) :
    read h path = .ok (String.ofList (unifyLineEnds content.toList)) := by
  rw [read, requireName_of_named hnamed, hbytes]
  simp only [bind, Except.bind, Except.mapError, TextFile.decode, decodeUtf8_encodeUtf8]
  rfl

/-- What there is to know about a run that wrote something. -/
theorem exists_of_written {content : String} (hrequest : request args = .ok ⟨.write, .str p, .str content⟩)
    (hwritten : ((work args).run api).1.toBool = true) :
    ∃ path made written, resolve api (.str p) = .ok path ∧ Above api.host path made ∧ path.fault? = none ∧
      made.writeBytes api.host.cwd path (encodeUtf8 content.toList) = .ok written ∧
      ((work args).run api).2 = api.withDisk written := by
  cases hresolve : resolve api (.str p) with
  | error f =>
      rw [run_of_resolve_error hrequest hresolve] at hwritten
      cases hwritten
  | ok path =>
      have hrun := run_eq_outcome hrequest hresolve
      dsimp only [outcome] at hrun
      rw [hrun] at hwritten ⊢
      have hwrites := writes_write api.host path content
      generalize (write api.host path (.str content)).1 = after at hwrites ⊢
      generalize (write api.host path (.str content)).2 = result at hwrites hwritten
      cases hwrites with
      | written habove hnamed hencode hopen =>
          rw [encode_ofString] at hencode
          cases hencode
          exact ⟨path, _, _, rfl, habove, hnamed, hopen, rfl⟩
      | _ => cases hwritten

/-- **Round trip.** A text that could be written is at the place to which the path leads, and all other files are as they
were. Reading it again does not fail and brings the text with its line ends made equal, so that it is the text that was
written just if that holds no carriage return. -/
theorem written_read (api : Api) (args again : Arguments) (p : WideString) (content : String)
    (haction : args.lookup "action" = some (.str "write")) (hpath : args.lookup "path" = some (.str p))
    (hcontent : args.lookup "content" = some (.str content)) (haction' : again.lookup "action" = some (.str "read"))
    (hpath' : again.lookup "path" = some (.str p)) (hwritten : ((skill.activity args).runAlone api).2.toBool = true) :
    let after := ((skill.activity args).runAlone api).1
    (∃ path loc, resolve api (.str p) = .ok path ∧ after.host.disk.locatePath api.host.cwd path = .ok loc ∧
      Replaced api.host.disk after.host.disk loc (encodeUtf8 content.toList)) ∧
    (skill.activity again).runAlone after =
      (after, .ok (.messages [.agent (String.ofList (unifyLineEnds content.toList))])) ∧
    (String.ofList (unifyLineEnds content.toList) = content ↔ '\r' ∉ content.toList) := by
  have hrequest := request_of_named .write haction hpath fun _ => ⟨content, hcontent⟩
  have hrequest' := request_of_named .read haction' hpath' nofun
  change ((work args).run api).1.toBool = true at hwritten
  by_cases hp : p = []
  · rw [if_pos hp] at hrequest
    rw [run_of_request_error hrequest] at hwritten
    cases hwritten
  rw [if_neg hp] at hrequest hrequest'
  rw [hcontent] at hrequest
  obtain ⟨path, made, written, hresolve, habove, hnamed, hopen, hleft⟩ := exists_of_written hrequest hwritten
  have hafter : ((skill.activity args).runAlone api).1 = api.withDisk written := hleft
  obtain ⟨loc, hlocate, hread, hreplaced⟩ := habove.replaced hopen
  have hagain : (work again).run (api.withDisk written) = _ := run_eq_outcome hrequest' hresolve
  dsimp only [outcome] at hagain
  rw [read_of_text hnamed hread] at hagain
  rw [hafter]
  refine ⟨⟨path, loc, hresolve, hlocate, hreplaced⟩, congrArg Prod.swap hagain, ?_⟩
  rw [← unifyLineEnds_eq_self_iff, ← String.ofList_inj, String.ofList_toList]

/-- A session over a disk, with the workspace at its root. -/
def sessionOn (disk : Disk) : Api :=
  ⟨⟨[("home", [])], "home", "home"⟩, [], none, .bare disk, [], [], 0, ⟨"/", []⟩⟩

/-- Two lines in a directory that has to be made first. -/
theorem written_read_lines :
    let args : Arguments := [("action", .str "write"), ("path", .str "notes/a.txt"), ("content", .str "one\ntwo")]
    let again : Arguments := [("action", .str "read"), ("path", .str "notes/a.txt")]
    let after := ((skill.activity args).runAlone (sessionOn ⟨[]⟩)).1
    ((skill.activity args).runAlone (sessionOn ⟨[]⟩)).2.toBool = true ∧
      (skill.activity again).runAlone after = (after, .ok (.messages [.agent "one\ntwo"])) := by
  intro args again after
  have hwritten : ((skill.activity args).runAlone (sessionOn ⟨[]⟩)).2.toBool = true := by decide +kernel
  obtain ⟨-, hagain, hsame⟩ :=
    written_read (sessionOn ⟨[]⟩) args again "notes/a.txt" "one\ntwo" rfl rfl rfl rfl rfl hwritten
  rw [hsame.2 (by decide)] at hagain
  exact ⟨hwritten, hagain⟩

/-- A carriage return in the middle of a text comes back as a line feed. -/
theorem not_written_read_of_return : ¬ ∀ (api : Api) (args again : Arguments) (p : WideString) (content : String),
    args.lookup "action" = some (.str "write") → args.lookup "path" = some (.str p) →
    args.lookup "content" = some (.str content) → again.lookup "action" = some (.str "read") →
    again.lookup "path" = some (.str p) → ((skill.activity args).runAlone api).2.toBool = true →
    ((skill.activity again).runAlone ((skill.activity args).runAlone api).1).2 = .ok (.messages [.agent content]) := by
  intro hall
  have hread := hall (sessionOn ⟨[]⟩) [("action", .str "write"), ("path", .str "a.txt"), ("content", .str "one\rtwo")]
    [("action", .str "read"), ("path", .str "a.txt")] "a.txt" "one\rtwo" rfl rfl rfl rfl rfl (by decide +kernel)
  revert hread
  decide +kernel

/-! ### What is not put into the words of the skill -/

/-- The path begins with the home directory of a user. -/
structure OfUser (p user : WideString) : Prop where
  relative : (Path.ofString p).isAbsolute = false
  first : ∃ rest, (Path.ofString p).parts = (.char '~' :: user) :: rest
  named : user ≠ []

/-- What goes wrong with a path or a text and is passed on as it is. -/
inductive Leaks (api : Api) (action : FileAction) (p : WideString) (content : Json) : Failure → Prop
  /-- Nobody knows the user. -/
  | home {user : WideString} (huser : OfUser p user) (hnamed : Path.faultOf? user = none)
      (hnobody : api.host.accounts.lookup (nameBytes user) = none) : Leaks api action p content .unknownHome
  /-- No user can have this name. -/
  | user {user : WideString} {fault : PathFault} (huser : OfUser p user) (hfault : Path.faultOf? user = some fault) :
      Leaks api action p content (.path fault)
  /-- Before a file is written the directories above it are made. -/
  | parent {path : Path} {fault : PathFault} (haction : action = .write) (hpath : resolve api (.str p) = .ok path)
      (hfault : path.parent.fault? = some fault) : Leaks api action p content (.path fault)
  | name {path : Path} {fault : PathFault} (hpath : resolve api (.str p) = .ok path) (hfault : path.fault? = some fault)
      (habove : action = .write → ∃ made, Above api.host path made) : Leaks api action p content (.path fault)
  | bytes {path : Path} {bytes : Bytes} {e : Utf8Error} (haction : action = .read)
      (hpath : resolve api (.str p) = .ok path) (hnamed : path.fault? = none)
      (hbytes : api.host.disk.readBytes api.host.cwd path = .ok bytes) (he : decodeUtf8 bytes = .error e) :
      Leaks api action p content (.undecodable e)
  /-- The file could be opened. -/
  | text {path : Path} {text : WideString} {made emptied : Disk} {e : Unencodable} (haction : action = .write)
      (hcontent : content = .str text) (hpath : resolve api (.str p) = .ok path) (habove : Above api.host path made)
      (hnamed : path.fault? = none) (hopen : made.writeBytes api.host.cwd path [] = .ok emptied)
      (he : encode text = .error e) : Leaks api action p content (.unencodable e)

variable {action : FileAction} {content : Json} {user : WideString}

theorem Leaks.isOfSkill (h : Leaks api action p content f) : f.isOfSkill = false := by
  cases h <;> rfl

theorem OfUser.expandHome_eq (h : OfUser p user) (host : Host) :
    host.expandHome (.ofString p) = match Path.faultOf? user with
      | some fault => .error (.path fault)
      | none => match host.accounts.lookup (nameBytes user) with
        | some home => .ok ((Path.ofString home).below ⟨"", (Path.ofString p).parts.tail⟩)
        | none => .error .unknownHome := by
  obtain ⟨rest, hparts⟩ := h.first
  obtain ⟨c, user, rfl⟩ := List.exists_cons_of_ne_nil h.named
  have hrelative : ¬ (Path.ofString p).isAbsolute = true := Bool.eq_false_iff.1 h.relative
  unfold Host.expandHome
  rw [if_neg hrelative, hparts]
  rfl

theorem exists_ofUser_of_error {host : Host} (herror : host.expandHome (.ofString p) = .error f) :
    ∃ user, OfUser p user := by
  unfold Host.expandHome at herror
  split at herror
  · cases herror
  · rename_i hrelative
    split at herror
    · cases herror
    · rename_i first rest hparts
      split at herror
      · cases herror
      · rename_i user hlone
        exact ⟨user, Bool.eq_false_iff.2 hrelative, ⟨rest, hparts⟩, fun huser => hlone (huser ▸ rfl)⟩
      · cases herror

theorem resolve_eq (api : Api) (p : WideString) :
    resolve api (.str p) = (api.host.expandHome (.ofString p)).map api.root.below := by
  rw [resolve]
  cases api.host.expandHome (.ofString p) <;> rfl

theorem resolve_eq_error (h : resolve api (.str p) = .error f) : Leaks api action p content f := by
  rw [resolve_eq] at h
  cases hhome : api.host.expandHome (.ofString p) with
  | ok path =>
      rw [hhome] at h
      cases h
  | error f' =>
      rw [hhome] at h
      cases h
      obtain ⟨user, huser⟩ := exists_ofUser_of_error hhome
      rw [huser.expandHome_eq] at hhome
      cases hfault : Path.faultOf? user with
      | some fault =>
          rw [hfault] at hhome
          cases hhome
          exact .user huser hfault
      | none =>
          rw [hfault] at hhome
          cases hnobody : api.host.accounts.lookup (nameBytes user) with
          | some home =>
              simp only [hnobody] at hhome
              cases hhome
          | none =>
              simp only [hnobody] at hhome
              cases hhome
              exact .home huser hfault hnobody

theorem read_eq_error (hpath : resolve api (.str p) = .ok path) (h : read api.host path = .error f) :
    f.isOfSkill = true ∨ Leaks api .read p content f := by
  unfold read at h
  cases hfault : path.fault? with
  | some fault =>
      rw [requireName_of_fault hfault] at h
      cases h
      exact .inr (.name hpath hfault nofun)
  | none =>
      rw [requireName_of_named hfault] at h
      cases hbytes : api.host.disk.readBytes api.host.cwd path with
      | error e =>
          rw [hbytes] at h
          cases h
          exact .inl rfl
      | ok bytes =>
          rw [hbytes] at h
          cases he : decodeUtf8 bytes with
          | ok cs =>
              simp only [bind, Except.bind, Except.mapError, TextFile.decode, he] at h
              cases h
          | error e =>
              simp only [bind, Except.bind, Except.mapError, TextFile.decode, he] at h
              cases h
              exact .inr (.bytes rfl hpath hfault hbytes he)

theorem write_eq_error (hpath : resolve api (.str p) = .ok path) (h : (write api.host path (.str text)).2 = .error f) :
    f.isOfSkill = true ∨ Leaks api .write p (.str text) f := by
  have hwrites := writes_write api.host path text
  rw [h] at hwrites
  generalize (write api.host path (.str text)).1 = after at hwrites
  cases hwrites with
  | aboveUnnamed hfault => exact .inr (.parent rfl hpath hfault)
  | aboveUnmade => exact .inl rfl
  | unnamed habove hfault => exact .inr (.name hpath hfault fun _ => ⟨_, habove⟩)
  | unopened => exact .inl rfl
  | emptied habove hnamed hencode hopen => exact .inr (.text rfl rfl hpath habove hnamed hopen hencode)

theorem delete_eq_error (hpath : resolve api (.str p) = .ok path) (h : delete api.host path = .error f) :
    f.isOfSkill = true ∨ Leaks api .delete p content f := by
  unfold delete at h
  cases hfault : path.fault? with
  | some fault =>
      rw [requireName_of_fault hfault] at h
      cases h
      exact .inr (.name hpath hfault nofun)
  | none =>
      rw [requireName_of_named hfault] at h
      cases hbytes : api.host.disk.deleteFile api.host.cwd path with
      | error e =>
          rw [hbytes] at h
          cases h
          exact .inl rfl
      | ok disk =>
          rw [hbytes] at h
          cases h

/-- The file that a text without bytes was to go into is empty, and all other files are as they were. -/
def Empties (api : Api) (p : WideString) (after : Disk) : Prop :=
  ∃ path loc, resolve api (.str p) = .ok path ∧ after.locatePath api.host.cwd path = .ok loc ∧
    Replaced api.host.disk after loc []

/-- What a failure leaves behind: no more than directories, unless it is a text that has no bytes. -/
def Leaves (api : Api) (p : WideString) (f : Failure) (after : Disk) : Prop :=
  (∃ e, f = .unencodable e) ∧ Empties api p after ∨ (∀ e, f ≠ .unencodable e) ∧ api.host.disk.Grows after

theorem write_leaves (hpath : resolve api (.str p) = .ok path) (h : (write api.host path (.str text)).2 = .error f) :
    Leaves api p f (write api.host path (.str text)).1 := by
  have hwrites := writes_write api.host path text
  rw [h] at hwrites
  generalize (write api.host path (.str text)).1 = after at hwrites
  cases hwrites with
  | aboveUnnamed hfault => exact .inr ⟨nofun, .refl _⟩
  | aboveUnmade hnamed hmade =>
      have hgrows := api.host.disk.ensureDirectory_grows api.host.cwd path.parent (path.parts.length + 1)
      rw [hmade] at hgrows
      exact .inr ⟨nofun, hgrows⟩
  | unnamed habove hfault => exact .inr ⟨nofun, habove.grows⟩
  | unopened habove hnamed => exact .inr ⟨nofun, habove.grows⟩
  | emptied habove hnamed hencode hopen =>
      obtain ⟨loc, hlocate, -, hreplaced⟩ := habove.replaced hopen
      exact .inl ⟨⟨_, rfl⟩, path, loc, hpath, hlocate, hreplaced⟩

/-- Only a text that is to be written has no bytes. -/
theorem ne_unencodable (haction : action ≠ .write) (h : f.isOfSkill = true ∨ Leaks api action p content f)
    (e : Unencodable) :
    f ≠ .unencodable e := by
  rintro rfl
  obtain h | h := h
  · cases h
  · cases h with
    | text hwrite => exact haction hwrite

/-- What fails without writing leaves everything as it was. -/
theorem leaves_unchanged (haction : action ≠ .write) (h : f.isOfSkill = true ∨ Leaks api action p content f) :
    ∃ disk, api = api.withDisk disk ∧ Leaves api p f disk :=
  ⟨_, rfl, .inr ⟨ne_unencodable haction h, .refl _⟩⟩

theorem outcome_eq_error (hpath : resolve api (.str p) = .ok path)
    (hcontent : action = .write → ∃ text, content = .str text)
    (h : (outcome api ⟨action, .str p, content⟩ path).1 = .error f) :
    (f.isOfSkill = true ∨ Leaks api action p content f) ∧
      ∃ disk, (outcome api ⟨action, .str p, content⟩ path).2 = api.withDisk disk ∧ Leaves api p f disk := by
  cases action with
  | read =>
      dsimp only [outcome] at h ⊢
      cases hread : read api.host path with
      | error f' =>
          rw [hread] at h
          cases h
          have hfails : f.isOfSkill = true ∨ Leaks api .read p content f := read_eq_error hpath hread
          exact ⟨hfails, leaves_unchanged (by decide) hfails⟩
      | ok text =>
          rw [hread] at h
          cases h
  | write =>
      obtain ⟨text, rfl⟩ := hcontent rfl
      dsimp only [outcome] at h ⊢
      cases hwrite : (write api.host path (.str text)).2 with
      | error f' =>
          rw [hwrite] at h
          cases h
          exact ⟨write_eq_error hpath hwrite, _, rfl, write_leaves hpath hwrite⟩
      | ok u =>
          rw [hwrite] at h
          cases h
  | delete =>
      dsimp only [outcome] at h ⊢
      cases hdelete : delete api.host path with
      | error f' =>
          rw [hdelete] at h
          cases h
          have hfails : f.isOfSkill = true ∨ Leaks api .delete p content f := delete_eq_error hpath hdelete
          exact ⟨hfails, leaves_unchanged (by decide) hfails⟩
      | ok disk =>
          rw [hdelete] at h
          cases h

theorem run_eq_error (hrequest : request args = .ok ⟨action, .str p, content⟩)
    (hcontent : action = .write → ∃ text, content = .str text) (h : ((work args).run api).1 = .error f) :
    (f.isOfSkill = true ∨ Leaks api action p content f) ∧
      ∃ disk, ((work args).run api).2 = api.withDisk disk ∧ Leaves api p f disk := by
  cases hpath : resolve api (.str p) with
  | error f' =>
      rw [run_of_resolve_error hrequest hpath] at h ⊢
      cases h
      have hleaks : Leaks api .read p content f := resolve_eq_error hpath
      exact ⟨.inr (resolve_eq_error hpath), leaves_unchanged (by decide) (.inr hleaks)⟩
  | ok path =>
      rw [run_eq_outcome hrequest hpath] at h ⊢
      exact outcome_eq_error hpath hcontent h

theorem Leaks.run_eq (h : Leaks api action p content f) (hrequest : request args = .ok ⟨action, .str p, content⟩)
    (hcontent : action = .write → ∃ text, content = .str text) : ((work args).run api).1 = .error f := by
  have hresolve {f : Failure} (hhome : api.host.expandHome (.ofString p) = .error f) :
      ((work args).run api).1 = .error f := by
    have hpath : resolve api (.str p) = .error f := by rw [resolve_eq, hhome]; rfl
    rw [run_of_resolve_error hrequest hpath]
  cases h with
  | home huser hnamed hnobody => exact hresolve (by simp only [huser.expandHome_eq, hnamed, hnobody])
  | user huser hfault => exact hresolve (by simp only [huser.expandHome_eq, hfault])
  | @parent path fault haction hpath hfault =>
      subst haction
      rw [run_eq_outcome hrequest hpath]
      simp [outcome, write, requireName_of_fault hfault, Except.map]
  | @name path fault hpath hfault habove =>
      rw [run_eq_outcome hrequest hpath]
      cases action with
      | read => simp [outcome, read, requireName_of_fault hfault, Except.map, bind, Except.bind]
      | delete => simp [outcome, delete, requireName_of_fault hfault, bind, Except.bind]
      | write =>
          obtain ⟨text, rfl⟩ := hcontent rfl
          obtain ⟨made, habove⟩ := habove rfl
          simp [outcome, write_of_above habove, writeText, requireName_of_fault hfault, Except.map]
  | @bytes path bytes e haction hpath hnamed hbytes he =>
      subst haction
      rw [run_eq_outcome hrequest hpath]
      simp [outcome, read, requireName_of_named hnamed, hbytes, TextFile.decode, he, Except.map, bind, Except.bind,
        Except.mapError]
  | @text path text made emptied e haction htext hpath habove hnamed hopen he =>
      subst haction htext
      rw [run_eq_outcome hrequest hpath]
      simp [outcome, write_of_above habove, writeText, requireName_of_named hnamed, he, hopen, Except.map,
        Except.mapError, Except.toOption]

/-- What the skill does not say itself is what leaks. -/
theorem leaks_iff (hrequest : request args = .ok ⟨action, .str p, content⟩)
    (hcontent : action = .write → ∃ text, content = .str text) :
    ((work args).run api).1 = .error f ∧ f.isOfSkill = false ↔ Leaks api action p content f := by
  constructor
  · rintro ⟨hf, hpassed⟩
    obtain ⟨hskill | hleak, -⟩ := run_eq_error hrequest hcontent hf
    · rw [hskill] at hpassed
      cases hpassed
    · exact hleak
  · intro hleak
    exact ⟨hleak.run_eq hrequest hcontent, hleak.isOfSkill⟩

/-- Files are lost only to a text that has no bytes. -/
theorem left_of_error (hrequest : request args = .ok ⟨action, .str p, content⟩)
    (hcontent : action = .write → ∃ text, content = .str text) (h : ((work args).run api).1 = .error f) :
    ∃ disk, ((work args).run api).2 = api.withDisk disk ∧ ((∀ e, f ≠ .unencodable e) → api.host.disk.Grows disk) ∧
      ∀ e, f = .unencodable e → action = .write ∧ Empties api p disk := by
  obtain ⟨hfails, disk, hdisk, ⟨⟨e, he⟩, hempties⟩ | ⟨hne, hgrows⟩⟩ := run_eq_error hrequest hcontent h
  · have hwrite : action = .write := by
      by_contra hother
      exact ne_unencodable hother hfails e he
    exact ⟨disk, hdisk, fun hne => absurd he (hne e), fun _ _ => ⟨hwrite, hempties⟩⟩
  · exact ⟨disk, hdisk, fun _ => hgrows, fun e he => absurd he (hne e)⟩

/-- What a directive asks for is given in texts. -/
theorem request_texts (params : List (String × WideString)) :
    (∃ fault, request (params.map fun (name, value) => (name, .str value)) = .error (.parameter fault)) ∨
      ∃ action p content,
        request (params.map fun (name, value) => (name, .str value)) = .ok ⟨action, .str p, content⟩ ∧
          (action = .write → ∃ text, content = .str text) := by
  have hgiven : ∀ {name value}, (params.map fun (name, value) => (name, Json.str value)).lookup name = some value →
      ∃ text, value = .str text := by
    intro name value hvalue
    rw [lookup_map_value fun _ => Json.str] at hvalue
    obtain ⟨text, -, rfl⟩ := Option.map_eq_some_iff.1 hvalue
    exact ⟨text, rfl⟩
  rcases request_cases (params.map fun (name, value) => (name, .str value)) with
    hfault | ⟨action, path, content, hrequest, hpath, hcontent⟩
  · exact .inl hfault
  · obtain ⟨p, rfl⟩ := hgiven hpath
    exact .inr ⟨action, p, content, hrequest, fun haction => hgiven (hcontent haction)⟩

/-- **Failures.** If something goes wrong all files are as they were, and nothing else is different but directories that
were made on the way; only a text that has no bytes leaves its file empty. It is the skill that says what is wrong unless
something leaks from the path, the bytes or the text, and what leaks is passed on as it is. -/
theorem fails_or_leaks (params : List (String × WideString)) (api : Api) :
    let args : Arguments := params.map fun (name, value) => (name, .str value)
    let outcome := (skill.activity args).runAlone api
    (∀ f, outcome.2 = .error f → ∃ disk, outcome.1 = api.withDisk disk ∧
      ((∀ e, f ≠ .unencodable e) → api.host.disk.Grows disk ∧
        ∀ loc bytes, disk.find? loc = some (.file bytes) ↔ api.host.disk.find? loc = some (.file bytes)) ∧
      ∀ e, f = .unencodable e →
        ∃ p content, request args = .ok ⟨.write, .str p, content⟩ ∧ Empties api p disk) ∧
    ∀ f, (outcome.2 = .error f ∧ f.isOfSkill = false) ↔
      ∃ action p content, request args = .ok ⟨action, .str p, content⟩ ∧ Leaks api action p content f := by
  intro args outcome
  change (∀ f, ((work args).run api).1 = .error f → _) ∧ ∀ f, (((work args).run api).1 = .error f ∧ _) ↔ _
  rcases request_texts params with ⟨fault, hfault⟩ | ⟨action, p, content, hrequest, hcontent⟩
  · have hrun : (work args).run api = _ := run_of_request_error hfault
    refine ⟨fun f hf => ⟨api.host.disk, congrArg Prod.snd hrun, fun _ => ⟨.refl _, fun _ _ => .rfl⟩, ?_⟩,
      fun f => ⟨?_, ?_⟩⟩
    · rintro e rfl
      rw [hrun] at hf
      cases hf
    · rintro ⟨hf, hleak⟩
      rw [hrun] at hf
      cases hf
      cases hleak
    · rintro ⟨action, p, content, hrequest, -⟩
      rw [hfault] at hrequest
      cases hrequest
  · refine ⟨fun f hf => ?_, fun f => ?_⟩
    · obtain ⟨disk, hdisk, hgrows, hemptied⟩ := left_of_error hrequest hcontent hf
      refine ⟨disk, hdisk, fun hne => ⟨hgrows hne, fun _ _ => (hgrows hne).find?_file⟩, fun e he => ?_⟩
      obtain ⟨rfl, hempties⟩ := hemptied e he
      exact ⟨p, content, hrequest, hempties⟩
    · rw [leaks_iff hrequest hcontent]
      constructor
      · exact fun hleak => ⟨action, p, content, hrequest, hleak⟩
      · rintro ⟨action', p', content', hrequest', hleak⟩
        rw [hrequest] at hrequest'
        cases hrequest'
        exact hleak

/-- Half of a pair has no bytes, and what the file held is lost. -/
example :
    let args : Arguments := [("action", .str "write"), ("path", .str "a.txt"), ("content", .str [.half 0])]
    let after := (work args).run (sessionOn ⟨[(.ofNames ["a.txt"], .file [0x61])]⟩)
    after.1 = .error (.unencodable ⟨0, [.half 0]⟩) ∧ after.2.host.disk = ⟨[(.ofNames ["a.txt"], .file [])]⟩ := by
  decide +kernel

/-- One byte that is not UTF-8 is enough. -/
theorem not_isOfSkill_of_bytes : ¬ ∀ (params : List (String × WideString)) (api : Api) (f : Failure),
    ((skill.activity (params.map fun (name, value) => (name, .str value))).runAlone api).2 = .error f →
    f.isOfSkill = true := by
  intro hall
  have hfails := hall [("action", "read"), ("path", "a.bin")] (sessionOn ⟨[(.ofNames ["a.bin"], .file [0xff])]⟩)
    (.undecodable ⟨.badStart, 0, [0xff]⟩) (by decide +kernel)
  cases hfails

end Files

end Playbook

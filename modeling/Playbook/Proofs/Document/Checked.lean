import Playbook.Proofs.Document.Positions
import Playbook.Proofs.Text.Search
/-!
# Reading with every check

Directives are read from trimmed lines, but their columns are those of the lines as they are. A reader that looks for
these columns may not find what it looks for; a place may be refused because it lies in front of the document, and a
block because it ends before it begins. The readers below look everything up and check everything, and the reading goes
on behind the lines that were taken, but one line further down at least. Nothing of this is ever needed: they read what
the readers without any check read, every look-up finds what it looks for, and every reader takes a line.
-/

namespace Playbook

open Text

namespace Checked

/-! ### Faults -/

inductive Fault where
  | noLine (index : Nat)
  | notFound (needle : List Char)
  | badPosition (faults : List PositionFault)
  | badSpan (line endLine : Nat)
deriving Repr, DecidableEq

/-- The first column from `start` on at which the needle, which is not empty, stands. -/
def columnOf (needle text : List Char) (start : Nat) : Except Fault Nat :=
  match splitFirst? needle (text.drop start) with
  | some (before, _) => .ok (start + before.length)
  | none => .error (.notFound needle)

def position (line start : Int) (length : Nat) : Except Fault Position :=
  match (if line < 1 then [.lineBelowOne] else []) ++ (if start < 0 then [.startBelowZero] else []) with
  | [] => .ok ⟨line.toNat, start.toNat, length⟩
  | faults => .error (.badPosition faults)

/-- A block begins on a line from one on and does not end before. -/
def span (r : Reading) : Except Fault Reading :=
  match r.block with
  | none => .ok r
  | some b => if 1 ≤ b.line ∧ b.line ≤ b.endLine then .ok r else .error (.badSpan b.line b.endLine)

/-! ### Readers -/

/-- Whether the flags of a directive end in front of the line. -/
def endsFlags (text : Line) : Bool :=
  isBlank text || ['@'].isPrefixOf (trim text) || Comment.openMark.isPrefixOf (trim text) ||
    !(['-', '-'].isPrefixOf (trim text))

/-- The trimmed flag lines below a directive, and their flags. -/
def flagLines (line : Nat) : List Line → Except Fault (List Line × List Flag)
  | [] => .ok ([], [])
  | text :: rest =>
    if endsFlags text then .ok ([], [])
    else do
      let column ← columnOf ['-', '-'] text 0
      let flags ← (Flag.parse (String.ofList (trim text)) ⟨some line, column⟩).mapError .badPosition
      let (more, moreFlags) ← flagLines (line + 1) rest
      return (trim text :: more, flags ++ moreFlags)

/-- The flag lines that a directive takes, and its flags; its sign stands at `column`. -/
def flags (line column : Nat) (first : Line) (rest : List Line) (h : Directive.Header) :
    Except Fault (List Line × List Flag) :=
  if trim h.trailing = [] then flagLines (line + 1) rest
  else do
    let offset ← columnOf (trim h.trailing) first (column + h.name.length + 1)
    let flags ← (Flag.parseAny (String.ofList (trim h.trailing)) ⟨some line, offset⟩).mapError .badPosition
    return ([], flags)

def directive (line : Nat) (first : Line) (rest : List Line) : Except Fault Reading :=
  match Directive.header? (trim first) with
  | none => .ok ⟨none, some (.badDirective line (trim first)), 1⟩
  | some h => do
    let column ← columnOf ['@'] first 0
    let place ← position line column (h.name.length + 1)
    let (more, flags) ← flags line column first rest h
    let block : Block :=
      { name := String.ofList h.name
        flags := flags
        content := String.ofList (joinLines (trim first :: more))
        line := line
        endLine := line + more.length
        position := some place
        language := none }
    return ⟨some block, none, 1 + more.length⟩

/-- The other readers look nothing up. -/
def read (line : Nat) (first : Line) (rest : List Line) : Except Fault Reading := do
  if Directive.isDirectiveLine first then span (← directive line first rest)
  else span (Document.readBlock line first rest)

/-- What is read from the line at an index on, counted from zero. -/
def readAt (ls : List Line) (index : Nat) : Except Fault Reading :=
  match ls.drop index with
  | [] => .error (.noLine index)
  | first :: rest => read (index + 1) first rest

/-- All that is read from an index on, each with its own index. -/
def readings (ls : List Line) (index : Nat) : Except Fault (List (Nat × Reading)) :=
  if index < ls.length then do
    let r ← readAt ls index
    let more ← readings ls (max (index + r.taken) (index + 1))
    return (index, r) :: more
  else .ok []
termination_by ls.length - index
decreasing_by omega

def parse (text : String) : Except Fault Document :=
  if blank text then .ok .empty
  else do
    let rs ← readings (lines text.toList) 0
    return ⟨rs.filterMap (·.2.block), rs.filterMap (·.2.problem)⟩

theorem ok_bind {α β : Type} (a : α) (f : α → Except Fault β) : (Except.ok a >>= f) = f a := rfl

/-! ### Looking up -/

section Columns

variable {needle text : List Char}

/-- What begins with a visible character and stands behind the margin stands there for the first time. -/
theorem columnOf_margin {start : Nat} (hvisible : ∀ c ∈ needle.head?, isBlankChar c = false) (hne : needle ≠ [])
    (h : needle <+: (text.drop start).drop (indent (text.drop start))) :
    columnOf needle text start = .ok (start + indent (text.drop start)) := by
  have hmargin : ∀ c ∈ (text.drop start).takeWhile isBlankChar, isBlankChar c = true := fun c hc =>
    List.mem_takeWhile_imp hc
  have hsplit : (text.drop start).takeWhile isBlankChar ++ trimStart (text.drop start) = text.drop start :=
    List.takeWhile_append_dropWhile
  have hsearch := splitFirst?_margin hvisible hne hmargin (trimStart (text.drop start))
  rw [← trimStart_eq_drop] at h
  rw [hsplit, splitFirst?_of_isPrefix h] at hsearch
  rw [columnOf, hsearch]
  simp [indent]

/-- What a trimmed line begins with stands behind the margin of the line. -/
theorem columnOf_of_trim (hvisible : ∀ c ∈ needle.head?, isBlankChar c = false) (hne : needle ≠ [])
    (h : needle.isPrefixOf (trim text) = true) : columnOf needle text 0 = .ok (indent text) := by
  have hprefix : needle <+: text.drop (indent text) :=
    (List.isPrefixOf_iff_prefix.1 h).trans (trim_isPrefix text)
  have hcolumn : columnOf needle text 0 = .ok (0 + indent text) := columnOf_margin hvisible hne hprefix
  rwa [Nat.zero_add] at hcolumn

end Columns

/-! ### Flags -/

/-- Flags in a document can be placed, for lines count from one. -/
theorem placeAll_eq {line : Nat} (hline : 1 ≤ line) (column : Nat) (fs : List FlagTokens) :
    Flag.placeAll ⟨some line, column⟩ fs = .ok (fs.map (·.placed line column)) := by
  have hfaults : ∀ t, Flag.Origin.faults ⟨some line, column⟩ t = [] := by
    intro t
    have hfirst : ¬ (line : Int) < 1 := by omega
    have hstart : ¬ (column : Int) + t.start < 0 := by omega
    simp only [Flag.Origin.faults, if_neg hfirst, if_neg hstart, List.append_nil]
  have hplace : ∀ t, Flag.Origin.place ⟨some line, column⟩ t = some ⟨line, column + t.start, t.length⟩ := by
    intro t
    simp only [Flag.Origin.place, Option.map_some, Int.toNat_natCast, ← Int.natCast_add]
  have hnone : ((fs.flatMap FlagTokens.tokens).map (Flag.Origin.faults ⟨some line, column⟩)).find?
      (!·.isEmpty) = none := by
    rw [List.find?_eq_none]
    intro faults hmem
    obtain ⟨t, -, rfl⟩ := List.mem_map.1 hmem
    rw [hfaults t]
    decide
  rw [Flag.placeAll, hnone]
  simp only [FlagTokens.placed, funext hplace]

theorem endsFlags_eq (text : Line) : endsFlags text = !Directive.isFlagLine text := by
  cases hflag : Directive.isFlagLine text with
  | false =>
      have hdashes : ['-', '-'].isPrefixOf (trim text) = false := hflag
      simp [endsFlags, hdashes]
  | true =>
      have hdashes : ['-', '-'].isPrefixOf (trim text) = true := hflag
      obtain ⟨cs, hcs⟩ := List.isPrefixOf_iff_prefix.1 hdashes
      have hblank : isBlank text = false := by
        by_contra hblank
        rw [trim_of_isBlank (by simpa using hblank)] at hcs
        cases hcs
      have hsign : ['@'].isPrefixOf (trim text) = false := by
        rw [← hcs]
        rfl
      have hmark : Comment.openMark.isPrefixOf (trim text) = false := by
        rw [← hcs]
        rfl
      rw [endsFlags, hblank, hsign, hmark, hdashes]
      rfl

theorem flagLines_eq {line : Nat} (hline : 1 ≤ line) (rest : List Line) :
    flagLines line rest = .ok ((rest.takeWhile Directive.isFlagLine).map trim,
      Directive.linesFlags line (rest.takeWhile Directive.isFlagLine)) := by
  induction rest generalizing line with
  | nil => rfl
  | cons text rest ih =>
      rw [flagLines, endsFlags_eq]
      by_cases hflag : Directive.isFlagLine text = true
      · have hcolumn : columnOf ['-', '-'] text 0 = .ok (indent text) := by
          apply columnOf_of_trim _ (List.cons_ne_nil _ _) hflag
          rintro _ ⟨⟩
          decide
        have hflags : Flag.parse (String.ofList (trim text)) ⟨some line, indent text⟩ =
            .ok (Directive.lineFlags line text) := by
          rw [Flag.parse, String.toList_ofList, placeAll_eq hline, Directive.lineFlags]
        rw [hflag, hcolumn, ok_bind, hflags, ih (Nat.le_add_left 1 line), List.takeWhile_cons_of_pos hflag]
        rfl
      · rw [List.takeWhile_cons_of_neg hflag, Bool.eq_false_iff.2 hflag]
        rfl

/-! ### Directives -/

section Directives

variable {line : Nat} {first : Line} {rest : List Line} {h : Directive.Header}

/-- What follows the name is found behind it, in the line as it is. -/
theorem columnOf_trailing (hheader : Directive.header? (trim first) = some h) (hne : trim h.trailing ≠ []) :
    columnOf (trim h.trailing) first (indent first + h.name.length + 1) =
      .ok (indent first + h.name.length + 1 + indent h.trailing) := by
  have htrailing := Directive.trailing_isPrefix hheader
  have hvisible : isBlank h.trailing = false := by
    by_contra hblank
    exact hne (trim_of_isBlank (by simpa using hblank))
  have hindent := indent_of_isPrefix htrailing hvisible
  rw [← hindent]
  apply columnOf_margin (head_trim h.trailing) hne
  rw [hindent]
  exact (trim_isPrefix h.trailing).trans (htrailing.drop _)

theorem flags_eq (hline : 1 ≤ line) (hheader : Directive.header? (trim first) = some h) {more : List Line}
    (hmore : more = if isBlank h.trailing then rest.takeWhile Directive.isFlagLine else []) :
    flags line (indent first) first rest h = .ok (more.map trim,
      if isBlank h.trailing then Directive.linesFlags (line + 1) more else Directive.trailingFlags line first h) := by
  subst hmore
  by_cases hblank : isBlank h.trailing = true
  · rw [flags, if_pos (trim_of_isBlank hblank), if_pos hblank, if_pos hblank]
    exact flagLines_eq (Nat.le_add_left 1 line) rest
  · have hne : trim h.trailing ≠ [] := fun hnil => hblank (isBlank_of_trim hnil)
    have hflags : Flag.parseAny (String.ofList (trim h.trailing))
        ⟨some line, ↑(indent first + h.name.length + 1 + indent h.trailing)⟩ =
        .ok (Directive.trailingFlags line first h) := by
      rw [Flag.parseAny, String.toList_ofList, placeAll_eq hline, Directive.trailingFlags]
    rw [flags, if_neg hne, if_neg hblank, if_neg hblank, columnOf_trailing hheader hne, ok_bind, hflags]
    rfl

theorem position_eq (hline : 1 ≤ line) (start length : Nat) :
    position line start length = .ok ⟨line, start, length⟩ := by
  have hfirst : ¬ (line : Int) < 1 := by omega
  have hstart : ¬ (start : Int) < 0 := by omega
  rw [position, if_neg hfirst, if_neg hstart]
  rfl

theorem directive_eq (hline : 1 ≤ line) (hdirective : Directive.isDirectiveLine first = true) :
    directive line first rest = .ok (Directive.read line first rest) := by
  have hsign : columnOf ['@'] first 0 = .ok (indent first) := by
    apply columnOf_of_trim _ (List.cons_ne_nil _ _) hdirective
    rintro _ ⟨⟩
    decide
  unfold directive Directive.read
  cases hheader : Directive.header? (trim first) with
  | none => rfl
  | some h =>
      simp only [hsign, ok_bind, position_eq hline, flags_eq hline hheader rfl, List.length_map]
      rfl

end Directives

/-! ### Blocks -/

/-- A block begins on the first of the lines that were claimed for it. -/
theorem span_of_claims {r : Reading} {line last : Nat} (hclaims : r.Claims line last) {b : Block}
    (hblock : r.block = some b) : b.line = line ∧ b.line ≤ b.endLine := by
  have hpos := hclaims.taken_pos
  have hinterval := hclaims.interval_eq
  rcases r with ⟨block, problem, taken⟩
  obtain rfl : block = some b := hblock
  have hbegin : b.line = line := congrArg Interval.first hinterval
  have hend : b.endLine = line + taken - 1 := congrArg Interval.last hinterval
  simp only at hpos
  omega

theorem span_eq {r : Reading} {line last : Nat} (hclaims : r.Claims line last) (hline : 1 ≤ line) : span r = .ok r := by
  unfold span
  cases hblock : r.block with
  | none => rfl
  | some b =>
      obtain ⟨hbegin, hend⟩ := span_of_claims hclaims hblock
      have hspan : 1 ≤ b.line ∧ b.line ≤ b.endLine := ⟨by omega, hend⟩
      simp only [if_pos hspan]

theorem read_eq {line : Nat} (hline : 1 ≤ line) (first : Line) (rest : List Line) :
    read line first rest = .ok (Document.readBlock line first rest) := by
  have hspan := span_eq (Document.readBlock_claims line first rest) hline
  by_cases hdirective : Directive.isDirectiveLine first = true
  · have hread : Document.readBlock line first rest = Directive.read line first rest := by
      rw [Document.readBlock, if_pos hdirective]
    rw [hread] at hspan ⊢
    rw [read, if_pos hdirective, directive_eq hline hdirective]
    exact hspan
  · rw [read, if_neg hdirective]
    exact hspan

/-! ### Documents -/

/-- The next reading begins further down without being told to, and not behind the end of `n` lines. -/
structure Advances (n index : Nat) (r : Reading) : Prop where
  advances : index < index + r.taken
  within : index + r.taken ≤ n
  unguarded : max (index + r.taken) (index + 1) = index + r.taken

theorem readAt_eq {ls : List Line} {index : Nat} {first : Line} {rest : List Line}
    (hdrop : ls.drop index = first :: rest) :
    readAt ls index = .ok (Document.readBlock (index + 1) first rest) ∧
      Advances ls.length index (Document.readBlock (index + 1) first rest) := by
  have hclaims := Document.readBlock_claims (index + 1) first rest
  have hlength : ls.length - index = rest.length + 1 := by
    rw [← List.length_drop, hdrop, List.length_cons]
  have hpos := hclaims.taken_pos
  have hle := hclaims.taken_le
  refine ⟨?_, by omega, by omega, by omega⟩
  rw [readAt, hdrop]
  exact read_eq (Nat.le_add_left 1 index) first rest

/-- By induction on the lines that are left: what is read is what the readers without checks read there. -/
theorem readings_eq (ls : List Line) (index : Nat) :
    ∃ rs, readings ls index = .ok rs ∧ rs.map (·.2) = Document.readings (index + 1) (ls.drop index) ∧
      (∀ p ∈ rs, Advances ls.length p.1 p.2) ∧ rs.length ≤ ls.length - index := by
  induction hleft : ls.length - index using Nat.strongRecOn generalizing index with
  | ind left ih =>
      rw [readings]
      cases hdrop : ls.drop index with
      | nil =>
          have hend : ¬ index < ls.length := Nat.not_lt.2 (List.drop_eq_nil_iff.1 hdrop)
          refine ⟨[], by rw [if_neg hend], ?_, nofun, Nat.zero_le _⟩
          rw [Document.readings]
          rfl
      | cons first rest =>
          have hbegin : index < ls.length := by
            by_contra hend
            rw [List.drop_of_length_le (Nat.not_lt.1 hend)] at hdrop
            cases hdrop
          obtain ⟨hread, hadvances⟩ := readAt_eq hdrop
          have hrest : ls.drop (index + (Document.readBlock (index + 1) first rest).taken) =
              rest.drop ((Document.readBlock (index + 1) first rest).taken - 1) := by
            rw [← List.drop_drop, hdrop, List.drop_cons (Nat.pos_of_lt_add_right hadvances.advances)]
          rw [Document.readings_cons, ← hrest]
          generalize Document.readBlock (index + 1) first rest = r at hread hadvances ⊢
          have hpos := hadvances.advances
          have hless : ls.length - (index + r.taken) < left := by omega
          obtain ⟨more, hmore, hsame, hall, hmany⟩ := ih _ hless (index + r.taken) rfl
          refine ⟨(index, r) :: more, ?_, ?_, List.forall_mem_cons.2 ⟨hadvances, hall⟩, ?_⟩
          · rw [if_pos hbegin, hread, ok_bind, hadvances.unguarded, hmore]
            rfl
          · rw [List.map_cons, hsame, Nat.add_right_comm]
          · rw [List.length_cons]
            omega

/-- Blocks and their positions are within the bounds that they are checked for. -/
theorem bounds_of_mem_blocks {text : String} {b : Block} (hb : b ∈ (Document.parse text).blocks) :
    1 ≤ b.line ∧ b.line ≤ b.endLine ∧ ∀ p ∈ b.positions, 1 ≤ p.line := by
  obtain ⟨k, first, rest, hdrop, hread⟩ := Document.exists_of_mem_blocks hb
  obtain ⟨hbegin, hend⟩ := span_of_claims (Document.readBlock_claims (1 + k) first rest) hread
  have hlocated : b.Located (lines text.toList) := by
    rcases Document.readBlock_kind hread with ⟨-, hdirective⟩ | hplain
    · exact Directive.located_of_read hdrop hdirective
    · exact hplain.located _
  refine ⟨by omega, hend, ?_⟩
  intro p hp
  have hwithin := hlocated.within p hp
  omega

/-- The reading of a text comes to an end without a fault, after no more readings than there are lines, and each reader
goes further by itself. -/
theorem parse_checked (text : String) :
    parse text = .ok (Document.parse text) ∧
      (∃ rs, readings (lines text.toList) 0 = .ok rs ∧ rs.length ≤ (lines text.toList).length ∧
        ∀ p ∈ rs, Advances (lines text.toList).length p.1 p.2) ∧
      ∀ b ∈ (Document.parse text).blocks, 1 ≤ b.line ∧ b.line ≤ b.endLine ∧ ∀ p ∈ b.positions, 1 ≤ p.line := by
  obtain ⟨rs, hread, hsame, hadvances, hmany⟩ := readings_eq (lines text.toList) 0
  rw [Nat.zero_add, List.drop_zero] at hsame
  refine ⟨?_, ⟨rs, hread, hmany, hadvances⟩, fun b hb => bounds_of_mem_blocks hb⟩
  rw [parse, Document.parse]
  by_cases hblank : blank text = true
  · rw [if_pos hblank, if_pos hblank]
  · have hblocks : rs.filterMap (·.2.block) = (Document.readings 1 (lines text.toList)).filterMap (·.block) := by
      rw [← hsame, List.filterMap_map]
      rfl
    have hproblems : rs.filterMap (·.2.problem) = (Document.readings 1 (lines text.toList)).filterMap (·.problem) := by
      rw [← hsame, List.filterMap_map]
      rfl
    rw [if_neg hblank, if_neg hblank, hread, ok_bind, hblocks, hproblems]
    rfl

/-- In front of the first line the same reader refuses a directive. -/
example : read 0 "@task hi".toList [] = .error (.badPosition [.lineBelowOne]) := by decide

end Checked

end Playbook

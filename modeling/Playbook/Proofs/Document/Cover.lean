import Playbook.Document.Parse
import Mathlib.Algebra.GroupWithZero.Nat
/-!
# Every line is claimed once

Each reader claims the lines from its first one on, as a block or as a problem, and the next reader begins
behind them. So the lines of the blocks and of the problems together are a tiling of all lines, whatever mix
of well-formed and malformed parts a document has. The readers enter only through `Reading.Claims`; the
rest is about tilings.
-/

namespace Playbook

open Text

/-! ### Intervals and tilings -/

/-- The lines from the first to the last, both included. -/
structure Interval where
  first : Nat
  last : Nat
deriving Repr, DecidableEq

namespace Interval

def size (i : Interval) : Nat := i.last + 1 - i.first

def startsBefore (i j : Interval) : Bool := i.first ≤ j.first

end Interval

/-- The intervals follow one upon another, without a gap, from `first` to the last line. -/
def Tiles (last : Nat) : (first : Nat) → List Interval → Prop
  | first, [] => first = last + 1
  | first, i :: rest => i.first = first ∧ i.first ≤ i.last ∧ Tiles last (i.last + 1) rest

namespace Tiles

variable {last first : Nat} {is : List Interval}

theorem first_le (h : Tiles last first is) {i : Interval} (hi : i ∈ is) : first ≤ i.first := by
  induction is generalizing first with
  | nil => cases hi
  | cons j rest ih =>
      obtain ⟨hfirst, hle, hrest⟩ := h
      rcases List.mem_cons.1 hi with rfl | hi
      · exact Nat.le_of_eq hfirst.symm
      · have := ih hrest hi
        omega

theorem first_le_last (h : Tiles last first is) {i : Interval} (hi : i ∈ is) : i.first ≤ i.last := by
  induction is generalizing first with
  | nil => cases hi
  | cons j rest ih =>
      obtain ⟨-, hle, hrest⟩ := h
      rcases List.mem_cons.1 hi with rfl | hi
      · exact hle
      · exact ih hrest hi

theorem increasing (h : Tiles last first is) : is.Pairwise fun i j => i.first < j.first := by
  induction is generalizing first with
  | nil => exact .nil
  | cons j rest ih =>
      obtain ⟨-, hle, hrest⟩ := h
      refine List.pairwise_cons.2 ⟨fun i hi => ?_, ih hrest⟩
      have := hrest.first_le hi
      omega

theorem eq_of_first_eq (h : Tiles last first is) {i j : Interval} (hi : i ∈ is) (hj : j ∈ is)
    (hij : i.first = j.first) : i = j := by
  induction is generalizing first with
  | nil => cases hi
  | cons k rest ih =>
      have hbefore := (List.pairwise_cons.1 h.increasing).1
      rcases List.mem_cons.1 hi with rfl | hi' <;> rcases List.mem_cons.1 hj with rfl | hj'
      · rfl
      · exact absurd hij (Nat.ne_of_lt (hbefore _ hj'))
      · exact absurd hij (Nat.ne_of_gt (hbefore _ hi'))
      · exact ih h.2.2 hi' hj'

/-- Together the intervals of a tiling have as many lines as there are. -/
theorem sum_size (h : Tiles last first is) : (is.map Interval.size).sum + first = last + 1 := by
  induction is generalizing first with
  | nil =>
      have : first = last + 1 := h
      simpa using this
  | cons j rest ih =>
      obtain ⟨hfirst, hle, hrest⟩ := h
      have := ih hrest
      simp only [List.map_cons, List.sum_cons, Interval.size]
      omega

theorem le_last_add_one (h : Tiles last first is) : first ≤ last + 1 := by
  have := h.sum_size
  omega

/-- No line is left out. -/
theorem exists_of_le (h : Tiles last first is) {n : Nat} (hfirst : first ≤ n) (hlast : n ≤ last) :
    ∃ i ∈ is, i.first ≤ n ∧ n ≤ i.last := by
  induction is generalizing first with
  | nil =>
      have : first = last + 1 := h
      omega
  | cons j rest ih =>
      obtain ⟨rfl, -, hrest⟩ := h
      by_cases hn : n ≤ j.last
      · exact ⟨j, List.mem_cons_self, hfirst, hn⟩
      · obtain ⟨i, hi, hwithin⟩ := ih hrest (by omega)
        exact ⟨i, List.mem_cons_of_mem j hi, hwithin⟩

/-- An interval that reaches the last line is the last one. -/
theorem getLast?_eq (h : Tiles last first is) {i : Interval} (hi : i ∈ is) (hlast : i.last = last) :
    is.getLast? = some i := by
  induction is generalizing first with
  | nil => cases hi
  | cons j rest ih =>
      obtain ⟨-, hle, hrest⟩ := h
      cases rest with
      | nil =>
          obtain rfl : i = j := by simpa using hi
          rfl
      | cons k rest =>
          rw [List.getLast?_cons_cons]
          refine ih hrest ?_
          rcases List.mem_cons.1 hi with rfl | hi
          · obtain ⟨hk, hk', hrest⟩ := hrest
            have := hrest.le_last_add_one
            omega
          · exact hi

end Tiles

/-! ### Intervals of a document -/

def Block.interval (b : Block) : Interval := ⟨b.line, b.endLine⟩

namespace Problem

def lineNumber (p : Problem) : Nat := (p.line.getD 0).toNat

/-- A bad directive claims its line, an open fence all lines from its own to the last one. -/
def interval (last : Nat) (p : Problem) : Interval :=
  ⟨p.lineNumber, if p.code = openFenceCode then last else p.lineNumber⟩

end Problem

/-- What the blocks and problems of a document claim, in the order of the lines. -/
def Document.intervals (d : Document) (last : Nat) : List Interval :=
  (d.blocks.map Block.interval ++ d.problems.map (Problem.interval last)).mergeSort Interval.startsBefore

/-! ### What a reading claims -/

/-- A problem that a reader found on a line. -/
def Problem.IsFound (p : Problem) : Prop :=
  p.line = some (p.lineNumber : Int) ∧ p.isCritical ∧ (p.code = badDirectiveCode ∨ p.code = openFenceCode)

namespace Reading

/-- What the reading claims if the document ends at a line. -/
def interval (last : Nat) : Reading → Interval
  | ⟨some b, _, _⟩ => b.interval
  | ⟨none, some p, _⟩ => p.interval last
  | ⟨none, none, _⟩ => ⟨0, 0⟩

/-- The reading is a block or a problem, and claims the lines that it takes from `line` on. -/
structure Claims (r : Reading) (line last : Nat) : Prop where
  taken_pos : 0 < r.taken
  taken_le : line + r.taken ≤ last + 1
  interval_eq : r.interval last = ⟨line, line + r.taken - 1⟩
  is_one : (∃ b, r.block = some b ∧ r.problem = none) ∨ ∃ p, r.block = none ∧ r.problem = some p ∧ p.IsFound

end Reading

theorem Problem.isFound_badDirective (line : Nat) (text : List Char) : (Problem.badDirective line text).IsFound :=
  ⟨by simp [badDirective, lineNumber], rfl, .inl rfl⟩

theorem Problem.isFound_openFence (line : Nat) (text : List Char) : (Problem.openFence line text).IsFound :=
  ⟨by simp [openFence, lineNumber], rfl, .inr rfl⟩

/-! ### The readers -/

section Readers

variable (line : Nat) (first : Line) (rest : List Line)

theorem Directive.read_claims : (Directive.read line first rest).Claims line (line + rest.length) := by
  unfold Directive.read
  split
  · refine ⟨Nat.one_pos, by simp, ?_, .inr ⟨_, rfl, rfl, Problem.isFound_badDirective ..⟩⟩
    simp [Reading.interval, Problem.interval, Problem.lineNumber, Problem.badDirective, Problem.badDirectiveCode,
      Problem.openFenceCode]
  · rename_i h _
    have hmore : (if isBlank h.trailing then rest.takeWhile isFlagLine else []).length ≤ rest.length := by
      split
      · exact (List.takeWhile_sublist _).length_le
      · exact Nat.zero_le _
    refine ⟨by simp only; omega, by simp only; omega, ?_, .inl ⟨_, rfl, rfl⟩⟩
    simp only [Reading.interval, Block.interval, Interval.mk.injEq, true_and]
    omega

theorem Comment.upToClose_le : ∀ lines : List Line, (Comment.upToClose lines).2 ≤ lines.length
  | [] => Nat.le_refl _
  | line :: rest => by
      have := upToClose_le rest
      unfold upToClose
      split
      · simp
      · simp only [List.length_cons]
        omega

theorem Comment.read_claims : (Comment.read line first rest).Claims line (line + rest.length) := by
  unfold Comment.read
  split
  · exact ⟨Nat.one_pos, by simp, by simp [Reading.interval, Block.interval, block], .inl ⟨_, rfl, rfl⟩⟩
  split
  · exact ⟨Nat.one_pos, by simp, by simp [Reading.interval, Block.interval, block], .inl ⟨_, rfl, rfl⟩⟩
  · have hmore := Comment.upToClose_le rest
    refine ⟨by simp only; omega, by simp only; omega, ?_, .inl ⟨_, rfl, rfl⟩⟩
    simp only [Reading.interval, Block.interval, block, Interval.mk.injEq, true_and]
    omega

theorem Fence.read_claims : (Fence.read line first rest).Claims line (line + rest.length) := by
  have hbody : (rest.takeWhile (!isClose ·)).length ≤ rest.length := (List.takeWhile_sublist _).length_le
  simp only [Fence.read]
  split
  · refine ⟨by simp, by simp only; omega, ?_, .inl ⟨_, rfl, rfl⟩⟩
    simp only [Reading.interval, Block.interval, Interval.mk.injEq, true_and]
    omega
  · refine ⟨by simp, by simp only; omega, ?_, .inr ⟨_, rfl, rfl, Problem.isFound_openFence ..⟩⟩
    simp only [Reading.interval, Problem.interval, Problem.lineNumber, Problem.openFence, if_true, Option.getD_some,
      Int.toNat_natCast, Interval.mk.injEq, true_and]
    omega

theorem Document.readText_claims : (Document.readText line first rest).Claims line (line + rest.length) := by
  have hmore : (rest.takeWhile (!isSpecial ·)).length ≤ rest.length := (List.takeWhile_sublist _).length_le
  unfold Document.readText
  refine ⟨by simp only; omega, by simp only; omega, ?_, .inl ⟨_, rfl, rfl⟩⟩
  simp only [Reading.interval, Block.interval, Interval.mk.injEq, true_and]
  omega

theorem Document.readBlock_claims : (Document.readBlock line first rest).Claims line (line + rest.length) := by
  unfold Document.readBlock
  split
  · exact Directive.read_claims line first rest
  split
  · exact Comment.read_claims line first rest
  split
  · exact Fence.read_claims line first rest
  · exact Document.readText_claims line first rest

end Readers

/-! ### The readings of a document -/

namespace Document

theorem readings_cons (line : Nat) (first : Line) (rest : List Line) :
    readings line (first :: rest) = readBlock line first rest ::
      readings (line + (readBlock line first rest).taken) (rest.drop ((readBlock line first rest).taken - 1)) := by
  rw [readings]

/-- The readings tile the lines, and each is a block or a problem. -/
theorem tiles_readings (line last : Nat) (lines : List Line) (hlast : last + 1 = line + lines.length) :
    Tiles last line ((readings line lines).map (Reading.interval last)) ∧
      ∀ r ∈ readings line lines, ∃ l, r.Claims l last := by
  induction hn : lines.length using Nat.strongRecOn generalizing line lines with
  | ind n ih =>
      cases lines with
      | nil =>
          rw [readings]
          exact ⟨by simpa [Tiles] using hlast.symm, by simp⟩
      | cons first rest =>
          have hclaims := readBlock_claims line first rest
          have hend : line + rest.length = last := by
            simp only [List.length_cons] at hlast
            omega
          rw [hend] at hclaims
          have hpos := hclaims.taken_pos
          have hle := hclaims.taken_le
          rw [readings_cons]
          generalize readBlock line first rest = r at hclaims hpos hle ⊢
          have htail := ih (rest.drop (r.taken - 1)).length (by simp at hn ⊢; omega) (line + r.taken)
            (rest.drop (r.taken - 1)) (by simp only [List.length_drop]; omega) rfl
          refine ⟨?_, List.forall_mem_cons.2 ⟨⟨line, hclaims⟩, htail.2⟩⟩
          rw [List.map_cons, hclaims.interval_eq]
          refine ⟨rfl, by simp only; omega, ?_⟩
          have hnext : line + r.taken - 1 + 1 = line + r.taken := by omega
          simp only [hnext]
          exact htail.1

end Document

/-! ### From readings to blocks and problems -/

section Split

variable {last : Nat} {rs : List Reading}

/-- The intervals of the blocks and those of the problems are the intervals of the readings. -/
theorem intervals_perm (h : ∀ r ∈ rs, ∃ l, r.Claims l last) :
    ((rs.filterMap (·.block)).map Block.interval ++ (rs.filterMap (·.problem)).map (Problem.interval last)).Perm
      (rs.map (Reading.interval last)) := by
  induction rs with
  | nil => exact .refl _
  | cons r rs ih =>
      obtain ⟨⟨l, hr⟩, hrs⟩ := List.forall_mem_cons.1 h
      rcases r with ⟨block, problem, taken⟩
      rcases hr.is_one with ⟨b, rfl, rfl⟩ | ⟨p, rfl, rfl, -⟩
      · exact (ih hrs).cons _
      · exact List.perm_middle.trans ((ih hrs).cons _)

theorem blockIntervals_sublist (h : ∀ r ∈ rs, ∃ l, r.Claims l last) :
    ((rs.filterMap (·.block)).map Block.interval).Sublist (rs.map (Reading.interval last)) := by
  induction rs with
  | nil => exact .slnil
  | cons r rs ih =>
      obtain ⟨⟨l, hr⟩, hrs⟩ := List.forall_mem_cons.1 h
      rcases r with ⟨block, problem, taken⟩
      rcases hr.is_one with ⟨b, rfl, rfl⟩ | ⟨p, rfl, rfl, -⟩
      · exact (ih hrs).cons_cons _
      · exact (ih hrs).cons _

theorem problemIntervals_sublist (h : ∀ r ∈ rs, ∃ l, r.Claims l last) :
    ((rs.filterMap (·.problem)).map (Problem.interval last)).Sublist (rs.map (Reading.interval last)) := by
  induction rs with
  | nil => exact .slnil
  | cons r rs ih =>
      obtain ⟨⟨l, hr⟩, hrs⟩ := List.forall_mem_cons.1 h
      rcases r with ⟨block, problem, taken⟩
      rcases hr.is_one with ⟨b, rfl, rfl⟩ | ⟨p, rfl, rfl, -⟩
      · exact (ih hrs).cons _
      · exact (ih hrs).cons_cons _

theorem isFound_of_mem (h : ∀ r ∈ rs, ∃ l, r.Claims l last) {p : Problem} (hp : p ∈ rs.filterMap (·.problem)) :
    p.IsFound := by
  obtain ⟨r, hr, hrp⟩ := List.mem_filterMap.1 hp
  obtain ⟨l, hclaims⟩ := h r hr
  rcases hclaims.is_one with ⟨b, -, hnone⟩ | ⟨q, -, hq, hfound⟩
  · rw [hnone] at hrp
    cases hrp
  · rw [hq] at hrp
    cases hrp
    exact hfound

end Split

namespace Interval

theorem startsBefore_trans (i j k : Interval) : i.startsBefore j → j.startsBefore k → i.startsBefore k := by
  simp only [startsBefore, decide_eq_true_eq]
  omega

theorem startsBefore_total (i j : Interval) : i.startsBefore j || j.startsBefore i := by
  simp only [startsBefore, Bool.or_eq_true, decide_eq_true_eq]
  omega

/-- Sorting finds the tiling in any order of its intervals. -/
theorem mergeSort_eq_of_tiles {last first : Nat} {is js : List Interval} (hperm : is.Perm js)
    (htiles : Tiles last first js) : is.mergeSort startsBefore = js := by
  have hsorted : (is.mergeSort startsBefore).Pairwise fun i j => i.startsBefore j :=
    List.pairwise_mergeSort startsBefore_trans startsBefore_total is
  have hjs : js.Pairwise fun i j => i.startsBefore j :=
    htiles.increasing.imp fun h => by simpa [startsBefore] using Nat.le_of_lt h
  refine List.Perm.eq_of_pairwise ?_ hsorted hjs ((List.mergeSort_perm is _).trans hperm)
  intro i j hi hj hij hji
  have hfirst : i.first = j.first := by
    simp only [startsBefore, decide_eq_true_eq] at hij hji
    omega
  exact htiles.eq_of_first_eq (hperm.mem_iff.1 (List.mem_mergeSort.1 hi)) hj hfirst

end Interval

/-! ### Documents -/

namespace Document

/-- Blocks and problems claim each of `n` lines once: a bad directive its own line, an open fence all lines that
are left. -/
structure Covers (d : Document) (n : Nat) : Prop where
  tiles : Tiles n 1 (d.intervals n)
  blocks_increase : d.blocks.Pairwise fun b c => b.line < c.line
  problems_increase : d.problems.Pairwise fun p q => p.lineNumber < q.lineNumber
  problems_found : ∀ p ∈ d.problems, p.IsFound
  openFence_unique : (d.problems.filter (·.code = Problem.openFenceCode)).length ≤ 1
  openFence_last : ∀ p ∈ d.problems, p.code = Problem.openFenceCode → (d.intervals n).getLast? = some (p.interval n)
  executable : d.isExecutable = true ↔ Tiles n 1 (d.blocks.map Block.interval)

/-- An open fence claims up to the last line, so there is no room for a second one. -/
theorem openFences_le_one {n : Nat} {ps : List Problem} (hinc : ps.Pairwise fun p q => p.lineNumber < q.lineNumber)
    {is : List Interval} (hlast : ∀ p ∈ ps, p.code = Problem.openFenceCode → is.getLast? = some (p.interval n)) :
    (ps.filter (·.code = Problem.openFenceCode)).length ≤ 1 := by
  have hfilter := hinc.filter (·.code = Problem.openFenceCode)
  have hmem : ∀ p ∈ ps.filter (·.code = Problem.openFenceCode), is.getLast? = some (p.interval n) := fun p hp =>
    hlast p (List.mem_filter.1 hp).1 (by simpa using (List.mem_filter.1 hp).2)
  generalize ps.filter (·.code = Problem.openFenceCode) = fences at hfilter hmem ⊢
  match fences with
  | [] | [_] => simp
  | p :: q :: more =>
      have hlt := (List.pairwise_cons.1 hfilter).1 q (by simp)
      have hsame : p.interval n = q.interval n :=
        Option.some.inj ((hmem p (by simp)).symm.trans (hmem q (by simp)))
      have : p.lineNumber = q.lineNumber := congrArg Interval.first hsame
      omega

theorem isExecutable_iff {d : Document} (hfound : ∀ p ∈ d.problems, p.IsFound) :
    d.isExecutable = true ↔ d.problems = [] := by
  rw [isExecutable, criticalProblems, List.isEmpty_iff, List.filter_eq_nil_iff]
  refine ⟨fun h => List.eq_nil_iff_forall_not_mem.2 fun p hp => h p hp (hfound p hp).2.1, fun h => ?_⟩
  rw [h]
  simp

theorem ofLines_covers (lines : List Line) : (ofLines 1 lines).Covers lines.length := by
  obtain ⟨htiles, hclaims⟩ := tiles_readings 1 lines.length lines (Nat.add_comm ..)
  have hperm := intervals_perm hclaims
  have hintervals : (ofLines 1 lines).intervals lines.length =
      (readings 1 lines).map (Reading.interval lines.length) :=
    Interval.mergeSort_eq_of_tiles hperm htiles
  have hfound : ∀ p ∈ (ofLines 1 lines).problems, p.IsFound := fun p => isFound_of_mem hclaims
  have hblocks := htiles.increasing.sublist (blockIntervals_sublist hclaims)
  have hproblems : (ofLines 1 lines).problems.Pairwise fun p q => p.lineNumber < q.lineNumber := by
    have hincreasing := htiles.increasing.sublist (problemIntervals_sublist hclaims)
    rwa [List.pairwise_map] at hincreasing
  have hlast : ∀ p ∈ (ofLines 1 lines).problems, p.code = Problem.openFenceCode →
      ((ofLines 1 lines).intervals lines.length).getLast? = some (p.interval lines.length) := by
    intro p hp hcode
    rw [hintervals]
    refine htiles.getLast?_eq (hperm.mem_iff.1 (List.mem_append_right _ (List.mem_map_of_mem hp))) ?_
    simp only [Problem.interval, hcode, if_true]
  refine ⟨hintervals ▸ htiles, by rwa [List.pairwise_map] at hblocks, hproblems, hfound,
    openFences_le_one hproblems hlast, hlast, ?_⟩
  rw [isExecutable_iff hfound]
  constructor
  · intro hnone
    have hall := hintervals ▸ htiles
    rwa [intervals, hnone, List.map_nil, List.append_nil, List.mergeSort_of_pairwise] at hall
    exact hblocks.imp fun h => by simpa [Interval.startsBefore] using Nat.le_of_lt h
  · intro hcover
    -- The blocks alone have as many lines as blocks and problems have together.
    have hsize := hcover.sum_size
    have htotal := htiles.sum_size
    rw [← (hperm.map Interval.size).sum_nat, List.map_append, List.sum_append] at htotal
    rw [List.eq_nil_iff_forall_not_mem]
    intro p hp
    have hmem : p.interval lines.length ∈ (ofLines 1 lines).problems.map (Problem.interval lines.length) :=
      List.mem_map_of_mem hp
    have hle := htiles.first_le_last (hperm.mem_iff.1 (List.mem_append_right _ hmem))
    have hsum := List.sum_pos_iff_exists_pos_nat.2 ⟨_, List.mem_map_of_mem (f := Interval.size) hmem, by
      simp only [Interval.size]
      omega⟩
    simp only [ofLines] at *
    omega

/-- Every line of a text that is not blank belongs to one block or one problem, and a blank text has neither. -/
theorem parse_covers (text : String) :
    if blank text then parse text = empty else (parse text).Covers (lines text.toList).length := by
  unfold parse
  split
  · rfl
  · exact ofLines_covers _

end Document

end Playbook

import Playbook.Proofs.Document.Readings
import Playbook.Proofs.Document.Tokens
import Playbook.Proofs.Text.Lines
import Mathlib.Data.List.Forall2
import Mathlib.Data.List.Infix
/-!
# Positions point at what they are positions of

A directive is read from trimmed lines, and its columns are counted from the margins that trimming took away. Each of
them leads back to the line of the document: to the name with its sign, to a flag with its dashes, to a value with or
without its quotes.
-/

namespace Playbook

open Text

/-! ### Slices of the lines -/

/-- What stands at a position of the lines, if all of it lies inside one of them. -/
def slice? (ls : List Line) (p : Position) : Option (List Char) :=
  if p.line = 0 then none
  else ls[p.line - 1]?.bind fun text =>
    if p.start + p.length ≤ text.length then some ((text.drop p.start).take p.length) else none

theorem slice?_eq_some {ls : List Line} {k start length : Nat} {text : Line} {cs : List Char}
    (hline : ls[k]? = some text) (hcs : cs <+: text.drop start) (hlength : cs.length = length) (hpos : 0 < length) :
    slice? ls ⟨1 + k, start, length⟩ = some cs := by
  have hbound : start + length ≤ text.length := by
    have := hcs.length_le
    rw [List.length_drop] at this
    omega
  rw [slice?, if_neg (by simp), Nat.add_sub_cancel_left, hline, Option.bind_some, if_pos hbound, ← hlength,
    ← List.prefix_iff_eq_take.1 hcs]

/-- What stands in lines without line ends has none either. -/
theorem inLine_of_slice? {ls : List Line} (hls : ∀ line ∈ ls, '\n' ∉ line) {p : Position} {cs : List Char}
    (h : slice? ls p = some cs) : '\n' ∉ cs := by
  unfold slice? at h
  split at h
  · cases h
  · obtain ⟨line, hline, hcs⟩ := Option.bind_eq_some_iff.1 h
    split at hcs
    · cases hcs
      exact fun hmem => hls line (List.mem_of_getElem? hline) (List.mem_of_mem_drop (List.mem_of_mem_take hmem))
    · cases hcs

theorem getElem?_of_drop {α : Type} {xs rest : List α} {k : Nat} {x : α} (h : xs.drop k = x :: rest) :
    xs[k]? = some x := by
  rw [← Nat.add_zero k, ← List.getElem?_drop, h]
  rfl

/-- One stretch of a text behind another one that stands in it. -/
theorem isPrefix_drop_add {cs ds text : List Char} {m n : Nat} (hcs : cs <+: text.drop m) (hds : ds <+: cs.drop n) :
    ds <+: text.drop (m + n) := by
  rw [← List.drop_drop]
  exact hds.trans (hcs.drop n)

/-! ### Order of positions -/

/-- The first stands on an earlier line, or ends before the second begins. -/
def Position.Before (p q : Position) : Prop :=
  p.line < q.line ∨ p.line = q.line ∧ p.start < q.start ∧ p.start + p.length ≤ q.start

/-- The positions that a flag carries, in the order of the text. -/
def Flag.positions (f : Flag) : List Position := f.position.toList ++ f.valuePositions

/-- The positions that a block carries, in the order of the text. -/
def Block.positions (b : Block) : List Position := b.position.toList ++ b.flags.flatMap Flag.positions

/-! ### What positions promise -/

/-- The positions of a flag point at its name and at each of its values, in quotes or without. -/
structure Flag.Located (ls : List Line) (f : Flag) : Prop where
  position_isSome : f.isPositional = false → f.position.isSome = true
  name_slice : ∀ p ∈ f.position, slice? ls p = some ('-' :: '-' :: f.name.toList)
  value_slices : List.Forall₂
    (fun value p => slice? ls p = some value.toList ∨ slice? ls p = some ('"' :: value.toList ++ ['"']))
    f.values f.valuePositions

/-- The positions of a block point at its name and into its flags, one behind the other on the lines of the block. -/
structure Block.Located (ls : List Line) (b : Block) : Prop where
  position_isSome : b.isDirective = true → b.position.isSome = true
  name_slice : ∀ p ∈ b.position, slice? ls p = some ('@' :: b.name.toList)
  flags : ∀ f ∈ b.flags, f.Located ls
  increasing : b.positions.Pairwise Position.Before
  within : ∀ p ∈ b.positions, b.line ≤ p.line ∧ p.line ≤ b.endLine

/-! ### Flags -/

/-- The place of a token of a text that begins at a column of a line. -/
def Token.placeAt (line column : Nat) (t : Token) : Position := ⟨line, column + t.start, t.length⟩

namespace FlagTokens

theorem positions_placed (line column : Nat) (f : FlagTokens) :
    (f.placed line column).positions = f.tokens.map (·.placeAt line column) := by
  cases f with
  | mk head values => cases head <;> simp [Flag.positions, placed, flag, tokens, Token.placeAt]

theorem positions_flatMap_placed (line column : Nat) (fs : List FlagTokens) :
    (fs.map (·.placed line column)).flatMap Flag.positions =
      (fs.flatMap tokens).map (·.placeAt line column) := by
  rw [List.flatMap_map, List.map_flatMap]
  simp only [positions_placed]

/-- The positions of flags whose tokens are tokens of one text are in order. -/
theorem placed_increasing {line column : Nat} {cs : List Char} {fs : List FlagTokens}
    (htokens : (fs.flatMap tokens).Sublist (Token.scan cs)) :
    ((fs.map (·.placed line column)).flatMap Flag.positions).Pairwise Position.Before := by
  rw [positions_flatMap_placed]
  refine ((List.Pairwise.and_mem.1 (Token.scanFrom_pairwise 0 cs)).sublist htokens).map _ ?_
  rintro t u ⟨ht, -, htu⟩
  have hpos := (Token.standsIn_of_mem_scanFrom ht).pos
  exact .inr ⟨rfl, by simp only [Token.placeAt]; omega, by simp only [Token.placeAt]; omega⟩

section Line

variable {ls : List Line} {k column : Nat} {text : Line} {cs : List Char}

theorem slice?_placeAt (hline : ls[k]? = some text) (hcs : cs <+: text.drop column) {t : Token}
    (ht : t ∈ Token.scan cs) : slice? ls (t.placeAt (1 + k) column) = some t.source := by
  obtain ⟨-, hsource, hlength, hpos⟩ := Token.standsIn_of_mem_scanFrom ht
  rw [Nat.sub_zero] at hsource
  exact slice?_eq_some hline (isPrefix_drop_add hcs hsource) hlength hpos

/-- A flag whose tokens were cut out of a stretch of a line. -/
theorem located_placed (hline : ls[k]? = some text) (hcs : cs <+: text.drop column) {f : FlagTokens}
    (htokens : ∀ t ∈ f.tokens, t ∈ Token.scan cs) (hheaded : f.IsHeaded) : (f.placed (1 + k) column).Located ls := by
  obtain ⟨head, values⟩ := f
  refine ⟨?_, ?_, ?_⟩
  · intro hnamed
    cases head with
    | none => simp [placed, flag, Flag.isPositional] at hnamed
    | some head => rfl
  · intro p hp
    cases head with
    | none => cases hp
    | some head =>
        obtain ⟨t, name⟩ := head
        cases hp
        have hslice := slice?_placeAt hline hcs (htokens t (by simp [tokens]))
        rw [Token.source_of_flagName? (hheaded t name rfl)] at hslice
        simpa [placed, flag, Token.placeAt] using hslice
  · have hvalues : (placed (1 + k) column ⟨head, values⟩).valuePositions = values.map (·.placeAt (1 + k) column) := by
      simp [placed, flag, Token.placeAt]
    rw [hvalues]
    simp only [placed, flag, List.forall₂_map_left_iff, List.forall₂_map_right_iff, List.forall₂_same]
    intro t ht
    rw [slice?_placeAt hline hcs (htokens t (by simp [tokens, ht])), Token.source, String.toList_ofList]
    cases t.isQuoted with
    | true => exact .inr rfl
    | false => exact .inl rfl

end Line

end FlagTokens

/-! ### Directives -/

namespace Directive

/-- Flags that point at what they hold, in order, on the lines from the first to the last. -/
structure FlagsLocated (ls : List Line) (first last : Nat) (flags : List Flag) : Prop where
  located : ∀ f ∈ flags, f.Located ls
  increasing : (flags.flatMap Flag.positions).Pairwise Position.Before
  within : ∀ p ∈ flags.flatMap Flag.positions, first ≤ p.line ∧ p.line ≤ last

theorem FlagsLocated.nil (ls : List Line) (first last : Nat) : FlagsLocated ls first last [] :=
  ⟨by simp, .nil, by simp⟩

/-- Flags of some lines and flags of lines below them. -/
theorem FlagsLocated.append {ls : List Line} {first middle last : Nat} {fs gs : List Flag}
    (hfs : FlagsLocated ls first middle fs) (hgs : FlagsLocated ls (middle + 1) last gs) (hfirst : first ≤ middle + 1)
    (hlast : middle ≤ last) : FlagsLocated ls first last (fs ++ gs) := by
  refine ⟨?_, ?_, ?_⟩
  · intro f hf
    exact (List.mem_append.1 hf).elim (hfs.located f) (hgs.located f)
  · rw [List.flatMap_append, List.pairwise_append]
    refine ⟨hfs.increasing, hgs.increasing, fun p hp q hq => .inl ?_⟩
    have hp := hfs.within p hp
    have hq := hgs.within q hq
    omega
  · intro p hp
    rw [List.flatMap_append, List.mem_append] at hp
    rcases hp with hp | hp
    · have := hfs.within p hp
      omega
    · have := hgs.within p hp
      omega

section Lines

variable {ls : List Line} {k column : Nat} {text : Line}

/-- The flags that were cut out of a stretch of one line. -/
theorem flagsLocated_placed (hline : ls[k]? = some text) {cs : List Char} (hcs : cs <+: text.drop column)
    {fs : List FlagTokens} (htokens : (fs.flatMap FlagTokens.tokens).Sublist (Token.scan cs))
    (hheaded : ∀ f ∈ fs, f.IsHeaded) :
    FlagsLocated ls (1 + k) (1 + k) (fs.map (·.placed (1 + k) column)) := by
  refine ⟨?_, FlagTokens.placed_increasing htokens, ?_⟩
  · intro flag hflag
    obtain ⟨f, hf, rfl⟩ := List.mem_map.1 hflag
    exact FlagTokens.located_placed hline hcs (fun t ht => htokens.subset (List.mem_flatMap.2 ⟨f, hf, ht⟩))
      (hheaded f hf)
  · intro p hp
    rw [FlagTokens.positions_flatMap_placed] at hp
    obtain ⟨t, -, rfl⟩ := List.mem_map.1 hp
    exact ⟨Nat.le_refl _, Nat.le_refl _⟩

theorem lineFlags_located (hline : ls[k]? = some text) : FlagsLocated ls (1 + k) (1 + k) (lineFlags (1 + k) text) :=
  flagsLocated_placed hline (trim_isPrefix text) (FlagTokens.named_tokens_sublist _)
    fun _ => FlagTokens.isHeaded_of_mem_split

/-- The flags of the lines from `k` on, by induction on those lines. -/
theorem linesFlags_located {texts : List Line} (htexts : texts <+: ls.drop k) :
    FlagsLocated ls (1 + k) (k + texts.length) (linesFlags (1 + k) texts) := by
  induction texts generalizing k with
  | nil => exact .nil ls _ _
  | cons text texts ih =>
      obtain ⟨behind, hbehind⟩ := htexts
      have hline : ls[k]? = some text := getElem?_of_drop hbehind.symm
      have hmore : texts <+: ls.drop (k + 1) := by
        rw [← List.drop_drop, ← hbehind]
        exact List.prefix_append _ _
      have hrest := ih hmore
      rw [← Nat.add_assoc] at hrest
      rw [linesFlags, List.length_cons]
      have hplace : k + (texts.length + 1) = k + 1 + texts.length := by omega
      rw [hplace]
      exact (lineFlags_located hline).append hrest (by omega) (by omega)

end Lines

/-- A trimmed line with a header is the sign, the name and what follows it. -/
theorem eq_of_header? {cs : List Char} {h : Header} (hheader : header? cs = some h) :
    cs = '@' :: h.name ++ h.trailing := by
  unfold header? at hheader
  split at hheader
  · split at hheader
    · cases hheader
      simp [List.takeWhile_append_dropWhile]
    · cases hheader
  · cases hheader

section Read

variable {ls : List Line} {k : Nat} {first : Line} {rest : List Line}

theorem trailing_isPrefix {h : Header} (hheader : header? (trim first) = some h) :
    h.trailing <+: first.drop (indent first + h.name.length + 1) := by
  have htrailing : h.trailing <+: (trim first).drop (h.name.length + 1) := by
    rw [eq_of_header? hheader, ← List.length_cons, List.drop_left]
  rw [Nat.add_assoc (indent first)]
  exact isPrefix_drop_add (trim_isPrefix first) htrailing

theorem trailingFlags_located (hline : ls[k]? = some first) {h : Header} (hheader : header? (trim first) = some h) :
    FlagsLocated ls (1 + k) (1 + k) (trailingFlags (1 + k) first h) := by
  refine flagsLocated_placed hline ?_ (FlagTokens.ofText_tokens_sublist _) fun _ => FlagTokens.isHeaded_of_mem_ofText
  exact isPrefix_drop_add (trailing_isPrefix hheader) (trim_isPrefix h.trailing)

theorem name_slice (hline : ls[k]? = some first) {h : Header} (hheader : header? (trim first) = some h) :
    slice? ls ⟨1 + k, indent first, h.name.length + 1⟩ = some ('@' :: h.name) := by
  refine slice?_eq_some hline ?_ (List.length_cons) (Nat.succ_pos _)
  have hname : '@' :: h.name <+: trim first := by
    rw [eq_of_header? hheader]
    exact List.prefix_append _ _
  exact hname.trans (trim_isPrefix first)

theorem name_before_trailing {line : Nat} {h : Header} {p : Position}
    (hp : p ∈ (trailingFlags line first h).flatMap Flag.positions) :
    Position.Before ⟨line, indent first, h.name.length + 1⟩ p := by
  rw [trailingFlags, FlagTokens.positions_flatMap_placed] at hp
  obtain ⟨t, -, rfl⟩ := List.mem_map.1 hp
  exact .inr ⟨rfl, by simp only [Token.placeAt]; omega, by simp only [Token.placeAt]; omega⟩

/-- The flags of a directive, on its own line or on those below it. -/
theorem flags_located (hlines : ls.drop k = first :: rest) {h : Header} (hheader : header? (trim first) = some h) :
    FlagsLocated ls (1 + k) (1 + k + (below h rest).length) (block (1 + k) first h (below h rest)).flags ∧
      ∀ p ∈ (block (1 + k) first h (below h rest)).flags.flatMap Flag.positions,
        Position.Before ⟨1 + k, indent first, h.name.length + 1⟩ p := by
  have hline := getElem?_of_drop hlines
  dsimp only [block]
  split
  · have hbelow : below h rest <+: ls.drop (k + 1) := by
      rw [← List.drop_drop, hlines]
      exact below_isPrefix h rest
    have hlocated := linesFlags_located hbelow
    have hplace : k + 1 + (below h rest).length = 1 + k + (below h rest).length := by omega
    rw [← Nat.add_assoc, hplace] at hlocated
    refine ⟨(FlagsLocated.nil ls _ _).append hlocated (by omega) (by omega), fun p hp => .inl ?_⟩
    exact (hlocated.within p hp).1
  · rename_i hvisible
    rw [below_of_visible hvisible]
    exact ⟨trailingFlags_located hline hheader, fun p hp => name_before_trailing hp⟩

theorem located_of_read (hlines : ls.drop k = first :: rest) {b : Block}
    (hread : (read (1 + k) first rest).block = some b) : b.Located ls := by
  have hline := getElem?_of_drop hlines
  obtain ⟨h, hheader, rfl⟩ := exists_header_of_read hread
  obtain ⟨hflags, hbefore⟩ := flags_located hlines hheader
  refine ⟨fun _ => rfl, ?_, hflags.located, ?_, ?_⟩
  · intro p hp
    cases hp
    rw [block, String.toList_ofList]
    exact name_slice hline hheader
  · exact List.pairwise_cons.2 ⟨hbefore, hflags.increasing⟩
  · intro p hp
    rcases List.mem_cons.1 hp with rfl | hp
    · exact ⟨Nat.le_refl _, Nat.le_add_right _ _⟩
    · exact hflags.within p hp

end Read

end Directive

/-! ### Documents -/

theorem Block.IsPlain.located {b : Block} (h : b.IsPlain) (ls : List Line) : b.Located ls := by
  obtain ⟨hname, hposition, hflags⟩ := h
  refine ⟨?_, ?_, ?_, ?_, ?_⟩
  · intro hdirective
    simp [isDirective, hname] at hdirective
  all_goals simp [positions, hposition, hflags]

/-- Every position in a document points at the text that it is the position of. -/
theorem Document.parse_located (text : String) (b : Block) (h : b ∈ (parse text).blocks) :
    b.Located (lines text.toList) := by
  obtain ⟨k, first, rest, hlines, hread⟩ := exists_of_mem_blocks h
  rcases readBlock_kind hread with ⟨-, hdirective⟩ | hplain
  · exact Directive.located_of_read hlines hdirective
  · exact hplain.located _

/-- A flag below the name that it belongs to, both behind margins of their own. -/
theorem Document.parse_located_task :
    let text := "\t@task\n  --prompt \"a b\" c\n"
    let prompt : Flag := ⟨"prompt", ["a b", "c"], some ⟨2, 2, 8⟩, [⟨2, 11, 5⟩, ⟨2, 17, 1⟩]⟩
    let task : Block := ⟨"task", [prompt], "@task\n--prompt \"a b\" c", 1, 2, some ⟨1, 1, 5⟩, none⟩
    task ∈ (parse text).blocks ∧ task.Located (lines text.toList) := by
  intro text prompt task
  have htask : task ∈ (parse text).blocks := by decide +kernel
  exact ⟨htask, parse_located text task htask⟩

end Playbook

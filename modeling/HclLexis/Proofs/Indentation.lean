import HclLexis.Proofs.HeredocLines
import HclLexis.Proofs.HeredocPairs

/-! The indentation that a closing line reports, the smallest among the lines of text that the
heredoc's own body has. Lines that start inside a sequence of the body, in a heredoc there too, are
not its own. -/

namespace HclLexis

namespace Text

def physicalLine (t : Text) : Text := t.takeWhile (· != '\n')

def textIndent? (line : Text) : Option Nat :=
  if line.any fun c => c != ' ' && c != '\t' && c != '\r' then
    some (line.takeWhile isIndent).length
  else none

theorem textIndent?_eq (line : Text) : line.textIndent? =
    if Heredoc.isBlankLine line then none else some (line.takeWhile isIndent).length := by
  have holds : (line.any fun c => c != ' ' && c != '\t' && c != '\r') =
      !Heredoc.isBlankLine line := by
    simp [Heredoc.isBlankLine, isIndent, List.not_all_eq_any_not, bne, Bool.not_or]
  rw [textIndent?, holds]
  cases Heredoc.isBlankLine line <;> rfl

theorem textIndent?_return (line : Text) : textIndent? (line ++ ['\r']) = line.textIndent? := by
  have blank : Heredoc.isBlankLine (line ++ ['\r']) = Heredoc.isBlankLine line := by
    simp [Heredoc.isBlankLine]
  rw [textIndent?_eq, textIndent?_eq, blank, takeWhile_append_cons_stop rfl]

theorem textIndent?_physicalLine (t : Text) : t.physicalLine.textIndent? = t.line.textIndent? := by
  rw [line, ← physicalLine]
  split
  · rename_i last
    obtain ⟨trimmed, same⟩ := List.getLast?_eq_some_iff.mp last
    rw [same, List.dropLast_concat, textIndent?_return]
  · rfl

end Text

theorem Heredoc.minIndent_noteLine (heredoc : Heredoc) (line : Text) :
    (heredoc.noteLine line).minIndent =
      (heredoc.minIndent.toList ++ line.textIndent?.toList).min? := by
  rw [noteLine, Text.textIndent?_eq]
  split
  · cases heredoc.minIndent <;> rfl
  · cases heredoc.minIndent <;> rfl

namespace Lexer

open Rules.HeredocBody

variable {t : Text} {lexer next : Lexer} {token : Token} {i n : Nat} {heredoc heredoc' : Heredoc}
  {above above' : List Frame}

instance : Decidable (lexer.FollowsOwnLineBreak i n) :=
  match n with
  | 0 => isFalse fun ⟨_, same, _⟩ => nomatch same
  | m + 1 => decidable_of_iff (lexer.IsInnermost i m ∧ (lexer.token m).kind = .newline)
      ⟨fun own => ⟨m, rfl, own⟩, fun ⟨_, same, own⟩ => Nat.succ.inj same ▸ own⟩

instance : Decidable (lexer.IsOwnLineStart i n) := inferInstanceAs (Decidable (_ ∧ ¬ _))

/-- How far the text of a line is indented that starts after `n` calls, if it is a line of the
construct's own. -/
def ownIndent? (lexer : Lexer) (i n : Nat) : Option Nat :=
  if lexer.IsOwnLineStart i n then (Text.physicalLine (lexer.skip n).cursor.rest).textIndent?
  else none

/-- How far the lines of text are indented that start before token `n` and are of the construct's
own. -/
def bodyIndents (lexer : Lexer) (i n : Nat) : List Nat :=
  (List.range n).filterMap (lexer.ownIndent? i)

theorem bodyIndents_succ (lexer : Lexer) (i n : Nat) :
    lexer.bodyIndents i (n + 1) = lexer.bodyIndents i n ++ (lexer.ownIndent? i n).toList := by
  rw [bodyIndents, List.range_succ, List.filterMap_append, ← bodyIndents]
  cases indent : lexer.ownIndent? i n <;> simp [indent]

theorem bodyIndents_opener (lexer : Lexer) (i : Nat) : lexer.bodyIndents i (i + 1) = [] := by
  refine List.filterMap_eq_nil_iff.mpr fun m member => ?_
  have notOwn : ¬ lexer.IsOwnLineStart i m := by
    rintro ⟨⟨before, rfl, ⟨⟨less, -⟩, -⟩, -⟩, -⟩
    have := List.mem_range.mp member
    omega
  rw [ownIndent?, if_neg notOwn]

section

variable {openedAt openedAt' : Location} {below : List Frame}

theorem Turn.noted_of_heredoc (turn : Turn lexer token next) (ahead : lexer.cursor.rest ≠ [])
    (frames : lexer.modes.frames = ⟨.heredocTemplate heredoc, openedAt⟩ :: below) :
    next.modes.frames = below ∨ ∃ above after,
      next.modes.frames = above ++ ⟨.heredocTemplate after, openedAt⟩ :: below ∧
        after.minIndent = (enterLine heredoc lexer.cursor.rest).minIndent := by
  cases turn with
  | atEnd ended => exact absurd ended ahead
  | scanned split nonempty outcome =>
    have current : lexer.modes.current = .heredocTemplate heredoc := by
      rw [ModeStack.current, frames]
    rw [current] at outcome
    have replaced := ModeStack.frames_setCurrent frames
    cases outcome with
    | heredocClose =>
      have left := ModeStack.frames_follow_leave (replaced (.heredocTemplate heredoc))
        lexer.cursor.location
      exact .inl left
    | heredocLineBreak => exact .inr ⟨[], _, replaced _, rfl⟩
    | heredocText => exact .inr ⟨[], _, replaced _, rfl⟩
    | heredocSequence =>
      have entered := congrArg (⟨.interpolation 0, lexer.cursor.location⟩ :: ·)
        (replaced (.heredocTemplate (enterLine heredoc lexer.cursor.rest)))
      exact .inr ⟨[_], _, entered, rfl⟩
    | openQuote reads | heredocOpen reads | neutral reads => cases reads

theorem Turn.minIndent_of_heredoc (turn : Turn lexer token next) (ahead : lexer.cursor.rest ≠ [])
    (frames : lexer.modes.frames = ⟨.heredocTemplate heredoc, openedAt⟩ :: below)
    (kept : next.modes.frames = above ++ ⟨.heredocTemplate heredoc', openedAt'⟩ :: below) :
    heredoc'.minIndent = (enterLine heredoc lexer.cursor.rest).minIndent := by
  rcases turn.noted_of_heredoc ahead frames with left | ⟨pushed, after, stack, noted⟩
  · have size := congrArg List.length (kept.symm.trans left)
    rw [List.length_append, List.length_cons] at size
    omega
  · obtain ⟨-, top⟩ := List.append_inj' (kept.symm.trans stack) rfl
    cases top
    exact noted

end

section

variable {terminator : Text} {stripIndent : Bool}

theorem HoldsHeredoc.unique (holds : lexer.HoldsHeredoc i n terminator stripIndent above heredoc)
    (holds' : lexer.HoldsHeredoc i n terminator stripIndent above' heredoc') :
    heredoc = heredoc' := by
  obtain ⟨-, top⟩ := List.append_inj' (holds.frames.symm.trans holds'.frames) rfl
  cases top
  rfl

theorem HoldsHeredoc.step_minIndent (reads : Reads t lexer) (opened : lexer.Opens i)
    (holds : lexer.HoldsHeredoc i n terminator stripIndent above heredoc)
    (holds' : lexer.HoldsHeredoc i (n + 1) terminator stripIndent above' heredoc') :
    heredoc'.minIndent = (heredoc.minIndent.toList ++ (lexer.ownIndent? i n).toList).min? := by
  have unchanged (same : heredoc = heredoc') (notOwn : ¬ lexer.IsOwnLineStart i n) :
      heredoc'.minIndent =
        (heredoc.minIndent.toList ++ (lexer.ownIndent? i n).toList).min? := by
    rw [ownIndent?, if_neg notOwn, ← same]
    cases heredoc.minIndent <;> rfl
  -- a line is noted where it starts right in the heredoc, and the frame stays the same elsewhere
  by_cases onTop : above = []
  · subst onTop
    by_cases ended : lexer.EndsAt n
    · exact unchanged ((holds.step_ended ended).unique holds') fun own => own.2 ended
    · have noted := (reads.turn_token n).minIndent_of_heredoc ended holds.frames holds'.frames
      have starts := holds.onTop rfl ended
      rw [noted, enterLine]
      by_cases lineStart : heredoc.atLineStart
      · have own : lexer.IsOwnLineStart i n := ⟨starts.mp lineStart, ended⟩
        rw [if_pos lineStart, ownIndent?, if_pos own, Text.textIndent?_physicalLine]
        exact heredoc.minIndent_noteLine _
      · have notOwn : ¬ lexer.IsOwnLineStart i n := fun own => lineStart (starts.mpr own.1)
        rw [if_neg lineStart, ownIndent?, if_neg notOwn]
        cases heredoc.minIndent <;> rfl
  · obtain ⟨_, covered⟩ := holds.step_covered reads opened onTop
    exact unchanged (covered.unique holds') fun own =>
      onTop (holds.onTop_of_own reads opened own.1)

theorem HoldsHeredoc.minIndent_eq (reads : Reads t lexer)
    (opener : (lexer.token i).kind = .heredocOpen stripIndent)
    (name : (lexer.token i).terminator? = some terminator) (isOpen : lexer.IsOpen i n)
    (holds : lexer.HoldsHeredoc i n terminator stripIndent above heredoc) :
    heredoc.minIndent = (lexer.bodyIndents i n).min? := by
  induction n generalizing above heredoc with
  | zero => exact absurd isOpen.1 (Nat.not_lt_zero i)
  | succ n ih =>
    by_cases first : i = n
    · subst first
      rw [holds.unique (reads.holdsHeredoc_opened opener name), bodyIndents_opener]
      rfl
    · have less : i < n := by
        have := isOpen.1
        omega
      have before := isOpen.of_le less (Nat.le_succ n)
      obtain ⟨_, _, earlier⟩ := exists_holdsHeredoc reads opener name before
      rw [earlier.step_minIndent reads (reads.opens opener) holds, ih before earlier,
        bodyIndents_succ, Document.min?_toList_min?_append]

end

/-- A closing line reports the smallest indentation of the lines of text in the body of its heredoc
if the opener strips indentation, zero if there is no such line, and nothing otherwise. -/
theorem minIndent_of_heredocClose (t : Text) {n : Nat} {minIndent : Option Nat}
    (closer : (tokenize t)[n]?.map Token.kind = some (.heredocClose minIndent)) :
    ∃ i stripIndent, heredocOpener? (tokenize t) n = some i ∧
      (tokenize t)[i]?.map Token.kind = some (.heredocOpen stripIndent) ∧
      minIndent =
        if stripIndent then some (((ofText t).bodyIndents i n).min?.getD 0) else none := by
  obtain ⟨i, heredoc, place, less, within, closed⟩ := exists_isClosedBy closer
  have noted := closed.holds.minIndent_eq (reads_ofText t) closed.opener closed.name closed.isOpen
  refine ⟨i, heredoc.stripIndent, place, ?_, ?_⟩
  · rw [getElem?_tokenize (Nat.lt_trans less within), Option.map_some, closed.opener]
  · rw [getElem?_tokenize within, Option.map_some, closed.closing.kind, Option.some_inj] at closer
    cases closer
    rw [Heredoc.closingIndent, noted]

/-- A heredoc with lines indented by three and two places, and inside the second of them a line of
another heredoc that is indented by one. -/
def indentedHeredocs : Text :=
  ['<', '<', '-', 'A', '\n', ' ', ' ', ' ', 'x', '\n', ' ', ' ', '$', '{', '<', '<', '-', 'B', '\n',
    ' ', 'y', '\n', 'B', '\n', '}', '\n', 'A', '\n']

theorem minIndent_of_indentedHeredocs :
    heredocOpener? (tokenize indentedHeredocs) 14 = some 0 ∧
      ((ofText indentedHeredocs).bodyIndents 0 14).min?.getD 0 = 2 := by
  have closer : (tokenize indentedHeredocs)[14]?.map Token.kind =
      some (.heredocClose (some 2)) := by
    decide
  have outermost : heredocOpener? (tokenize indentedHeredocs) 14 = some 0 := by decide
  have strips : (tokenize indentedHeredocs)[0]?.map Token.kind = some (.heredocOpen true) := by
    decide
  obtain ⟨i, stripIndent, place, opener, smallest⟩ := minIndent_of_heredocClose _ closer
  cases place.symm.trans outermost
  cases opener.symm.trans strips
  exact ⟨outermost, (Option.some_inj.mp smallest).symm⟩

example : (ofText indentedHeredocs).bodyIndents 0 14 = [3, 2] ∧
    (ofText indentedHeredocs).bodyIndents 6 10 = [1] := by
  decide

end Lexer

end HclLexis

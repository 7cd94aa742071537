import HclLexis.Proofs.Calls
import HclLexis.Proofs.Layout
import Mathlib.Data.List.Chain

/-! The shape of the mode stack. Sequences lie on templates and templates on what reads expressions,
each construct is opened behind the ones below it, and only an innermost heredoc can be at the start
of a line. Scans replace, enter and leave the innermost mode, and each of the three keeps this. -/

namespace HclLexis

open Rules Lexeme

/-- Sequences lie on templates, and templates on what reads expressions. -/
def ModeKind.LiesOn : ModeKind → ModeKind → Prop
  | .interpolation, outer => outer = .quotedTemplate ∨ outer = .heredocTemplate
  | .quotedTemplate, outer | .heredocTemplate, outer => outer = .structural ∨ outer = .interpolation
  | .structural, _ => False

namespace Mode

def OpensAt : Mode → Text → Prop
  | .quotedTemplate, t => ['"'] <+: t
  | .heredocTemplate heredoc, t => heredocMarker heredoc.stripIndent ++ heredoc.terminator <+: t
  | .interpolation _, t => ['$', '{'] <+: t ∨ ['%', '{'] <+: t
  | .structural, _ => False

def startsLine : Mode → Bool
  | .heredocTemplate heredoc => heredoc.atLineStart
  | _ => false

/-- The same construct, further on. -/
structure Continues (mode mode' : Mode) : Prop where
  kind : mode'.kind = mode.kind
  opensAt : ∀ t, mode.OpensAt t → mode'.OpensAt t

theorem kind_of_readsExpressions {mode : Mode} (reads : mode.readsExpressions) :
    mode.kind = .structural ∨ mode.kind = .interpolation := by
  cases mode with
  | structural => exact .inl rfl
  | interpolation => exact .inr rfl
  | quotedTemplate | heredocTemplate => cases reads

theorem startsLine_of_readsExpressions {mode : Mode} (reads : mode.readsExpressions) :
    mode.startsLine = false := by
  cases mode with
  | structural | interpolation => rfl
  | quotedTemplate | heredocTemplate => cases reads

end Mode

namespace Outcome

variable {t : Text} {mode mode' entered : Mode} {scan : Scan}

theorem continues (outcome : Outcome t mode mode' scan) : mode.Continues mode' := by
  cases outcome with
  | heredocLineBreak | heredocSequence | heredocText =>
    exact ⟨rfl, fun s opens => by simpa [Mode.OpensAt] using opens⟩
  | openBrace | closeBrace => exact ⟨rfl, fun s opens => opens⟩
  | _ => exact ⟨rfl, fun s opens => opens⟩

theorem liesOn (outcome : Outcome t mode mode' scan) (enters : scan.move = .enter entered) :
    entered.kind.LiesOn mode'.kind := by
  cases outcome with
  | openQuote reads =>
    cases enters
    exact Mode.kind_of_readsExpressions reads
  | heredocOpen reads =>
    cases enters
    exact Mode.kind_of_readsExpressions reads
  | stringSequence =>
    cases enters
    exact .inl rfl
  | heredocSequence =>
    cases enters
    exact .inr rfl
  | _ => cases enters

theorem startsLine_of_enter (outcome : Outcome t mode mode' scan)
    (enters : scan.move = .enter entered) :
    mode'.startsLine = false ∧ entered.startsLine = false := by
  cases outcome with
  | openQuote reads | heredocOpen reads =>
    cases enters
    exact ⟨Mode.startsLine_of_readsExpressions reads, rfl⟩
  | stringSequence =>
    cases enters
    exact ⟨rfl, rfl⟩
  | heredocSequence =>
    cases enters
    exact ⟨HeredocBody.enterLine_atLineStart _ _, rfl⟩
  | _ => cases enters

theorem newline_of_startsLine (outcome : Outcome t mode mode' scan) (stays : scan.move = .stay)
    (starts : mode'.startsLine) : scan.kind = .newline := by
  cases outcome with
  | heredocLineBreak => rfl
  | heredocText => simp [Mode.startsLine] at starts
  | neutral reads =>
    rw [Mode.startsLine_of_readsExpressions reads] at starts
    cases starts
  | bodyBrace | openBrace | closeBrace | stringText => cases starts
  | _ => cases stays

theorem ne_structural_of_leave (outcome : Outcome t mode mode' scan) (leaves : scan.move = .leave) :
    mode ≠ .structural := by
  cases outcome with
  | closeSequence | closeQuote | heredocClose => exact nofun
  | _ => cases leaves

theorem opensAt (outcome : Outcome t mode mode' scan) (reads : mode.readsExpressions)
    (enters : scan.move = .enter entered) (tail : Text) :
    entered.OpensAt (scan.lexeme ++ tail) := by
  cases outcome with
  | openQuote | heredocOpen =>
    cases enters
    exact List.prefix_append _ tail
  | stringSequence | heredocSequence => cases reads
  | _ => cases enters

end Outcome

namespace Lexeme

theorem opens_of_sequenceOpen? {t : Text} {scan : Scan} (found : sequenceOpen? t = some scan) :
    scan.move = .enter (.interpolation 0) ∧ Mode.OpensAt (.interpolation 0) t := by
  unfold sequenceOpen? at found
  split at found
  · cases found
    exact ⟨rfl, .inl (by simp)⟩
  · cases found
    exact ⟨rfl, .inr (by simp)⟩
  · cases found

end Lexeme

theorem Mode.opensAt_of_string {c : Char} {cs : Text} {entered : Mode}
    (enters : (QuotedString.scan c cs).move = .enter entered) : entered.OpensAt (c :: cs) := by
  by_cases quote : c = '"'
  · subst quote
    cases enters
  rw [string_scan_eq quote] at enters
  cases opened : sequenceOpen? (c :: cs) with
  | some scan =>
    obtain ⟨move, opens⟩ := opens_of_sequenceOpen? opened
    rw [opened, Option.some_or, Option.getD_some, move] at enters
    cases enters
    exact opens
  | none =>
    rw [opened, Option.none_or] at enters
    cases broken : QuotedString.lineBreak? (c :: cs) with
    | some scan =>
      obtain ⟨lexeme, -, rfl⟩ := Option.map_eq_some_iff.mp broken
      rw [broken] at enters
      cases enters
    | none =>
      rw [broken, Option.none_or] at enters
      cases faulty : QuotedString.faultyEscape? (c :: cs) with
      | some scan =>
        rw [faulty, Option.getD_some, faultyEscape?_stays faulty] at enters
        cases enters
      | none =>
        rw [faulty] at enters
        cases enters

theorem Mode.opensAt_of_heredoc {heredoc : Heredoc} {c : Char} {cs : Text} {entered : Mode}
    (enters : (HeredocBody.scan heredoc c cs).2.move = .enter entered) :
    entered.OpensAt (c :: cs) := by
  rw [HeredocBody.scan, HeredocBody.closingLine?] at enters
  split at enters
  · rename_i found
    rw [Option.ite_none_right_eq_some] at found
    cases found.2
    cases enters
  · rw [HeredocBody.scanLine] at enters
    cases broken : newline? (c :: cs) with
    | some scan =>
      obtain ⟨lexeme, -, rfl⟩ := Option.map_eq_some_iff.mp broken
      rw [broken] at enters
      cases enters
    | none =>
      rw [broken] at enters
      cases opened : sequenceOpen? (c :: cs) with
      | some scan =>
        obtain ⟨move, opens⟩ := opens_of_sequenceOpen? opened
        rw [opened, Option.getD_some, move] at enters
        cases enters
        exact opens
      | none =>
        rw [opened] at enters
        cases enters

theorem Mode.Scans.opensAt {mode mode' entered : Mode} {scan : Scan} {tail : Text}
    (scans : mode.Scans mode' scan tail) (enters : scan.move = .enter entered) :
    entered.OpensAt (scan.lexeme ++ tail) := by
  obtain ⟨c, cs, shape, scanned⟩ := scans
  have outcome := mode.scan_outcome c cs
  rw [scanned] at outcome
  cases mode with
  | structural | interpolation => exact outcome.opensAt rfl enters tail
  | quotedTemplate =>
    cases scanned
    rw [shape]
    exact opensAt_of_string enters
  | heredocTemplate heredoc =>
    cases scanned
    rw [shape]
    exact opensAt_of_heredoc enters

def Frame.IsOpenedIn (frame : Frame) (t : Text) : Prop :=
  ∃ before behind, t = before ++ behind ∧ frame.openedAt = Location.start.advanceOver before ∧
    frame.mode.OpensAt behind

/-- Frames over a base, the innermost first, opened in the text `t` in front of an offset. -/
structure Stacked (t : Text) (offset : Nat) (frames : List Frame) : Prop where
  nested : List.IsChain ModeKind.LiesOn (frames.map (·.mode.kind) ++ [.structural])
  opened : ∀ frame ∈ frames, frame.IsOpenedIn t
  ordered : (offset :: frames.map (·.openedAt.offset)).Pairwise (· > ·)
  covered : ∀ frame ∈ frames.tail, frame.mode.startsLine = false

namespace Stacked

variable {t : Text} {offset offset' : Nat} {frames below : List Frame} {frame : Frame}
  {modes : ModeStack} {mode : Mode} {openedAt : Location}

theorem nil (t : Text) (offset : Nat) : Stacked t offset [] where
  nested := .singleton _
  opened := fun _ member => absurd member List.not_mem_nil
  ordered := List.pairwise_singleton _ _
  covered := fun _ member => absurd member List.not_mem_nil

theorem mono (stacked : Stacked t offset frames) (le : offset ≤ offset') :
    Stacked t offset' frames where
  nested := stacked.nested
  opened := stacked.opened
  ordered := by
    have ordered := List.pairwise_cons.mp stacked.ordered
    exact List.pairwise_cons.mpr
      ⟨fun place member => Nat.lt_of_lt_of_le (ordered.1 place member) le, ordered.2⟩
  covered := stacked.covered

theorem pop (stacked : Stacked t offset (frame :: below)) : Stacked t offset below where
  nested := stacked.nested.tail
  opened := fun other member => stacked.opened other (.tail _ member)
  ordered := stacked.ordered.sublist (.cons_cons _ (.cons _ (.refl _)))
  covered := fun other member => stacked.covered other (List.mem_of_mem_tail member)

theorem replace (stacked : Stacked t offset (frame :: below))
    (continues : frame.mode.Continues mode) :
    Stacked t offset (⟨mode, frame.openedAt⟩ :: below) where
  nested := by
    have nested := stacked.nested
    rwa [List.map_cons, ← continues.kind] at nested
  opened := by
    intro other member
    rcases List.mem_cons.mp member with rfl | member
    · obtain ⟨before, behind, split, place, opens⟩ := stacked.opened frame List.mem_cons_self
      exact ⟨before, behind, split, place, continues.opensAt behind opens⟩
    · exact stacked.opened other (.tail _ member)
  ordered := stacked.ordered
  covered := stacked.covered

theorem setCurrent (stacked : Stacked t offset modes.frames)
    (continues : modes.current.Continues mode) :
    Stacked t offset (modes.setCurrent mode).frames := by
  obtain ⟨base, frames⟩ := modes
  cases frames with
  | nil => exact .nil t offset
  | cons frame below => exact stacked.replace continues

theorem push (stacked : Stacked t openedAt.offset modes.frames) (base : modes.base = .structural)
    (fits : mode.kind.LiesOn modes.current.kind) (inLine : modes.current.startsLine = false)
    (opened : Frame.IsOpenedIn ⟨mode, openedAt⟩ t) (less : openedAt.offset < offset) :
    Stacked t offset (modes.push mode openedAt).frames where
  nested := by
    obtain ⟨_, frames⟩ := modes
    subst base
    cases frames with
    | nil => exact .cons_cons fits (.singleton _)
    | cons frame below => exact .cons_cons fits stacked.nested
  opened := by
    intro other member
    rcases List.mem_cons.mp member with rfl | member
    · exact opened
    · exact stacked.opened other member
  ordered := by
    refine List.pairwise_cons.mpr ⟨fun place member => ?_, stacked.ordered⟩
    rcases List.mem_cons.mp member with rfl | member
    · exact less
    · exact Nat.lt_trans ((List.pairwise_cons.mp stacked.ordered).1 place member) less
  covered := by
    obtain ⟨base, frames⟩ := modes
    intro other member
    cases frames with
    | nil => cases member
    | cons frame below =>
      rcases List.mem_cons.mp member with rfl | member
      · exact inLine
      · exact stacked.covered other member

theorem leave (stacked : Stacked t offset modes.frames) (openedAt : Location) :
    Stacked t offset (modes.follow openedAt .leave).frames := by
  obtain ⟨base, frames⟩ := modes
  cases frames with
  | nil => exact stacked
  | cons frame below => exact stacked.pop

end Stacked

namespace ModeStack

theorem kinds_eq_reverse (modes : ModeStack) :
    modes.kinds = (modes.frames.map (·.mode.kind) ++ [modes.base.kind]).reverse := by
  rw [kinds, List.reverse_concat, List.map_reverse]

theorem offsets_eq_reverse (modes : ModeStack) (offset : Nat) :
    modes.unclosed.map (·.openedAt.offset) ++ [offset] =
      (offset :: modes.frames.map (·.openedAt.offset)).reverse := by
  simp [unclosed, Frame.construct]

end ModeStack

namespace Lexer

variable {t : Text} {lexer : Lexer} {mode : Mode} {scan : Scan} {tail : Text}

structure IsStacked (t : Text) (lexer : Lexer) : Prop where
  stacked : Stacked (Text.withoutMark t) lexer.cursor.location.offset lexer.modes.frames
  lineStart : lexer.modes.current.startsLine → lexer.cursor.consumed.head? = some '\n'

theorem isStacked_ofText (t : Text) : IsStacked t (ofText t) := ⟨.nil _ _, nofun⟩

theorem offset_lt_behind (lexer : Lexer) (mode : Mode) (tail : Text) (nonempty : scan.lexeme ≠ []) :
    lexer.cursor.location.offset < (lexer.behind mode scan tail).cursor.location.offset := by
  have positive := Text.byteSize_pos nonempty
  rw [behind, Location.offset_advanceOver]
  omega

theorem Reads.isOpenedIn (reads : Reads t lexer) {entered : Mode}
    (opens : entered.OpensAt lexer.cursor.rest) :
    Frame.IsOpenedIn ⟨entered, lexer.cursor.location⟩ (Text.withoutMark t) :=
  ⟨lexer.cursor.consumed.reverse, lexer.cursor.rest, reads.input.symm, reads.location, opens⟩

theorem IsStacked.stacked_behind (isStacked : IsStacked t lexer) (reads : Reads t lexer)
    (scans : lexer.modes.current.Scans mode scan tail)
    (split : lexer.cursor.rest = scan.lexeme ++ tail) (nonempty : scan.lexeme ≠ []) :
    Stacked (Text.withoutMark t) (lexer.behind mode scan tail).cursor.location.offset
      (lexer.behind mode scan tail).modes.frames := by
  have outcome := outcome_of_scans scans
  have further := lexer.offset_lt_behind mode tail nonempty
  have replaced := isStacked.stacked.setCurrent outcome.continues
  have base := (reads.behind scans split).base
  rw [behind, ModeStack.base_follow] at base
  -- the scan replaces the active mode first, and moves then
  cases move : scan.move with
  | stay =>
    simp only [behind, move]
    exact replaced.mono (Nat.le_of_lt further)
  | enter entered =>
    have opens := scans.opensAt move
    rw [← split] at opens
    simp only [behind, move]
    refine replaced.push base ?_ ?_ (reads.isOpenedIn opens) further
    · rw [ModeStack.current_setCurrent]
      exact outcome.liesOn move
    · rw [ModeStack.current_setCurrent]
      exact (outcome.startsLine_of_enter move).1
  | leave =>
    simp only [behind, move]
    exact (replaced.leave _).mono (Nat.le_of_lt further)

theorem Stacked.startsLine_leave {offset : Nat} {modes : ModeStack}
    (stacked : Stacked t offset modes.frames) (base : modes.base = .structural)
    (openedAt : Location) : (modes.follow openedAt .leave).current.startsLine = false := by
  obtain ⟨_, frames⟩ := modes
  subst base
  match frames with
  | [] => rfl
  | [_] => rfl
  | _ :: frame :: below => exact stacked.covered frame List.mem_cons_self

theorem IsStacked.lineStart_behind (isStacked : IsStacked t lexer) (reads : Reads t lexer)
    (scans : lexer.modes.current.Scans mode scan tail)
    (split : lexer.cursor.rest = scan.lexeme ++ tail)
    (starts : (lexer.behind mode scan tail).modes.current.startsLine) :
    (lexer.behind mode scan tail).cursor.consumed.head? = some '\n' := by
  have outcome := outcome_of_scans scans
  have replaced := isStacked.stacked.setCurrent outcome.continues
  have base := (reads.behind scans split).base
  rw [behind, ModeStack.base_follow] at base
  cases move : scan.move with
  | stay =>
    simp only [behind, move, ModeStack.follow, ModeStack.current_setCurrent] at starts
    have newline := scans.newline?_eq (outcome.newline_of_startsLine move starts)
    obtain ⟨lexeme, breaks, same⟩ := Option.map_eq_some_iff.mp newline
    rw [behind, ← same]
    rcases Text.lineBreak?_eq_some breaks with rfl | rfl <;> rfl
  | enter entered =>
    simp only [behind, move, ModeStack.follow, ModeStack.current_push] at starts
    rw [(outcome.startsLine_of_enter move).2] at starts
    cases starts
  | leave =>
    -- the mode below was covered, and so it is within a line
    simp only [behind, move] at starts
    rw [Stacked.startsLine_leave replaced base] at starts
    cases starts

theorem IsStacked.pull (isStacked : IsStacked t lexer) (reads : Reads t lexer) :
    IsStacked t lexer.pull.2 := by
  by_cases ended : lexer.cursor.rest = []
  · rwa [pull_of_ended ended]
  · obtain ⟨mode, scan, tail, scans, split, nonempty⟩ := reads.exists_scans ended
    rw [pull_of_scans scans split]
    exact ⟨isStacked.stacked_behind reads scans split nonempty,
      isStacked.lineStart_behind reads scans split⟩

theorem isStacked_skip (t : Text) (n : Nat) : IsStacked t ((ofText t).skip n) := by
  induction n with
  | zero => exact isStacked_ofText t
  | succ n ih =>
    rw [skip_succ]
    exact ih.pull ((reads_ofText t).skip n)

/-- The shape of the mode stack of a lexer over the text `t`, from the base up. -/
structure StackShape (t : Text) (lexer : Lexer) : Prop where
  base : lexer.modes.base = .structural
  above : ∀ frame ∈ lexer.modes.frames, frame.mode.kind ≠ .structural
  nested : lexer.modes.kinds.IsChain fun outer inner => inner.LiesOn outer
  ordered : (lexer.modes.unclosed.map (·.openedAt.offset) ++
    [lexer.cursor.location.offset]).Pairwise (· < ·)
  opened : ∀ frame ∈ lexer.modes.frames, frame.IsOpenedIn (Text.withoutMark t)
  named : ∀ frame ∈ lexer.modes.frames, ∀ heredoc, frame.mode = .heredocTemplate heredoc →
    IsIdentifier heredoc.terminator
  covered : ∀ frame ∈ lexer.modes.frames.tail, ∀ heredoc,
    frame.mode = .heredocTemplate heredoc → heredoc.atLineStart = false
  lineStart : ∀ heredoc, lexer.modes.current = .heredocTemplate heredoc → heredoc.atLineStart →
    ∃ before, Text.withoutMark t = before ++ '\n' :: lexer.cursor.rest

/-- After any number of calls the mode stack is in shape. -/
theorem stackShape_skip (t : Text) (n : Nat) : StackShape t ((ofText t).skip n) := by
  have reads := (reads_ofText t).skip n
  obtain ⟨stacked, lineStart⟩ := isStacked_skip t n
  generalize (ofText t).skip n = lexer at reads stacked lineStart
  exact {
    base := reads.base
    above := by
      intro frame member structural
      obtain ⟨before, behind, -, -, opens⟩ := stacked.opened frame member
      cases mode : frame.mode with
      | structural =>
        rw [mode] at opens
        exact opens
      | _ =>
        rw [mode] at structural
        cases structural
    nested := by
      rw [ModeStack.kinds_eq_reverse, List.isChain_reverse, reads.base]
      exact stacked.nested
    ordered := by
      rw [ModeStack.offsets_eq_reverse, List.pairwise_reverse]
      exact stacked.ordered
    opened := stacked.opened
    named := by
      intro frame member heredoc mode
      have named := reads.named.2 frame member
      rwa [mode] at named
    covered := by
      intro frame member heredoc mode
      have covered := stacked.covered frame member
      rwa [mode] at covered
    lineStart := by
      intro heredoc current starts
      rw [current] at lineStart
      obtain ⟨before, consumed⟩ := List.head?_eq_some_iff.mp (lineStart starts)
      refine ⟨before.reverse, ?_⟩
      rw [← reads.input, Cursor.input, consumed]
      simp }

end Lexer

end HclLexis

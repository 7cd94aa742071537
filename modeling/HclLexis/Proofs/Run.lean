import HclLexis.Lexer
import HclLexis.Proofs.Outcome

/-! Runs of a lexer. A `Turn` tells what one call for a token does, `Reads` is what every lexer of a
run keeps, and the token list of a text is that of the calls up to the first end of the text. -/

namespace HclLexis

open Lexeme

def Mode.NamesIdentifier : Mode → Prop
  | .heredocTemplate heredoc => IsIdentifier heredoc.terminator
  | _ => True

theorem Mode.NamesIdentifier.isNamed {mode : Mode} (h : mode.NamesIdentifier) : mode.IsNamed := by
  cases mode with
  | heredocTemplate heredoc => exact IsIdentifier.ne_nil h
  | _ => trivial

namespace Rules.HeredocBody

@[simp] theorem enterLine_terminator (heredoc : Heredoc) (t : Text) :
    (enterLine heredoc t).terminator = heredoc.terminator := by
  rw [enterLine, Heredoc.noteLine]
  split
  · dsimp only
    split <;> rfl
  · rfl

@[simp] theorem enterLine_stripIndent (heredoc : Heredoc) (t : Text) :
    (enterLine heredoc t).stripIndent = heredoc.stripIndent := by
  rw [enterLine, Heredoc.noteLine]
  split
  · dsimp only
    split <;> rfl
  · rfl

@[simp] theorem enterLine_atLineStart (heredoc : Heredoc) (t : Text) :
    (enterLine heredoc t).atLineStart = false := by
  rw [enterLine]
  split
  · rfl
  · rename_i inside
    simpa using inside

end Rules.HeredocBody

namespace Outcome

variable {t : Text} {mode mode' : Mode} {scan : Scan}

theorem namesIdentifier (outcome : Outcome t mode mode' scan) (h : mode.NamesIdentifier) :
    mode'.NamesIdentifier := by
  cases outcome with
  | heredocLineBreak | heredocSequence | heredocText => simpa [Mode.NamesIdentifier] using h
  | openBrace | closeBrace => trivial
  | _ => exact h

theorem entered_namesIdentifier (outcome : Outcome t mode mode' scan) {entered : Mode}
    (enters : scan.move = .enter entered) : entered.NamesIdentifier := by
  cases outcome with
  | heredocOpen _ _ name => cases enters; exact name
  | _ => cases enters <;> trivial

theorem eq_structural (outcome : Outcome t .structural mode' scan) : mode' = .structural := by
  cases outcome <;> rfl

end Outcome

namespace ModeStack

def All (P : Mode → Prop) (modes : ModeStack) : Prop :=
  P modes.base ∧ ∀ frame ∈ modes.frames, P frame.mode

variable {P : Mode → Prop} {modes : ModeStack}

theorem All.current (all : modes.All P) : P modes.current := by
  obtain ⟨base, frames⟩ := modes
  cases frames with
  | nil => exact all.1
  | cons frame below => exact all.2 frame List.mem_cons_self

theorem All.setCurrent (all : modes.All P) {mode : Mode} (h : P mode) :
    (modes.setCurrent mode).All P := by
  obtain ⟨base, frames⟩ := modes
  cases frames with
  | nil => exact ⟨h, all.2⟩
  | cons frame below =>
    refine ⟨all.1, fun other member => ?_⟩
    rcases List.mem_cons.mp member with rfl | member
    · exact h
    · exact all.2 other (List.mem_cons_of_mem _ member)

theorem All.follow (all : modes.All P) (openedAt : Location) {move : Move}
    (h : ∀ mode, move = .enter mode → P mode) : (modes.follow openedAt move).All P := by
  cases move with
  | stay => exact all
  | enter mode =>
    refine ⟨all.1, fun frame member => ?_⟩
    rcases List.mem_cons.mp member with rfl | member
    · exact h mode rfl
    · exact all.2 frame member
  | leave =>
    obtain ⟨base, frames⟩ := modes
    cases frames with
    | nil => exact all
    | cons frame below => exact ⟨all.1, fun other member => all.2 other (.tail _ member)⟩

@[simp] theorem base_follow (modes : ModeStack) (openedAt : Location) (move : Move) :
    (modes.follow openedAt move).base = modes.base := by
  obtain ⟨base, frames⟩ := modes
  cases move with
  | leave => cases frames <;> rfl
  | _ => rfl

section

variable {frame : Frame} {below : List Frame}

theorem frames_setCurrent (h : modes.frames = frame :: below) (mode : Mode) :
    (modes.setCurrent mode).frames = ⟨mode, frame.openedAt⟩ :: below := by
  rw [setCurrent, h]

theorem frames_follow_leave (h : modes.frames = frame :: below) (openedAt : Location) :
    (modes.follow openedAt .leave).frames = below := by
  rw [follow, pop, h]

theorem frames_step (h : modes.frames = frame :: below) (mode : Mode) (openedAt : Location)
    (move : Move) :
    ∃ above, ((modes.setCurrent mode).follow openedAt move).frames = above ++ below := by
  have replaced := frames_setCurrent h mode
  cases move with
  | stay => exact ⟨[⟨mode, frame.openedAt⟩], replaced⟩
  | enter entered => exact ⟨[⟨entered, openedAt⟩, ⟨mode, frame.openedAt⟩], by
      rw [follow, push, replaced]
      rfl⟩
  | leave => exact ⟨[], frames_follow_leave replaced openedAt⟩

end

theorem setCurrent_current {mode : Mode} (h : modes.current = mode) :
    modes.setCurrent mode = modes := by
  subst h
  obtain ⟨base, frames⟩ := modes
  cases frames <;> rfl

theorem setCurrent_setCurrent (modes : ModeStack) (mode mode' : Mode) :
    (modes.setCurrent mode).setCurrent mode' = modes.setCurrent mode' := by
  obtain ⟨base, frames⟩ := modes
  cases frames <;> rfl

theorem base_setCurrent {mode : Mode} (h : modes.current = modes.base → mode = modes.base) :
    (modes.setCurrent mode).base = modes.base := by
  obtain ⟨base, frames⟩ := modes
  cases frames with
  | nil => exact h rfl
  | cons => rfl

end ModeStack

namespace Lexer

/-- What one call for a token does: at the end of the text nothing moves, and anywhere else a piece
of the text becomes a token, and the modes change as its outcome says. -/
inductive Turn (lexer : Lexer) : Token → Lexer → Prop
  | atEnd (ended : lexer.cursor.rest = []) : Turn lexer lexer.endToken lexer
  | scanned {mode : Mode} {scan : Scan} {tail : Text}
      (split : lexer.cursor.rest = scan.lexeme ++ tail) (nonempty : scan.lexeme ≠ [])
      (outcome : Outcome lexer.cursor.rest lexer.modes.current mode scan) :
      Turn lexer
        ⟨scan.kind, scan.lexeme, lexer.cursor.location,
          lexer.cursor.location.advanceOver scan.lexeme⟩
        ⟨⟨scan.lexeme.reverse ++ lexer.cursor.consumed, tail,
            lexer.cursor.location.advanceOver scan.lexeme⟩,
          (lexer.modes.setCurrent mode).follow lexer.cursor.location scan.move, lexer.done⟩

namespace Turn

variable {lexer next : Lexer} {token : Token}

theorem start (turn : Turn lexer token next) : token.start = lexer.cursor.location := by
  cases turn <;> rfl

theorem stop (turn : Turn lexer token next) : token.stop = next.cursor.location := by
  cases turn <;> rfl

theorem rest (turn : Turn lexer token next) :
    lexer.cursor.rest = token.text ++ next.cursor.rest := by
  cases turn with
  | atEnd => rfl
  | scanned split => exact split

theorem consumed (turn : Turn lexer token next) :
    next.cursor.consumed = token.text.reverse ++ lexer.cursor.consumed := by
  cases turn <;> rfl

end Turn

theorem pull_of_scan {lexer : Lexer} {c : Char} {cs tail : Text} {mode : Mode} {scan : Scan}
    (ahead : lexer.cursor.rest = c :: cs) (scanned : lexer.modes.current.scan c cs = (mode, scan))
    (split : c :: cs = scan.lexeme ++ tail) :
    lexer.pull =
      (⟨scan.kind, scan.lexeme, lexer.cursor.location,
          lexer.cursor.location.advanceOver scan.lexeme⟩,
        ⟨⟨scan.lexeme.reverse ++ lexer.cursor.consumed, tail,
            lexer.cursor.location.advanceOver scan.lexeme⟩,
          (lexer.modes.setCurrent mode).follow lexer.cursor.location scan.move, lexer.done⟩) := by
  have advanced : lexer.cursor.advance scan.lexeme.length =
      ⟨scan.lexeme.reverse ++ lexer.cursor.consumed, tail,
        lexer.cursor.location.advanceOver scan.lexeme⟩ := by
    have moved := Cursor.advance_append lexer.cursor.consumed scan.lexeme tail
      lexer.cursor.location
    rwa [← split, ← ahead] at moved
  simp only [pull, scan?, ahead, scanned, accept, advanced]

theorem pull_turn {lexer : Lexer} (named : lexer.modes.current.IsNamed) :
    Turn lexer lexer.pull.1 lexer.pull.2 := by
  cases ahead : lexer.cursor.rest with
  | nil =>
    rw [pull, scan?, ahead]
    exact .atEnd ahead
  | cons c cs =>
    have outcome := lexer.modes.current.scan_outcome c cs
    have covers := Mode.scan_covers named c cs
    rcases scanned : lexer.modes.current.scan c cs with ⟨mode, scan⟩
    rw [scanned] at outcome covers
    obtain ⟨nonempty, tail, split⟩ := covers
    rw [pull_of_scan ahead scanned split.symm]
    rw [← ahead] at outcome split
    exact .scanned split.symm nonempty outcome

/-- What every lexer of a run over the text `t` keeps. -/
structure Reads (t : Text) (lexer : Lexer) : Prop where
  input : lexer.cursor.input = Text.withoutMark t
  location : lexer.cursor.location = Location.start.advanceOver lexer.cursor.consumed.reverse
  base : lexer.modes.base = .structural
  named : lexer.modes.All Mode.NamesIdentifier

theorem reads_ofText (t : Text) : Reads t (ofText t) where
  input := rfl
  location := rfl
  base := rfl
  named := ⟨trivial, fun _ member => absurd member List.not_mem_nil⟩

namespace Reads

variable {t : Text} {lexer : Lexer}

theorem turn (reads : Reads t lexer) : Turn lexer lexer.pull.1 lexer.pull.2 :=
  pull_turn reads.named.current.isNamed

theorem pull (reads : Reads t lexer) : Reads t lexer.pull.2 := by
  have turn := reads.turn
  generalize lexer.pull.1 = token at turn
  generalize lexer.pull.2 = next at turn
  cases turn with
  | atEnd => exact reads
  | @scanned mode scan tail split nonempty outcome =>
    exact {
      input := by
        have input := reads.input
        rw [Cursor.input, split] at input
        simpa [Cursor.input] using input
      location := by
        simp [reads.location, Location.advanceOver]
      base := by
        rw [ModeStack.base_follow, ModeStack.base_setCurrent, reads.base]
        -- a body's scan leaves its mode as it is
        intro onBase
        rw [onBase, reads.base] at outcome
        rw [outcome.eq_structural, reads.base]
      named := (reads.named.setCurrent (outcome.namesIdentifier reads.named.current)).follow _
        fun _ enters => outcome.entered_namesIdentifier enters }

theorem skip (reads : Reads t lexer) (n : Nat) : Reads t (lexer.skip n) := by
  induction n generalizing lexer with
  | zero => exact reads
  | succ n ih => exact ih reads.pull

end Reads

def pulls (lexer : Lexer) : Nat → List Token
  | 0 => []
  | n + 1 => lexer.pull.1 :: lexer.pull.2.pulls n

/-- The token of the call behind the next `n` calls. -/
def token (lexer : Lexer) (n : Nat) : Token := (lexer.skip n).pull.1

theorem skip_add (lexer : Lexer) (m n : Nat) : (lexer.skip m).skip n = lexer.skip (m + n) := by
  induction m generalizing lexer with
  | zero => rw [Nat.zero_add, skip]
  | succ m ih => rw [skip, ih, Nat.succ_add, skip]

theorem skip_succ (lexer : Lexer) (n : Nat) : lexer.skip (n + 1) = (lexer.skip n).pull.2 := by
  rw [← skip_add, skip, skip]

theorem Reads.turn_token {t : Text} {lexer : Lexer} (reads : Reads t lexer) (n : Nat) :
    Turn (lexer.skip n) (lexer.token n) (lexer.skip (n + 1)) := by
  rw [skip_succ]
  exact (reads.skip n).turn

theorem pulls_succ (lexer : Lexer) (n : Nat) :
    lexer.pulls (n + 1) = lexer.pulls n ++ [lexer.token n] := by
  induction n generalizing lexer with
  | zero => rfl
  | succ n ih => rw [pulls, ih, pulls]; rfl

theorem length_pulls (lexer : Lexer) (n : Nat) : (lexer.pulls n).length = n := by
  induction n generalizing lexer with
  | zero => rfl
  | succ n ih => rw [pulls, List.length_cons, ih]

theorem mem_pulls {lexer : Lexer} {n : Nat} {token : Token} (member : token ∈ lexer.pulls n) :
    ∃ m < n, token = lexer.token m := by
  induction n with
  | zero => cases member
  | succ n ih =>
    rw [pulls_succ, List.mem_append, List.mem_singleton] at member
    rcases member with member | rfl
    · obtain ⟨m, less, same⟩ := ih member
      exact ⟨m, by omega, same⟩
    · exact ⟨n, by omega, rfl⟩

def EndsAt (lexer : Lexer) (n : Nat) : Prop := (lexer.skip n).cursor.rest = []

instance {lexer : Lexer} {n : Nat} : Decidable (lexer.EndsAt n) :=
  inferInstanceAs (Decidable (_ = []))

variable {t : Text} {lexer : Lexer}

theorem Reads.isEof_iff (reads : Reads t lexer) :
    lexer.pull.1.isEof ↔ lexer.cursor.rest = [] := by
  have turn := reads.turn
  generalize lexer.pull.1 = token at turn ⊢
  generalize lexer.pull.2 = next at turn
  cases turn with
  | atEnd ended => simp [ended, endToken, Token.isEof, TokenKind.isEof]
  | scanned split nonempty outcome =>
    have ahead : lexer.cursor.rest ≠ [] := by simp [split, nonempty]
    exact iff_of_false outcome.not_isEof ahead

theorem Reads.text_ne_nil (reads : Reads t lexer) (ahead : lexer.cursor.rest ≠ []) :
    lexer.pull.1.text ≠ [] := by
  have turn := reads.turn
  generalize lexer.pull.1 = token at turn ⊢
  generalize lexer.pull.2 = next at turn
  cases turn with
  | atEnd ended => exact absurd ended ahead
  | scanned _ nonempty => exact nonempty

theorem Reads.length_rest_lt (reads : Reads t lexer) (ahead : lexer.cursor.rest ≠ []) :
    lexer.pull.2.cursor.rest.length < lexer.cursor.rest.length := by
  have positive := List.length_pos_iff.mpr (reads.text_ne_nil ahead)
  rw [reads.turn.rest, List.length_append]
  omega

theorem Reads.exists_endsAt (reads : Reads t lexer) :
    ∃ n ≤ lexer.cursor.rest.length, lexer.EndsAt n ∧ ∀ m < n, ¬ lexer.EndsAt m := by
  generalize size : lexer.cursor.rest.length = length
  induction length using Nat.strongRecOn generalizing lexer with
  | ind length ih =>
    by_cases ended : lexer.cursor.rest = []
    · exact ⟨0, by omega, ended, fun m less => by omega⟩
    · have shorter := reads.length_rest_lt ended
      obtain ⟨n, bound, endsAt, first⟩ := ih _ (by omega) reads.pull rfl
      refine ⟨n + 1, by omega, endsAt, fun m less => ?_⟩
      cases m with
      | zero => exact ended
      | succ m => exact first m (by omega)

theorem pull_of_ended {lexer : Lexer} (ended : lexer.cursor.rest = []) :
    lexer.pull = (lexer.endToken, lexer) := by
  rw [pull, scan?, ended]

theorem ahead_of_kind {lexer : Lexer} {kind : TokenKind} (isKind : lexer.pull.1.kind = kind)
    (notEof : kind.isEof = false) : lexer.cursor.rest ≠ [] := by
  intro ended
  rw [pull_of_ended ended] at isKind
  rw [← isKind] at notEof
  cases notEof

@[simp] theorem pull_done (lexer : Lexer) : lexer.pull.2.done = lexer.done := by
  rw [pull]
  split <;> rfl

@[simp] theorem skip_done (lexer : Lexer) (n : Nat) : (lexer.skip n).done = lexer.done := by
  induction n generalizing lexer with
  | zero => rfl
  | succ n ih => rw [skip, ih, pull_done]

theorem next?_of_running {lexer : Lexer} (running : lexer.done = false) :
    lexer.next? = some (lexer.pull.1, { lexer.pull.2 with done := lexer.pull.1.isEof }) := by
  rw [next?, if_neg (by simp [running])]

theorem Reads.isEof_eq_false (reads : Reads t lexer) (ahead : lexer.cursor.rest ≠ []) :
    lexer.pull.1.isEof = false := by
  rw [Bool.eq_false_iff]
  exact mt reads.isEof_iff.mp ahead

theorem Reads.next?_of_ahead (reads : Reads t lexer) (running : lexer.done = false)
    (ahead : lexer.cursor.rest ≠ []) : lexer.next? = some (lexer.pull.1, lexer.pull.2) := by
  have same : { lexer.pull.2 with done := false } = lexer.pull.2 := by
    rw [← running, ← lexer.pull_done]
  rw [next?_of_running running, reads.isEof_eq_false ahead, same]

theorem take_of_done {lexer : Lexer} (done : lexer.done) (limit : Nat) :
    lexer.take limit = ([], lexer) := by
  cases limit with
  | zero => rfl
  | succ limit => rw [take, next?, if_pos done]

theorem Reads.take_eq (reads : Reads t lexer) (running : lexer.done = false) {n limit : Nat}
    (enough : n < limit) (ends : lexer.EndsAt n) (first : ∀ m < n, ¬ lexer.EndsAt m) :
    lexer.take limit = (lexer.pulls (n + 1), { lexer.skip n with done := true }) := by
  induction n generalizing lexer limit with
  | zero =>
    obtain ⟨limit, rfl⟩ := Nat.exists_eq_succ_of_ne_zero (Nat.ne_zero_of_lt enough)
    have isEof := reads.isEof_iff.mpr ends
    rw [take, next?_of_running running, isEof]
    have stays : lexer.pull = (lexer.endToken, lexer) := pull_of_ended ends
    simp only [take_of_done, pulls, Lexer.skip, stays]
  | succ n ih =>
    obtain ⟨limit, rfl⟩ := Nat.exists_eq_succ_of_ne_zero (Nat.ne_zero_of_lt enough)
    have rest := ih reads.pull (by rw [pull_done, running]) (Nat.lt_of_succ_lt_succ enough) ends
      fun m less => first (m + 1) (by omega)
    rw [take, reads.next?_of_ahead running (first 0 n.succ_pos)]
    simp only [rest]
    rfl

theorem Reads.drain_eq_pulls (reads : Reads t lexer) (running : lexer.done = false) :
    ∃ n ≤ lexer.cursor.rest.length, lexer.EndsAt n ∧ (∀ m < n, ¬ lexer.EndsAt m) ∧
      lexer.drain = (lexer.pulls (n + 1), { lexer.skip n with done := true }) := by
  obtain ⟨n, bound, ends, first⟩ := reads.exists_endsAt
  exact ⟨n, bound, ends, first, reads.take_eq running (Nat.lt_succ_of_le bound) ends first⟩

theorem tokenize_eq_pulls (t : Text) :
    ∃ n ≤ (Text.withoutMark t).length, (ofText t).EndsAt n ∧ (∀ m < n, ¬ (ofText t).EndsAt m) ∧
      (ofText t).drain = ((ofText t).pulls (n + 1), { (ofText t).skip n with done := true }) :=
  (reads_ofText t).drain_eq_pulls rfl

end Lexer

end HclLexis

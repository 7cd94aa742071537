import HclLexis.Proofs.GuardedTemplates
import HclLexis.Proofs.Stacking

/-! Guarded calls for tokens. Started on any text they never come to a fault: each call gives the
token that the lexer gives, and leads to the machine of the lexer behind that call. -/

namespace HclLexis

/-- The frames of a stack, the innermost first, and behind them one for the base. -/
def ModeStack.allFrames (modes : ModeStack) : List Frame :=
  modes.frames ++ [⟨modes.base, .start⟩]

namespace ModeStack

variable (modes : ModeStack)

theorem exists_allFrames : ∃ openedAt below,
    (∀ mode, (modes.setCurrent mode).allFrames = ⟨mode, openedAt⟩ :: below) ∧
      (modes.frames ≠ [] → below ≠ []) := by
  obtain ⟨base, frames⟩ := modes
  cases frames with
  | nil => exact ⟨.start, [], fun _ => rfl, absurd rfl⟩
  | cons frame below =>
    exact ⟨frame.openedAt, below ++ [⟨base, .start⟩], fun _ => rfl, fun _ => by simp⟩

theorem frames_setCurrent_ne_nil (mode : Mode) (above : modes.frames ≠ []) :
    (modes.setCurrent mode).frames ≠ [] := by
  obtain ⟨frame, below, shape⟩ := List.exists_cons_of_ne_nil above
  rw [frames_setCurrent shape]
  exact List.cons_ne_nil _ _

theorem allFrames_follow (openedAt : Location) {move : Move}
    (inner : move = .leave → modes.frames ≠ []) :
    (modes.follow openedAt move).allFrames = move.follow modes.allFrames openedAt := by
  cases move with
  | stay | enter => rfl
  | leave =>
    obtain ⟨base, frames⟩ := modes
    cases frames with
    | nil => exact absurd rfl (inner rfl)
    | cons => rfl

end ModeStack

def Lexer.machine (lexer : Lexer) : Machine :=
  ⟨lexer.cursor.input, lexer.cursor.location, lexer.modes.allFrames⟩

def Machine.ofText (t : Text) : Machine :=
  ⟨Text.withoutMark t, .start, [⟨.structural, .start⟩]⟩

theorem Lexer.Reads.machine_eq {t : Text} {lexer : Lexer} (reads : Reads t lexer) :
    lexer.machine =
      .reading lexer.cursor.consumed.reverse [] lexer.cursor.rest lexer.modes.allFrames := by
  simp [Lexer.machine, Machine.reading, Cursor.input, reads.location]

theorem Lexer.Reads.frames_ne_nil {t : Text} {lexer : Lexer} (reads : Reads t lexer)
    (above : lexer.modes.current ≠ .structural) : lexer.modes.frames ≠ [] := by
  intro onBase
  rw [ModeStack.current, onBase, reads.base] at above
  exact above rfl

theorem Lexer.Reads.machine_behind {t tail : Text} {lexer : Lexer} {mode : Mode} {scan : Scan}
    (reads : Reads t lexer)
    (inner : scan.move = .leave → (lexer.modes.setCurrent mode).frames ≠ []) :
    (lexer.behind mode scan tail).machine = scan.behind lexer.cursor.consumed.reverse
      (scan.lexeme ++ tail) (lexer.modes.setCurrent mode).allFrames := by
  simp only [Lexer.machine, Lexer.behind, ModeStack.allFrames_follow _ _ inner, reads.location]
  simp [Machine.reading, Cursor.input, Location.advanceOver]

namespace Guarded

open Lexer

variable {before tail : Text} {below : List Frame} {openedAt : Location} {t : Text}
  {lexer : Lexer} {mode : Mode} {scan : Scan}

def scanActive (c : Char) : Guarded Token := do
  match ← current with
  | .structural => scanBody c
  | .quotedTemplate => scanString
  | .heredocTemplate _ => scanHeredoc
  | .interpolation _ => scanSequence c

theorem run_scanActive (above : mode ≠ .structural → below ≠ []) (c : Char) (cs : Text) :
    (scanActive c).run (.reading before [] (c :: cs) (⟨mode, openedAt⟩ :: below)) =
      pure ((mode.scan c cs).2.token before,
        (mode.scan c cs).2.behind before (c :: cs) (⟨(mode.scan c cs).1, openedAt⟩ :: below)) := by
  rw [scanActive, StateT.run_bind, run_current, pure_bind]
  cases mode with
  | structural => exact run_scanBody c cs
  | quotedTemplate => exact run_scanString (above nofun) c cs
  | heredocTemplate heredoc => exact run_scanHeredoc heredoc (above nofun) c cs
  | interpolation depth => exact run_scanSequence depth (above nofun) c cs

def endToken : Guarded Token := do
  let machine ← get
  let unterminated := (machine.frames.reverse.drop 1).map Frame.construct
  return ⟨.eof unterminated, [], machine.location, machine.location⟩

theorem run_endToken (lexer : Lexer) :
    endToken.run lexer.machine = pure (lexer.endToken, lexer.machine) := by
  simp [endToken, Lexer.endToken, Lexer.machine, ModeStack.allFrames, ModeStack.unclosed]

def nextToken : Guarded Token := do
  match ← peek 0 with
  | none => endToken
  | some c =>
    let token ← scanActive c
    if token.start.offset < token.stop.offset then return token else throw .noProgress

theorem run_nextToken_of_ended (reads : Reads t lexer) (ended : lexer.cursor.rest = []) :
    nextToken.run lexer.machine = pure (lexer.endToken, lexer.machine) := by
  have peeked : (peek 0).run lexer.machine = pure (none, lexer.machine) := by
    rw [reads.machine_eq, run_peek, ended]
    rfl
  rw [nextToken, StateT.run_bind, peeked, pure_bind]
  exact run_endToken lexer

theorem run_scanActive_of_scan (reads : Reads t lexer) {c : Char} {cs : Text}
    (scanned : lexer.modes.current.scan c cs = (mode, scan)) :
    (scanActive c).run (.reading before [] (c :: cs) lexer.modes.allFrames) =
      pure (scan.token before,
        scan.behind before (c :: cs) (lexer.modes.setCurrent mode).allFrames) := by
  obtain ⟨openedAt, below, frames, above⟩ := lexer.modes.exists_allFrames
  have active : lexer.modes.allFrames = ⟨lexer.modes.current, openedAt⟩ :: below := by
    rw [← frames, ModeStack.setCurrent_current rfl]
  have ran : (scanActive c).run (.reading before [] (c :: cs)
      (⟨lexer.modes.current, openedAt⟩ :: below)) = _ :=
    run_scanActive (fun other => above (reads.frames_ne_nil other)) c cs
  rwa [scanned, ← active, ← frames] at ran

theorem run_nextToken_of_scans (reads : Reads t lexer)
    (scans : lexer.modes.current.Scans mode scan tail)
    (ahead : lexer.cursor.rest = scan.lexeme ++ tail) (nonempty : scan.lexeme ≠ []) :
    nextToken.run lexer.machine =
      pure (scan.token lexer.cursor.consumed.reverse, (lexer.behind mode scan tail).machine) := by
  -- only the modes above the base are left, and they have a frame
  have leaves : scan.move = .leave → (lexer.modes.setCurrent mode).frames ≠ [] := fun leave =>
    lexer.modes.frames_setCurrent_ne_nil mode
      (reads.frames_ne_nil ((outcome_of_scans scans).ne_structural_of_leave leave))
  have further : (scan.token lexer.cursor.consumed.reverse).start.offset <
      (scan.token lexer.cursor.consumed.reverse).stop.offset := by
    have positive := Text.byteSize_pos nonempty
    simp only [Scan.token, Location.offset_advanceOver, Text.byteSize_append]
    omega
  obtain ⟨c, cs, shape, scanned⟩ := scans
  rw [reads.machine_behind leaves, reads.machine_eq, ahead, shape]
  simp only [nextToken, StateT.run_bind, run_peek, pure_bind, List.getElem?_cons_zero,
    run_scanActive_of_scan reads scanned, if_pos further, StateT.run_pure]

theorem run_nextToken (reads : Reads t lexer) :
    nextToken.run lexer.machine = pure (lexer.pull.1, lexer.pull.2.machine) := by
  by_cases ended : lexer.cursor.rest = []
  · rw [run_nextToken_of_ended reads ended, pull_of_ended ended]
  · obtain ⟨mode, scan, tail, scans, ahead, nonempty⟩ := reads.exists_scans ended
    rw [run_nextToken_of_scans reads scans ahead nonempty, pull_of_scans scans ahead]
    simp [reads.location, Location.advanceOver]

def calls : Nat → Guarded (List Token)
  | 0 => return []
  | n + 1 => do
    let token ← nextToken
    let others ← calls n
    return token :: others

theorem run_calls_of_reads (reads : Reads t lexer) (n : Nat) :
    (calls n).run lexer.machine = pure (lexer.pulls n, (lexer.skip n).machine) := by
  induction n generalizing lexer with
  | zero => rfl
  | succ n ih => simp [calls, run_nextToken reads, ih reads.pull, pulls, Lexer.skip]

/-- However often a token is called for, on any text, there is no fault. -/
theorem run_calls (t : Text) (n : Nat) :
    (calls n).run (.ofText t) = .ok ((Lexer.ofText t).pulls n, ((Lexer.ofText t).skip n).machine) :=
  run_calls_of_reads (reads_ofText t) n

end Guarded

end HclLexis

import HclLexis.Proofs.Run

/-! The tokens tell the modes. Walking the tokens with a stack of its own, that openers push to,
closers pop from, and braces count in, gives the mode stack of the lexer after each call, up to what
a heredoc remembers of its lines. So the end token lists the openers that have no closer. -/

namespace HclLexis

/-- A mode without what a heredoc remembers of its lines. -/
def Mode.outline : Mode → Mode
  | .heredocTemplate heredoc =>
    .heredocTemplate { terminator := heredoc.terminator, stripIndent := heredoc.stripIndent }
  | mode => mode

def ModeStack.outline (modes : ModeStack) : ModeStack where
  base := modes.base.outline
  frames := modes.frames.map fun frame => { frame with mode := frame.mode.outline }

/-- What a token does to a stack of modes. A closer that does not fit the innermost mode, and a
brace that closes more than is open, have no replay. -/
def Token.replay? (token : Token) (modes : ModeStack) : Option ModeStack :=
  match token.kind, modes.frames with
  | .openQuote, frames => some { modes with frames := ⟨.quotedTemplate, token.start⟩ :: frames }
  | .templateInterp, frames | .templateControl, frames =>
    some { modes with frames := ⟨.interpolation 0, token.start⟩ :: frames }
  | .heredocOpen stripIndent, frames => token.terminator?.map fun terminator =>
    { modes with
      frames := ⟨.heredocTemplate { terminator, stripIndent }, token.start⟩ :: frames }
  | .closeQuote, ⟨.quotedTemplate, _⟩ :: below => some { modes with frames := below }
  | .templateSeqEnd, ⟨.interpolation _, _⟩ :: below => some { modes with frames := below }
  | .heredocClose _, ⟨.heredocTemplate _, _⟩ :: below => some { modes with frames := below }
  | .closeQuote, _ | .templateSeqEnd, _ | .heredocClose _, _ => none
  | .openBrace, ⟨.interpolation depth, openedAt⟩ :: below =>
    some { modes with frames := ⟨.interpolation (depth + 1), openedAt⟩ :: below }
  | .closeBrace, ⟨.interpolation (depth + 1), openedAt⟩ :: below =>
    some { modes with frames := ⟨.interpolation depth, openedAt⟩ :: below }
  | .closeBrace, ⟨.interpolation 0, _⟩ :: _ => none
  | _, _ => some modes

def replay? (tokens : List Token) : Option ModeStack :=
  tokens.foldlM (fun modes token => token.replay? modes) {}

namespace Token

variable {token : Token} {modes : ModeStack}

theorem replay?_of_neutral (neutral : token.kind.isNeutral) : token.replay? modes = some modes := by
  obtain ⟨kind, text, start, stop⟩ := token
  cases kind <;> first | rfl | cases neutral

theorem replay?_of_bodyBrace (brace : token.kind.isBrace) (body : modes.current = .structural) :
    token.replay? modes = some modes := by
  obtain ⟨kind, text, start, stop⟩ := token
  obtain ⟨base, frames⟩ := modes
  cases frames with
  | nil => cases kind <;> first | rfl | cases brace
  | cons frame below =>
    obtain ⟨mode, openedAt⟩ := frame
    cases body
    cases kind <;> first | rfl | cases brace

theorem replay?_of_opensSequence (opens : token.kind.opens? = some .interpolation) :
    token.replay? modes = some (modes.push (.interpolation 0) token.start) := by
  obtain ⟨kind, text, start, stop⟩ := token
  cases kind <;> first | rfl | cases opens

theorem terminator?_heredocOpen {stripIndent : Bool} {terminator : Text}
    (kind : token.kind = .heredocOpen stripIndent)
    (text : token.text = heredocMarker stripIndent ++ terminator) :
    token.terminator? = some terminator := by
  cases stripIndent <;> simp [terminator?, kind, text, heredocMarker, withoutMarker?]

end Token

namespace ModeStack

variable {modes : ModeStack} {mode : Mode}

theorem eq_cons_of_current (base : modes.base = .structural) (h : modes.current = mode)
    (above : mode ≠ .structural) :
    ∃ openedAt below, modes = { frames := ⟨mode, openedAt⟩ :: below } := by
  subst h
  obtain ⟨_, frames⟩ := modes
  subst base
  cases frames with
  | nil => exact absurd rfl above
  | cons frame below => exact ⟨frame.openedAt, below, rfl⟩

theorem current_outline (modes : ModeStack) : modes.outline.current = modes.current.outline := by
  obtain ⟨base, frames⟩ := modes
  cases frames <;> rfl

theorem depth_outline (modes : ModeStack) : modes.outline.depth = modes.depth := by
  rw [depth, outline, List.length_map, depth]

theorem outline_setCurrent (h : mode.outline = modes.current.outline) :
    (modes.setCurrent mode).outline = modes.outline := by
  obtain ⟨base, frames⟩ := modes
  cases frames with
  | nil =>
    rw [setCurrent, outline, h]
    rfl
  | cons frame below =>
    rw [setCurrent, outline, List.map_cons, h]
    rfl

theorem outline_setCurrent_heredoc {heredoc : Heredoc}
    (h : modes.current = .heredocTemplate heredoc) (next : Heredoc)
    (terminator : next.terminator = heredoc.terminator)
    (stripIndent : next.stripIndent = heredoc.stripIndent) :
    (modes.setCurrent (.heredocTemplate next)).outline = modes.outline := by
  apply outline_setCurrent
  rw [h, Mode.outline, Mode.outline, terminator, stripIndent]

end ModeStack

namespace Lexer

open Rules.HeredocBody

variable {t : Text} {lexer next : Lexer} {token : Token}

theorem Turn.replay? (reads : Reads t lexer) (turn : Turn lexer token next) :
    token.replay? lexer.modes.outline = some next.modes.outline := by
  cases turn with
  | atEnd => rfl
  | @scanned _ scan tail split nonempty outcome =>
    generalize current : lexer.modes.current = mode at outcome
    have stays := ModeStack.setCurrent_current current
    have onTop := ModeStack.eq_cons_of_current reads.base current
    cases outcome with
    | openQuote =>
      rw [stays]
      rfl
    | heredocOpen _ stripIndent name =>
      rw [stays, Token.replay?, Token.terminator?_heredocOpen rfl rfl]
      rfl
    | neutral _ _ neutral =>
      rw [stays]
      exact Token.replay?_of_neutral neutral
    | bodyBrace _ brace =>
      rw [stays]
      exact Token.replay?_of_bodyBrace brace (by rw [ModeStack.current_outline, current]; rfl)
    | openBrace | closeBrace | closeSequence | closeQuote | heredocClose =>
      obtain ⟨openedAt, below, onTop⟩ := onTop nofun
      rw [onTop]
      rfl
    | stringSequence _ opens =>
      rw [stays]
      exact Token.replay?_of_opensSequence opens
    | stringText _ neutral =>
      rw [stays]
      exact Token.replay?_of_neutral neutral
    | @heredocSequence heredoc _ _ _ opens =>
      have same := ModeStack.outline_setCurrent_heredoc current
        (enterLine heredoc lexer.cursor.rest) (enterLine_terminator _ _) (enterLine_stripIndent _ _)
      rw [Token.replay?_of_opensSequence opens, ← same]
      rfl
    | @heredocLineBreak heredoc =>
      have same := ModeStack.outline_setCurrent_heredoc current
        { enterLine heredoc lexer.cursor.rest with atLineStart := true }
        (enterLine_terminator _ _) (enterLine_stripIndent _ _)
      exact congrArg some same.symm
    | @heredocText heredoc =>
      have same := ModeStack.outline_setCurrent_heredoc current
        (enterLine heredoc lexer.cursor.rest) (enterLine_terminator _ _) (enterLine_stripIndent _ _)
      exact congrArg some same.symm

theorem replay?_pulls (t : Text) (n : Nat) :
    HclLexis.replay? ((ofText t).pulls n) = some ((ofText t).skip n).modes.outline := by
  induction n with
  | zero => rfl
  | succ n ih =>
    have reads := (reads_ofText t).skip n
    rw [pulls_succ, HclLexis.replay?, List.foldlM_append, ← HclLexis.replay?, ih]
    simp [token, reads.turn.replay? reads, skip_succ]

end Lexer

/-- The openers among tokens that no closer behind them closes, in order, next to the number of
closers that no opener among the tokens fits. -/
def unmatched : List Token → Nat × List OpenConstruct
  | [] => (0, [])
  | token :: tokens =>
    let (closers, openers) := unmatched tokens
    match token.kind.opens?, closers with
    | some mode, 0 => (0, ⟨mode, token.start⟩ :: openers)
    | some _, closers + 1 => (closers, openers)
    | none, closers => (if token.kind.closes?.isSome then closers + 1 else closers, openers)

def unmatchedOpeners (tokens : List Token) : List OpenConstruct := (unmatched tokens).2

/-- The constructs of a stack's frames, the innermost first. -/
def ModeStack.constructs (modes : ModeStack) : List OpenConstruct :=
  modes.frames.map Frame.construct

theorem Token.constructs_replay? {token : Token} {modes next : ModeStack}
    (h : token.replay? modes = some next) :
    match token.kind.opens?, token.kind.closes? with
    | some mode, _ => next.constructs = ⟨mode, token.start⟩ :: modes.constructs
    | none, some _ => ∃ construct, modes.constructs = construct :: next.constructs
    | none, none => next.constructs = modes.constructs := by
  obtain ⟨kind, text, start, stop⟩ := token
  obtain ⟨base, frames⟩ := modes
  cases kind with
  | openQuote | templateInterp | templateControl =>
    cases h
    rfl
  | heredocOpen stripIndent =>
    obtain ⟨terminator, -, rfl⟩ := Option.map_eq_some_iff.mp h
    rfl
  | closeQuote | templateSeqEnd | heredocClose =>
    rcases frames with _ | ⟨⟨_ | _ | _ | _, openedAt⟩, below⟩ <;> cases h
    exact ⟨_, rfl⟩
  | openBrace | closeBrace =>
    rcases frames with _ | ⟨⟨_ | _ | _ | _ | depth, openedAt⟩, below⟩ <;> cases h <;> rfl
  | _ =>
    cases h
    rfl

theorem constructs_replay {tokens : List Token} {modes next : ModeStack}
    (h : tokens.foldlM (fun modes token => token.replay? modes) modes = some next) :
    next.constructs =
      (unmatchedOpeners tokens).reverse ++ modes.constructs.drop (unmatched tokens).1 := by
  induction tokens generalizing modes with
  | nil =>
    cases h
    rfl
  | cons token tokens ih =>
    rw [List.foldlM_cons] at h
    obtain ⟨middle, replayed, rest⟩ := Option.bind_eq_some_iff.mp h
    have step := Token.constructs_replay? replayed
    rw [ih rest, unmatchedOpeners, unmatchedOpeners, unmatched]
    generalize unmatched tokens = behind
    obtain ⟨closers, openers⟩ := behind
    -- an opener is closed by the first closer that the tokens behind it have to spare
    cases opens : token.kind.opens? with
    | some mode =>
      simp only [opens] at step
      cases closers with
      | zero => simp [step]
      | succ closers => simp [step]
    | none =>
      cases closes : token.kind.closes? with
      | some mode =>
        simp only [opens, closes] at step
        obtain ⟨construct, step⟩ := step
        simp [step]
      | none =>
        simp only [opens, closes] at step
        simp [step]

namespace Lexer

variable {t : Text} {lexer next : Lexer} {token : Token}

theorem Turn.current_of_templateSeqEnd (turn : Turn lexer token next)
    (seqEnd : token.kind = .templateSeqEnd) : lexer.modes.current = .interpolation 0 := by
  cases turn with
  | atEnd => cases seqEnd
  | scanned _ _ outcome =>
    generalize lexer.modes.current = mode at outcome
    cases outcome with
    | closeSequence => rfl
    | neutral _ _ neutral => cases seqEnd; cases neutral
    | stringText _ neutral => cases seqEnd; cases neutral
    | bodyBrace _ brace => cases seqEnd; cases brace
    | stringSequence _ opens => cases seqEnd; cases opens
    | heredocSequence _ _ opens => cases seqEnd; cases opens
    | _ => cases seqEnd

theorem unclosed_eq_unmatchedOpeners (t : Text) (n : Nat) :
    ((ofText t).skip n).modes.unclosed = unmatchedOpeners ((ofText t).pulls n) := by
  have constructs := constructs_replay (replay?_pulls t n)
  have kept : ((ofText t).skip n).modes.outline.constructs =
      ((ofText t).skip n).modes.constructs := by
    rw [ModeStack.constructs, ModeStack.outline, List.map_map]
    refine List.map_congr_left fun frame _ => ?_
    obtain ⟨mode, openedAt⟩ := frame
    cases mode <;> rfl
  have empty : (ModeStack.constructs {}).drop (unmatched ((ofText t).pulls n)).1 = [] := by
    simp [ModeStack.constructs]
  rw [kept, empty, List.append_nil] at constructs
  rw [ModeStack.unclosed, List.map_reverse, ← ModeStack.constructs, constructs,
    List.reverse_reverse]

end Lexer

open Lexer

/-- After any number of calls the modes are the replay of the tokens, a token that ends a sequence
comes at brace depth zero, and the end token lists the openers without a closer. -/
theorem modes_eq_replay (t : Text) :
    (∀ n, replay? ((ofText t).pulls n) = some ((ofText t).skip n).modes.outline) ∧
    (∀ n, ((ofText t).token n).kind = .templateSeqEnd →
      ((ofText t).skip n).modes.current = .interpolation 0) ∧
    ∃ body last, tokenize t = body ++ [last] ∧ last.kind = .eof (unmatchedOpeners body) := by
  refine ⟨replay?_pulls t, fun n seqEnd => ?_, ?_⟩
  · exact ((reads_ofText t).skip n).turn.current_of_templateSeqEnd seqEnd
  · obtain ⟨n, -, ends, -, drained⟩ := tokenize_eq_pulls t
    refine ⟨(ofText t).pulls n, (ofText t).token n, ?_, ?_⟩
    · rw [tokenize, drained, pulls_succ]
    · rw [Lexer.token, pull_of_ended ends, ← unclosed_eq_unmatchedOpeners]
      rfl

end HclLexis

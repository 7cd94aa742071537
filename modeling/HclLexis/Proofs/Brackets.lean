import HclLexis.Proofs.Replay

/-! Openers and closers as brackets of three kinds. A walk of the tokens with nothing but the kinds
of the open modes comes to the kinds that the lexer has. What such a walk can pass is bracketed: the
closer of an opener stands behind balanced tokens, and the openers that are left at the end are the
ones without such a closer. -/

namespace HclLexis

namespace Token

/-- What a token does to the kinds of the modes, the innermost first. Only a closer of the innermost
mode passes. -/
def walk? (token : Token) (kinds : List ModeKind) : Option (List ModeKind) :=
  match token.kind.opens?, token.kind.closes?, kinds with
  | some mode, _, kinds => some (mode :: kinds)
  | none, some mode, top :: below => if top = mode then some below else none
  | none, some _, [] => none
  | none, none, kinds => some kinds

variable {token : Token} {kinds : List ModeKind} {mode : ModeKind}

theorem walk?_of_opens (opens : token.kind.opens? = some mode) :
    token.walk? kinds = some (mode :: kinds) := by
  simp only [walk?, opens]

theorem opens?_of_closes (closes : token.kind.closes? = some mode) : token.kind.opens? = none := by
  obtain ⟨kind, text, start, stop⟩ := token
  cases kind <;> first | rfl | cases closes

theorem walk?_of_neither (noOpener : token.kind.opens? = none)
    (noCloser : token.kind.closes? = none) : token.walk? kinds = some kinds := by
  simp only [walk?, noOpener, noCloser]

theorem eq_cons_of_walk? {next : List ModeKind} (closes : token.kind.closes? = some mode)
    (walked : token.walk? kinds = some next) : kinds = mode :: next := by
  simp only [walk?, opens?_of_closes closes, closes] at walked
  cases kinds with
  | nil => cases walked
  | cons top below =>
    rw [Option.ite_none_right_eq_some] at walked
    obtain ⟨rfl, same⟩ := walked
    cases same
    rfl

end Token

def walk? (tokens : List Token) (kinds : List ModeKind) : Option (List ModeKind) :=
  tokens.foldlM (fun kinds token => token.walk? kinds) kinds

theorem walk?_cons (token : Token) (tokens : List Token) (kinds : List ModeKind) :
    walk? (token :: tokens) kinds = (token.walk? kinds).bind (walk? tokens) := rfl

namespace ModeStack

theorem kinds_reverse (modes : ModeStack) :
    modes.kinds.reverse = modes.frames.map (·.mode.kind) ++ [modes.base.kind] := by
  simp [kinds, List.map_reverse]

theorem kinds_outline (modes : ModeStack) : modes.outline.kinds = modes.kinds := by
  have kind (mode : Mode) : mode.outline.kind = mode.kind := by cases mode <;> rfl
  simp [kinds, outline, kind]

end ModeStack

theorem Token.walk?_of_replay? {token : Token} {modes next : ModeStack}
    (replayed : token.replay? modes = some next) :
    token.walk? modes.kinds.reverse = some next.kinds.reverse := by
  rw [ModeStack.kinds_reverse, ModeStack.kinds_reverse]
  obtain ⟨kind, text, start, stop⟩ := token
  obtain ⟨base, frames⟩ := modes
  cases kind with
  | heredocOpen stripIndent =>
    obtain ⟨terminator, -, rfl⟩ := Option.map_eq_some_iff.mp replayed
    rfl
  | closeQuote | templateSeqEnd | heredocClose =>
    rcases frames with _ | ⟨⟨_ | _ | _ | _, openedAt⟩, below⟩ <;> cases replayed
    rfl
  | openBrace | closeBrace =>
    rcases frames with _ | ⟨⟨_ | _ | _ | _ | depth, openedAt⟩, below⟩ <;> cases replayed <;> rfl
  | _ =>
    cases replayed
    rfl

namespace Lexer

theorem Reads.walk?_pull {t : Text} {lexer : Lexer} (reads : Reads t lexer) :
    lexer.pull.1.walk? lexer.modes.kinds.reverse = some lexer.pull.2.modes.kinds.reverse := by
  have walked := Token.walk?_of_replay? (reads.turn.replay? reads)
  rwa [ModeStack.kinds_outline, ModeStack.kinds_outline] at walked

theorem Reads.walk?_pulls {t : Text} {lexer : Lexer} (reads : Reads t lexer) (n : Nat) :
    HclLexis.walk? (lexer.pulls n) lexer.modes.kinds.reverse =
      some (lexer.skip n).modes.kinds.reverse := by
  induction n generalizing lexer with
  | zero => rfl
  | succ n ih =>
    rw [pulls, walk?_cons, reads.walk?_pull, Option.bind_some, ih reads.pull, Lexer.skip]

end Lexer

theorem Lexer.exists_walk?_tokenize (t : Text) :
    ∃ kinds, HclLexis.walk? (tokenize t) [.structural] = some kinds := by
  obtain ⟨n, -, -, -, drained⟩ := tokenize_eq_pulls t
  have tokens : tokenize t = (ofText t).pulls (n + 1) := congrArg Prod.fst drained
  rw [tokens]
  exact ⟨_, (reads_ofText t).walk?_pulls (n + 1)⟩

inductive Balanced : List Token → Prop
  | nil : Balanced []
  | other {token : Token} {tokens : List Token} (noOpener : token.kind.opens? = none)
      (noCloser : token.kind.closes? = none) (rest : Balanced tokens) : Balanced (token :: tokens)
  | enclosed {mode : ModeKind} {opener closer : Token} {inside behind : List Token}
      (opens : opener.kind.opens? = some mode) (inner : Balanced inside)
      (closes : closer.kind.closes? = some mode) (rest : Balanced behind) :
      Balanced (opener :: (inside ++ closer :: behind))

/-- Behind an opener of the mode: balanced tokens, and then a closer of the mode. -/
def Closes (mode : ModeKind) (tokens : List Token) : Prop :=
  ∃ inside closer behind, tokens = inside ++ closer :: behind ∧ Balanced inside ∧
    closer.kind.closes? = some mode

/-- The openers among tokens that no closer behind them closes, in the order of the tokens. -/
inductive LeavesOpen : List Token → List OpenConstruct → Prop
  | nil : LeavesOpen [] []
  | other {token : Token} {tokens : List Token} {openers : List OpenConstruct}
      (noOpener : token.kind.opens? = none) (rest : LeavesOpen tokens openers) :
      LeavesOpen (token :: tokens) openers
  | closed {mode : ModeKind} {token : Token} {tokens : List Token} {openers : List OpenConstruct}
      (opens : token.kind.opens? = some mode) (closes : Closes mode tokens)
      (rest : LeavesOpen tokens openers) : LeavesOpen (token :: tokens) openers
  | left {mode : ModeKind} {token : Token} {tokens : List Token} {openers : List OpenConstruct}
      (opens : token.kind.opens? = some mode) (open' : ¬ Closes mode tokens)
      (rest : LeavesOpen tokens openers) :
      LeavesOpen (token :: tokens) (⟨mode, token.start⟩ :: openers)

section

variable {token : Token} {tokens : List Token} {mode : ModeKind}

theorem unmatched_of_closes (closes : token.kind.closes? = some mode) :
    unmatched (token :: tokens) = ((unmatched tokens).1 + 1, unmatchedOpeners tokens) := by
  rw [unmatched, Token.opens?_of_closes closes, closes]
  rfl

theorem unmatched_of_neither (noOpener : token.kind.opens? = none)
    (noCloser : token.kind.closes? = none) : unmatched (token :: tokens) = unmatched tokens := by
  rw [unmatched, noOpener, noCloser]
  rfl

theorem unmatched_of_opens (opens : token.kind.opens? = some mode) :
    unmatched (token :: tokens) = ((unmatched tokens).1 - 1,
      if (unmatched tokens).1 = 0 then ⟨mode, token.start⟩ :: unmatchedOpeners tokens
      else unmatchedOpeners tokens) := by
  simp only [unmatched, opens, unmatchedOpeners]
  generalize unmatched tokens = behind
  obtain ⟨closers, openers⟩ := behind
  cases closers <;> rfl

theorem unmatched_concat (noOpener : token.kind.opens? = none)
    (noCloser : token.kind.closes? = none) (tokens : List Token) :
    unmatched (tokens ++ [token]) = unmatched tokens := by
  induction tokens with
  | nil => exact unmatched_of_neither noOpener noCloser
  | cons first tokens ih => rw [List.cons_append, unmatched, ih, unmatched]

end

theorem Balanced.unmatched_append {inside : List Token} (balanced : Balanced inside)
    (rest : List Token) : (unmatched (inside ++ rest)).1 = (unmatched rest).1 := by
  induction balanced generalizing rest with
  | nil => rfl
  | other noOpener noCloser _ ih =>
    rw [List.cons_append, unmatched_of_neither noOpener noCloser, ih]
  | enclosed opens _ closes _ inner behind =>
    rw [List.cons_append, unmatched_of_opens opens, List.append_assoc, inner, List.cons_append,
      unmatched_of_closes closes]
    exact behind rest

theorem exists_closer {tokens : List Token} {top : ModeKind} {below last : List ModeKind}
    (walked : walk? tokens (top :: below) = some last) (closer : 0 < (unmatched tokens).1) :
    ∃ inside closer behind, tokens = inside ++ closer :: behind ∧ Balanced inside ∧
      closer.kind.closes? = some top ∧ walk? behind below = some last := by
  generalize size : tokens.length = length
  induction length using Nat.strongRecOn generalizing tokens top below with
  | ind length ih =>
    cases tokens with
    | nil => cases closer
    | cons token tokens =>
      rw [List.length_cons] at size
      rw [walk?_cons] at walked
      obtain ⟨next, step, rest⟩ := Option.bind_eq_some_iff.mp walked
      cases opens : token.kind.opens? with
      | some mode =>
        -- the opener's own closer comes first, and behind it the one that is looked for
        cases (Token.walk?_of_opens opens).symm.trans step
        rw [unmatched_of_opens opens] at closer
        obtain ⟨inside, own, behind, rfl, inner, closes, walked⟩ :=
          ih tokens.length (by omega) rest (by omega) rfl
        rw [inner.unmatched_append, unmatched_of_closes closes] at closer
        rw [List.length_append, List.length_cons] at size
        obtain ⟨others, last, behind, rfl, balanced, closes', walked⟩ :=
          ih behind.length (by omega) walked closer rfl
        exact ⟨token :: (inside ++ own :: others), last, behind, by simp,
          .enclosed opens inner closes balanced, closes', walked⟩
      | none =>
        cases closes : token.kind.closes? with
        | some mode =>
          cases Token.eq_cons_of_walk? closes step
          exact ⟨[], token, tokens, rfl, .nil, closes, rest⟩
        | none =>
          cases (Token.walk?_of_neither opens closes).symm.trans step
          rw [unmatched_of_neither opens closes] at closer
          obtain ⟨inside, last, behind, rfl, balanced, closes', walked⟩ :=
            ih tokens.length (by omega) rest closer rfl
          exact ⟨token :: inside, last, behind, rfl, .other opens closes balanced, closes', walked⟩

theorem closes_iff {tokens : List Token} {mode : ModeKind} {below last : List ModeKind}
    (walked : walk? tokens (mode :: below) = some last) :
    Closes mode tokens ↔ (unmatched tokens).1 ≠ 0 := by
  constructor
  · rintro ⟨inside, closer, behind, rfl, balanced, closes⟩
    rw [balanced.unmatched_append, unmatched_of_closes closes]
    exact Nat.succ_ne_zero _
  · intro closer
    obtain ⟨inside, closer, behind, split, balanced, closes, -⟩ :=
      exists_closer walked (Nat.pos_of_ne_zero closer)
    exact ⟨inside, closer, behind, split, balanced, closes⟩

theorem leavesOpen_unmatchedOpeners {tokens : List Token} {kinds last : List ModeKind}
    (walked : walk? tokens kinds = some last) : LeavesOpen tokens (unmatchedOpeners tokens) := by
  induction tokens generalizing kinds with
  | nil => exact .nil
  | cons token tokens ih =>
    rw [walk?_cons] at walked
    obtain ⟨next, step, rest⟩ := Option.bind_eq_some_iff.mp walked
    have others := ih rest
    cases opens : token.kind.opens? with
    | some mode =>
      cases (Token.walk?_of_opens opens).symm.trans step
      rw [unmatchedOpeners, unmatched_of_opens opens]
      dsimp only
      split
      · rename_i left
        exact .left opens (fun closes => (closes_iff rest).mp closes left) others
      · rename_i closed
        exact .closed opens ((closes_iff rest).mpr closed) others
    | none =>
      have same : unmatchedOpeners (token :: tokens) = unmatchedOpeners tokens := by
        rw [unmatchedOpeners]
        cases closes : token.kind.closes? with
        | some mode => rw [unmatched_of_closes closes]
        | none => rw [unmatched_of_neither opens closes, unmatchedOpeners]
      rw [same]
      exact .other opens others

def Token.opened? (token : Token) : Option OpenConstruct :=
  token.kind.opens?.map fun mode => ⟨mode, token.start⟩

theorem LeavesOpen.sublist {tokens : List Token} {openers : List OpenConstruct}
    (leaves : LeavesOpen tokens openers) :
    openers.Sublist (tokens.filterMap Token.opened?) := by
  induction leaves with
  | nil => exact .slnil
  | other noOpener _ ih => simpa [Token.opened?, noOpener] using ih
  | closed opens _ _ ih => simpa [Token.opened?, opens] using ih.cons _
  | left opens _ _ ih => simpa [Token.opened?, opens] using ih

end HclLexis

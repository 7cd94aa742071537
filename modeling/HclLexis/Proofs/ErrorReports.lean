import HclLexis.Diagnostics
import HclLexis.Proofs.Brackets
import HclLexis.Proofs.Stacking
import Mathlib.Data.List.Basic

/-! Reports of errors agree. The list of them has the error tokens first and the openers without a
closer behind these, each in the order of the text, and the first of the list decides whether a text
has tokens without errors. -/

namespace HclLexis

namespace Token

def fault? (token : Token) : Option LexError :=
  match token.kind with
  | .error kind => some ⟨kind, token.start⟩
  | _ => none

theorem errors_of_not_isEof {token : Token} (notEof : ¬ token.isEof) :
    token.errors = token.fault?.toList := by
  obtain ⟨kind, text, start, stop⟩ := token
  cases kind with
  | eof => exact absurd rfl notEof
  | _ => rfl

theorem errors_eq_nil_iff {token : Token} : token.errors = [] ↔ token.kind.isError = false := by
  obtain ⟨kind, text, start, stop⟩ := token
  cases kind with
  | eof unterminated => simp [errors, TokenKind.isError]
  | error => simp [errors, TokenKind.isError]
  | _ => exact ⟨fun _ => rfl, fun _ => rfl⟩

theorem start_of_fault? {token : Token} {error : LexError} (found : token.fault? = some error) :
    error.location = token.start := by
  obtain ⟨kind, text, start, stop⟩ := token
  cases kind with
  | error kind =>
    cases found
    rfl
  | _ => cases found

theorem openedAt_of_opened? {token : Token} {construct : OpenConstruct}
    (found : token.opened? = some construct) : construct.openedAt = token.start := by
  obtain ⟨mode, -, rfl⟩ := Option.map_eq_some_iff.mp found
  rfl

end Token

def OpenConstruct.report (construct : OpenConstruct) : LexError :=
  ⟨.unterminated construct.kind, construct.openedAt⟩

namespace LexError

variable {tokens : List Token}

theorem ofTokens_eq_nil_iff :
    ofTokens tokens = [] ↔ ∀ token ∈ tokens, token.kind.isError = false := by
  simp only [ofTokens, List.flatMap_eq_nil_iff, Token.errors_eq_nil_iff]

theorem ofTokens_eq_filterMap (notEof : ∀ token ∈ tokens, ¬ token.isEof) :
    ofTokens tokens = tokens.filterMap Token.fault? := by
  rw [List.filterMap_eq_flatMap_toList]
  exact List.flatMap_congr fun token member => Token.errors_of_not_isEof (notEof token member)

end LexError

theorem tokensOrError_eq (t : Text) : tokensOrError t =
    match LexError.ofTokens (tokenize t) with
    | [] => .ok (tokenize t)
    | error :: _ => .error error := by
  rw [tokensOrError, ← List.head?_flatMap, ← LexError.ofTokens]
  cases LexError.ofTokens (tokenize t) <;> rfl

namespace Lexer

variable {t : Text} {lexer : Lexer} {tokens : List Token}

theorem Drains.pairwise_start (drains : lexer.Drains tokens) (reads : Reads t lexer) :
    tokens.Pairwise (fun token later => token.start.offset < later.start.offset) ∧
      ∀ token ∈ tokens, lexer.cursor.location.offset ≤ token.start.offset := by
  induction drains with
  | ended => exact ⟨List.pairwise_singleton _ _, by simp [endToken]⟩
  | @next lexer tokens ahead _ ih =>
    obtain ⟨ordered, behind⟩ := ih reads.pull
    have start : lexer.pull.1.start.offset < lexer.pull.2.cursor.location.offset := by
      obtain ⟨mode, scan, tail, scans, split, nonempty⟩ := reads.exists_scans ahead
      rw [pull_of_scans scans split]
      exact offset_lt_behind lexer mode tail nonempty
    rw [reads.turn.start] at start
    refine ⟨List.pairwise_cons.mpr ⟨fun later member => ?_, ordered⟩,
      List.forall_mem_cons.mpr ⟨reads.turn.start ▸ Nat.le_refl _, fun later member => ?_⟩⟩
    · rw [reads.turn.start]
      exact Nat.lt_of_lt_of_le start (behind later member)
    · exact Nat.le_trans (Nat.le_of_lt start) (behind later member)

theorem ofTokens_tokenize (t : Text) : LexError.ofTokens (tokenize t) =
    (tokenize t).filterMap Token.fault? ++
      (unmatchedOpeners (tokenize t)).map OpenConstruct.report := by
  obtain ⟨n, -, -, before, whole, -⟩ := exists_tokensBeforeEnd t
  have notEof : ∀ token ∈ tokensBeforeEnd t, ¬ token.isEof := by
    simp [tokensBeforeEnd]
  have openers : unmatchedOpeners (tokenize t) = ((ofText t).skip n).modes.unclosed := by
    rw [whole, unmatchedOpeners, unmatched_concat rfl rfl, ← unmatchedOpeners, ← before,
      unclosed_eq_unmatchedOpeners]
  rw [openers, whole, LexError.ofTokens, List.flatMap_append, ← LexError.ofTokens,
    LexError.ofTokens_eq_filterMap notEof, List.filterMap_append, List.append_assoc]
  congr 1
  exact List.append_nil _

end Lexer

open Lexer

/-- All reports of errors agree. Their list has the error tokens first and then the openers that no
closer closes, each in the order of the text. A text has tokens without errors just if the list is
empty, and otherwise its first error counts. -/
theorem reports_agree (t : Text) :
    LexError.ofTokens (tokenize t) = (tokenize t).filterMap Token.fault? ++
      (unmatchedOpeners (tokenize t)).map OpenConstruct.report ∧
    ((tokenize t).filterMap Token.fault?).Pairwise
      (fun error later => error.location.offset < later.location.offset) ∧
    LeavesOpen (tokenize t) (unmatchedOpeners (tokenize t)) ∧
    (unmatchedOpeners (tokenize t)).Pairwise
      (fun outer inner => outer.openedAt.offset < inner.openedAt.offset) ∧
    (tokensOrError t = .ok (tokenize t) ↔ LexError.ofTokens (tokenize t) = []) ∧
    (LexError.ofTokens (tokenize t) = [] ↔ ∀ token ∈ tokenize t, token.kind.isError = false) ∧
    (∀ error, (LexError.ofTokens (tokenize t)).head? = some error →
      tokensOrError t = .error error) ∧
    ∀ error, ((tokenize t).filterMap Token.fault?).head? = some error →
      tokensOrError t = .error error := by
  have starts := ((drains_tokenize t).pairwise_start (reads_ofText t)).1
  obtain ⟨n, walked⟩ := exists_walk?_tokenize t
  have leaves := leavesOpen_unmatchedOpeners walked
  have reports := ofTokens_tokenize t
  have first (error : LexError) (head : (LexError.ofTokens (tokenize t)).head? = some error) :
      tokensOrError t = .error error := by
    obtain ⟨others, list⟩ := List.head?_eq_some_iff.mp head
    rw [tokensOrError_eq, list]
  refine ⟨reports, ?_, leaves, ?_, ?_, LexError.ofTokens_eq_nil_iff, first, fun error head => ?_⟩
  · refine starts.filterMap _ fun token later less error found error' found' => ?_
    rwa [Token.start_of_fault? found, Token.start_of_fault? found']
  · have opened : ((tokenize t).filterMap Token.opened?).Pairwise
        (fun outer inner => outer.openedAt.offset < inner.openedAt.offset) := by
      refine starts.filterMap _ fun token later less outer found inner found' => ?_
      rwa [Token.openedAt_of_opened? found, Token.openedAt_of_opened? found']
    exact opened.sublist leaves.sublist
  · rw [tokensOrError_eq]
    cases LexError.ofTokens (tokenize t) <;> simp
  · refine first error ?_
    rw [reports, List.head?_append, head, Option.some_or]

end HclLexis

import HclLexis.Diagnostics
import HclLexis.Proofs.Stacking
import Mathlib.Data.List.DropRight
import Mathlib.Logic.Relation

/-! Locations are exact. However a cursor moves, its location counts the bytes, the line feeds and
the characters of the last line in front of it, and so do the locations that tokens, errors and open
constructs have from it. -/

namespace HclLexis

namespace Location

/-- The counts of a text up to the location: its bytes, its line feeds, and the characters behind
the last of these. -/
structure Counts (here : Location) (before : Text) : Prop where
  offset : here.offset = Text.byteSize before
  line : here.line = 1 + before.count '\n'
  column : here.column = 1 + (before.rtakeWhile (· != '\n')).length

def IsPlaceIn (here : Location) (t : Text) : Prop := ∃ before, before <+: t ∧ here.Counts before

theorem counts_advance {here : Location} {before : Text} (counts : here.Counts before) (c : Char) :
    (here.advance c).Counts (before ++ [c]) := by
  obtain ⟨offset, line, column⟩ := counts
  by_cases feed : c = '\n'
  · subst feed
    constructor
    · simp [advance, offset]
    · simp [advance, line, Nat.add_assoc]
    · simp [advance, List.rtakeWhile_concat_neg]
  · constructor
    · simp [advance, feed, offset]
    · simp [advance, feed, line]
    · simp [advance, feed, List.rtakeWhile_concat_pos, column, Nat.add_assoc]

theorem advanceOver_append (here : Location) (s t : Text) :
    here.advanceOver (s ++ t) = (here.advanceOver s).advanceOver t :=
  List.foldl_append

theorem counts_advanceOver (before : Text) : (start.advanceOver before).Counts before := by
  induction before using List.reverseRecOn with
  | nil => exact ⟨rfl, rfl, rfl⟩
  | append_singleton before c ih =>
    rw [advanceOver_append]
    exact counts_advance ih c

theorem isPlaceIn_advanceOver {before t : Text} (isPrefix : before <+: t) :
    (start.advanceOver before).IsPlaceIn t :=
  ⟨before, isPrefix, counts_advanceOver before⟩

end Location

namespace Cursor

inductive Moves : Cursor → Cursor → Prop
  | step (cursor : Cursor) : Moves cursor cursor.step
  | skipBytes {cursor next : Cursor} {n : Nat} (skipped : cursor.skipBytes n = .ok next) :
      Moves cursor next
  | skipWhile (cursor : Cursor) (test : Char → Bool) : Moves cursor (cursor.skipWhile test)
  | skipAccepted {σ : Type} (cursor : Cursor) (test : σ → Char → Option σ) (memory : σ) :
      Moves cursor (cursor.skipAccepted test memory)
  | skipLineBreak (cursor : Cursor) : Moves cursor cursor.skipLineBreak

theorem Moves.exists_advance {cursor next : Cursor} (moves : Moves cursor next) :
    ∃ n, next = cursor.advance n := by
  cases moves with
  | step => exact ⟨1, rfl⟩
  | skipBytes skipped =>
    rw [Cursor.skipBytes] at skipped
    split at skipped
    · cases skipped
      exact ⟨_, rfl⟩
    · cases skipped
  | skipWhile | skipAccepted | skipLineBreak => exact ⟨_, rfl⟩

structure StandsIn (t : Text) (cursor : Cursor) : Prop where
  input : cursor.input = t
  location : cursor.location = Location.start.advanceOver cursor.consumed.reverse

theorem standsIn_ofText (t : Text) : StandsIn (Text.withoutMark t) (ofText t) := ⟨rfl, rfl⟩

variable {t : Text} {cursor next : Cursor}

theorem StandsIn.step (stands : StandsIn t cursor) : StandsIn t cursor.step := by
  obtain ⟨consumed, rest, location⟩ := cursor
  obtain ⟨input, same⟩ := stands
  dsimp only at same
  subst same
  cases rest with
  | nil => exact ⟨input, rfl⟩
  | cons c rest =>
    constructor
    · rw [← input]
      simp [Cursor.input, Cursor.step]
    · simp [Cursor.step, Location.advanceOver]

theorem StandsIn.advance (stands : StandsIn t cursor) (n : Nat) :
    StandsIn t (cursor.advance n) := by
  induction n generalizing cursor with
  | zero => exact stands
  | succ n ih => exact ih stands.step

theorem StandsIn.moves (stands : StandsIn t cursor) (moves : Moves cursor next) :
    StandsIn t next := by
  obtain ⟨n, rfl⟩ := moves.exists_advance
  exact stands.advance n

theorem StandsIn.isPlaceIn (stands : StandsIn t cursor) : cursor.location.IsPlaceIn t := by
  rw [stands.location]
  exact Location.isPlaceIn_advanceOver ⟨cursor.rest, stands.input⟩

theorem isPlaceIn_of_moves (moves : Relation.ReflTransGen Moves (ofText t) cursor) :
    cursor.location.IsPlaceIn (Text.withoutMark t) := by
  have stands : StandsIn (Text.withoutMark t) cursor := by
    induction moves with
    | refl => exact standsIn_ofText t
    | tail _ move ih => exact ih.moves move
  exact stands.isPlaceIn

end Cursor

theorem Token.location_of_mem_errors {token : Token} {error : LexError}
    (member : error ∈ token.errors) : error.location = token.start ∨
      ∃ unterminated, token.kind = .eof unterminated ∧
        ∃ construct ∈ unterminated, error.location = construct.openedAt := by
  obtain ⟨kind, text, start, stop⟩ := token
  cases kind with
  | error kind =>
    rw [List.mem_singleton.mp member]
    exact .inl rfl
  | eof unterminated =>
    obtain ⟨construct, open', rfl⟩ := List.mem_map.mp member
    exact .inr ⟨unterminated, rfl, construct, open', rfl⟩
  | _ => cases member

theorem LexError.mem_of_tokensOrError {t : Text} {error : LexError}
    (failed : tokensOrError t = .error error) : error ∈ ofTokens (tokenize t) := by
  rw [tokensOrError] at failed
  split at failed
  · rename_i found
    cases failed
    obtain ⟨token, member, first⟩ := List.exists_of_findSome?_eq_some found
    exact List.mem_flatMap.mpr ⟨token, member, List.mem_of_head? first⟩
  · cases failed

namespace Lexer

variable {t : Text} {lexer : Lexer}

theorem Reads.isPlaceIn (reads : Reads t lexer) :
    lexer.cursor.location.IsPlaceIn (Text.withoutMark t) :=
  Cursor.StandsIn.isPlaceIn ⟨reads.input, reads.location⟩

theorem exists_token_of_mem {token : Token} (member : token ∈ tokenize t) :
    ∃ n, token = (ofText t).token n := by
  obtain ⟨n, -, -, -, drained⟩ := tokenize_eq_pulls t
  rw [tokenize, drained] at member
  obtain ⟨m, -, same⟩ := mem_pulls member
  exact ⟨m, same⟩

theorem IsStacked.openedAt_isPlaceIn (isStacked : IsStacked t lexer) {construct : OpenConstruct}
    (member : construct ∈ lexer.modes.unclosed) :
    construct.openedAt.IsPlaceIn (Text.withoutMark t) := by
  obtain ⟨frame, inFrames, rfl⟩ := List.mem_map.mp member
  obtain ⟨before, behind, split, place, -⟩ :=
    isStacked.stacked.opened frame (List.mem_reverse.mp inFrames)
  rw [Frame.construct, place]
  exact Location.isPlaceIn_advanceOver ⟨behind, split.symm⟩

theorem Reads.counts_of_ended (reads : Reads t lexer) (ended : lexer.cursor.rest = []) :
    lexer.cursor.location.Counts (Text.withoutMark t) := by
  have input := reads.input
  rw [Cursor.input, ended, List.append_nil] at input
  rw [reads.location, input]
  exact Location.counts_advanceOver _

theorem unterminated_of_eof {n : Nat} {unterminated : List OpenConstruct}
    (eof : ((ofText t).token n).kind = .eof unterminated) :
    (∀ construct ∈ unterminated, construct.openedAt.IsPlaceIn (Text.withoutMark t)) ∧
      ((ofText t).token n).start.Counts (Text.withoutMark t) ∧
      ((ofText t).token n).stop = ((ofText t).token n).start := by
  have reads := (reads_ofText t).skip n
  have ended : ((ofText t).skip n).cursor.rest = [] :=
    reads.isEof_iff.mp (TokenKind.isEof_iff.mpr ⟨unterminated, eof⟩)
  have last : (ofText t).token n = ((ofText t).skip n).endToken :=
    congrArg Prod.fst (pull_of_ended ended)
  rw [last] at eof ⊢
  cases eof
  exact ⟨fun construct => (isStacked_skip t n).openedAt_isPlaceIn, reads.counts_of_ended ended, rfl⟩

end Lexer

open Lexer

/-- Locations are exact: those of a cursor however it moves, those where tokens start and stop,
where open constructs were opened and where errors are. The end token is behind all of the text. -/
theorem locations_isPlaceIn (t : Text) :
    (∀ cursor, Relation.ReflTransGen Cursor.Moves (.ofText t) cursor →
      cursor.location.IsPlaceIn (Text.withoutMark t)) ∧
    (∀ token ∈ tokenize t, token.start.IsPlaceIn (Text.withoutMark t) ∧
      token.stop.IsPlaceIn (Text.withoutMark t)) ∧
    (∀ token ∈ tokenize t, ∀ unterminated, token.kind = .eof unterminated →
      (∀ construct ∈ unterminated, construct.openedAt.IsPlaceIn (Text.withoutMark t)) ∧
      token.start.Counts (Text.withoutMark t) ∧ token.stop = token.start) ∧
    (∀ error ∈ LexError.ofTokens (tokenize t), error.location.IsPlaceIn (Text.withoutMark t)) ∧
    ∀ error, tokensOrError t = .error error → error.location.IsPlaceIn (Text.withoutMark t) := by
  have spans : ∀ token ∈ tokenize t, token.start.IsPlaceIn (Text.withoutMark t) ∧
      token.stop.IsPlaceIn (Text.withoutMark t) := by
    intro token member
    obtain ⟨n, rfl⟩ := exists_token_of_mem member
    have turn := (reads_ofText t).turn_token n
    rw [turn.start, turn.stop]
    exact ⟨((reads_ofText t).skip n).isPlaceIn, ((reads_ofText t).skip (n + 1)).isPlaceIn⟩
  have ends : ∀ token ∈ tokenize t, ∀ unterminated, token.kind = .eof unterminated →
      (∀ construct ∈ unterminated, construct.openedAt.IsPlaceIn (Text.withoutMark t)) ∧
      token.start.Counts (Text.withoutMark t) ∧ token.stop = token.start := by
    intro token member unterminated eof
    obtain ⟨n, rfl⟩ := exists_token_of_mem member
    exact unterminated_of_eof eof
  have errors : ∀ error ∈ LexError.ofTokens (tokenize t),
      error.location.IsPlaceIn (Text.withoutMark t) := by
    intro error member
    obtain ⟨token, inTokens, inErrors⟩ := List.mem_flatMap.mp member
    rcases Token.location_of_mem_errors inErrors with
      same | ⟨unterminated, eof, construct, open', same⟩
    · rw [same]
      exact (spans token inTokens).1
    · rw [same]
      exact (ends token inTokens unterminated eof).1 construct open'
  refine ⟨fun cursor moves => Cursor.isPlaceIn_of_moves moves, spans, ends, errors, ?_⟩
  exact fun error failed => errors error (LexError.mem_of_tokensOrError failed)

end HclLexis

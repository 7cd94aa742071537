import HclLexis.Proofs.Run
import Mathlib.Data.List.Chain

/-! The tokens of a text tile it: they follow one another without gap or overlap, each but the last
covers some of the text, and their texts joined are the text. -/

namespace HclLexis

namespace Text

theorem size_utf8Encode (t : Text) : t.utf8Encode.size = byteSize t := by
  induction t with
  | nil => simp
  | cons c cs ih =>
    rw [List.utf8Encode_cons, ByteArray.size_append, ih, List.utf8Encode_singleton,
      List.size_toByteArray, String.length_utf8EncodeChar, byteSize_cons]

theorem extract_utf8Encode (before piece behind : Text) :
    (before ++ piece ++ behind).utf8Encode.extract (byteSize before) (byteSize (before ++ piece)) =
      piece.utf8Encode := by
  calc
    _ = (before.utf8Encode ++ (piece.utf8Encode ++ behind.utf8Encode)).extract
          (before.utf8Encode.size + 0) (before.utf8Encode.size + piece.utf8Encode.size) := by
      simp only [List.utf8Encode_append, ByteArray.append_assoc, size_utf8Encode, byteSize_append,
        Nat.add_zero]
    _ = (piece.utf8Encode ++ behind.utf8Encode).extract 0 piece.utf8Encode.size :=
      ByteArray.extract_append_size_add
    _ = piece.utf8Encode := by
      rw [ByteArray.extract_append_size_left, ByteArray.extract_zero_size]

end Text

/-- A token list that tiles the text `t`: its one end token is the last, and slices of `t` are
slices of its bytes. -/
structure Tiles (t : Text) (tokens : List Token) : Prop where
  ends : ∃ body last, tokens = body ++ [last] ∧ last.isEof ∧
    ∀ token ∈ body, ¬ token.isEof ∧ token.text ≠ []
  starts : tokens.head?.map Token.start = some .start
  adjacent : tokens.IsChain fun token next => token.stop = next.start
  slices : ∀ token ∈ tokens,
    token.text.utf8Encode = t.utf8Encode.extract token.start.offset token.stop.offset
  joined : tokens.flatMap Token.text = t

namespace Lexer

variable {t : Text} {lexer : Lexer}

theorem Reads.slice (reads : Reads t lexer) :
    lexer.pull.1.text.utf8Encode = (Text.withoutMark t).utf8Encode.extract
      lexer.pull.1.start.offset lexer.pull.1.stop.offset := by
  have turn := reads.turn
  have input := reads.input
  have start := reads.location
  have stop := reads.pull.location
  rw [Cursor.input, turn.rest, ← List.append_assoc] at input
  rw [turn.consumed, List.reverse_append, List.reverse_reverse] at stop
  rw [turn.start, turn.stop, start, stop, ← input]
  simp only [Location.offset_advanceOver, Location.start, Nat.zero_add]
  exact (Text.extract_utf8Encode _ _ _).symm

theorem Reads.isChain_pulls {R : Token → Token → Prop}
    (step : ∀ {lexer : Lexer}, Reads t lexer → R lexer.pull.1 lexer.pull.2.pull.1)
    (reads : Reads t lexer) (n : Nat) : (lexer.pulls n).IsChain R := by
  induction n generalizing lexer with
  | zero => exact .nil
  | succ n ih =>
    cases n with
    | zero => exact .singleton _
    | succ n => exact .cons_cons (step reads) (ih reads.pull)

theorem Reads.adjacent (reads : Reads t lexer) (n : Nat) :
    (lexer.pulls n).IsChain fun token next => token.stop = next.start := by
  refine isChain_pulls (fun reads => ?_) reads n
  rw [reads.turn.stop, reads.pull.turn.start]

theorem Reads.joined (reads : Reads t lexer) (n : Nat) :
    lexer.cursor.rest = (lexer.pulls n).flatMap Token.text ++ (lexer.skip n).cursor.rest := by
  induction n generalizing lexer with
  | zero => rfl
  | succ n ih =>
    rw [pulls, List.flatMap_cons, List.append_assoc, Lexer.skip, ← ih reads.pull, reads.turn.rest]

end Lexer

open Lexer

/-- Calls for tokens come to the end of any text, the token list is what these calls give up to
there, its run is over then, and it tiles the text. -/
theorem tokenize_tiles (t : Text) :
    (∃ n ≤ (Text.withoutMark t).length,
      ((ofText t).token n).isEof ∧ tokenize t = (ofText t).pulls (n + 1)) ∧
    (ofText t).drain.2.next? = none ∧ Tiles (Text.withoutMark t) (tokenize t) := by
  have reads := reads_ofText t
  obtain ⟨n, bound, ends, first, drained⟩ := tokenize_eq_pulls t
  have tokens : tokenize t = (ofText t).pulls (n + 1) := congrArg Prod.fst drained
  have isEof : ((ofText t).token n).isEof := (reads.skip n).isEof_iff.mpr ends
  refine ⟨⟨n, bound, isEof, tokens⟩, by rw [drained]; rfl, ?_⟩
  rw [tokens]
  exact {
    ends := by
      refine ⟨_, _, pulls_succ _ n, isEof, fun token member => ?_⟩
      obtain ⟨m, less, rfl⟩ := mem_pulls member
      have ahead := first m less
      exact ⟨mt (reads.skip m).isEof_iff.mp ahead, (reads.skip m).text_ne_nil ahead⟩
    starts := by
      rw [pulls, List.head?_cons, Option.map_some, reads.turn.start]
      rfl
    adjacent := reads.adjacent (n + 1)
    slices := by
      intro token member
      obtain ⟨m, -, rfl⟩ := mem_pulls member
      exact (reads.skip m).slice
    joined := by
      have joined := reads.joined (n + 1)
      have empty : ((ofText t).skip (n + 1)).cursor.rest = [] := by
        rw [skip_succ, pull_of_ended ends]
        exact ends
      rw [empty, List.append_nil] at joined
      exact joined.symm }

end HclLexis

import HclLexis.Proofs.GuardedTemplates
import HclLexis.Proofs.Numbers
import Mathlib.Data.Nat.Digits.Defs

/-! Escapes by the forms that they are written in. Behind a backslash a string reads an escape if
one starts there. If none does, it reports a piece of the text with none of the characters in it
that end a string or a line. Either way it is the width in bytes that is found, and it is unique. -/

namespace HclLexis

open Lexeme Rules Guarded

namespace Lexeme

namespace Escape

def digitValues : List (Char × Nat) :=
  ['0', '1', '2', '3', '4', '5', '6', '7', '8', '9', 'a', 'b', 'c', 'd', 'e', 'f'].zipIdx ++
    ['A', 'B', 'C', 'D', 'E', 'F'].zipIdx 10

/-- The digits write the number in base sixteen, with the highest place first. -/
def Writes (digits : Text) (number : Nat) : Prop :=
  ∃ values, List.Forall₂ (fun d value => (d, value) ∈ digitValues) digits values ∧
    Nat.ofDigits 16 values.reverse = number

def IsScalar (number : Nat) : Prop :=
  number ≤ 0x10FFFF ∧ ¬ (0xD800 ≤ number ∧ number ≤ 0xDFFF)

inductive Asks : Char → Nat → Prop
  | short : Asks 'u' 4
  | long : Asks 'U' 8

inductive IsWellFormed : Text → Prop
  | letter {c : Char} (isLetter : c ∈ ['n', 'r', 't', '"', '\\']) : IsWellFormed ['\\', c]
  | number {marker : Char} {width : Nat} {digits : Text} {number : Nat}
      (asks : Asks marker width) (length : digits.length = width) (writes : Writes digits number)
      (isScalar : IsScalar number) : IsWellFormed ('\\' :: marker :: digits)

def StartsNumber (marker : Char) (width : Nat) (piece : Text) : Prop :=
  ∃ digits, piece = '\\' :: marker :: digits ∧ digits.length ≤ width ∧
    ∀ d ∈ digits, ∃ value, (d, value) ∈ digitValues

/-- What is reported of a text that a backslash starts and no escape does: the backslash alone at
the end and in front of a line break, a number as far as it goes, or one character with it. -/
inductive IsFaultyPiece : Text → Text → Prop
  | alone {tail : Text} (ends : ∀ c ∈ tail.head?, c = '\n' ∨ c = '\r') :
      IsFaultyPiece ('\\' :: tail) ['\\']
  | number {marker : Char} {width : Nat} {cs piece behind : Text} (asks : Asks marker width)
      (longest :
        Text.LongestSplit (StartsNumber marker width) ('\\' :: marker :: cs) piece behind) :
      IsFaultyPiece ('\\' :: marker :: cs) piece
  | single {c : Char} {cs : Text} (other : c ∉ ['\n', '\r', 'u', 'U']) :
      IsFaultyPiece ('\\' :: c :: cs) ['\\', c]

def HasWidth (t : Text) (width : Nat) : Prop :=
  ∃ lexeme, Text.takeBytes? width t = some lexeme ∧ IsWellFormed lexeme

/-- The width in bytes that is found where a backslash starts a text: that of the escape, if one
starts there, and else that of the piece that is reported. -/
structure IsResult (t : Text) (result : Except Nat Nat) : Prop where
  ok_iff : ∀ width, result = .ok width ↔ HasWidth t width
  unique : ∀ width width', HasWidth t width → HasWidth t width' → width = width'
  error_iff : ∀ width, result = .error width ↔ (∀ other, ¬ HasWidth t other) ∧
    ∃ piece, Text.takeBytes? width t = some piece ∧ IsFaultyPiece t piece
  /-- The piece has a character, and none that ends a string or a line. -/
  inside : ∀ width, result = .error width → 1 ≤ width ∧ width ≤ Text.byteSize t ∧
    ∃ piece, Text.takeBytes? width t = some piece ∧ '"' ∉ piece ∧ '\n' ∉ piece ∧ '\r' ∉ piece

section

variable {d : Char} {value number : Nat} {digits : Text}

theorem mem_digitValues_of_isHexDigit (hex : isHexDigit d) : (d, hexDigit d) ∈ digitValues := by
  -- digits are among the characters that are one byte, few enough to go through
  have table : ∀ n < 0x80, isHexDigit (Char.ofNat n) →
      (Char.ofNat n, hexDigit (Char.ofNat n)) ∈ digitValues := by decide
  have ascii : d.toNat < 0x80 := by
    have narrow := Char.utf8Size_eq_one_iff.mp (utf8Size_of_isHexDigit hex)
    exact Nat.lt_succ_of_le (UInt32.le_iff_toNat_le.mp narrow)
  have digit := table d.toNat ascii
  rw [Char.ofNat_toNat] at digit
  exact digit hex

theorem mem_digitValues_iff : (d, value) ∈ digitValues ↔ isHexDigit d ∧ hexDigit d = value := by
  constructor
  · have table : ∀ entry ∈ digitValues, isHexDigit entry.1 ∧ hexDigit entry.1 = entry.2 := by decide
    exact table (d, value)
  · rintro ⟨hex, rfl⟩
    exact mem_digitValues_of_isHexDigit hex

theorem exists_value_iff : (∃ value, (d, value) ∈ digitValues) ↔ isHexDigit d := by
  simp [mem_digitValues_iff]

theorem hexNumber_eq_ofDigits (digits : Text) :
    hexNumber digits = Nat.ofDigits 16 (digits.map hexDigit).reverse := by
  induction digits using List.reverseRecOn with
  | nil => rfl
  | append_singleton digits d ih =>
    rw [hexNumber] at ih
    rw [hexNumber, List.foldl_append, ih, List.foldl_cons, List.foldl_nil, List.map_append,
      List.reverse_append, List.map_singleton, List.reverse_singleton, List.singleton_append,
      Nat.ofDigits_cons, Nat.add_comm]

theorem writes_iff : Writes digits number ↔
    (∀ d ∈ digits, isHexDigit d) ∧ hexNumber digits = number := by
  have values (values : List Nat) :
      List.Forall₂ (fun d value => (d, value) ∈ digitValues) digits values ↔
        (∀ d ∈ digits, isHexDigit d) ∧ digits.map hexDigit = values := by
    simp only [mem_digitValues_iff, List.forall₂_and_left, ← List.forall₂_eq_eq_eq,
      List.forall₂_map_left_iff]
  simp only [Writes, values, hexNumber_eq_ofDigits]
  constructor
  · rintro ⟨_, ⟨hex, rfl⟩, same⟩
    exact ⟨hex, same⟩
  · rintro ⟨hex, same⟩
    exact ⟨_, ⟨hex, rfl⟩, same⟩

theorem isScalar_iff : IsScalar number ↔ number.isValidChar := by
  unfold IsScalar Nat.isValidChar
  omega

end

section

variable {rest lexeme piece : Text}

theorem isWellFormed_iff : IsWellFormed lexeme ↔ IsEscape lexeme := by
  constructor
  · intro isWellFormed
    cases isWellFormed with
    | letter isLetter => exact .letter isLetter
    | number asks length writes isScalar =>
      obtain ⟨hex, rfl⟩ := writes_iff.mp writes
      have isChar := isScalar_iff.mp isScalar
      cases asks with
      | short => exact .digits (.inl ⟨rfl, length⟩) hex isChar
      | long => exact .digits (.inr ⟨rfl, length⟩) hex isChar
  · intro isEscape
    cases isEscape with
    | letter isLetter => exact .letter isLetter
    | digits width hex isChar =>
      have writes := writes_iff.mpr ⟨hex, rfl⟩
      have isScalar := isScalar_iff.mpr isChar
      rcases width with ⟨rfl, length⟩ | ⟨rfl, length⟩
      · exact .number .short length writes isScalar
      · exact .number .long length writes isScalar

theorem read_eq_valid_iff :
    read rest = .valid lexeme ↔ IsWellFormed lexeme ∧ lexeme <+: '\\' :: rest := by
  constructor
  · intro valid
    have isPrefix := read_isPrefix rest
    rw [valid] at isPrefix
    exact ⟨isWellFormed_iff.mpr (isEscape_of_read valid), isPrefix⟩
  · rintro ⟨isWellFormed, tail, split⟩
    obtain ⟨piece, rfl, valid⟩ := (isWellFormed_iff.mp isWellFormed).read_append tail
    cases split
    exact valid

theorem lexeme_ofDigits (marker : Char) (width : Nat) (rest : Text) :
    (ofDigits marker width rest).lexeme =
      '\\' :: marker :: (rest.take width).takeWhile isHexDigit := by
  rw [ofDigits]
  split <;> rfl

theorem exists_longestSplit_ofDigits (marker : Char) (width : Nat) (rest : Text) :
    ∃ behind, Text.LongestSplit (StartsNumber marker width) ('\\' :: marker :: rest)
      (ofDigits marker width rest).lexeme behind := by
  obtain ⟨behind, split⟩ := ofDigits_isPrefix marker width rest
  refine ⟨behind, split.symm, ?_, ?_⟩
  · refine ⟨_, lexeme_ofDigits marker width rest, ?_, fun d member => ?_⟩
    · exact (List.takeWhile_prefix _).length_le.trans (List.length_take_le _ _)
    · exact exists_value_iff.mpr (List.mem_takeWhile_imp member)
  · rintro other isPrefix ⟨digits, rfl, most, each⟩
    have hex : ∀ d ∈ digits, isHexDigit d := fun d member => exists_value_iff.mp (each d member)
    have atHead : digits <+: rest := by simpa using isPrefix
    have taken := Text.isPrefix_takeWhile hex (List.prefix_take_iff.mpr ⟨atHead, most⟩)
    rw [lexeme_ofDigits]
    simpa using taken.length_le

theorem read_of_asks {marker : Char} {width : Nat} (asks : Asks marker width) (cs : Text) :
    read (marker :: cs) = ofDigits marker width cs := by
  cases asks <;> rfl

theorem read_of_other {c : Char} (other : c ∉ ['\n', '\r', 'u', 'U']) (noLetter : c ∉ letters)
    (cs : Text) : read (c :: cs) = .invalid ['\\', c] := by
  simp only [List.mem_cons, List.not_mem_nil, or_false, not_or] at other
  simp [read, other, noLetter]

theorem isFaultyPiece_of_read (faulty : read rest = .invalid piece) :
    IsFaultyPiece ('\\' :: rest) piece := by
  cases rest with
  | nil =>
    cases faulty
    exact .alone nofun
  | cons c cs =>
    by_cases breaks : c = '\n' ∨ c = '\r'
    · have alone : read (c :: cs) = .invalid ['\\'] := by rcases breaks with rfl | rfl <;> rfl
      cases alone.symm.trans faulty
      exact .alone (by simpa using breaks)
    by_cases marks : ∃ width, Asks c width
    · obtain ⟨width, asks⟩ := marks
      obtain ⟨behind, longest⟩ := exists_longestSplit_ofDigits c width cs
      rw [← read_of_asks asks, faulty] at longest
      exact .number asks longest
    have other : c ∉ ['\n', '\r', 'u', 'U'] := by
      simp only [List.mem_cons, List.not_mem_nil, or_false]
      rintro (feed | carriage | rfl | rfl)
      · exact breaks (.inl feed)
      · exact breaks (.inr carriage)
      · exact marks ⟨4, .short⟩
      · exact marks ⟨8, .long⟩
    by_cases isLetter : c ∈ letters
    · have valid := read_eq_valid_iff.mpr ⟨.letter isLetter, ['\\', c].prefix_append cs⟩
      cases valid.symm.trans faulty
    · cases (read_of_other other isLetter cs).symm.trans faulty
      exact .single other

theorem read_of_isFaultyPiece
    (noEscape : ∀ lexeme, lexeme <+: '\\' :: rest → ¬ IsWellFormed lexeme)
    (isFaulty : IsFaultyPiece ('\\' :: rest) piece) : read rest = .invalid piece := by
  cases isFaulty with
  | alone ends =>
    cases rest with
    | nil => rfl
    | cons c cs => rcases ends c rfl with rfl | rfl <;> rfl
  | @number marker width cs _ behind asks longest =>
    obtain ⟨behind', longest'⟩ := exists_longestSplit_ofDigits marker width cs
    rw [← read_of_asks asks] at longest'
    cases found : read (marker :: cs) with
    | valid lexeme =>
      obtain ⟨isWellFormed, isPrefix⟩ := read_eq_valid_iff.mp found
      exact absurd isWellFormed (noEscape lexeme isPrefix)
    | invalid other =>
      rw [found] at longest'
      rw [longest.unique longest', Escape.lexeme]
  | @single c cs other =>
    refine read_of_other other (fun isLetter => ?_) cs
    exact noEscape ['\\', c] (['\\', c].prefix_append cs) (.letter isLetter)

theorem read_eq_invalid_iff : read rest = .invalid piece ↔
    (∀ lexeme, lexeme <+: '\\' :: rest → ¬ IsWellFormed lexeme) ∧
      IsFaultyPiece ('\\' :: rest) piece := by
  constructor
  · intro faulty
    refine ⟨fun lexeme isPrefix isWellFormed => ?_, isFaultyPiece_of_read faulty⟩
    cases (read_eq_valid_iff.mpr ⟨isWellFormed, isPrefix⟩).symm.trans faulty
  · rintro ⟨noEscape, isFaulty⟩
    exact read_of_isFaultyPiece noEscape isFaulty

theorem isPrefix_of_read_invalid (faulty : read rest = .invalid piece) :
    piece <+: '\\' :: rest ∧ piece ≠ [] := by
  have isPrefix := read_isPrefix rest
  have nonempty := read_ne_nil rest
  rw [faulty] at isPrefix nonempty
  exact ⟨isPrefix, nonempty⟩

theorem notMem_of_read_invalid (faulty : read rest = .invalid piece) :
    '"' ∉ piece ∧ '\n' ∉ piece ∧ '\r' ∉ piece := by
  have feed := notMem_read (.inl rfl) rest
  have carriage := notMem_read (.inr rfl) rest
  rw [faulty] at feed carriage
  refine ⟨?_, feed, carriage⟩
  obtain ⟨noEscape, isFaulty⟩ := read_eq_invalid_iff.mp faulty
  cases isFaulty with
  | alone => decide
  | number asks longest =>
    obtain ⟨digits, rfl, -, each⟩ := longest.holds
    have noDigit : '"' ∉ digits := fun member =>
      absurd (exists_value_iff.mp (each _ member)) (by decide)
    cases asks <;> simp [noDigit]
  | @single c cs =>
    have other : c ≠ '"' := by
      rintro rfl
      exact noEscape ['\\', '"'] (['\\', '"'].prefix_append cs) (.letter (by decide))
    simpa using other.symm

end

section

variable {rest : Text} {width : Nat}

theorem exists_of_escapeResult_ok {escape : Escape} (found : escapeResult escape = .ok width) :
    ∃ lexeme, escape = .valid lexeme ∧ lexeme.byteSize = width := by
  cases escape with
  | valid lexeme => exact ⟨lexeme, rfl, Except.ok.inj found⟩
  | invalid => cases found

theorem exists_of_escapeResult_error {escape : Escape}
    (found : escapeResult escape = .error width) :
    ∃ piece, escape = .invalid piece ∧ piece.byteSize = width := by
  cases escape with
  | valid => cases found
  | invalid piece => exact ⟨piece, rfl, Except.error.inj found⟩

theorem escapeResult_eq_ok_iff :
    escapeResult (read rest) = .ok width ↔ HasWidth ('\\' :: rest) width := by
  constructor
  · intro found
    obtain ⟨lexeme, valid, size⟩ := exists_of_escapeResult_ok found
    obtain ⟨isWellFormed, isPrefix⟩ := read_eq_valid_iff.mp valid
    exact ⟨lexeme, Text.takeBytes?_eq_some_iff.mpr ⟨isPrefix, size⟩, isWellFormed⟩
  · rintro ⟨lexeme, taken, isWellFormed⟩
    obtain ⟨isPrefix, rfl⟩ := Text.takeBytes?_eq_some_iff.mp taken
    rw [read_eq_valid_iff.mpr ⟨isWellFormed, isPrefix⟩, escapeResult]

theorem HasWidth.unique {width' : Nat} (hasWidth : HasWidth ('\\' :: rest) width)
    (hasWidth' : HasWidth ('\\' :: rest) width') : width = width' := by
  have found := escapeResult_eq_ok_iff.mpr hasWidth
  rw [escapeResult_eq_ok_iff.mpr hasWidth'] at found
  exact (Except.ok.inj found).symm

theorem escapeResult_eq_error_iff : escapeResult (read rest) = .error width ↔
    (∀ other, ¬ HasWidth ('\\' :: rest) other) ∧
      ∃ piece, Text.takeBytes? width ('\\' :: rest) = some piece ∧
        IsFaultyPiece ('\\' :: rest) piece := by
  constructor
  · intro found
    constructor
    · intro other hasWidth
      cases (escapeResult_eq_ok_iff.mpr hasWidth).symm.trans found
    · obtain ⟨piece, faulty, size⟩ := exists_of_escapeResult_error found
      have isPrefix := (isPrefix_of_read_invalid faulty).1
      have taken := Text.takeBytes?_eq_some_iff.mpr ⟨isPrefix, size⟩
      exact ⟨piece, taken, isFaultyPiece_of_read faulty⟩
  · rintro ⟨noWidth, piece, taken, isFaulty⟩
    obtain ⟨-, rfl⟩ := Text.takeBytes?_eq_some_iff.mp taken
    have noEscape (lexeme : Text) (isPrefix : lexeme <+: '\\' :: rest)
        (isWellFormed : IsWellFormed lexeme) : False :=
      noWidth _ ⟨lexeme, Text.takeBytes?_eq_some_iff.mpr ⟨isPrefix, rfl⟩, isWellFormed⟩
    rw [read_of_isFaultyPiece noEscape isFaulty, escapeResult]

theorem exists_piece_of_error (found : escapeResult (read rest) = .error width) :
    1 ≤ width ∧ width ≤ Text.byteSize ('\\' :: rest) ∧
      ∃ piece, Text.takeBytes? width ('\\' :: rest) = some piece ∧
        '"' ∉ piece ∧ '\n' ∉ piece ∧ '\r' ∉ piece := by
  obtain ⟨piece, faulty, rfl⟩ := exists_of_escapeResult_error found
  obtain ⟨isPrefix, nonempty⟩ := isPrefix_of_read_invalid faulty
  have taken := Text.takeBytes?_eq_some_iff.mpr ⟨isPrefix, rfl⟩
  obtain ⟨tail, split⟩ := isPrefix
  refine ⟨Text.byteSize_pos nonempty, ?_, piece, taken, notMem_of_read_invalid faulty⟩
  rw [← split, Text.byteSize_append]
  exact Nat.le_add_right _ _

theorem isResult_read (rest : Text) : IsResult ('\\' :: rest) (escapeResult (read rest)) where
  ok_iff _ := escapeResult_eq_ok_iff
  unique _ _ := HasWidth.unique
  error_iff _ := escapeResult_eq_error_iff
  inside _ := exists_piece_of_error

end

end Escape

theorem string_scan_of_invalidEscape {c : Char} {cs : Text}
    (faulty : (QuotedString.scan c cs).kind = .error .invalidEscape) :
    c = '\\' ∧ Escape.read cs = .invalid (QuotedString.scan c cs).lexeme := by
  cases applied : Scan.first? QuotedString.rules (c :: cs) with
  | none =>
    rw [QuotedString.scan, applied] at faulty
    cases faulty
  | some scan =>
    rw [QuotedString.scan, applied, Option.getD_some] at faulty ⊢
    obtain ⟨rule, member, found⟩ := List.exists_of_findSome?_eq_some applied
    simp only [QuotedString.rules, List.mem_cons, List.not_mem_nil, or_false] at member
    rcases member with rfl | rfl | rfl | rfl
    · obtain ⟨kind, lexeme, opens, rfl⟩ := Outcome.of_sequenceOpen? found
      cases faulty
      cases opens
    · unfold QuotedString.closeQuote? at found
      split at found <;> cases found
      cases faulty
    · cases (stringBreak_kind found).symm.trans faulty
    · obtain ⟨rest, lexeme, shape, read, rfl⟩ := exists_of_faultyEscape? found
      cases shape
      exact ⟨rfl, read⟩

end Lexeme

theorem Mode.Scans.of_invalidEscape {mode mode' : Mode} {scan : Scan} {tail : Text}
    (scans : mode.Scans mode' scan tail) (faulty : scan.kind = .error .invalidEscape) :
    mode = .quotedTemplate ∧ ∃ rest, scan.lexeme ++ tail = '\\' :: rest ∧
      Escape.read rest = .invalid scan.lexeme := by
  obtain ⟨c, cs, shape, rfl | ⟨inString, rfl⟩⟩ := scans.of_numberOrError (.inr ⟨_, faulty⟩)
  · rcases body_scan_error faulty with same | same | ⟨same, -⟩ <;> cases same
  · obtain ⟨rfl, read⟩ := string_scan_of_invalidEscape faulty
    exact ⟨inString, cs, shape, read⟩

theorem Lexer.Reads.of_invalidEscape {t : Text} {lexer : Lexer} (reads : Reads t lexer)
    (faulty : lexer.pull.1.kind = .error .invalidEscape) :
    lexer.modes.current = .quotedTemplate ∧ ∃ rest, lexer.cursor.rest = '\\' :: rest ∧
      Escape.read rest = .invalid lexer.pull.1.text := by
  obtain ⟨mode, scan, tail, scans, split, -⟩ := reads.exists_scans (ahead_of_kind faulty rfl)
  rw [pull_of_scans scans split] at faulty ⊢
  rw [split]
  exact scans.of_invalidEscape faulty

/-- At a backslash the width in bytes of the escape that starts there is found, and where there is
none that of the piece that is reported; no slice for it cuts a character. The piece leaves the end
of its string and of its line to what is read next. -/
theorem escapes_read_exactly :
    (∀ rest, Escape.IsResult ('\\' :: rest) (escapeResult (Escape.read rest)) ∧
      ∀ machine, (escapeWidth ('\\' :: rest)).run machine =
        pure (escapeResult (Escape.read rest), machine)) ∧
    ∀ t n, ((Lexer.ofText t).token n).kind = .error .invalidEscape →
      ((Lexer.ofText t).skip n).modes.current = .quotedTemplate ∧
        ∃ rest, ((Lexer.ofText t).skip n).cursor.rest = '\\' :: rest ∧
          escapeResult (Escape.read rest) = .error ((Lexer.ofText t).token n).text.byteSize ∧
          ((Lexer.ofText t).token n).text ++ ((Lexer.ofText t).skip (n + 1)).cursor.rest =
            '\\' :: rest ∧
          '"' ∉ ((Lexer.ofText t).token n).text ∧ '\n' ∉ ((Lexer.ofText t).token n).text ∧
          '\r' ∉ ((Lexer.ofText t).token n).text := by
  refine ⟨fun rest => ⟨Escape.isResult_read rest, run_escapeWidth rest⟩, fun t n faulty => ?_⟩
  have reads := (Lexer.reads_ofText t).skip n
  obtain ⟨inString, rest, ahead, read⟩ := reads.of_invalidEscape faulty
  have turn := (Lexer.reads_ofText t).turn_token n
  refine ⟨inString, rest, ahead, ?_, ?_, Escape.notMem_of_read_invalid read⟩
  · rw [read, escapeResult, Lexer.token]
  · rw [← ahead, turn.rest]

/-- A string with the number of a surrogate, and a character of two bytes behind it. -/
def surrogateString : Text := ['"', '\\', 'u', 'D', '8', '3', 'd', 'é', '"']

theorem escapes_read_exactly_surrogate :
    (∀ other, ¬ Escape.HasWidth ['\\', 'u', 'D', '8', '3', 'd', 'é', '"'] other) ∧
    ∃ rest, ((Lexer.ofText surrogateString).skip 1).cursor.rest = '\\' :: rest ∧
      ((Lexer.ofText surrogateString).token 1).text ++ ['é', '"'] = '\\' :: rest := by
  have found : escapeResult (Escape.read ['u', 'D', '8', '3', 'd', 'é', '"']) = .error 6 := rfl
  have faulty : ((Lexer.ofText surrogateString).token 1).kind = .error .invalidEscape := by decide
  obtain ⟨-, rest, ahead, -, split, -⟩ := escapes_read_exactly.2 surrogateString 1 faulty
  exact ⟨(((escapes_read_exactly.1 _).1.error_iff 6).mp found).1, rest, ahead, split⟩

end HclLexis

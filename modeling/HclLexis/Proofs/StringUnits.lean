import HclLexis.Proofs.LongestLexeme
import HclLexis.Proofs.Tiling

/-! The literal text of strings as a division into units: escapes, doubled signs and characters that
mean nothing else. A string reads as many units as there are, and where none starts it reads what
ends them. So no two tokens of literal text meet, and every backslash in one starts an escape. -/

namespace HclLexis

open Lexeme Rules Document

namespace Lexeme

inductive IsEscape : Text → Prop
  | letter {c : Char} (isLetter : c ∈ ['n', 'r', 't', '"', '\\']) : IsEscape ['\\', c]
  | digits {marker : Char} {digits : Text}
      (width : marker = 'u' ∧ digits.length = 4 ∨ marker = 'U' ∧ digits.length = 8)
      (hex : ∀ d ∈ digits, Escape.isHexDigit d) (isChar : (Escape.hexNumber digits).isValidChar) :
      IsEscape ('\\' :: marker :: digits)

inductive IsUnit : Text → Text → Prop
  | escape {lexeme : Text} (isEscape : IsEscape lexeme) (tail : Text) : IsUnit lexeme tail
  | doubled {sign : Char} (isSign : sign = '$' ∨ sign = '%') (tail : Text) :
      IsUnit [sign, sign, '{'] tail
  | single {c : Char} {tail : Text} (quote : c ≠ '"') (backslash : c ≠ '\\')
      (inLine : c ≠ '\n' ∧ ¬ (c = '\r' ∧ tail.head? = some '\n'))
      (noOpen : ¬ ((c = '$' ∨ c = '%') ∧ tail.head? = some '{')) : IsUnit [c] tail

structure StartsUnit (t unit tail : Text) : Prop where
  split : t = unit ++ tail
  isUnit : IsUnit unit tail
  longest : ∀ other rest, t = other ++ rest → IsUnit other rest → other.length ≤ unit.length

/-- The text divided into units from the left, each as long as possible, up to where none starts. -/
inductive Divides : Text → List Text → Text → Prop
  | stop {t : Text} (noUnit : ∀ unit tail, t = unit ++ tail → ¬ IsUnit unit tail) : Divides t [] t
  | unit {t unit tail behind : Text} {units : List Text} (starts : StartsUnit t unit tail)
      (rest : Divides tail units behind) : Divides t (unit :: units) behind

/-- What ends literal text in a string, with the scan of it. -/
inductive IsStop : Text → Scan → Prop
  | quote (tail : Text) :
      IsStop ('"' :: tail) { kind := .closeQuote, lexeme := ['"'], move := .leave }
  | lineBreak {lexeme : Text} (spelled : lexeme = ['\n'] ∨ lexeme = ['\r', '\n']) (tail : Text) :
      IsStop (lexeme ++ tail) { kind := .error .newlineInString, lexeme }
  | sequence (isControl : Bool) {strips tail : Text}
      (greedy : strips = ['~'] ∨ strips = [] ∧ tail.head? ≠ some '~') :
      IsStop (sequenceMarker isControl ++ strips ++ tail) {
        kind := sequenceKind isControl
        lexeme := sequenceMarker isControl ++ strips
        move := .enter (.interpolation 0) }
  | faultyEscape {lexeme rest : Text}
      (faulty : ∀ escape, IsEscape escape → ¬ escape <+: '\\' :: rest)
      (nonempty : lexeme ≠ []) (isPrefix : lexeme <+: '\\' :: rest) :
      IsStop ('\\' :: rest) { kind := .error .invalidEscape, lexeme }

theorem IsStop.kind_ne {t : Text} {scan : Scan} (isStop : IsStop t scan) :
    scan.kind ≠ .templateLiteral ∧ scan.kind ≠ .number := by
  cases isStop with
  | sequence isControl => cases isControl <;> exact ⟨nofun, nofun⟩
  | _ => exact ⟨nofun, nofun⟩

section

variable {lexeme : Text}

theorem ofDigits_append {marker : Char} {width : Nat} {digits : Text}
    (length : digits.length = width) (hex : ∀ d ∈ digits, Escape.isHexDigit d)
    (isChar : (Escape.hexNumber digits).isValidChar) (tail : Text) :
    Escape.ofDigits marker width (digits ++ tail) = .valid ('\\' :: marker :: digits) := by
  have taken : ((digits ++ tail).take width).takeWhile Escape.isHexDigit = digits := by
    rw [← length, List.take_left]
    exact List.takeWhile_eq_self_iff.mpr hex
  rw [Escape.ofDigits, taken]
  exact if_pos ⟨length, isChar⟩

theorem IsEscape.read_append (isEscape : IsEscape lexeme) (tail : Text) :
    ∃ piece, lexeme = '\\' :: piece ∧ Escape.read (piece ++ tail) = .valid lexeme := by
  cases isEscape with
  | @letter c isLetter =>
    refine ⟨[c], rfl, ?_⟩
    simp only [List.mem_cons, List.not_mem_nil, or_false] at isLetter
    rcases isLetter with rfl | rfl | rfl | rfl | rfl <;> rfl
  | @digits marker digits width hex isChar =>
    refine ⟨marker :: digits, rfl, ?_⟩
    rcases width with ⟨rfl, length⟩ | ⟨rfl, length⟩
    · exact ofDigits_append length hex isChar tail
    · exact ofDigits_append length hex isChar tail

theorem isEscape_of_ofDigits {marker : Char} {width : Nat} {rest : Text}
    (isWidth : marker = 'u' ∧ width = 4 ∨ marker = 'U' ∧ width = 8)
    (read : Escape.ofDigits marker width rest = .valid lexeme) : IsEscape lexeme := by
  unfold Escape.ofDigits at read
  dsimp only at read
  split at read
  · rename_i valid
    cases read
    obtain ⟨length, isChar⟩ := valid
    rw [← length] at isWidth
    exact .digits isWidth (List.all_eq_true.mp List.all_takeWhile) isChar
  · cases read

theorem isEscape_of_read {rest : Text} (read : Escape.read rest = .valid lexeme) :
    IsEscape lexeme := by
  cases rest with
  | nil => cases read
  | cons c cs =>
    rw [Escape.read] at read
    split at read
    · cases read
    split at read
    · rename_i isLetter
      cases read
      exact .letter (List.contains_iff_mem.mp isLetter)
    split at read
    · exact isEscape_of_ofDigits (.inl ⟨rfl, rfl⟩) read
    split at read
    · exact isEscape_of_ofDigits (.inr ⟨rfl, rfl⟩) read
    · cases read

end

section

variable {c : Char} {cs : Text} {pending : Nat}

theorem IsUnit.exists_unit? {unit tail : Text} (isUnit : IsUnit unit tail)
    (split : c :: cs = unit ++ tail) :
    ∃ pending, QuotedString.unit? c cs = some pending ∧ unit.length ≤ pending + 1 := by
  cases isUnit with
  | escape isEscape =>
    obtain ⟨piece, rfl, read⟩ := isEscape.read_append tail
    rw [List.cons_append] at split
    cases split
    refine ⟨piece.length, ?_, le_rfl⟩
    rw [QuotedString.unit?, if_neg (by decide), if_pos rfl, read]
    rfl
  | doubled isSign =>
    cases split
    rcases isSign with rfl | rfl
    · exact ⟨2, rfl, le_rfl⟩
    · exact ⟨2, rfl, le_rfl⟩
  | single quote backslash inLine noOpen =>
    rw [List.singleton_append] at split
    cases split
    rw [QuotedString.unit?, if_neg quote, if_neg backslash]
    cases found : sharedUnit? c cs with
    | some pending => exact ⟨pending, rfl, Nat.le_add_left 1 pending⟩
    | none =>
      rw [sharedUnit?_eq_none_iff, Bool.or_eq_true, opensSequence_cons_iff, Text.atLineBreak,
        Text.lineBreak?_eq_none_iff.mpr inLine] at found
      exact absurd (found.resolve_left Bool.false_ne_true) noOpen

theorem isUnit_of_unit? (found : QuotedString.unit? c cs = some pending) :
    pending ≤ cs.length ∧ IsUnit (c :: cs.take pending) (cs.drop pending) := by
  rw [QuotedString.unit?, Option.ite_none_left_eq_some] at found
  obtain ⟨quote, found⟩ := found
  by_cases backslash : c = '\\'
  · subst backslash
    rw [if_pos rfl] at found
    split at found
    · rename_i lexeme read
      cases found
      obtain ⟨piece, tail, rfl, rfl⟩ := Escape.exists_of_read (congrArg Escape.lexeme read)
      rw [List.length_cons, Nat.add_sub_cancel, List.take_left, List.drop_left]
      exact ⟨by simp, .escape (isEscape_of_read read) tail⟩
    · cases found
  rw [if_neg backslash, sharedUnit?, Option.ite_none_left_eq_some, Bool.or_eq_true, not_or,
    opensSequence_cons_iff, Text.atLineBreak, Bool.not_eq_true, Option.isSome_eq_false_iff,
    Option.isNone_iff_eq_none] at found
  obtain ⟨⟨inLine, noOpen⟩, found⟩ := found
  split at found
  · rename_i doubled
    cases found
    obtain ⟨sign, tail, isSign, shape⟩ := (isDoubledOpen_iff_exists _).mp doubled
    cases shape
    exact ⟨by simp, .doubled isSign tail⟩
  · cases found
    exact ⟨Nat.zero_le _, .single quote backslash (Text.lineBreak?_eq_none_iff.mp inLine) noOpen⟩

theorem startsUnit_of_unit? (found : QuotedString.unit? c cs = some pending) :
    StartsUnit (c :: cs) (c :: cs.take pending) (cs.drop pending) where
  split := by rw [List.cons_append, List.take_append_drop]
  isUnit := (isUnit_of_unit? found).2
  longest other rest split isUnit := by
    obtain ⟨pending', found', length⟩ := isUnit.exists_unit? split
    cases found.symm.trans found'
    rw [List.length_cons, List.length_take, Nat.min_eq_left (isUnit_of_unit? found).1]
    exact length

theorem IsUnit.ne_nil {unit tail : Text} (isUnit : IsUnit unit tail) : unit ≠ [] := by
  cases isUnit with
  | escape isEscape => cases isEscape <;> nofun
  | doubled => nofun
  | single => nofun

theorem StartsUnit.exists_unit? {t unit tail : Text} (starts : StartsUnit t unit tail) :
    ∃ c cs pending, t = c :: cs ∧ QuotedString.unit? c cs = some pending ∧
      unit = c :: cs.take pending ∧ tail = cs.drop pending := by
  have nonempty : t ≠ [] := by
    rw [starts.split]
    exact List.append_ne_nil_of_left_ne_nil starts.isUnit.ne_nil tail
  obtain ⟨c, cs, rfl⟩ := List.exists_cons_of_ne_nil nonempty
  obtain ⟨pending, found, -⟩ := starts.isUnit.exists_unit? starts.split
  have read := startsUnit_of_unit? found
  have le := starts.longest _ _ read.split read.isUnit
  have ge := read.longest _ _ starts.split starts.isUnit
  obtain ⟨sameUnit, sameTail⟩ :=
    List.append_inj (starts.split.symm.trans read.split) (Nat.le_antisymm ge le)
  exact ⟨c, cs, pending, rfl, found, sameUnit, sameTail⟩

theorem unit?_eq_none_iff : QuotedString.unit? c cs = none ↔
    ∀ unit tail, c :: cs = unit ++ tail → ¬ IsUnit unit tail := by
  constructor
  · intro none unit tail split isUnit
    obtain ⟨pending, found, -⟩ := isUnit.exists_unit? split
    cases none.symm.trans found
  · intro noUnit
    cases found : QuotedString.unit? c cs with
    | none => rfl
    | some pending =>
      have starts := startsUnit_of_unit? found
      exact absurd starts.isUnit (noUnit _ _ starts.split)

theorem starts_of_sharedUnit? (found : sharedUnit? c cs = some pending) :
    Text.lineBreak? (c :: cs) = none ∧ sequenceOpen? (c :: cs) = none := by
  rw [sharedUnit?, Option.ite_none_left_eq_some, Bool.or_eq_true, not_or, opensSequence,
    Text.atLineBreak] at found
  simpa only [Bool.not_eq_true, Option.isSome_eq_false_iff, Option.isNone_iff_eq_none] using found.1

theorem string_scan_of_unit? (found : QuotedString.unit? c cs = some pending) :
    QuotedString.scan c cs = literal QuotedString.unit? (c :: cs) := by
  rw [QuotedString.unit?, Option.ite_none_left_eq_some] at found
  obtain ⟨quote, found⟩ := found
  obtain ⟨noOpen, noBreak, noFault⟩ : sequenceOpen? (c :: cs) = none ∧
      QuotedString.lineBreak? (c :: cs) = none ∧ QuotedString.faultyEscape? (c :: cs) = none := by
    by_cases backslash : c = '\\'
    · subst backslash
      rw [if_pos rfl] at found
      split at found
      · rename_i lexeme read
        exact ⟨rfl, rfl, by rw [QuotedString.faultyEscape?, read]⟩
      · cases found
    · rw [if_neg backslash] at found
      obtain ⟨noBreak, noOpen⟩ := starts_of_sharedUnit? found
      exact ⟨noOpen, by rw [QuotedString.lineBreak?, noBreak]; rfl,
        by simp [QuotedString.faultyEscape?, backslash]⟩
  rw [string_scan_eq quote, noOpen, noBreak, noFault]
  rfl

theorem isStop_of_sequenceOpen? {t : Text} {scan : Scan} (found : sequenceOpen? t = some scan) :
    IsStop t scan := by
  have stops (isControl : Bool) (rest : Text) : IsStop (sequenceMarker isControl ++ rest) {
      kind := sequenceKind isControl
      lexeme := sequenceMarker isControl ++ stripMarker rest
      move := .enter (.interpolation 0) } := by
    rw [stripMarker_eq]
    split
    · rename_i tilde
      obtain ⟨tail, rfl⟩ := List.head?_eq_some_iff.mp tilde
      have stop := @IsStop.sequence isControl _ tail (.inl rfl)
      rwa [List.append_assoc] at stop
    · rename_i other
      have stop := IsStop.sequence isControl (.inr ⟨rfl, other⟩)
      rw [List.append_nil] at stop ⊢
      exact stop
  unfold sequenceOpen? at found
  split at found
  · cases found
    exact stops false _
  · cases found
    exact stops true _
  · cases found

theorem string_scan_stops (none : QuotedString.unit? c cs = none) :
    IsStop (c :: cs) (QuotedString.scan c cs) := by
  cases applied : Scan.first? QuotedString.rules (c :: cs) with
  | none =>
    have isUnit := QuotedString.isSome_unit? applied
    rw [none] at isUnit
    cases isUnit
  | some scan =>
    rw [QuotedString.scan, applied, Option.getD_some]
    obtain ⟨rule, member, found⟩ := List.exists_of_findSome?_eq_some applied
    simp only [QuotedString.rules, List.mem_cons, List.not_mem_nil, or_false] at member
    rcases member with rfl | rfl | rfl | rfl
    · exact isStop_of_sequenceOpen? found
    · unfold QuotedString.closeQuote? at found
      split at found
      · rename_i same
        cases same
        cases found
        exact .quote _
      · cases found
    · obtain ⟨lexeme, breaks, rfl⟩ := Option.map_eq_some_iff.mp found
      obtain ⟨-, tail, split⟩ := Text.lineBreak?_isPrefix breaks
      rw [← split]
      exact .lineBreak (Text.lineBreak?_eq_some breaks) tail
    · obtain ⟨rest, lexeme, shape, read, rfl⟩ := exists_of_faultyEscape? found
      cases shape
      have isPrefix := Escape.read_isPrefix cs
      have nonempty := Escape.read_ne_nil cs
      rw [read] at isPrefix nonempty
      refine .faultyEscape (fun escape isEscape starts => ?_) nonempty isPrefix
      obtain ⟨tail, split⟩ := starts
      obtain ⟨piece, rfl, valid⟩ := isEscape.read_append tail
      cases split
      cases read.symm.trans valid

end

namespace Divides

variable {t behind : Text} {units : List Text}

theorem literalRun_eq (divides : Divides t units behind) :
    literalRun QuotedString.unit? 0 t = units.flatten := by
  induction divides with
  | @stop t noUnit =>
    cases t with
    | nil => rfl
    | cons c cs => exact literalRun_cons_eq_nil_iff.mpr ⟨rfl, unit?_eq_none_iff.mpr noUnit⟩
  | unit starts _ ih =>
    obtain ⟨c, cs, pending, shape, found, rfl, rfl⟩ := starts.exists_unit?
    rw [shape, literalRun, found]
    dsimp only
    rw [literalRun_pending, ih, List.flatten_cons, List.cons_append]

theorem isEscape_of_mem (divides : Divides t units behind) {unit : Text} (member : unit ∈ units)
    (backslash : '\\' ∈ unit) : IsEscape unit := by
  induction divides with
  | stop => cases member
  | unit starts _ ih =>
    rcases List.mem_cons.mp member with rfl | member
    · cases starts.isUnit with
      | escape isEscape => exact isEscape
      | doubled isSign => rcases isSign with rfl | rfl <;> simp at backslash
      | single quote other => simp [other.symm] at backslash
    · exact ih member

end Divides

theorem Divides.string_scan {c : Char} {cs behind : Text} {units : List Text}
    (divides : Divides (c :: cs) units behind) :
    (units ≠ [] → QuotedString.scan c cs = { kind := .templateLiteral, lexeme := units.flatten }) ∧
      (units = [] → IsStop (c :: cs) (QuotedString.scan c cs)) := by
  have run := divides.literalRun_eq
  cases divides with
  | stop noUnit => exact ⟨nofun, fun _ => string_scan_stops (unit?_eq_none_iff.mpr noUnit)⟩
  | unit starts =>
    refine ⟨fun _ => ?_, nofun⟩
    obtain ⟨d, ds, pending, shape, found, -, -⟩ := starts.exists_unit?
    cases shape
    rw [string_scan_of_unit? found, literal, run]

theorem exists_divides (t : Text) : ∃ units behind, Divides t units behind := by
  generalize size : t.length = length
  induction length using Nat.strongRecOn generalizing t with
  | ind length ih =>
    cases t with
    | nil =>
      refine ⟨[], [], .stop fun unit tail split isUnit => ?_⟩
      exact isUnit.ne_nil (List.append_eq_nil_iff.mp split.symm).1
    | cons c cs =>
      cases found : QuotedString.unit? c cs with
      | none => exact ⟨[], c :: cs, .stop (unit?_eq_none_iff.mp found)⟩
      | some pending =>
        have shorter : (cs.drop pending).length < length := by
          rw [← size, List.length_drop, List.length_cons]
          omega
        obtain ⟨units, behind, divides⟩ := ih _ shorter (cs.drop pending) rfl
        exact ⟨_, behind, .unit (startsUnit_of_unit? found) divides⟩

theorem scanLine_of_sharedUnit? {heredoc : Heredoc} {c : Char} {cs : Text} {pending : Nat}
    (found : sharedUnit? c cs = some pending) :
    HeredocBody.scanLine heredoc (c :: cs) = (heredoc, literal sharedUnit? (c :: cs)) := by
  obtain ⟨noBreak, noOpen⟩ := starts_of_sharedUnit? found
  rw [HeredocBody.scanLine, newline?, noBreak, Option.map_none]
  dsimp only
  rw [noOpen, Option.getD_none]

theorem scanLine_kind_ne_literal {heredoc : Heredoc} {c : Char} {cs : Text}
    (none : sharedUnit? c cs = none) :
    (HeredocBody.scanLine heredoc (c :: cs)).2.kind ≠ .templateLiteral := by
  rw [HeredocBody.scanLine]
  cases broken : newline? (c :: cs) with
  | some found =>
    simp [newline?_kind broken]
  | none =>
    cases opened : sequenceOpen? (c :: cs) with
    | some found => exact (isStop_of_sequenceOpen? opened).kind_ne.1
    | none =>
      have isUnit := isSome_sharedUnit? (Option.map_eq_none_iff.mp broken) opened
      rw [none] at isUnit
      cases isUnit

theorem body_scan_kind_ne_literal (c : Char) (cs : Text) :
    (Body.scan c cs).kind ≠ .templateLiteral := by
  intro isLiteral
  rcases body_scan_kind c cs with ⟨-, isNumber⟩ | ⟨error, isError⟩ | ⟨lexeme, tail, isLexeme⟩
  · cases isLiteral.symm.trans isNumber
  · cases isLiteral.symm.trans isError
  · rw [isLiteral] at isLexeme
    cases isLexeme with
    | sign spelled => cases spelled

end Lexeme

namespace Mode

variable {mode mode' : Mode} {unit? : Char → Text → Option Nat} {scan : Scan} {tail : Text}

theorem Scans.of_numberOrError (scans : mode.Scans mode' scan tail)
    (isKind : scan.kind = .number ∨ ∃ error, scan.kind = .error error) :
    ∃ c cs, scan.lexeme ++ tail = c :: cs ∧
      (Body.scan c cs = scan ∨ mode = .quotedTemplate ∧ QuotedString.scan c cs = scan) := by
  obtain ⟨c, cs, shape, scanned⟩ := scans
  have outcome := mode.scan_outcome c cs
  rw [scanned] at outcome
  refine ⟨c, cs, shape, ?_⟩
  cases mode with
  | structural => exact .inl (congrArg Prod.snd scanned)
  | quotedTemplate => exact .inr ⟨rfl, congrArg Prod.snd scanned⟩
  | heredocTemplate heredoc =>
    cases outcome with
    | heredocSequence _ _ opens =>
      rcases isKind with same | ⟨_, same⟩ <;> cases same <;> cases opens
    | neutral reads => cases reads
    | _ => rcases isKind with same | ⟨_, same⟩ <;> cases same
  | interpolation depth =>
    obtain rfl : (Sequence.scan depth c cs).2 = scan := congrArg Prod.snd scanned
    have body : Sequence.scan depth c cs = (depth, Body.scan c cs) := by
      rcases isKind with same | ⟨_, same⟩ <;>
        exact sequence_scan_eq_body (by rw [same]; rfl) (by simp [same])
    exact .inl (by rw [body])

inductive HasUnits : Mode → (Char → Text → Option Nat) → Prop
  | string : HasUnits .quotedTemplate QuotedString.unit?
  | heredocLine {heredoc : Heredoc} (inside : heredoc.atLineStart = false) :
      HasUnits (.heredocTemplate heredoc) sharedUnit?

theorem HasUnits.kind_ne_literal (units : mode.HasUnits unit?) {c : Char} {cs : Text}
    (none : unit? c cs = none) : (mode.scan c cs).2.kind ≠ .templateLiteral := by
  cases units with
  | string => exact (string_scan_stops none).kind_ne.1
  | heredocLine inside =>
    rw [scan_insideLine inside]
    exact scanLine_kind_ne_literal none

theorem Scans.of_literal (scans : mode.Scans mode' scan tail)
    (isLiteral : scan.kind = .templateLiteral) :
    scan.move = .stay ∧ ∃ unit?, mode'.HasUnits unit? ∧
      literalRun unit? 0 (scan.lexeme ++ tail) = scan.lexeme := by
  obtain ⟨c, cs, shape, scanned⟩ := scans
  rw [shape]
  cases mode with
  | structural =>
    cases scanned
    exact absurd isLiteral (body_scan_kind_ne_literal c cs)
  | quotedTemplate =>
    cases scanned
    cases found : QuotedString.unit? c cs with
    | none => exact absurd isLiteral (string_scan_stops found).kind_ne.1
    | some pending =>
      rw [string_scan_of_unit? found]
      exact ⟨rfl, _, .string, rfl⟩
  | heredocTemplate heredoc =>
    obtain rfl : (HeredocBody.scan heredoc c cs).2 = scan := congrArg Prod.snd scanned
    obtain rfl : .heredocTemplate (HeredocBody.scan heredoc c cs).1 = mode' :=
      congrArg Prod.fst scanned
    cases closing : HeredocBody.closingLine? heredoc (c :: cs) with
    | some found =>
      rw [HeredocBody.scan, closing] at isLiteral
      rw [HeredocBody.closingLine?, Option.ite_none_right_eq_some] at closing
      cases closing.2
      cases isLiteral
    | none =>
      rw [HeredocBody.scan, closing] at isLiteral ⊢
      cases found : sharedUnit? c cs with
      | none => exact absurd isLiteral (scanLine_kind_ne_literal found)
      | some pending =>
        rw [scanLine_of_sharedUnit? found]
        exact ⟨rfl, _, .heredocLine (HeredocBody.enterLine_atLineStart ..), rfl⟩
  | interpolation depth =>
    obtain rfl : (Sequence.scan depth c cs).2 = scan := congrArg Prod.snd scanned
    have body := sequence_scan_eq_body (by rw [isLiteral]; rfl) (by simp [isLiteral])
    rw [body] at isLiteral
    exact absurd isLiteral (body_scan_kind_ne_literal c cs)

end Mode

namespace Lexer

variable {t : Text} {lexer : Lexer}

theorem Reads.not_both_literal (reads : Reads t lexer) :
    ¬ (lexer.pull.1.kind = .templateLiteral ∧ lexer.pull.2.pull.1.kind = .templateLiteral) := by
  rintro ⟨first, second⟩
  have ahead := ahead_of_kind first rfl
  obtain ⟨mode, scan, tail, scans, split, -⟩ := reads.exists_scans ahead
  rw [pull_of_scans scans split] at first second
  obtain ⟨stays, unit?, units, run⟩ := scans.of_literal first
  have current : (lexer.behind mode scan tail).modes.current = mode := by
    simp [Lexer.behind, stays, ModeStack.follow]
  -- the run stops in front of what starts no unit, and the next call is in the same mode
  rcases literalRun_stops run with rfl | ⟨c, cs, rfl, none⟩
  · rw [pull_of_ended rfl] at second
    cases second
  · have noLiteral := units.kind_ne_literal none
    rw [← current] at noLiteral
    exact noLiteral second

theorem Reads.units_of_literal (reads : Reads t lexer)
    (inString : lexer.modes.current = .quotedTemplate)
    (isLiteral : lexer.pull.1.kind = .templateLiteral) :
    ∃ units behind, Divides lexer.cursor.rest units behind ∧
      lexer.pull.1.text = units.flatten ∧ ∀ unit ∈ units, '\\' ∈ unit → IsEscape unit := by
  have ahead := ahead_of_kind isLiteral rfl
  obtain ⟨units, behind, divides⟩ := exists_divides lexer.cursor.rest
  refine ⟨units, behind, divides, ?_, fun _ => divides.isEscape_of_mem⟩
  obtain ⟨mode, scan, tail, scans, split, -⟩ := reads.exists_scans ahead
  rw [pull_of_scans scans split] at isLiteral ⊢
  rw [inString] at scans
  obtain ⟨-, unit?, hasUnits, run⟩ := scans.of_literal isLiteral
  obtain ⟨c, cs, -, scanned⟩ := scans
  cases scanned
  cases hasUnits
  rw [← run, ← split, divides.literalRun_eq]

end Lexer

/-- What a string reads is told by the division of the text ahead into units: all of the units if
there are any, and else what stops them. No two tokens of literal text are adjacent, and a backslash
in the literal text of a string belongs to an escape. -/
theorem strings_read_units :
    (∀ c cs, (∃ units behind, Divides (c :: cs) units behind) ∧
      ∀ units behind, Divides (c :: cs) units behind →
        (units ≠ [] →
          QuotedString.scan c cs = { kind := .templateLiteral, lexeme := units.flatten }) ∧
        (units = [] → IsStop (c :: cs) (QuotedString.scan c cs))) ∧
    (∀ t, (tokenize t).IsChain fun token next =>
      ¬ (token.kind = .templateLiteral ∧ next.kind = .templateLiteral)) ∧
    ∀ t n, ((Lexer.ofText t).skip n).modes.current = .quotedTemplate →
      ((Lexer.ofText t).token n).kind = .templateLiteral →
      ∃ units behind, Divides ((Lexer.ofText t).skip n).cursor.rest units behind ∧
        ((Lexer.ofText t).token n).text = units.flatten ∧
        ∀ unit ∈ units, '\\' ∈ unit → IsEscape unit := by
  refine ⟨fun c cs => ⟨exists_divides (c :: cs), fun _ _ divides => divides.string_scan⟩,
    fun t => ?_, fun t n => ((Lexer.reads_ofText t).skip n).units_of_literal⟩
  obtain ⟨n, -, -, -, drained⟩ := Lexer.tokenize_eq_pulls t
  rw [tokenize, drained]
  exact Lexer.Reads.isChain_pulls Lexer.Reads.not_both_literal (Lexer.reads_ofText t) _

/-- Dollar signs that are literal one by one, doubled and in front of a sequence. -/
def crowdedSigns : Text := ['$', '$', '$', '{', '\\', 'n', '%', '$', '{']

def escapedString : Text := ['"', 'a', '\\', 'n', '"']

theorem strings_read_units_crowdedSigns :
    QuotedString.scan '$' ['$', '$', '{', '\\', 'n', '%', '$', '{'] =
      { kind := .templateLiteral, lexeme := ['$', '$', '$', '{', '\\', 'n', '%'] } ∧
    ∃ units behind, Divides ((Lexer.ofText escapedString).skip 1).cursor.rest units behind ∧
      ((Lexer.ofText escapedString).token 1).text = units.flatten ∧
      ∀ unit ∈ units, '\\' ∈ unit → IsEscape unit := by
  have divides : Divides crowdedSigns [['$'], ['$', '$', '{'], ['\\', 'n'], ['%']] ['$', '{'] := by
    have sign : QuotedString.unit? '$' ['$', '$', '{', '\\', 'n', '%', '$', '{'] = some 0 := rfl
    have doubled : QuotedString.unit? '$' ['$', '{', '\\', 'n', '%', '$', '{'] = some 2 := rfl
    have escape : QuotedString.unit? '\\' ['n', '%', '$', '{'] = some 1 := rfl
    have percent : QuotedString.unit? '%' ['$', '{'] = some 0 := rfl
    have opens : QuotedString.unit? '$' ['{'] = none := rfl
    exact .unit (startsUnit_of_unit? sign) <| .unit (startsUnit_of_unit? doubled) <|
      .unit (startsUnit_of_unit? escape) <| .unit (startsUnit_of_unit? percent) <|
      .stop (unit?_eq_none_iff.mp opens)
  have scanned := (strings_read_units.1 '$' _).2 _ _ divides
  exact ⟨scanned.1 (by decide), strings_read_units.2.2 escapedString 1 (by decide) (by decide)⟩

end HclLexis

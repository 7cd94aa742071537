import HclLexis.Proofs.Splits

/-! Lines of a heredoc that documents write. The first line of their text, which may go on behind a
sequence, is not the terminator, and it tells the indentation that the tree shows. -/

namespace HclLexis.Document

open Lexeme Rules

/-- The first line in the text of a heredoc's line: all of it, or up to its first sequence and
on. -/
inductive FirstLine : List Part → Text → Prop
  | empty : FirstLine [] []
  | plain {t : Text} (all : ∀ c ∈ t, isHeredocText c) : FirstLine [.plain t] t
  | sequence {line : List Part} (t more : Text) {sign : Char} (isSign : sign = '$' ∨ sign = '%')
      (indent : lineIndent? line = some (t.takeWhile Text.isIndent).length) :
      FirstLine line (t ++ sign :: more)

theorem sequenceMarker_eq_cons (isControl : Bool) :
    ∃ sign, sequenceMarker isControl = [sign, '{'] ∧ (sign = '$' ∨ sign = '%') := by
  cases isControl with
  | false => exact ⟨'$', rfl, .inl rfl⟩
  | true => exact ⟨'%', rfl, .inr rfl⟩

theorem firstLine_sequence {line : List Part} {t rest : Text} {isControl : Bool}
    (all : ∀ c ∈ t, isHeredocText c)
    (indent : lineIndent? line = some (t.takeWhile Text.isIndent).length) :
    FirstLine line (Text.line (t ++ (sequenceMarker isControl ++ rest))) := by
  obtain ⟨sign, marker, isSign⟩ := sequenceMarker_eq_cons isControl
  have noFeed : ∀ c ∈ t, c ≠ '\n' := fun c member =>
    ne_of_isHeredocText (all c member) '\n' (by decide)
  have other : sign ≠ '\n' ∧ sign ≠ '\r' := by
    rcases isSign with rfl | rfl <;> decide
  obtain ⟨more, same⟩ := Text.line_append_cons noFeed other.1 other.2 ('{' :: rest)
  rw [marker, List.cons_append, List.cons_append, List.nil_append, same]
  exact .sequence t more isSign indent

theorem firstLine_partsText {line : List Part} (clean : partsClean isHeredocText line)
    (tail : Text) : FirstLine line (Text.line (partsText line ++ '\n' :: tail)) := by
  cases line with
  | nil =>
    have empty : Text.line (partsText [] ++ '\n' :: tail) = [] :=
      Text.line_append_feed (fun c member => absurd member List.not_mem_nil) tail
    rw [empty]
    exact .empty
  | cons part parts =>
    simp only [partsClean, Bool.and_eq_true] at clean
    cases part with
    | sequence isControl items =>
      have shape : partsText (.sequence isControl items :: parts) ++ '\n' :: tail =
          [] ++ (sequenceMarker isControl ++
            ([' '] ++ itemsText items ++ ['}'] ++ partsText parts ++ '\n' :: tail)) := by
        simp [partsText, Part.text]
      rw [shape]
      exact firstLine_sequence (fun c member => absurd member List.not_mem_nil) rfl
    | plain t =>
      have all : ∀ c ∈ t, isHeredocText c := by
        have text := clean.1.1
        simp only [Part.isClean, Bool.and_eq_true, List.all_eq_true] at text
        exact text.2
      cases parts with
      | nil =>
        have whole : Text.line (partsText [.plain t] ++ '\n' :: tail) = t := by
          have inLine : ∀ c ∈ t, c ≠ '\n' ∧ c ≠ '\r' := fun c member =>
            have other := ne_of_isHeredocText (all c member)
            ⟨other '\n' (by decide), other '\r' (by decide)⟩
          have joined : partsText [.plain t] = t := by simp [partsText, Part.text]
          rw [joined, Text.line_append_feed inLine]
        rw [whole]
        exact .plain all
      | cons next parts =>
        cases next with
        | plain u => simp [Part.isPlain] at clean
        | sequence isControl items =>
          have shape : partsText (.plain t :: .sequence isControl items :: parts) ++ '\n' :: tail =
              t ++ (sequenceMarker isControl ++
                ([' '] ++ itemsText items ++ ['}'] ++ partsText parts ++ '\n' :: tail)) := by
            simp [partsText, Part.text]
          rw [shape]
          exact firstLine_sequence all rfl

def bodyStart (stripIndent : Bool) (terminator : Name) (minIndent : Option Nat) : Heredoc :=
  { terminator := terminator.text, stripIndent, atLineStart := true, minIndent }

theorem isIndent_of_sign {sign : Char} (isSign : sign = '$' ∨ sign = '%') :
    Text.isIndent sign = false ∧ sign ≠ '\r' := by
  rcases isSign with rfl | rfl <;> decide

theorem FirstLine.not_closesAt {line : List Part} {first : Text} (isFirst : FirstLine line first)
    {stripIndent : Bool} {terminator : Name} (minIndent : Option Nat)
    (other : isTerminatorLine stripIndent terminator line = false) :
    ¬ (bodyStart stripIndent terminator minIndent).closesAt first := by
  cases isFirst with
  | empty =>
    have nonempty := terminator.isIdentifier.ne_nil
    cases stripIndent <;> simpa [Heredoc.closesAt, bodyStart] using nonempty
  | plain =>
    rw [isTerminatorLine] at other
    rw [Heredoc.closesAt, bodyStart, other]
    exact Bool.false_ne_true
  | @sequence _ t more sign isSign =>
    -- the terminator would hold the sign of the sequence, and identifiers hold none
    intro closes
    have member : sign ∈ t ++ sign :: more := List.mem_append_right t List.mem_cons_self
    have behind : sign ∈ (t ++ sign :: more).dropWhile Text.isIndent := by
      rw [← List.takeWhile_append_dropWhile (p := Text.isIndent) (l := t ++ sign :: more),
        List.mem_append] at member
      rcases member with indent | behind
      · have blank := List.all_eq_true.mp List.all_takeWhile sign indent
        rw [(isIndent_of_sign isSign).1] at blank
        cases blank
      · exact behind
    have kept : sign ∈ terminator.text := by
      rw [Heredoc.closesAt, beq_iff_eq] at closes
      change _ = terminator.text at closes
      rw [← closes]
      split
      · exact behind
      · exact member
    have noSign := terminator.isIdentifier.ne_of_mem kept
    rcases isSign with rfl | rfl
    · exact noSign '$' (by decide) rfl
    · exact noSign '%' (by decide) rfl

theorem min?_toList_min?_append (first others : List Nat) :
    (first.min?.toList ++ others).min? = (first ++ others).min? := by
  cases first with
  | nil => rfl
  | cons n first =>
    change (first.foldl min n :: others).min? = (n :: (first ++ others)).min?
    rw [List.min?_cons', List.min?_cons', List.foldl_append]

theorem FirstLine.noteLine {line : List Part} {first : Text} (isFirst : FirstLine line first)
    (heredoc : Heredoc) :
    heredoc.noteLine first = { heredoc with
      minIndent := (lineIndent? line).elim heredoc.minIndent fun width =>
        some (heredoc.minIndent.elim width (min · width)) } := by
  cases isFirst with
  | empty => rfl
  | plain all =>
    have blank : Heredoc.isBlankLine first = first.all Text.isIndent := by
      rw [Heredoc.isBlankLine, Bool.eq_iff_iff, List.all_eq_true, List.all_eq_true]
      refine forall_congr' fun c => forall_congr' fun member => ?_
      have noReturn := ne_of_isHeredocText (all c member) '\r' (by decide)
      simp [noReturn]
    rw [Heredoc.noteLine, blank, lineIndent?]
    split <;> rfl
  | @sequence _ t more sign isSign indent =>
    obtain ⟨noIndent, noReturn⟩ := isIndent_of_sign isSign
    have text : Heredoc.isBlankLine (t ++ sign :: more) = false := by
      simp [Heredoc.isBlankLine, noIndent, noReturn]
    rw [Heredoc.noteLine, if_neg (by simp [text]),
      Text.takeWhile_append_cons_stop noIndent, indent]
    rfl

def insideLine (stripIndent : Bool) (terminator : Name) (minIndent : Option Nat) : Heredoc :=
  { terminator := terminator.text, stripIndent, minIndent }

theorem insideLine_scans_lineBreak (stripIndent : Bool) (terminator : Name)
    (minIndent : Option Nat) (tail : Text) :
    Mode.Scans (.heredocTemplate (insideLine stripIndent terminator minIndent))
      (.heredocTemplate (bodyStart stripIndent terminator minIndent))
      { kind := .newline, lexeme := ['\n'] } tail :=
  Mode.scans_lineBreak rfl tail

theorem pull_enterLine {stripIndent : Bool} {terminator : Name} {line : List Part}
    (clean : partsClean isHeredocText line)
    (other : isTerminatorLine stripIndent terminator line = false) {minIndent noted : Option Nat}
    (note : noted = (minIndent.toList ++ (lineIndent? line).toList).min?) {lexer : Lexer}
    {below : ModeStack} {openedAt : Location} {tail : Text}
    (modes : lexer.modes =
      below.push (.heredocTemplate (bodyStart stripIndent terminator minIndent)) openedAt)
    (ahead : lexer.cursor.rest = partsText line ++ '\n' :: tail) :
    lexer.pull = Lexer.pull { lexer with
      modes := below.push (.heredocTemplate (insideLine stripIndent terminator noted))
        openedAt } := by
  obtain ⟨cursor, stack, done⟩ := lexer
  subst modes
  have isFirst := firstLine_partsText clean tail
  obtain ⟨c, cs, shape⟩ : ∃ c cs, partsText line ++ '\n' :: tail = c :: cs :=
    List.exists_cons_of_ne_nil (by simp)
  rw [shape] at isFirst
  have starts : cursor.rest = c :: cs := ahead.trans shape
  have entered : HeredocBody.enterLine (bodyStart stripIndent terminator minIndent) (c :: cs) =
      insideLine stripIndent terminator noted := by
    have started : (bodyStart stripIndent terminator minIndent).atLineStart = true := rfl
    rw [HeredocBody.enterLine, if_pos started, isFirst.noteLine, note]
    cases lineIndent? line with
    | none => cases minIndent <;> rfl
    | some width => cases minIndent <;> rfl
  have scanned := Mode.scan_heredocLine fun _ => isFirst.not_closesAt minIndent other
  have inside : (Mode.heredocTemplate (insideLine stripIndent terminator noted)).scan c cs = _ :=
    Mode.scan_insideLine rfl c cs
  rw [entered] at scanned
  simp only [Lexer.pull, Lexer.scan?, starts, ModeStack.current_push, scanned, inside]
  rfl

end HclLexis.Document

import HclLexis.Lexeme.Identifier

/-! Numbers: decimal digits, then a point with digits, then an exponent with an optional sign. A
point in front of an identifier or of another point is not part of the number; it goes with what
follows it. -/

namespace HclLexis.Lexeme

def exponentSign : Text → Text
  | '+' :: _ => ['+']
  | '-' :: _ => ['-']
  | _ => []

theorem exponentSign_isPrefix (t : Text) : exponentSign t <+: t := by
  unfold exponentSign
  split <;> simp

def numberTail (mantissa : Text) : Text → Scan
  | [] => { kind := .number, lexeme := mantissa }
  | marker :: rest =>
    if marker = 'e' || marker = 'E' then
      let sign := exponentSign rest
      let digits := (rest.drop sign.length).takeWhile Char.isDigit
      { kind := if digits.isEmpty then .error .malformedNumber else .number
        lexeme := mantissa ++ marker :: (sign ++ digits) }
    else { kind := .number, lexeme := mantissa }

theorem numberTail_isPrefix (mantissa rest : Text) :
    (numberTail mantissa rest).lexeme <+: mantissa ++ rest := by
  cases rest with
  | nil => simp [numberTail]
  | cons marker rest =>
    rw [numberTail]
    split
    · refine (List.prefix_append_right_inj mantissa).mpr (List.cons_prefix_cons.mpr ⟨rfl, ?_⟩)
      exact Text.append_isPrefix (exponentSign_isPrefix rest) (List.takeWhile_prefix _)
    · exact List.prefix_append mantissa _

theorem length_le_numberTail (mantissa rest : Text) :
    mantissa.length ≤ (numberTail mantissa rest).lexeme.length := by
  cases rest with
  | nil => simp [numberTail]
  | cons marker rest =>
    rw [numberTail]
    split <;> simp

def number (t : Text) : Scan :=
  let whole := t.takeWhile Char.isDigit
  match t.dropWhile Char.isDigit with
  | '.' :: rest =>
    match rest with
    | [] => { kind := .error .malformedNumber, lexeme := whole ++ ['.'] }
    | c :: _ =>
      if c.isDigit then
        numberTail (whole ++ '.' :: rest.takeWhile Char.isDigit) (rest.dropWhile Char.isDigit)
      else if c = '.' || isIdentifierStart c then { kind := .number, lexeme := whole }
      else { kind := .error .malformedNumber, lexeme := whole ++ ['.'] }
  | rest => numberTail whole rest

theorem number_isPrefix (t : Text) : (number t).lexeme <+: t := by
  have parts : t.takeWhile Char.isDigit ++ t.dropWhile Char.isDigit = t :=
    List.takeWhile_append_dropWhile
  rw [number]
  generalize t.takeWhile Char.isDigit = whole at parts
  generalize t.dropWhile Char.isDigit = rest at parts
  subst parts
  split
  · split
    · exact List.prefix_rfl
    · rename_i c cs
      split
      · have fraction : (c :: cs).takeWhile Char.isDigit ++ (c :: cs).dropWhile Char.isDigit
            = c :: cs := List.takeWhile_append_dropWhile
        have tail := numberTail_isPrefix (whole ++ '.' :: (c :: cs).takeWhile Char.isDigit)
          ((c :: cs).dropWhile Char.isDigit)
        rwa [List.append_assoc, List.cons_append, fraction] at tail
      · split
        · exact List.prefix_append whole _
        · exact (List.prefix_append_right_inj whole).mpr (by simp)
  · exact numberTail_isPrefix whole rest

theorem length_le_number (t : Text) :
    (t.takeWhile Char.isDigit).length ≤ (number t).lexeme.length := by
  rw [number]
  split
  · split
    · simp
    · split
      · refine Nat.le_trans ?_ (length_le_numberTail _ _)
        simp
      · split <;> simp
  · exact length_le_numberTail _ _

def number? : Text → Option Scan
  | [] => none
  | c :: cs => if c.isDigit then some (number (c :: cs)) else none

theorem number?_covers {t : Text} {scan : Scan} (h : number? t = some scan) : scan.Covers t := by
  cases t with
  | nil => cases h
  | cons c cs =>
    rw [number?] at h
    split at h
    · rename_i digit
      cases h
      refine ⟨fun empty => ?_, number_isPrefix _⟩
      have bound := length_le_number (c :: cs)
      simp [empty, digit] at bound
    · cases h

end HclLexis.Lexeme

import HclLexis.Proofs.Lexemes
import Mathlib.Data.Bool.AllAny
import Mathlib.Data.List.Find

/-! How far the rules of expressions look ahead. Texts are seen alike that agree up to where both
end, or both have a line break, or the one has a blank or a comment and the other a space: a lexeme
in front of the one is read in front of the other. -/

namespace HclLexis

namespace Text

def gapSigns : Text := [' ', '\t', '\r', '#', '/']

def startsGap : Text → Bool
  | [] => false
  | c :: cs => gapSigns.contains c && !atLineBreak (c :: cs)

/-- Texts that agree up to a place from where on no rule minds that they differ. -/
inductive SeenAlike : Text → Text → Prop
  | ends : SeenAlike [] []
  | feed (s s' : Text) : SeenAlike ('\n' :: s) ('\n' :: s')
  | pair (s s' : Text) : SeenAlike ('\n' :: s) ('\r' :: '\n' :: s')
  | gap {s : Text} (starts : startsGap s) (s' : Text) : SeenAlike s (' ' :: s')
  | cons (c : Char) {s s' : Text} (breaks : lineBreak? (c :: s') = lineBreak? (c :: s))
      (alike : SeenAlike s s') : SeenAlike (c :: s) (c :: s')

def stopSigns : Text := '\n' :: gapSigns

theorem exists_of_startsGap {s : Text} (starts : startsGap s) :
    ∃ c cs, s = c :: cs ∧ c ∈ gapSigns ∧ lineBreak? s = none := by
  cases s with
  | nil => cases starts
  | cons c cs =>
    rw [startsGap, Bool.and_eq_true, List.contains_iff_mem, Bool.not_eq_true'] at starts
    exact ⟨c, cs, rfl, starts.1, by simpa [atLineBreak] using starts.2⟩

/-- Texts seen alike behind a lexeme. Behind a carriage return, which may be its last character,
both or none start with a line feed. -/
structure SeenBehind (lexeme tail tail' : Text) : Prop where
  alike : SeenAlike tail tail'
  feed : '\r' ∈ lexeme → (tail'.head? = some '\n' ↔ tail.head? = some '\n')

namespace SeenBehind

variable {lexeme tail tail' : Text} {c : Char}

theorem of_cons (behind : SeenBehind (c :: lexeme) tail tail') : SeenBehind lexeme tail tail' :=
  ⟨behind.alike, fun member => behind.feed (List.mem_cons_of_mem c member)⟩

theorem of_suffix {lexeme' : Text} (behind : SeenBehind lexeme tail tail')
    (suffix : lexeme' <:+ lexeme) : SeenBehind lexeme' tail tail' :=
  ⟨behind.alike, fun member => behind.feed (suffix.mem member)⟩

theorem lineBreak?_cons (behind : SeenBehind (c :: lexeme) tail tail') :
    lineBreak? (c :: (lexeme ++ tail')) = lineBreak? (c :: (lexeme ++ tail)) := by
  rw [Text.lineBreak?_cons, Text.lineBreak?_cons]
  cases lexeme with
  | cons => rfl
  | nil =>
    rw [List.nil_append, List.nil_append]
    by_cases carriage : c = '\r'
    · simp only [behind.feed (by simp [carriage])]
    · simp only [carriage, false_and]

theorem append (behind : SeenBehind lexeme tail tail') :
    SeenAlike (lexeme ++ tail) (lexeme ++ tail') := by
  induction lexeme with
  | nil => exact behind.alike
  | cons c cs ih => exact .cons c behind.lineBreak?_cons (ih behind.of_cons)

end SeenBehind

namespace SeenAlike

variable {s s' : Text}

theorem append_of_mem {t : Text} (feed : '\n' ∈ t) (behind : Text) :
    SeenAlike t (t ++ behind) := by
  induction t with
  | nil => cases feed
  | cons c cs ih =>
    by_cases first : c = '\n'
    · subst first
      exact .feed _ _
    · rcases List.mem_cons.mp feed with same | feed
      · exact absurd same.symm first
      · obtain ⟨d, ds, rfl⟩ := List.exists_cons_of_ne_nil (List.ne_nil_of_mem feed)
        have breaks : lineBreak? (c :: (d :: ds ++ behind)) = lineBreak? (c :: d :: ds) := by
          rw [Text.lineBreak?_cons, Text.lineBreak?_cons]
          rfl
        exact .cons c breaks (ih feed)

theorem isEmpty_eq (alike : SeenAlike s s') : s'.isEmpty = s.isEmpty := by
  cases alike with
  | gap starts =>
    obtain ⟨c, cs, rfl, -⟩ := exists_of_startsGap starts
    rfl
  | _ => rfl

theorem head?_eq_or (alike : SeenAlike s s') : s'.head? = s.head? ∨
    (∃ c ∈ stopSigns, s.head? = some c) ∧ ∃ c ∈ stopSigns, s'.head? = some c := by
  cases alike with
  | gap starts =>
    obtain ⟨c, cs, rfl, sign, -⟩ := exists_of_startsGap starts
    exact .inr ⟨⟨c, .tail _ sign, rfl⟩, ' ', by decide, rfl⟩
  | pair => exact .inr ⟨⟨'\n', by decide, rfl⟩, '\r', by decide, rfl⟩
  | _ => exact .inl rfl

theorem head?_eq_some_iff (alike : SeenAlike s s') {c : Char} (other : c ∉ stopSigns) :
    s'.head? = some c ↔ s.head? = some c := by
  rcases alike.head?_eq_or with same | ⟨⟨d, sign, first⟩, d', sign', first'⟩
  · rw [same]
  · rw [first, first']
    constructor
    · rintro ⟨⟩
      exact absurd sign' other
    · rintro ⟨⟩
      exact absurd sign other

theorem atLineBreak_eq (alike : SeenAlike s s') : atLineBreak s' = atLineBreak s := by
  cases alike with
  | ends | feed | pair => rfl
  | gap starts =>
    obtain ⟨c, cs, rfl, -, noBreak⟩ := exists_of_startsGap starts
    rw [atLineBreak, atLineBreak, noBreak]
    rfl
  | cons c breaks alike => rw [atLineBreak, atLineBreak, breaks]

theorem takeWhile {p : Char → Bool} (alike : SeenAlike s s') (fail : stopSigns.any p = false) :
    s'.takeWhile p = s.takeWhile p ∧ SeenAlike (s.dropWhile p) (s'.dropWhile p) := by
  have stops : ∀ d ∈ stopSigns, p d = false := fun d member => by
    simpa using List.any_eq_false.mp fail d member
  induction alike with
  | ends => exact ⟨rfl, .ends⟩
  | feed s s' =>
    have feed := stops '\n' (by decide)
    simp only [List.takeWhile_cons, List.dropWhile_cons, feed]
    exact ⟨rfl, .feed s s'⟩
  | pair s s' =>
    have feed := stops '\n' (by decide)
    have carriage := stops '\r' (by decide)
    simp only [List.takeWhile_cons, List.dropWhile_cons, feed, carriage]
    exact ⟨rfl, .pair s s'⟩
  | @gap s starts s' =>
    obtain ⟨c, cs, rfl, sign, -⟩ := exists_of_startsGap starts
    have space := stops ' ' (by decide)
    have first := stops c (List.mem_cons_of_mem _ sign)
    simp only [List.takeWhile_cons, List.dropWhile_cons, space, first]
    exact ⟨rfl, .gap starts s'⟩
  | cons c breaks alike ih =>
    by_cases pass : p c
    · simp only [List.takeWhile_cons, List.dropWhile_cons, pass, if_true]
      exact ⟨by rw [ih.1], ih.2⟩
    · simp only [List.takeWhile_cons, List.dropWhile_cons, pass]
      exact ⟨rfl, .cons c breaks alike⟩

theorem isPrefixOf_eq (alike : SeenAlike s s') {sign : Text} (plain : ∀ c ∈ sign, c ∉ stopSigns) :
    sign.isPrefixOf s' = sign.isPrefixOf s := by
  induction sign generalizing s s' with
  | nil => rfl
  | cons c cs ih =>
    obtain ⟨other, others⟩ := List.forall_mem_cons.mp plain
    have differ (d : Char) (stop : d ∈ stopSigns) (rest : Text) :
        (c :: cs).isPrefixOf (d :: rest) = false := by
      have different : c ≠ d := fun same => other (same ▸ stop)
      rw [List.isPrefixOf_cons_cons, beq_eq_false_iff_ne.mpr different, Bool.false_and]
    cases alike with
    | ends => rfl
    | feed => rw [differ _ (by decide), differ _ (by decide)]
    | pair => rw [differ _ (by decide), differ _ (by decide)]
    | gap starts =>
      obtain ⟨d, ds, rfl, sign, -⟩ := exists_of_startsGap starts
      rw [differ _ (by decide), differ d (.tail _ sign)]
    | cons d breaks alike =>
      rw [List.isPrefixOf_cons_cons, List.isPrefixOf_cons_cons, ih alike others]

end SeenAlike

theorem takeBefore_append {stop : Text → Bool} {tail tail' piece : Text}
    (same : ∀ c s, c :: s <:+ piece → stop (c :: (s ++ tail')) = stop (c :: (s ++ tail)))
    (found : takeBefore stop (piece ++ tail) = piece)
    (stops : takeBefore stop tail = [] → takeBefore stop tail' = []) :
    takeBefore stop (piece ++ tail') = piece := by
  induction piece with
  | nil => exact stops found
  | cons c cs ih =>
    rw [List.cons_append, takeBefore] at found ⊢
    rw [same c cs List.suffix_rfl]
    split at found
    · cases found
    · rename_i goesOn
      have others := ih (fun d s suffix => same d s (suffix.trans (List.suffix_cons c cs)))
        (List.tail_eq_of_cons_eq found)
      rw [if_neg goesOn, others]

end Text

theorem Scan.first?_carry {rules : List (Text → Option Scan)} {t t' : Text} {scan : Scan}
    (refuse : ∀ rule ∈ rules, rule t = none → rule t' = none)
    (find : ∀ rule ∈ rules, rule t = some scan → rule t' = some scan)
    (found : first? rules t = some scan) : first? rules t' = some scan := by
  induction rules with
  | nil => cases found
  | cons rule rules ih =>
    rw [first?, List.findSome?_cons] at found ⊢
    cases first : rule t with
    | none =>
      rw [first] at found
      rw [refuse rule List.mem_cons_self first]
      exact ih (fun other member => refuse other (.tail _ member))
        (fun other member => find other (.tail _ member)) found
    | some other =>
      rw [first] at found
      cases found
      rw [find rule List.mem_cons_self first]

theorem Scan.first?_append_cons {rule : Text → Option Scan} {t : Text} {scan : Scan}
    (found : rule t = some scan) (before after : List (Text → Option Scan))
    (refused : ∀ other ∈ before, other t = none) :
    first? (before ++ rule :: after) t = some scan := by
  rw [first?, List.findSome?_append, List.findSome?_eq_none_iff.mpr refused, Option.none_or,
    List.findSome?_cons, found]

namespace Lexeme

open Text Rules

theorem startsLineComment_cons (c : Char) (s : Text) :
    startsLineComment (c :: s) ↔ c = '#' ∨ c = '/' ∧ s.head? = some '/' := by
  unfold startsLineComment
  split
  · simp_all
  · simp_all
  · rename_i hash slashes
    refine iff_of_false Bool.false_ne_true ?_
    rintro (rfl | ⟨rfl, second⟩)
    · exact hash s rfl
    · obtain ⟨cs, rfl⟩ := List.head?_eq_some_iff.mp second
      exact slashes cs rfl

theorem lineComment?_eq_none_iff (t : Text) :
    lineComment? t = none ↔ ¬ startsLineComment t := by
  rw [lineComment?, ite_eq_right_iff]
  exact forall_congr' fun _ => iff_of_false (Option.some_ne_none _) id

theorem isPrefixOf_commentEnd (c : Char) (s : Text) :
    commentEnd.isPrefixOf (c :: s) ↔ c = '*' ∧ s.head? = some '/' := by
  rw [commentEnd, List.isPrefixOf_cons_cons, Bool.and_eq_true, beq_iff_eq, eq_comm]
  refine and_congr_right fun _ => ?_
  cases s with
  | nil => exact iff_of_false Bool.false_ne_true (Option.some_ne_none _).symm
  | cons d ds =>
    rw [List.isPrefixOf_cons_cons, List.isPrefixOf_nil_left, Bool.and_true, beq_iff_eq]
    exact ⟨fun same => by rw [same]; rfl, fun same => (Option.some.inj same).symm⟩

theorem blanks?_eq_none_iff (t : Text) : blanks? t = none ↔ ¬ startsBlank t := by
  rw [blanks?, ite_eq_right_iff]
  exact forall_congr' fun _ => iff_of_false (Option.some_ne_none _) id

theorem exists_of_blockComment? {t : Text} {scan : Scan} (found : blockComment? t = some scan) :
    ∃ rest : Text, t = '/' :: '*' :: rest := by
  unfold blockComment? at found
  split at found
  · exact ⟨_, rfl⟩
  · cases found

theorem blockComment?_eq_none_iff (c : Char) (s : Text) :
    blockComment? (c :: s) = none ↔ ¬ (c = '/' ∧ s.head? = some '*') := by
  unfold blockComment?
  split
  · rename_i rest same
    cases same
    dsimp only
    split <;> simp
  · rename_i other
    refine iff_of_true rfl ?_
    rintro ⟨rfl, second⟩
    obtain ⟨cs, rfl⟩ := List.head?_eq_some_iff.mp second
    exact other cs rfl

section

variable {s s' : Text} (alike : SeenAlike s s') {c : Char}
  (breaks : lineBreak? (c :: s') = lineBreak? (c :: s))

section

include breaks

theorem startsBlank_alike : startsBlank (c :: s') = startsBlank (c :: s) := by
  simp only [startsBlank, atLineBreak, breaks]

theorem newline?_alike : newline? (c :: s') = newline? (c :: s) := by
  rw [newline?, newline?, breaks]

theorem blanks?_eq_none_alike (refused : blanks? (c :: s) = none) : blanks? (c :: s') = none := by
  rw [blanks?_eq_none_iff] at refused ⊢
  rwa [startsBlank_alike breaks]

end

include alike

theorem identifier_alike : identifier s' = identifier s ∧
    SeenAlike (s.drop (identifier s).length) (s'.drop (identifier s).length) := by
  have none (d : Char) (stop : d ∈ stopSigns) (rest : Text) : identifier (d :: rest) = [] := by
    have plain : ∀ d ∈ stopSigns, isIdentifierStart d = false :=
      List.all_iff_forall_prop.mp (by decide)
    rw [identifier, plain d stop]
    rfl
  cases alike with
  | ends => exact ⟨rfl, .ends⟩
  | feed s s' =>
    rw [none _ (by decide), none _ (by decide)]
    exact ⟨rfl, .feed s s'⟩
  | pair s s' =>
    rw [none _ (by decide), none _ (by decide)]
    exact ⟨rfl, .pair s s'⟩
  | gap starts s' =>
    obtain ⟨d, ds, rfl, sign, -⟩ := exists_of_startsGap starts
    rw [none _ (by decide), none d (.tail _ sign)]
    exact ⟨rfl, .gap starts s'⟩
  | @cons d s s' breaks alike =>
    have run := alike.takeWhile (p := isIdentifierContinue) (by decide)
    rw [identifier, identifier, run.1]
    split
    · rw [List.length_cons, List.drop_succ_cons, List.drop_succ_cons, drop_length_takeWhile,
        ← run.1, drop_length_takeWhile]
      exact ⟨rfl, run.2⟩
    · exact ⟨rfl, .cons d breaks alike⟩

theorem heredocNamed?_alike (marker : Text) (stripIndent : Bool) :
    heredocNamed? marker stripIndent s' = heredocNamed? marker stripIndent s := by
  obtain ⟨same, behind⟩ := identifier_alike alike
  rw [heredocNamed?, heredocNamed?, same, behind.isEmpty_eq, behind.atLineBreak_eq]

theorem heredocOpen?_alike : heredocOpen? (c :: s') = heredocOpen? (c :: s) := by
  by_cases less : c = '<'
  · subst less
    cases alike with
    | ends | feed | pair => rfl
    | gap starts s' =>
      obtain ⟨d, ds, rfl, sign, -⟩ := exists_of_startsGap starts
      have other : d ≠ '<' := by
        rintro rfl
        exact absurd sign (by decide)
      simp [heredocOpen?, other]
    | @cons d s s' breaks alike =>
      by_cases less : d = '<'
      · subst less
        have plain := heredocNamed?_alike alike ['<', '<'] false
        cases alike with
        | ends => rfl
        | feed | pair => exact plain
        | gap starts s' =>
          obtain ⟨d, ds, rfl, sign, -⟩ := exists_of_startsGap starts
          have other : d ≠ '-' := by
            rintro rfl
            exact absurd sign (by decide)
          simpa [heredocOpen?, other] using plain
        | @cons d s s' breaks alike =>
          by_cases hyphen : d = '-'
          · subst hyphen
            exact heredocNamed?_alike alike ['<', '<', '-'] true
          · simpa [heredocOpen?, hyphen] using plain
      · simp [heredocOpen?, less]
  · simp [heredocOpen?, less]

omit alike in
theorem openQuote?_cons (s s' : Text) : Body.openQuote? (c :: s') = Body.openQuote? (c :: s) := by
  by_cases quote : c = '"'
  · subst quote
    rfl
  · simp [Body.openQuote?, quote]

include breaks in
theorem identifier?_alike : identifier? (c :: s') = identifier? (c :: s) := by
  rw [identifier?, identifier?, (identifier_alike (.cons c breaks alike)).1]

theorem exponentSign_alike : exponentSign s' = exponentSign s ∧
    SeenAlike (s.drop (exponentSign s).length) (s'.drop (exponentSign s).length) := by
  cases alike with
  | ends => exact ⟨rfl, .ends⟩
  | feed s s' => exact ⟨rfl, .feed s s'⟩
  | pair s s' => exact ⟨rfl, .pair s s'⟩
  | gap starts s' =>
    obtain ⟨d, ds, rfl, sign, -⟩ := exists_of_startsGap starts
    have none : exponentSign (d :: ds) = [] := by
      have plain : ∀ e ∈ gapSigns, e ≠ '+' ∧ e ≠ '-' := List.all_iff_forall_prop.mp (by decide)
      simp [exponentSign, plain d sign]
    rw [none]
    exact ⟨rfl, .gap starts s'⟩
  | @cons d s s' breaks alike =>
    by_cases plus : d = '+'
    · subst plus
      exact ⟨rfl, alike⟩
    by_cases minus : d = '-'
    · subst minus
      exact ⟨rfl, alike⟩
    have none (t : Text) : exponentSign (d :: t) = [] := by simp [exponentSign, plus, minus]
    rw [none, none]
    exact ⟨rfl, .cons d breaks alike⟩

theorem numberTail_alike (mantissa : Text) : numberTail mantissa s' = numberTail mantissa s := by
  cases alike with
  | ends | feed | pair => rfl
  | gap starts s' =>
    obtain ⟨d, ds, rfl, sign, -⟩ := exists_of_startsGap starts
    have plain : ∀ e ∈ gapSigns, e ≠ 'e' ∧ e ≠ 'E' := List.all_iff_forall_prop.mp (by decide)
    simp [numberTail, plain d sign]
  | @cons d s s' breaks alike =>
    obtain ⟨same, behind⟩ := exponentSign_alike alike
    have digits := (behind.takeWhile (p := Char.isDigit) (by decide)).1
    simp only [numberTail, same, digits]

theorem number_alike : number s' = number s := by
  obtain ⟨whole, behind⟩ := alike.takeWhile (p := Char.isDigit) (by decide)
  rw [number, number, whole]
  generalize s.takeWhile Char.isDigit = whole
  generalize s.dropWhile Char.isDigit = rest at behind
  generalize s'.dropWhile Char.isDigit = rest' at behind
  have tail := numberTail_alike behind whole
  cases behind with
  | ends | feed | pair => rfl
  | gap starts s' =>
    obtain ⟨d, ds, rfl, sign, -⟩ := exists_of_startsGap starts
    have noPoint : d ≠ '.' := by
      rintro rfl
      exact absurd sign (by decide)
    simpa [noPoint] using tail
  | @cons d s s' breaks alike =>
    by_cases point : d = '.'
    · subst point
      obtain ⟨fraction, behind⟩ := alike.takeWhile (p := Char.isDigit) (by decide)
      have tail := numberTail_alike behind (whole ++ '.' :: s.takeWhile Char.isDigit)
      have plain : ∀ e ∈ stopSigns, e.isDigit = false ∧ e ≠ '.' ∧ isIdentifierStart e = false :=
        List.all_iff_forall_prop.mp (by decide)
      cases alike with
      | ends => rfl
      | feed => rfl
      | pair => simp [plain '\r' (by decide), plain '\n' (by decide)]
      | gap starts s' =>
        obtain ⟨e, es, rfl, sign, -⟩ := exists_of_startsGap starts
        simp [plain e (.tail _ sign), plain ' ' (by decide)]
      | cons e breaks alike => simp only [fraction, tail]
    · simpa [point] using tail

include breaks in
theorem number?_alike : number? (c :: s') = number? (c :: s) := by
  rw [number?, number?, number_alike (.cons c breaks alike)]

theorem operator?_alike : operator? (c :: s') = operator? (c :: s) := by
  have plain : ∀ entry ∈ operators, ∀ d ∈ entry.1.tail, d ∉ stopSigns := by
    simp [operators, stopSigns, gapSigns]
  rw [operator?, operator?]
  refine congrArg _ (List.find?_congr fun entry member => ?_)
  have inner := plain entry member
  generalize entry.1 = sign at inner
  cases sign with
  | nil => rfl
  | cons d ds =>
    have rest : ds.isPrefixOf s' = ds.isPrefixOf s := alike.isPrefixOf_eq inner
    rw [List.isPrefixOf_cons_cons, List.isPrefixOf_cons_cons, rest]

theorem lineComment?_eq_none_alike (refused : lineComment? (c :: s) = none) :
    lineComment? (c :: s') = none := by
  rw [lineComment?_eq_none_iff, startsLineComment_cons] at refused ⊢
  rintro (hash | ⟨slash, second⟩)
  · exact refused (.inl hash)
  · obtain ⟨rest', rfl⟩ := List.head?_eq_some_iff.mp second
    cases alike with
    | cons _ _ alike => exact refused (.inr ⟨slash, rfl⟩)

theorem blockComment?_eq_none_alike (refused : blockComment? (c :: s) = none) :
    blockComment? (c :: s') = none := by
  rw [blockComment?_eq_none_iff] at refused ⊢
  rwa [alike.head?_eq_some_iff (by decide)]

end

section

variable {tail tail' piece : Text} {c : Char} {scan : Scan} (whole : scan.lexeme = c :: piece)
  (behind : SeenBehind (c :: piece) tail tail')

include whole behind

theorem blanks?_append
    (apart : scan.kind = .whitespace → tail'.head? = some ' ' → tail.head? = some ' ')
    (found : blanks? (c :: (piece ++ tail)) = some scan) :
    blanks? (c :: (piece ++ tail')) = some scan := by
  rw [blanks?, Option.ite_none_right_eq_some] at found ⊢
  obtain ⟨starts, same⟩ := found
  cases same
  have run : takeBefore (fun rest => !startsBlank rest) (c :: piece ++ tail') = c :: piece := by
    refine takeBefore_append (fun d s suffix => ?_) whole fun stops => ?_
    · rw [startsBlank_alike (behind.of_suffix suffix).lineBreak?_cons]
    · cases behind.alike with
      | ends | feed | pair => rfl
      | gap gap s' =>
        obtain ⟨s, rfl⟩ := List.head?_eq_some_iff.mp (apart rfl rfl)
        cases stops
      | cons d breaks alike =>
        rw [takeBefore, startsBlank_alike breaks]
        rw [takeBefore] at stops
        split at stops
        · rename_i noBlank
          rw [if_pos noBlank]
        · cases stops
  refine ⟨by rwa [startsBlank_alike behind.lineBreak?_cons], ?_⟩
  dsimp only at whole
  rw [whole, ← List.cons_append, run]

theorem lineComment?_append (found : lineComment? (c :: (piece ++ tail)) = some scan) :
    lineComment? (c :: (piece ++ tail')) = some scan := by
  rw [lineComment?, Option.ite_none_right_eq_some] at found ⊢
  obtain ⟨starts, same⟩ := found
  cases same
  have run : takeBefore atLineBreak (c :: piece ++ tail') = c :: piece := by
    refine takeBefore_append (fun d s suffix => ?_) whole fun stops => ?_
    · rw [atLineBreak, atLineBreak, (behind.of_suffix suffix).lineBreak?_cons]
    · have ends := behind.alike.isEmpty_eq
      have broken := behind.alike.atLineBreak_eq
      cases tail' with
      | nil => rfl
      | cons d' ds' =>
        cases tail with
        | nil => cases ends
        | cons d ds =>
          rw [takeBefore] at stops ⊢
          rw [broken]
          split at stops
          · rename_i breaks
            rw [if_pos breaks]
          · cases stops
  refine ⟨?_, by rw [← List.cons_append, run, ← whole]⟩
  rw [startsLineComment_cons] at starts ⊢
  rcases starts with hash | ⟨slash, second⟩
  · exact .inl hash
  refine .inr ⟨slash, ?_⟩
  -- the second slash is a part of the comment
  cases piece with
  | nil =>
    obtain ⟨rest, rfl⟩ := List.head?_eq_some_iff.mp second
    simp [slash, takeBefore, atLineBreak, Text.lineBreak?] at whole
  | cons d ds => exact second

theorem blockComment?_append
    (found : blockComment? (c :: (piece ++ tail)) = some scan) :
    blockComment? (c :: (piece ++ tail')) = some scan := by
  obtain ⟨rest, shape⟩ := exists_of_blockComment? found
  obtain ⟨slash, split⟩ := List.cons_eq_cons.mp shape
  rw [slash, split, blockComment?] at found
  split at found
  · cases found
    obtain ⟨body, isBody⟩ : ∃ body, body = takeBefore commentEnd.isPrefixOf rest := ⟨_, rfl⟩
    rw [← isBody] at whole ⊢
    have same : piece = '*' :: (body ++ commentEnd) := (List.tail_eq_of_cons_eq whole).symm
    rw [same, List.cons_append, List.append_assoc] at split
    have shape : rest = body ++ (commentEnd ++ tail) := (List.tail_eq_of_cons_eq split).symm
    have run : takeBefore commentEnd.isPrefixOf (body ++ (commentEnd ++ tail')) = body := by
      refine takeBefore_append (fun d s _ => ?_) (by rw [← shape, ← isBody]) fun _ => rfl
      cases s <;> rfl
    have closes : body.length < (body ++ (commentEnd ++ tail')).length := by
      simp [commentEnd]
    rw [slash, same, List.cons_append, List.append_assoc, blockComment?, run]
    exact if_pos closes
  · rename_i unclosed
    cases found
    have same : piece = '*' :: rest := (List.tail_eq_of_cons_eq whole).symm
    have ended : tail = [] := by
      rw [same] at split
      exact List.append_right_eq_self.mp split
    have ended' : tail' = [] := by
      have ends := behind.alike.isEmpty_eq
      rw [ended] at ends
      exact List.isEmpty_iff.mp ends
    rw [ended', List.append_nil, slash, same, blockComment?]
    exact if_neg unclosed

theorem body_scan_append
    (apart : scan.kind = .whitespace → tail'.head? = some ' ' → tail.head? = some ' ')
    (scanned : Body.scan c (piece ++ tail) = scan) : Body.scan c (piece ++ tail') = scan := by
  have seen := behind.of_cons.append
  have breaks := behind.lineBreak?_cons
  have refuse : ∀ rule ∈ Body.rules, rule (c :: (piece ++ tail)) = none →
      rule (c :: (piece ++ tail')) = none := by
    intro rule member refused
    simp only [Body.rules, List.mem_cons, List.not_mem_nil, or_false] at member
    rcases member with rfl | rfl | rfl | rfl | rfl | rfl | rfl | rfl | rfl
    · rw [heredocOpen?_alike seen, refused]
    · rw [newline?_alike breaks, refused]
    · exact blanks?_eq_none_alike breaks refused
    · exact lineComment?_eq_none_alike seen refused
    · exact blockComment?_eq_none_alike seen refused
    · rw [openQuote?_cons, refused]
    · rw [identifier?_alike seen breaks, refused]
    · rw [number?_alike seen breaks, refused]
    · rw [operator?_alike seen, refused]
  have find : ∀ rule ∈ Body.rules, rule (c :: (piece ++ tail)) = some scan →
      rule (c :: (piece ++ tail')) = some scan := by
    intro rule member found
    simp only [Body.rules, List.mem_cons, List.not_mem_nil, or_false] at member
    rcases member with rfl | rfl | rfl | rfl | rfl | rfl | rfl | rfl | rfl
    · rw [heredocOpen?_alike seen, found]
    · rw [newline?_alike breaks, found]
    · exact blanks?_append whole behind apart found
    · exact lineComment?_append whole behind found
    · exact blockComment?_append whole behind found
    · rw [openQuote?_cons, found]
    · rw [identifier?_alike seen breaks, found]
    · rw [number?_alike seen breaks, found]
    · rw [operator?_alike seen, found]
  rw [Body.scan] at scanned ⊢
  cases found : Scan.first? Body.rules (c :: (piece ++ tail)) with
  | none =>
    have refused := Scan.first?_eq_none.mp found
    have none : Scan.first? Body.rules (c :: (piece ++ tail')) = none :=
      Scan.first?_eq_none.mpr fun rule member => refuse rule member (refused rule member)
    rw [found] at scanned
    rw [none, ← scanned]
  | some other =>
    rw [found, Option.getD_some] at scanned
    subst scanned
    rw [Scan.first?_carry refuse find found, Option.getD_some]

theorem sequence_scan_append
    (apart : scan.kind = .whitespace → tail'.head? = some ' ' → tail.head? = some ' ')
    {depth depth' : Nat}
    (scanned : Sequence.scan depth c (piece ++ tail) = (depth', scan)) :
    Sequence.scan depth c (piece ++ tail') = (depth', scan) := by
  have closing : (piece ++ tail').head? = some '}' ↔ (piece ++ tail).head? = some '}' :=
    behind.of_cons.append.head?_eq_some_iff (by decide)
  rw [← scanned]
  simp only [Sequence.scan, closing]
  split
  · rfl
  split
  · rfl
  split
  · rfl
  rename_i opens closes tilde
  have body : Sequence.scan depth c (piece ++ tail) = (depth, Body.scan c (piece ++ tail)) := by
    simp only [Sequence.scan, if_neg opens, if_neg closes, if_neg tilde]
  rw [body] at scanned
  cases scanned
  rw [body_scan_append whole behind apart rfl]

end

end Lexeme

end HclLexis

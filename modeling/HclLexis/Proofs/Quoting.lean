import HclLexis.Lexeme.Escape
import HclLexis.Text.Quoted
import Mathlib.Tactic.SplitIfs

/-! Quoted texts can be read back. The reader knows what escapes mean, not which characters are
escaped; it goes over the text once and keeps how much of an escape is read. -/

namespace HclLexis.Text

open Lexeme.Escape (isHexDigit hexDigit hexNumber)

/-- How much is read of an escape: nothing, its backslash, the marker of a code point, or digits of
the code point that come to a number. -/
inductive Escaping where
  | nothing
  | backslash
  | marker
  | codePoint (number : Nat)

def namedEscape? : Char → Option Char
  | '0' => some (Char.ofNat 0)
  | 't' => some '\t'
  | 'r' => some '\r'
  | 'n' => some '\n'
  | '\\' => some '\\'
  | '\'' => some '\''
  | '"' => some '"'
  | _ => none

/-- Undoes the escapes of a text up to the double quote at its end. -/
def unescape? : Escaping → Text → Option Text
  | _, [] => none
  | .nothing, c :: cs =>
    if c = '"' then if cs = [] then some [] else none
    else if c = '\\' then unescape? .backslash cs
    else (unescape? .nothing cs).map (c :: ·)
  | .backslash, c :: cs =>
    if c = 'u' then unescape? .marker cs
    else (namedEscape? c).bind fun named => (unescape? .nothing cs).map (named :: ·)
  | .marker, c :: cs => if c = '{' then unescape? (.codePoint 0) cs else none
  | .codePoint number, c :: cs =>
    if c = '}' then
      if number.isValidChar then (unescape? .nothing cs).map (Char.ofNat number :: ·) else none
    else if isHexDigit c then unescape? (.codePoint (16 * number + hexDigit c)) cs
    else none

def unquote? : Text → Option Text
  | '"' :: rest => unescape? .nothing rest
  | _ => none

theorem hexDigit_digitChar {n : Nat} (small : n < 16) : hexDigit n.digitChar = n := by
  decide +revert

theorem isHexDigit_digitChar {n : Nat} (small : n < 16) : isHexDigit n.digitChar := by
  decide +revert

theorem isHexDigit_of_mem_toDigits {n : Nat} {d : Char} (member : d ∈ Nat.toDigits 16 n) :
    isHexDigit d := by
  induction n using Nat.strongRecOn with
  | ind n ih =>
    rw [Nat.toDigits_eq_if (by decide)] at member
    split at member
    · rename_i small
      rw [List.mem_singleton.mp member]
      exact isHexDigit_digitChar small
    · rcases List.mem_append.mp member with front | last
      · exact ih (n / 16) (by omega) front
      · rw [List.mem_singleton.mp last]
        exact isHexDigit_digitChar (Nat.mod_lt n (by decide))

theorem hexNumber_toDigits (n : Nat) : hexNumber (Nat.toDigits 16 n) = n := by
  induction n using Nat.strongRecOn with
  | ind n ih =>
    rw [Nat.toDigits_eq_if (by decide)]
    split
    · rename_i small
      simpa [hexNumber] using hexDigit_digitChar small
    · have front := ih (n / 16) (by omega)
      rw [hexNumber] at front
      rw [hexNumber, List.foldl_append, front, List.foldl_cons, List.foldl_nil,
        hexDigit_digitChar (Nat.mod_lt n (by decide)), Nat.div_add_mod]

def escapeSigns : Text := ['\\', '0', 't', 'r', 'n', 'u', '{', '}']

inductive EscapeForm (quote c : Char) : Text → Prop
  | named {sign : Char} (isSign : sign ∈ escapeSigns) (means : namedEscape? sign = some c) :
      EscapeForm quote c ['\\', sign]
  | marked (isMark : c = '\\' ∨ c = quote) (noFeed : c ≠ '\n') : EscapeForm quote c ['\\', c]
  | codePoint : EscapeForm quote c (escapeCodePoint c)
  | itself (noMark : ¬(c = '\\' ∨ c = quote)) (noFeed : c ≠ '\n') : EscapeForm quote c [c]

theorem escapeForm_escape (quote c : Char) : EscapeForm quote c (escape quote c) := by
  have named {sign means : Char} (isSign : sign ∈ escapeSigns)
      (meaning : namedEscape? sign = some means) (same : c = means) :
      EscapeForm quote c ['\\', sign] := .named isSign (same ▸ meaning)
  simp only [escape, Bool.or_eq_true, decide_eq_true_eq]
  split_ifs with nul tab carriage feed isMark
  · exact named (by decide) rfl nul
  · exact named (by decide) rfl tab
  · exact named (by decide) rfl carriage
  · exact named (by decide) rfl feed
  · exact .marked isMark feed
  · exact .codePoint
  · exact .itself isMark feed

theorem mem_escape {quote c d : Char} (member : d ∈ escape quote c) :
    d = c ∧ c ≠ '\n' ∨ d ∈ escapeSigns ∨ isHexDigit d := by
  have form := escapeForm_escape quote c
  generalize escape quote c = piece at form member
  cases form with
  | named isSign =>
    rcases List.mem_cons.mp member with rfl | sign
    · exact .inr (.inl (by decide))
    · exact .inr (.inl (List.mem_singleton.mp sign ▸ isSign))
  | marked isMark noFeed =>
    rcases List.mem_cons.mp member with rfl | itself
    · exact .inr (.inl (by decide))
    · exact .inl ⟨List.mem_singleton.mp itself, noFeed⟩
  | codePoint =>
    rw [escapeCodePoint, List.mem_append, List.mem_append] at member
    have front : ['\\', 'u', '{'] ⊆ escapeSigns := by decide
    have last : ['}'] ⊆ escapeSigns := by decide
    rcases member with (member | digit) | member
    · exact .inr (.inl (front member))
    · exact .inr (.inr (isHexDigit_of_mem_toDigits digit))
    · exact .inr (.inl (last member))
  | itself noMark noFeed => exact .inl ⟨List.mem_singleton.mp member, noFeed⟩

theorem notMem_escape {quote c d : Char} (noSign : d ∉ escapeSigns) (noDigit : ¬ isHexDigit d)
    (escaped : d = c → c = '\n') : d ∉ escape quote c := by
  intro member
  rcases mem_escape member with ⟨same, noFeed⟩ | sign | digit
  · exact noFeed (escaped same)
  · exact noSign sign
  · exact noDigit digit

theorem feed_notMem_escape (quote c : Char) : '\n' ∉ escape quote c :=
  notMem_escape (by decide) (by decide) Eq.symm

theorem quote_notMem_escape (quote : Char) {c : Char} (other : c ≠ '"') : '"' ∉ escape quote c :=
  notMem_escape (by decide) (by decide) fun same => absurd same.symm other

theorem feed_notMem_quoted (t : Text) : '\n' ∉ quoted t := by
  simp [quoted, feed_notMem_escape]

section

variable (c : Char) (cs : Text)

theorem unescape?_codePoint {digits : Text} (hex : ∀ d ∈ digits, isHexDigit d) (number : Nat) :
    unescape? (.codePoint number) (digits ++ cs) =
      unescape? (.codePoint (digits.foldl (fun n d => 16 * n + hexDigit d) number)) cs := by
  induction digits generalizing number with
  | nil => rfl
  | cons d digits ih =>
    obtain ⟨isHex, others⟩ := List.forall_mem_cons.mp hex
    have noBrace : d ≠ '}' := by
      rintro rfl
      revert isHex
      decide
    rw [List.cons_append, unescape?, if_neg noBrace, if_pos isHex, ih others, List.foldl_cons]

theorem unescape?_escapeCodePoint :
    unescape? .nothing (escapeCodePoint c ++ cs) = (unescape? .nothing cs).map (c :: ·) := by
  have hex : ∀ d ∈ Nat.toDigits 16 c.toNat, isHexDigit d := fun _ => isHexDigit_of_mem_toDigits
  have isChar : c.toNat.isValidChar := c.valid
  have digits := unescape?_codePoint ('}' :: cs) hex 0
  rw [← hexNumber, hexNumber_toDigits c.toNat, unescape?, if_pos rfl, if_pos isChar,
    Char.ofNat_toNat] at digits
  rw [← digits, escapeCodePoint, List.append_assoc, List.append_assoc]
  rfl

theorem unescape?_escape :
    unescape? .nothing (escape '"' c ++ cs) = (unescape? .nothing cs).map (c :: ·) := by
  have form := escapeForm_escape '"' c
  generalize escape '"' c = piece at form
  cases form with
  | @named sign isSign means =>
    have noMarker : sign ≠ 'u' := by
      rintro rfl
      cases means
    change unescape? .backslash (sign :: cs) = _
    rw [unescape?, if_neg noMarker, means, Option.bind_some]
  | marked isMark => rcases isMark with rfl | rfl <;> rfl
  | codePoint => exact unescape?_escapeCodePoint c cs
  | itself noMark =>
    rw [not_or] at noMark
    rw [List.singleton_append, unescape?, if_neg noMark.2, if_neg noMark.1]

end

theorem unquote?_quoted (t : Text) : unquote? (quoted t) = some t := by
  rw [quoted, List.cons_append, unquote?]
  induction t with
  | nil => rfl
  | cons c t ih => rw [List.flatMap_cons, List.append_assoc, unescape?_escape, ih, Option.map_some]

end HclLexis.Text

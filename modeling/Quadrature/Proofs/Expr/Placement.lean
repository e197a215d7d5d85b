/-
# Quadrature.Proofs.Expr.Placement -- where the words of a text stand

The words of a text stand one behind another, each at its offset, and all of them before the end. So
an offset splits the words into those that start before it and those that do not.

* `Token.tokenize_split`: a text that is made of words is spelled by pieces;
* `Tokens.pairwise`, `Tokens.lt_finish`, `Tokens.text_at`: offsets grow, stay before the end and
  tell where the words stand;
* `Tokens.before_eq`: where words are split, the offset of the first of the rest splits them.
-/
import Quadrature.Proofs.Caret.Words

namespace Quadrature

set_option autoImplicit false

open Quadrature.Text
open Quadrature.Piece (spell place)

namespace Piece

variable {n : Nat} {ps : List Piece} {t : Token}

/-- A word stands at its offset. -/
theorem exists_of_mem_place (member : t ∈ place n ps) : ∃ us vs,
    spell ps = us ++ (t.lexeme.text.toList ++ vs) ∧ t.position = n + us.length := by
  obtain ⟨us, vs, split⟩ := List.append_of_mem member
  obtain ⟨qs, rs, rfl, -, rest⟩ := place_eq_append split
  obtain ⟨q, rs, rfl, rfl, -⟩ := place_eq_cons rest
  refine ⟨spell qs ++ q.gap, spell rs, by simp [spell], ?_⟩
  simp only [List.length_append, Nat.add_assoc]

theorem le_position (member : t ∈ place n ps) : n ≤ t.position := by
  obtain ⟨us, vs, -, position⟩ := exists_of_mem_place member
  omega

/-- A word has a character. -/
theorem text_ne_nil (member : t ∈ place n ps) : t.lexeme.text.toList ≠ [] := by
  obtain ⟨us, vs, split⟩ := List.append_of_mem member
  obtain ⟨qs, rs, rfl, -, rest⟩ := place_eq_append split
  obtain ⟨q, rs, rfl, rfl, -⟩ := place_eq_cons rest
  obtain ⟨c, s, text, -⟩ := q.fits.head
  simp [text]

/-- Each word starts behind the one before it. -/
theorem pairwise_place (n : Nat) (ps : List Piece) :
    (place n ps).Pairwise fun t u => t.position < u.position := by
  induction ps generalizing n with
  | nil => exact .nil
  | cons p ps ih =>
      refine List.pairwise_cons.2 ⟨fun u member => ?_, ih _⟩
      have first : (⟨p.word, n + p.gap.length⟩ : Token) ∈ place n (p :: ps) := by simp [place]
      have behind := le_position member
      have some := List.length_pos_of_ne_nil (text_ne_nil first)
      dsimp only at some ⊢
      omega

end Piece

/-- A text that is made of words is spelled by pieces. -/
theorem Token.tokenize_split {text : List Char} {tokens : Tokens}
    (tokenized : tokenize text = .ok tokens) : ∃ ps tail, text = spell ps ++ tail ∧
      (∀ c ∈ tail, isBlank c = true) ∧ tokens = ⟨place 0 ps, text.length⟩ := by
  cases scanned : scan 0 text with
  | error fault => simp [tokenize, scanned, Except.map] at tokenized
  | ok ts =>
      obtain ⟨ps, tail, same, blank, rfl⟩ := scan_split scanned
      obtain rfl : (⟨place 0 ps, text.length⟩ : Tokens) = tokens := by
        simpa [tokenize, scanned, Except.map] using tokenized
      exact ⟨ps, tail, same, blank, rfl⟩

namespace Tokens

variable {text : List Char} {tokens : Tokens}

/-- The words that start before an offset. -/
def before (tokens : Tokens) (p : Nat) : List Token := tokens.words.filter (·.position < p)

/-- The offset of the first of some words, or of the end if there is none. -/
def offset (tokens : Tokens) (rest : List Token) : Nat :=
  rest.head?.elim tokens.finish Token.position

section

variable (tokenized : Token.tokenize text = .ok tokens)
include tokenized

/-- Offsets grow along the words. -/
theorem pairwise : tokens.words.Pairwise fun t u => t.position < u.position := by
  obtain ⟨ps, tail, -, -, rfl⟩ := Token.tokenize_split tokenized
  exact Piece.pairwise_place 0 ps

theorem lt_finish : ∀ t ∈ tokens.words, t.position < tokens.finish := by
  intro t member
  obtain ⟨ps, tail, same, -, rfl⟩ := Token.tokenize_split tokenized
  obtain ⟨us, vs, spelled, position⟩ := Piece.exists_of_mem_place member
  have some := List.length_pos_of_ne_nil (Piece.text_ne_nil member)
  rw [same, spelled]
  simp only [List.length_append]
  omega

/-- The text goes on with a word at the offset of the word. -/
theorem text_at : ∀ t ∈ tokens.words, t.lexeme.text.toList <+: text.drop t.position := by
  intro t member
  obtain ⟨ps, tail, same, -, rfl⟩ := Token.tokenize_split tokenized
  obtain ⟨us, vs, spelled, position⟩ := Piece.exists_of_mem_place member
  refine ⟨vs ++ tail, ?_⟩
  rw [same, spelled, position, Nat.zero_add, List.append_assoc, List.drop_left, List.append_assoc]

/-- The offset of the first of the rest splits the words there. -/
theorem before_eq {us vs : List Token} (words : tokens.words = us ++ vs) :
    tokens.before (tokens.offset vs) = us := by
  have grows := pairwise tokenized
  have ends := lt_finish tokenized
  unfold before
  rw [words] at grows ends ⊢
  obtain ⟨-, later, across⟩ := List.pairwise_append.1 grows
  have first : ∀ t ∈ us, t.position < tokens.offset vs := by
    intro t member
    cases vs with
    | nil => exact ends t (by simp [member])
    | cons v vs => exact across t member v (by simp)
  have rest : ∀ t ∈ vs, ¬ t.position < tokens.offset vs := by
    intro t member
    cases vs with
    | nil => simp at member
    | cons v vs =>
        show ¬ t.position < v.position
        rcases List.mem_cons.1 member with rfl | member
        · omega
        · have behind := (List.pairwise_cons.1 later).1 t member
          omega
  rw [List.filter_append, List.filter_eq_self.2 (by simpa using first),
    List.filter_eq_nil_iff.2 (by simpa using rest), List.append_nil]

end

end Tokens

end Quadrature

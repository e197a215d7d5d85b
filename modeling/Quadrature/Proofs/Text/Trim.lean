/-
# Quadrature.Proofs.Text.Trim -- runs of characters at the ends of a text

A run of characters of one class ends where a character of another class stands, and trimming takes
such a run from each end of a text.

* `takeWhile_append_stop`, `dropWhile_append_stop`: a run and what is behind it;
* `trimBy_split`: a text is what trimming leaves, between characters of the class;
* `trimBy_of_ends`: a text whose ends stay is left as it is;
* `trimBy_append_left`, `trimBy_append_right`: characters of the class around a text do not matter;
* `trimBy_append_cons`: a character that stays keeps the ends of a text apart.
-/
import Quadrature.Text.Blank

namespace Quadrature.Text

set_option autoImplicit false

variable {p : Char → Bool} {g s h r : List Char}

theorem takeWhile_append_stop (all : ∀ c ∈ s, p c = true) (stop : ∀ c ∈ r.head?, p c = false) :
    (s ++ r).takeWhile p = s := by
  rw [List.takeWhile_append_of_pos all]
  cases r with
  | nil => simp
  | cons c r => simp [stop c (by simp)]

theorem dropWhile_append_stop (all : ∀ c ∈ s, p c = true) (stop : ∀ c ∈ r.head?, p c = false) :
    (s ++ r).dropWhile p = r := by
  rw [List.dropWhile_append_of_pos all]
  cases r with
  | nil => rfl
  | cons c r => rw [List.dropWhile_cons, stop c (by simp), if_neg (by simp)]

theorem dropWhile_eq_self (first : ∀ c ∈ s.head?, p c = false) : s.dropWhile p = s :=
  dropWhile_append_stop (s := []) (by simp) first

/-- A text whose ends stay is left as it is. -/
theorem trimBy_of_ends (first : ∀ c ∈ s.head?, p c = false)
    (last : ∀ c ∈ s.getLast?, p c = false) : trimBy p s = s := by
  rw [trimBy, dropWhile_eq_self first, dropWhile_eq_self (by simpa using last),
    List.reverse_reverse]

theorem trimBy_eq_self (none : ∀ c ∈ s, p c = false) : trimBy p s = s :=
  trimBy_of_ends (fun c first => none c (List.mem_of_mem_head? first))
    fun c last => none c (List.mem_of_mem_getLast? last)

/-- A text is what trimming leaves, between characters of the class. -/
theorem trimBy_split (p : Char → Bool) (s : List Char) : ∃ g h, s = g ++ (trimBy p s ++ h) ∧
    (∀ c ∈ g, p c = true) ∧ (∀ c ∈ h, p c = true) := by
  refine ⟨s.takeWhile p, ((s.dropWhile p).reverse.takeWhile p).reverse, ?_,
    fun c member => List.all_eq_true.1 List.all_takeWhile c member,
    fun c member => List.all_eq_true.1 List.all_takeWhile c (List.mem_reverse.1 member)⟩
  unfold trimBy
  rw [← List.reverse_append, List.takeWhile_append_dropWhile, List.reverse_reverse,
    List.takeWhile_append_dropWhile]

/-- Only characters of the class go. -/
theorem mem_trimBy {c : Char} (kept : p c = false) (member : c ∈ s) : c ∈ trimBy p s := by
  obtain ⟨g, h, split, before, after⟩ := trimBy_split p s
  rw [split, List.mem_append, List.mem_append] at member
  rcases member with first | inside | last
  · simp [before c first] at kept
  · exact inside
  · simp [after c last] at kept

theorem trimBy_append_left (before : ∀ c ∈ g, p c = true) : trimBy p (g ++ s) = trimBy p s := by
  rw [trimBy, List.dropWhile_append_of_pos before, trimBy]

theorem trimBy_append_right (after : ∀ c ∈ h, p c = true) : trimBy p (s ++ h) = trimBy p s := by
  have all : ∀ c ∈ h.reverse, p c = true := fun c member => after c (List.mem_reverse.1 member)
  have gone : h.dropWhile p = [] := by
    simpa using dropWhile_append_stop (r := []) after (by simp)
  unfold trimBy
  rw [List.dropWhile_append]
  split
  · next none => rw [gone, List.isEmpty_iff.1 none]
  · rw [List.reverse_append, List.dropWhile_append_of_pos all]

/-- Around a character that stays, the ends of a text are trimmed each for itself. -/
theorem trimBy_append_cons {c : Char} (kept : p c = false) (l r : List Char) :
    trimBy p (l ++ c :: r) = l.dropWhile p ++ c :: (r.reverse.dropWhile p).reverse := by
  have side (l r : List Char) : (l ++ c :: r).dropWhile p = l.dropWhile p ++ c :: r := by
    rw [List.dropWhile_append]
    split
    · next none => rw [List.isEmpty_iff.1 none, List.dropWhile_cons, kept, if_neg (by simp),
        List.nil_append]
    · rfl
  have mirrored : (l.dropWhile p ++ c :: r).reverse = r.reverse ++ c :: (l.dropWhile p).reverse := by
    simp
  rw [trimBy, side, mirrored, side]
  simp

end Quadrature.Text

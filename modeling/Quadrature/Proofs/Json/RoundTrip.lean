/-
# Quadrature.Proofs.Json.RoundTrip -- what was written as JSON is read back

Writing loses only what JSON cannot say: infinities, broken texts and repeated fields. A value without
them is `Portable`, and its text is read as the same value. A double is the one that its decimal text
gives, so it is the same bit for bit.

* `exists_value_write`: a value in front of what ends it;
* `read_write`: a whole text.
-/
import Quadrature.Proofs.Json.Words
import Quadrature.Proofs.Number.Shortest

namespace Quadrature.Json

set_option autoImplicit false

open Quadrature.Text
open Quadrature.Number

mutual

/-- The value has a JSON text that says what it is. -/
def Portable : Value → Prop
  | .null | .bool _ => True
  | .int n => n.natAbs < Nat.pow 10 Whole.maxDigits
  | .float x => x.isFinite = true
  | .text t => ∃ s, t = .string s
  | .list vs => PortableItems vs
  | .record fs => PortableFields fs

/-- All items are portable. -/
def PortableItems : List Value → Prop
  | [] => True
  | v :: vs => Portable v ∧ PortableItems vs

/-- All fields are portable, and each has a name of its own. -/
def PortableFields : Fields → Prop
  | [] => True
  | (k, v) :: fs => (∃ s, k = .string s) ∧ (∀ f ∈ fs, f.1 ≠ k) ∧ Portable v ∧ PortableFields fs

end

theorem portableFields_of {fs : Fields} (distinct : (fs.map (·.1)).Nodup)
    (all : ∀ f ∈ fs, (∃ s, f.1 = .string s) ∧ Portable f.2) : PortableFields fs := by
  induction fs with
  | nil => trivial
  | cons f fs ih =>
      obtain ⟨k, v⟩ := f
      obtain ⟨other, distinct⟩ := List.nodup_cons.1 distinct
      obtain ⟨name, portable⟩ := all (k, v) (by simp)
      refine ⟨name, ?_, portable, ih distinct fun g member => all g (List.mem_cons_of_mem _ member)⟩
      intro g member same
      exact other (List.mem_map.2 ⟨g, member, same⟩)

/-! ## Gaps -/

theorem skipGap_of_ink {c : Char} (ink : isGap c = false) (offset : Nat) (s : List Char) :
    skipGap offset (c :: s) = (offset, c :: s) := by
  rw [skipGap, ink, if_neg (by decide)]

theorem skipGap_blank (offset : Nat) {c : Char} (ink : isGap c = false) (s : List Char) :
    skipGap offset (' ' :: c :: s) = (offset + 1, c :: s) := by
  rw [skipGap, if_pos (by decide), skipGap_of_ink ink]

/-- What the text of a value can begin with. -/
def Opens (c : Char) : Prop := isGap c = false ∧ c ≠ '\ufeff' ∧ c ≠ ']'

theorem opens_of_digit {c : Char} (digit : c.isDigit = true) : Opens c := by
  refine ⟨?_, ?_, ?_⟩
  · apply Bool.eq_false_iff.2
    intro gap
    simp only [isGap, Bool.or_eq_true, beq_iff_eq] at gap
    rcases gap with ((rfl | rfl) | rfl) | rfl <;> exact absurd digit (by decide)
  all_goals
    rintro rfl
    exact absurd digit (by decide)

theorem exists_head_text (t : NumberText) : ∃ c cs, t.text = c :: cs ∧ Opens c ∧ c ≠ '"' ∧ c ≠ '[' ∧
    c ≠ '\x7b' := by
  obtain ⟨c, cs, whole, digit⟩ := t.exists_whole
  unfold NumberText.text NumberText.signText
  cases t.negative with
  | true => exact ⟨'-', _, rfl, ⟨by decide, by decide, by decide⟩, by decide, by decide, by decide⟩
  | false =>
      refine ⟨c, _, by rw [whole]; rfl, opens_of_digit digit, ?_, ?_, ?_⟩ <;>
      · rintro rfl
        exact absurd digit (by decide)

/-- The text of a value begins with ink. -/
theorem exists_head_write {v : Value} (portable : Portable v) :
    ∃ c cs, write v = c :: cs ∧ Opens c := by
  cases v with
  | null => exact ⟨'n', _, rfl, by decide, by decide, by decide⟩
  | bool b => cases b <;> exact ⟨_, _, rfl, by decide, by decide, by decide⟩
  | int n =>
      obtain ⟨c, cs, text, opens, -⟩ := exists_head_text (.ofWhole n)
      exact ⟨c, cs, by rw [write, ← text, NumberText.text_ofWhole], opens⟩
  | float x =>
      have finite : x.isFinite = true := portable
      obtain ⟨t, -, written, -⟩ := exists_numberText_floatChars finite
      obtain ⟨c, cs, text, opens, -⟩ := exists_head_text t
      refine ⟨c, cs, ?_, opens⟩
      rw [write, writeFloat, isNaN_of_isFinite finite, isInf_of_isFinite finite, ← text, written]
      rfl
  | text t => exact ⟨'"', _, rfl, by decide, by decide, by decide⟩
  | list vs => exact ⟨'[', _, rfl, by decide, by decide, by decide⟩
  | record fs => exact ⟨'\x7b', _, rfl, by decide, by decide, by decide⟩

theorem writeItems_cons (v w : Value) (vs : List Value) :
    writeItems (v :: w :: vs) = write v ++ ',' :: ' ' :: writeItems (w :: vs) := by
  rw [writeItems]
  simp

theorem writeFields_cons (k : Points) (v : Value) (f : Points × Value) (fs : Fields) :
    writeFields ((k, v) :: f :: fs) =
      writeText k ++ ':' :: ' ' :: (write v ++ ',' :: ' ' :: writeFields (f :: fs)) := by
  rw [writeFields]
  simp

theorem exists_head_items (v : Value) (vs : List Value) (portable : Portable v) :
    ∃ c cs, writeItems (v :: vs) = c :: cs ∧ Opens c := by
  obtain ⟨c, cs, text, opens⟩ := exists_head_write portable
  cases vs with
  | nil => exact ⟨c, cs, by rw [writeItems, text], opens⟩
  | cons w vs => exact ⟨c, _, by rw [writeItems_cons, text, List.cons_append], opens⟩

theorem exists_head_fields (k : Points) (v : Value) (fs : Fields) :
    ∃ cs, writeFields ((k, v) :: fs) = '"' :: cs := by
  cases fs with
  | nil => exact ⟨_, rfl⟩
  | cons f fs => exact ⟨_, by rw [writeFields_cons, writeText, List.cons_append, List.cons_append]⟩

/-! ## Values -/

theorem value_eq_wordOrNumber {c : Char} (quote : c ≠ '"') (list : c ≠ '[') (record : c ≠ '\x7b')
    (fuel offset : Nat) (s : List Char) :
    value (fuel + 1) offset (c :: s) = wordOrNumber offset (c :: s) := by
  rw [value]
  all_goals simp [quote, list, record]

theorem value_number (t : NumberText) (r : List Char) (fuel offset : Nat) :
    value (fuel + 1) offset (t.text ++ r) = number offset (t.text ++ r) := by
  obtain ⟨c, cs, text, -, quote, list, record⟩ := exists_head_text t
  have ordinary := value_eq_wordOrNumber quote list record fuel offset (cs ++ r)
  rw [← List.cons_append, ← text] at ordinary
  rw [ordinary, wordOrNumber_eq]

/-- A whole number is read back. -/
theorem value_int {n : Int} (short : n.natAbs < Nat.pow 10 Whole.maxDigits) {r : List Char}
    (ends : Ends r) (fuel offset : Nat) :
    value (fuel + 1) offset (write (.int n) ++ r) =
      .ok (.int n, offset + (write (.int n)).length, r) := by
  have text : (NumberText.ofWhole n).text = write (.int n) := by
    rw [NumberText.text_ofWhole, write]
  have back : Whole.read (write (.int n)) = .ok n := by
    rw [write]
    exact Whole.read_write short
  rw [← text, value_number, number_eq _ ends, if_pos (by rfl), text, back]

/-- A double is read back from its decimal text. -/
theorem value_float {x : Float} (finite : x.isFinite = true) {r : List Char} (ends : Ends r)
    (fuel offset : Nat) : value (fuel + 1) offset (write (.float x) ++ r) =
      .ok (.float x, offset + (write (.float x)).length, r) := by
  obtain ⟨t, pointed, text, -⟩ := exists_numberText_floatChars finite
  have written : write (.float x) = t.text := by
    rw [write, writeFloat, isNaN_of_isFinite finite, isInf_of_isFinite finite, text]
    rfl
  have some : ¬ t.fractionText.length + t.exponentText.length = 0 := by
    intro none
    apply pointed
    constructor
    · by_contra fraction
      simp [NumberText.fractionText, fraction] at none
    · cases exponent : t.exponent with
      | none => rfl
      | some e => simp [NumberText.exponentText, exponent] at none
  have back : Numeral.read? t.text = Option.some x := by
    rw [text]
    exact read?_floatChars finite
  rw [written, value_number, number_eq t ends, if_neg some, back, Option.getD_some]

theorem ends_comma (r : List Char) : Ends (',' :: r) := by simp [Ends]

theorem ends_bracket (r : List Char) : Ends (']' :: r) := by simp [Ends]

theorem ends_brace (r : List Char) : Ends ('\x7d' :: r) := by simp [Ends]

theorem Ends.skipGap {r : List Char} (ends : Ends r) (offset : Nat) :
    skipGap offset r = (offset, r) := by
  cases r with
  | nil => rfl
  | cons c r =>
      apply skipGap_of_ink
      rcases ends c (by simp) with rfl | rfl | rfl <;> decide

/-- A name with its colon, in front of a value. -/
theorem exists_fieldName (s : String) {c : Char} (ink : isGap c = false) (offset : Nat)
    (r : List Char) : ∃ o, fieldName offset (writeText (.string s) ++ ':' :: ' ' :: c :: r) =
      .ok (.string s, o, c :: r) := by
  obtain ⟨o, read⟩ := exists_string offset s (':' :: ' ' :: c :: r)
  refine ⟨o + 1 + 1, ?_⟩
  rw [writeText, List.cons_append, List.cons_append, List.append_assoc, List.cons_append,
    List.nil_append, fieldName, read]
  dsimp only
  rw [skipGap_of_ink (by decide)]
  show Except.ok (Points.string s, skipGap (o + 1) (' ' :: c :: r)) = _
  rw [skipGap_blank _ ink]

theorem put_eq_append {done : Fields} {k : Points} (fresh : ∀ f ∈ done, f.1 ≠ k) (v : Value) :
    Value.put done k v = done ++ [(k, v)] := by
  induction done with
  | nil => rfl
  | cons f done ih =>
      rw [Value.put, if_neg (fresh f (by simp)),
        ih fun g member => fresh g (List.mem_cons_of_mem _ member), List.cons_append]

/-- A list that does not close at once is read by its items. -/
theorem value_list {c : Char} (ink : isGap c = false) (other : c ≠ ']') (fuel offset : Nat)
    (s : List Char) : value (fuel + 1) offset ('[' :: c :: s) =
      (items fuel (offset + 1) (c :: s)).map fun (vs, rest) => (.list vs, rest) := by
  rw [value, skipGap_of_ink ink]
  split
  · simp_all
  · simp_all

/-- A record that does not close at once is read by its fields. -/
theorem value_record {c : Char} (ink : isGap c = false) (other : c ≠ '\x7d') (fuel offset : Nat)
    (s : List Char) : value (fuel + 1) offset ('\x7b' :: c :: s) =
      (fields fuel (offset + 1) (c :: s) []).map fun (fs, rest) => (.record fs, rest) := by
  rw [value, skipGap_of_ink ink]
  split
  · simp_all
  · simp_all

/-- After an item there is the closing bracket. -/
theorem items_last {v : Value} {o fuel offset : Nat} {s r : List Char}
    (read : value fuel offset s = .ok (v, o, ']' :: r)) :
    items (fuel + 1) offset s = .ok ([v], o + 1, r) := by
  rw [items, read]
  dsimp only
  rw [skipGap_of_ink (by decide)]
  rfl

/-- After an item there is a comma and another item. -/
theorem items_more {v : Value} {o fuel offset : Nat} {c : Char} {s r : List Char}
    (ink : isGap c = false) (read : value fuel offset s = .ok (v, o, ',' :: ' ' :: c :: r)) :
    items (fuel + 1) offset s =
      (items fuel (o + 1 + 1) (c :: r)).map fun (vs, rest) => (v :: vs, rest) := by
  rw [items, read]
  dsimp only
  rw [skipGap_of_ink (by decide)]
  show (items fuel (skipGap (o + 1) (' ' :: c :: r)).1 (skipGap (o + 1) (' ' :: c :: r)).2).map _ = _
  rw [skipGap_blank _ ink]

/-- After a field there is the closing brace. -/
theorem fields_last {k : Points} {v : Value} {o o' fuel offset : Nat} {s t r : List Char}
    {done : Fields} (name : fieldName offset s = .ok (k, o, t))
    (read : value fuel o t = .ok (v, o', '\x7d' :: r)) :
    fields (fuel + 1) offset s done = .ok (Value.put done k v, o' + 1, r) := by
  rw [fields, name]
  dsimp only
  rw [read]
  dsimp only
  rw [skipGap_of_ink (by decide)]
  rfl

/-- After a field there is a comma and another field. -/
theorem fields_more {k : Points} {v : Value} {o o' fuel offset : Nat} {c : Char}
    {s t r : List Char} {done : Fields} (ink : isGap c = false)
    (name : fieldName offset s = .ok (k, o, t))
    (read : value fuel o t = .ok (v, o', ',' :: ' ' :: c :: r)) :
    fields (fuel + 1) offset s done =
      fields fuel (o' + 1 + 1) (c :: r) (Value.put done k v) := by
  rw [fields, name]
  dsimp only
  rw [read]
  dsimp only
  rw [skipGap_of_ink (by decide)]
  show fields fuel (skipGap (o' + 1) (' ' :: c :: r)).1 (skipGap (o' + 1) (' ' :: c :: r)).2 _ = _
  rw [skipGap_blank _ ink]

mutual

/-- **A portable value is read back**, from its text in front of what ends it. -/
theorem exists_value_write : ∀ (v : Value) (fuel offset : Nat) {r : List Char},
    Portable v → (write v).length ≤ fuel → Ends r →
    ∃ o, value fuel offset (write v ++ r) = .ok (v, o, r)
  | v, 0, offset, r, portable, enough, ends => by
      obtain ⟨c, cs, text, -⟩ := exists_head_write portable
      simp [text] at enough
  | .null, fuel + 1, offset, r, _, _, _ => ⟨offset + 4, by
      show value (fuel + 1) offset ('n' :: _) = _
      rw [value_eq_wordOrNumber (by decide) (by decide) (by decide)]
      rfl⟩
  | .bool true, fuel + 1, offset, r, _, _, _ => ⟨offset + 4, by
      show value (fuel + 1) offset ('t' :: _) = _
      rw [value_eq_wordOrNumber (by decide) (by decide) (by decide)]
      rfl⟩
  | .bool false, fuel + 1, offset, r, _, _, _ => ⟨offset + 5, by
      show value (fuel + 1) offset ('f' :: _) = _
      rw [value_eq_wordOrNumber (by decide) (by decide) (by decide)]
      rfl⟩
  | .int n, fuel + 1, offset, r, portable, _, ends => ⟨_, value_int portable ends fuel offset⟩
  | .float x, fuel + 1, offset, r, portable, _, ends => ⟨_, value_float portable ends fuel offset⟩
  | .text t, fuel + 1, offset, r, portable, _, _ => by
      obtain ⟨s, rfl⟩ := portable
      obtain ⟨o, read⟩ := exists_string offset s r
      refine ⟨o, ?_⟩
      rw [write, writeText, List.cons_append, List.cons_append, List.append_assoc, List.cons_append,
        List.nil_append, value, read]
      · rfl
      · simp
  | .list [], fuel + 1, offset, r, _, _, _ => ⟨offset + 1 + 1, rfl⟩
  | .list (v :: vs), fuel + 1, offset, r, portable, enough, _ => by
      obtain ⟨c, cs, text, ink, -, other⟩ := exists_head_items v vs portable.1
      obtain ⟨o, read⟩ := exists_items_write v vs fuel (offset + 1) (r := r) portable
        (by simp [write] at enough; omega)
      refine ⟨o, ?_⟩
      rw [write, List.cons_append, List.cons_append, List.append_assoc, List.cons_append,
        List.nil_append, text, List.cons_append, value_list ink other, ← List.cons_append, ← text,
        read]
      rfl
  | .record [], fuel + 1, offset, r, _, _, _ => ⟨offset + 1 + 1, rfl⟩
  | .record ((k, v) :: fs), fuel + 1, offset, r, portable, enough, _ => by
      obtain ⟨cs, text⟩ := exists_head_fields k v fs
      obtain ⟨o, read⟩ := exists_fields_write k v fs fuel (offset + 1) (r := r) [] portable
        (by simp [write] at enough; omega) (by simp)
      refine ⟨o, ?_⟩
      rw [write, List.cons_append, List.cons_append, List.append_assoc, List.cons_append,
        List.nil_append, text, List.cons_append, value_record (by decide) (by decide),
        ← List.cons_append, ← text, read]
      rfl

/-- Items are read back up to the closing bracket. -/
theorem exists_items_write : ∀ (v : Value) (vs : List Value) (fuel offset : Nat)
    {r : List Char}, PortableItems (v :: vs) → (writeItems (v :: vs)).length < fuel →
    ∃ o, items fuel offset (writeItems (v :: vs) ++ ']' :: r) = .ok (v :: vs, o, r)
  | v, vs, 0, offset, r, _, enough => by simp at enough
  | v, [], fuel + 1, offset, r, portable, enough => by
      obtain ⟨o, read⟩ := exists_value_write v fuel offset (r := ']' :: r) portable.1
        (by simp [writeItems] at enough; omega) (ends_bracket r)
      exact ⟨o + 1, items_last read⟩
  | v, w :: vs, fuel + 1, offset, r, portable, enough => by
      obtain ⟨c, cs, text, ink, -⟩ := exists_head_items w vs portable.2.1
      simp only [writeItems_cons, List.length_append, List.length_cons] at enough
      obtain ⟨o, read⟩ := exists_value_write v fuel offset
        (r := ',' :: ' ' :: (writeItems (w :: vs) ++ ']' :: r)) portable.1 (by omega) (ends_comma _)
      obtain ⟨o', rest⟩ := exists_items_write w vs fuel (o + 1 + 1) (r := r) portable.2
        (by omega)
      refine ⟨o', ?_⟩
      rw [text, List.cons_append] at read rest
      rw [writeItems_cons, List.append_assoc, List.cons_append, List.cons_append, text,
        List.cons_append, items_more ink read, rest]
      rfl

/-- Fields are read back up to the closing brace, behind those already read. -/
theorem exists_fields_write : ∀ (k : Points) (v : Value) (fs : Fields) (fuel offset : Nat)
    {r : List Char} (done : Fields), PortableFields ((k, v) :: fs) →
    (writeFields ((k, v) :: fs)).length < fuel →
    (∀ f ∈ done, ∀ g ∈ (k, v) :: fs, f.1 ≠ g.1) →
    ∃ o, fields fuel offset (writeFields ((k, v) :: fs) ++ '\x7d' :: r) done =
      .ok (done ++ (k, v) :: fs, o, r)
  | k, v, fs, 0, offset, r, done, _, enough, _ => by simp at enough
  | k, v, [], fuel + 1, offset, r, done, portable, enough, fresh => by
      obtain ⟨⟨s, rfl⟩, -, portable, -⟩ := portable
      obtain ⟨c, cs, text, ink, -⟩ := exists_head_write portable
      simp only [writeFields, List.length_append, List.length_cons] at enough
      obtain ⟨o, name⟩ := exists_fieldName s ink offset (cs ++ '\x7d' :: r)
      obtain ⟨o', read⟩ := exists_value_write v fuel o (r := '\x7d' :: r) portable
        (by omega) (ends_brace r)
      refine ⟨o' + 1, ?_⟩
      rw [← List.cons_append, ← text] at name
      rw [writeFields, List.append_assoc, List.cons_append, List.cons_append,
        fields_last name read,
        put_eq_append fun f member => fresh f member (.string s, v) (by simp)]
  | k, v, (k', v') :: fs, fuel + 1, offset, r, done, portable, enough, fresh => by
      obtain ⟨⟨s, rfl⟩, apart, portable, later⟩ := portable
      obtain ⟨c, cs, text, ink, -⟩ := exists_head_write portable
      obtain ⟨ds, text'⟩ := exists_head_fields k' v' fs
      simp only [writeFields_cons, List.length_append, List.length_cons] at enough
      obtain ⟨o, name⟩ := exists_fieldName s ink offset
        (cs ++ ',' :: ' ' :: (writeFields ((k', v') :: fs) ++ '\x7d' :: r))
      obtain ⟨o', read⟩ := exists_value_write v fuel o
        (r := ',' :: ' ' :: (writeFields ((k', v') :: fs) ++ '\x7d' :: r)) portable (by omega)
        (ends_comma _)
      have put := put_eq_append (fun f member => fresh f member (.string s, v) (by simp)) v
      obtain ⟨o'', rest⟩ := exists_fields_write k' v' fs fuel (o' + 1 + 1) (r := r)
        (done ++ [(.string s, v)]) later (by omega) (by
          intro f member g here
          rcases List.mem_append.1 member with old | new
          · exact fresh f old g (List.mem_cons_of_mem _ here)
          · obtain rfl := List.mem_singleton.1 new
            exact (apart g here).symm)
      refine ⟨o'', ?_⟩
      rw [← List.cons_append, ← text] at name
      rw [text', List.cons_append] at name read rest
      rw [writeFields_cons, List.append_assoc, List.cons_append, List.cons_append, List.append_assoc,
        List.cons_append, List.cons_append, text', List.cons_append,
        fields_more (by decide) name read, put, rest, List.append_assoc]
      rfl

end

/-- **A portable value is read back as it is**, its doubles bit for bit. -/
theorem read_write {v : Value} (portable : Portable v) : read (write v) = .ok v := by
  obtain ⟨c, cs, text, ink, mark, -⟩ := exists_head_write portable
  obtain ⟨o, back⟩ := exists_value_write v (2 * (write v).length + 1) 0 (r := []) portable
    (by omega) ends_nil
  rw [List.append_nil] at back
  have skipped : skipGap 0 (write v) = (0, write v) := by
    rw [text, skipGap_of_ink ink]
  have whole : readPart (write v) = .ok v := by
    have plain : (write v).head? ≠ some '\ufeff' := by
      rw [text]
      simpa using mark
    unfold readPart
    rw [if_neg plain, skipped]
    dsimp only
    rw [back]
    rfl
  rw [read, whole]

/-! ## One line -/

/-- The character is no control character. -/
def Visible (c : Char) : Prop := 0x20 ≤ c.toNat

instance : DecidablePred Visible := fun c => inferInstanceAs (Decidable (0x20 ≤ c.toNat))

/-- Characters that are visible one by one. -/
theorem visible_of_all {s : List Char} (all : s.all (fun c => decide (Visible c)) = true) :
    ∀ c ∈ s, Visible c :=
  fun c member => of_decide_eq_true (List.all_eq_true.1 all c member)

theorem visible_of_digit {c : Char} (digit : c.isDigit = true) : Visible c := by
  have range := toNat_of_isDigit digit
  unfold Visible
  omega

theorem visible_numberText (t : NumberText) : ∀ c ∈ t.text, Visible c := by
  have fixed : ∀ c ∈ ['-', '+', '.', 'e'], Visible c := visible_of_all rfl
  intro c member
  exact (NumberText.mem_text member).elim visible_of_digit (fixed c)

theorem visible_unitEscape (n : Nat) : ∀ c ∈ unitEscape n, Visible c := by
  have digits : ∀ d < 16, Visible (Nat.digitChar d) := by decide
  intro c member
  rw [unitEscape, hexDigits_four] at member
  simp only [List.mem_cons, List.not_mem_nil, or_false] at member
  rcases member with rfl | rfl | rfl | rfl | rfl | rfl
  · decide
  · decide
  all_goals exact digits _ (Nat.mod_lt _ (by decide))

theorem visible_writePoint (n : Nat) : ∀ c ∈ writePoint n, Visible c := by
  unfold writePoint
  iterate 7
    split
    · exact visible_of_all rfl
  split
  · rename_i visible
    intro c member
    obtain rfl := List.mem_singleton.1 member
    have value : (Char.ofNat n).toNat = n := by
      rw [Char.ofNat, dif_pos (.inl (by omega))]
      rfl
    unfold Visible
    omega
  split
  · exact visible_unitEscape n
  · intro c member
    rcases List.mem_append.1 member with high | low
    · exact visible_unitEscape _ c high
    · exact visible_unitEscape _ c low

theorem visible_writeText (t : Points) : ∀ c ∈ writeText t, Visible c := by
  have quote : Visible '"' := by decide
  intro c member
  simp only [writeText, List.cons_append, List.mem_cons, List.mem_append, List.mem_flatMap,
    List.not_mem_nil, or_false] at member
  rcases member with rfl | ⟨n, -, inside⟩ | rfl
  · exact quote
  · exact visible_writePoint n c inside
  · exact quote

theorem visible_between {s t u : List Char} (fixed : ∀ c ∈ u, Visible c)
    (left : ∀ c ∈ s, Visible c) (right : ∀ c ∈ t, Visible c) : ∀ c ∈ s ++ (u ++ t), Visible c := by
  intro c member
  rcases List.mem_append.1 member with h | h
  · exact left c h
  · rcases List.mem_append.1 h with h | h
    · exact fixed c h
    · exact right c h

mutual

/-- The text of a portable value is one line. -/
theorem visible_write : ∀ v : Value, Portable v → ∀ c ∈ write v, Visible c
  | .null, _ => visible_of_all (by decide +kernel)
  | .bool true, _ => visible_of_all (by decide +kernel)
  | .bool false, _ => visible_of_all (by decide +kernel)
  | .int n, _ => by
      rw [write, ← NumberText.text_ofWhole]
      exact visible_numberText _
  | .float x, portable => by
      have finite : x.isFinite = true := portable
      obtain ⟨t, -, text, -⟩ := exists_numberText_floatChars finite
      rw [write, writeFloat, isNaN_of_isFinite finite, isInf_of_isFinite finite, ← text]
      exact visible_numberText t
  | .text t, _ => visible_writeText t
  | .list vs, portable => by
      have inside := visible_between (s := ['[']) (u := []) (visible_of_all rfl) (visible_of_all rfl)
        (visible_writeItems vs portable)
      exact visible_between (t := [']']) (u := []) (visible_of_all rfl) inside (visible_of_all rfl)
  | .record fs, portable => by
      have inside := visible_between (s := ['\x7b']) (u := []) (visible_of_all rfl) (visible_of_all rfl)
        (visible_writeFields fs portable)
      exact visible_between (t := ['\x7d']) (u := []) (visible_of_all rfl) inside (visible_of_all rfl)

theorem visible_writeItems : ∀ vs : List Value, PortableItems vs → ∀ c ∈ writeItems vs, Visible c
  | [], _ => by simp [writeItems]
  | [v], portable => visible_write v portable.1
  | v :: w :: vs, portable => by
      rw [writeItems_cons]
      exact visible_between (u := [',', ' ']) (visible_of_all rfl) (visible_write v portable.1)
        (visible_writeItems (w :: vs) portable.2)

theorem visible_writeFields : ∀ fs : Fields, PortableFields fs → ∀ c ∈ writeFields fs, Visible c
  | [], _ => by simp [writeFields]
  | [(k, v)], portable =>
      visible_between (u := [':', ' ']) (visible_of_all rfl) (visible_writeText k) (visible_write v portable.2.2.1)
  | (k, v) :: f :: fs, portable => by
      rw [writeFields_cons]
      exact visible_between (u := [':', ' ']) (visible_of_all rfl) (visible_writeText k)
        (visible_between (u := [',', ' ']) (visible_of_all rfl) (visible_write v portable.2.2.1)
          (visible_writeFields (f :: fs) portable.2.2.2))

end

end Quadrature.Json

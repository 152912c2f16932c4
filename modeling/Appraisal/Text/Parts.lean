/-!
# Parts of texts

A text is cut at every occurrence of a separator; a text without one is a single part.  The parts
with the separator put between them again are the text (`intercalate_parts`), and no part holds the
separator (`not_mem_of_mem_parts`).
-/

namespace Appraisal.Text

/-- The parts of a text between its separators. -/
def parts (separator : Char) : List Char → List (List Char)
  | [] => [[]]
  | character :: rest =>
      if character = separator then [] :: parts separator rest
      else
        match parts separator rest with
        | [] => [[character]]
        | part :: others => (character :: part) :: others

theorem parts_ne_nil (separator : Char) (text : List Char) : parts separator text ≠ [] := by
  cases text with
  | nil => simp [parts]
  | cons character rest =>
      rw [parts]
      split
      · simp
      · split <;> simp

theorem intercalate_parts (separator : Char) (text : List Char) :
    [separator].intercalate (parts separator text) = text := by
  induction text with
  | nil => rfl
  | cons character rest induction =>
      have nonempty := parts_ne_nil separator rest
      rw [parts]
      split
      · rename_i same
        subst same
        cases found : parts character rest with
        | nil => contradiction
        | cons part others =>
            rw [found] at induction
            simp [List.intercalate_cons_cons, induction]
      · cases found : parts separator rest with
        | nil => contradiction
        | cons part others =>
            rw [found] at induction
            cases others with
            | nil => simpa using induction
            | cons second others =>
                simp only [List.intercalate_cons_cons] at induction ⊢
                simp [← induction]

theorem not_mem_of_mem_parts {separator : Char} {text part : List Char}
    (member : part ∈ parts separator text) : separator ∉ part := by
  induction text generalizing part with
  | nil => simp_all [parts]
  | cons character rest induction =>
      rw [parts] at member
      split at member
      · rcases List.mem_cons.mp member with rfl | member
        · simp
        · exact induction member
      · rename_i different
        split at member
        · simp_all [Ne.symm different]
        · rename_i first others found
          rcases List.mem_cons.mp member with rfl | member
          · have := induction (found ▸ List.mem_cons_self)
            simp [this, Ne.symm different]
          · exact induction (found ▸ List.mem_cons_of_mem first member)

/-- A part of its own, when no separator is in it. -/
theorem parts_of_not_mem {separator : Char} {part : List Char} (absent : separator ∉ part) :
    parts separator part = [part] := by
  induction part with
  | nil => rfl
  | cons character rest induction =>
      rw [List.mem_cons, not_or] at absent
      rw [parts, if_neg (Ne.symm absent.1), induction absent.2]

theorem parts_append_separator {separator : Char} {part : List Char} (absent : separator ∉ part)
    (text : List Char) :
    parts separator (part ++ separator :: text) = part :: parts separator text := by
  induction part with
  | nil => simp [parts]
  | cons character rest induction =>
      rw [List.mem_cons, not_or] at absent
      rw [List.cons_append, parts, if_neg (Ne.symm absent.1), induction absent.2]

/-- Parts without separators are found again. -/
theorem parts_intercalate {separator : Char} {texts : List (List Char)} (texts_ne : texts ≠ [])
    (absent : ∀ text ∈ texts, separator ∉ text) :
    parts separator ([separator].intercalate texts) = texts := by
  induction texts with
  | nil => contradiction
  | cons first others induction =>
      have first_absent := absent first List.mem_cons_self
      cases others with
      | nil => simpa using parts_of_not_mem first_absent
      | cons second rest =>
          rw [List.intercalate_cons_cons, List.append_assoc, List.singleton_append,
            parts_append_separator first_absent,
            induction (List.cons_ne_nil second rest) fun text member =>
              absent text (List.mem_cons_of_mem first member)]

/-- What is put together is found in the whole. -/
theorem infix_intercalate {separator part : List Char} {texts : List (List Char)}
    (member : part ∈ texts) : part <:+: separator.intercalate texts := by
  induction texts with
  | nil => contradiction
  | cons first others induction =>
      cases others with
      | nil =>
          rw [List.mem_singleton] at member
          simp only [member, List.intercalate_singleton, List.infix_refl]
      | cons second rest =>
          rw [List.intercalate_cons_cons]
          rcases List.mem_cons.mp member with rfl | member
          · rw [List.append_assoc]
            exact (List.prefix_append part _).isInfix
          · exact (induction member).trans (List.suffix_append _ _).isInfix

example : parts '.' ['a', '.', '.', 'b'] = [['a'], [], ['b']] := by decide

end Appraisal.Text

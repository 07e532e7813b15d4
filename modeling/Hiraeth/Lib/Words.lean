import Mathlib.Data.List.DropRight

/-!
# Words and blanks

Two ways to normalise the blanks of a sequence.  One splits it into words at any
blank and writes the words with one separator between; the other removes the
blanks at both ends and merges the runs of the separator that are left.  They
agree on a sequence that has no other blank inside, and only there.

## Main definitions

* `words`, `squeeze` — the words of a sequence, and the words joined again
* `strip`, `collapse` — the ends removed, and runs merged

## Main results

* `squeeze_eq_collapse` — where the two agree
* `mem_strip`, `mem_collapse` — what stripping and merging keep
-/

namespace Words

universe u v

variable {α : Type u} {β : Type v}

/-! ### The two normal forms -/

/-- The nonempty pieces between blanks. -/
def words [DecidableEq α] (blank : α → Bool) (l : List α) : List (List α) :=
  (l.splitOnP blank).filter (· ≠ [])

/-- The words with one separator between. -/
def squeeze [DecidableEq α] (blank : α → Bool) (separator : α) (l : List α) : List α :=
  [separator].intercalate (words blank l)

/-- The sequence without the blanks at its ends. -/
def strip (blank : α → Bool) (l : List α) : List α :=
  (l.rdropWhile blank).dropWhile blank

/-- Every run of the separator merged into one. -/
def collapse [DecidableEq α] (separator : α) : List α → List α
  | [] => []
  | [a] => [a]
  | a :: b :: l =>
      if a = separator ∧ b = separator then collapse separator (b :: l)
      else a :: collapse separator (b :: l)

/-! ### Words, element by element -/

section Squeeze

variable [DecidableEq α] {blank : α → Bool} {separator : α}

@[simp]
theorem words_nil : words blank [] = [] := by
  simp [words]

/-- A blank in front makes no word. -/
theorem words_blank {a : α} (isBlank : blank a = true) (l : List α) :
    words blank (a :: l) = words blank l := by
  simp [words, List.splitOnP_cons_eq_if_modifyHead, isBlank]

/-- Neither does a blank at the end. -/
theorem words_concat_blank {a : α} (isBlank : blank a = true) (l : List α) :
    words blank (l ++ [a]) = words blank l := by
  rw [words, List.splitOnP_append_cons l [] isBlank]
  simp [words]

/-- A word of one letter. -/
theorem words_letter_blank {a b : α} (letter : blank a = false) (isBlank : blank b = true)
    (l : List α) : words blank (a :: b :: l) = [a] :: words blank l := by
  simp [words, List.splitOnP_cons_eq_if_modifyHead, letter, isBlank]

/-- A letter belongs to the word that follows it. -/
theorem words_letter_letter {a b : α} (letter : blank a = false) (letter' : blank b = false)
    (l : List α) : ∃ word others, words blank (b :: l) = (b :: word) :: others ∧
      words blank (a :: b :: l) = (a :: b :: word) :: others := by
  cases pieces : l.splitOnP blank with
  | nil => exact absurd pieces (List.splitOnP_ne_nil blank l)
  | cons word others =>
      refine ⟨word, others.filter (· ≠ []), ?_, ?_⟩ <;>
        simp [words, List.splitOnP_cons_eq_if_modifyHead, letter, letter', pieces]

/-- A sequence without words is blank. -/
theorem blank_of_words_eq_nil {l : List α} (none : words blank l = []) :
    ∀ a ∈ l, blank a = true := by
  induction l with
  | nil => simp
  | cons a l inductionHypothesis =>
      cases letter : blank a with
      | true =>
          rw [words_blank letter] at none
          intro b member
          rcases List.mem_cons.mp member with rfl | later
          · exact letter
          · exact inductionHypothesis none b later
      | false =>
          -- a letter starts a word, whatever comes next
          cases l with
          | nil => simp [words, List.splitOnP_cons_eq_if_modifyHead, letter] at none
          | cons b l =>
              cases next : blank b with
              | true => simp [words_letter_blank letter next] at none
              | false =>
                  obtain ⟨word, others, -, equal⟩ := words_letter_letter letter next l
                  simp [equal] at none

/-- Blanks at the end are ignored. -/
theorem squeeze_rdropWhile (l : List α) :
    squeeze blank separator (l.rdropWhile blank) = squeeze blank separator l := by
  induction l using List.reverseRecOn with
  | nil => rfl
  | append_singleton l a inductionHypothesis =>
      cases isBlank : blank a with
      | true =>
          rw [List.rdropWhile_concat_pos blank l a isBlank, inductionHypothesis, squeeze, squeeze,
            words_concat_blank isBlank]
      | false => rw [List.rdropWhile_concat_neg blank l a (by simp [isBlank])]

/-- No blank but the separator is left between words. -/
theorem mem_squeeze {l : List α} {a : α} (member : a ∈ squeeze blank separator l) :
    a = separator ∨ (a ∈ l ∧ blank a = false) := by
  induction l with
  | nil => simp [squeeze] at member
  | cons b l inductionHypothesis =>
      cases letter : blank b with
      | true =>
          rw [squeeze, words_blank letter] at member
          exact (inductionHypothesis member).imp_right
            fun found => ⟨List.mem_cons_of_mem _ found.1, found.2⟩
      | false =>
          have single : ∀ c ∈ [b], c = separator ∨ (c ∈ b :: l ∧ blank c = false) := by
            intro c only
            obtain rfl := List.mem_singleton.mp only
            exact Or.inr ⟨List.mem_cons_self, letter⟩
          have later : a ∈ squeeze blank separator l →
              a = separator ∨ (a ∈ b :: l ∧ blank a = false) := fun rest =>
            (inductionHypothesis rest).imp_right
              fun found => ⟨List.mem_cons_of_mem _ found.1, found.2⟩
          cases l with
          | nil =>
              refine single a ?_
              simpa [squeeze, words, List.splitOnP_cons_eq_if_modifyHead, letter] using member
          | cons c l =>
              cases next : blank c with
              | true =>
                  rw [squeeze, words_letter_blank letter next] at member
                  rw [squeeze, words_blank next] at later
                  cases others : words blank l with
                  | nil =>
                      rw [others, List.intercalate_singleton] at member
                      exact single a member
                  | cons word rest =>
                      rw [others, List.intercalate_cons_cons] at member
                      rw [others] at later
                      simp only [List.cons_append, List.nil_append, List.mem_cons] at member
                      rcases member with rfl | rfl | rest
                      · exact Or.inr ⟨List.mem_cons_self, letter⟩
                      · exact Or.inl rfl
                      · exact later rest
              | false =>
                  obtain ⟨word, others, equal, equal'⟩ := words_letter_letter letter next l
                  rw [squeeze, equal', List.intercalate_cons_cons_left, ← equal] at member
                  rcases List.mem_cons.mp member with rfl | rest
                  · exact Or.inr ⟨List.mem_cons_self, letter⟩
                  · exact later rest

end Squeeze

/-! ### Stripping -/

section Strip

variable {blank : α → Bool}

/-- Only blanks are stripped. -/
theorem mem_strip {a : α} {l : List α} (letter : blank a = false) (member : a ∈ l) :
    a ∈ strip blank l := by
  have front : ∀ l : List α, a ∈ l → a ∈ l.dropWhile blank := by
    intro l member
    have split := List.takeWhile_append_dropWhile (p := blank) (l := l)
    rw [← split, List.mem_append] at member
    rcases member with dropped | kept
    · rw [List.mem_takeWhile_imp dropped] at letter
      cases letter
    · exact kept
  refine front _ ?_
  rw [List.rdropWhile, List.mem_reverse]
  exact front _ (List.mem_reverse.mpr member)

/-- Everything that is left was there. -/
theorem mem_of_mem_strip {a : α} {l : List α} (member : a ∈ strip blank l) : a ∈ l :=
  (List.rdropWhile_prefix blank l).mem ((List.dropWhile_sublist blank).mem member)

/-- What is dropped in front depends on the elements that are there. -/
theorem dropWhile_congr {p q : α → Bool} {l : List α} (same : ∀ a ∈ l, p a = q a) :
    l.dropWhile p = l.dropWhile q := by
  induction l with
  | nil => rfl
  | cons a l inductionHypothesis =>
      rw [List.dropWhile_cons, List.dropWhile_cons, same a List.mem_cons_self,
        inductionHypothesis fun b member => same b (List.mem_cons_of_mem _ member)]

/-- Stripping commutes with a renaming under which the blanks are the same. -/
theorem strip_map {f : α → β} {blank' : β → Bool} {l : List α}
    (same : ∀ a ∈ l, blank' (f a) = blank a) :
    strip blank' (l.map f) = (strip blank l).map f := by
  have ends : (l.map f).rdropWhile blank' = (l.rdropWhile blank).map f := by
    rw [List.rdropWhile, List.rdropWhile, ← List.map_reverse, List.dropWhile_map,
      ← List.map_reverse]
    congr 2
    apply dropWhile_congr
    intro a member
    exact same a (List.mem_reverse.mp member)
  rw [strip, ends, List.dropWhile_map, strip]
  congr 1
  apply dropWhile_congr
  intro a member
  exact same a ((List.rdropWhile_prefix blank l).mem member)

end Strip

/-! ### Runs -/

section Collapse

variable [DecidableEq α] {separator : α}

/-- Anything but the separator stands for itself. -/
theorem collapse_letter {a : α} (letter : a ≠ separator) (l : List α) :
    collapse separator (a :: l) = a :: collapse separator l := by
  cases l with
  | nil => rfl
  | cons b l => rw [collapse, if_neg fun both => letter both.1]

/-- A run that starts with the separator becomes a single one. -/
theorem collapse_separator (l : List α) :
    collapse separator (separator :: l) =
      separator :: collapse separator (l.dropWhile (· = separator)) := by
  induction l with
  | nil => rfl
  | cons a l inductionHypothesis =>
      by_cases equal : a = separator
      · subst equal
        rw [collapse, if_pos ⟨rfl, rfl⟩, inductionHypothesis]
        simp
      · rw [collapse, if_neg fun both => equal both.2]
        simp [equal]

/-- Merging runs loses no element. -/
@[simp]
theorem mem_collapse {a : α} {l : List α} : a ∈ collapse separator l ↔ a ∈ l := by
  induction l using collapse.induct separator with
  | case1 => simp [collapse]
  | case2 => simp [collapse]
  | case3 b c l run inductionHypothesis =>
      obtain ⟨rfl, rfl⟩ := run
      rw [collapse, if_pos ⟨rfl, rfl⟩, inductionHypothesis]
      simp
  | case4 b c l noRun inductionHypothesis =>
      rw [collapse, if_neg noRun, List.mem_cons, inductionHypothesis, List.mem_cons]
      simp

/-- Runs are merged alike after a renaming of the elements. -/
theorem collapse_map [DecidableEq β] {f : α → β} (injective : Function.Injective f) (l : List α) :
    collapse (f separator) (l.map f) = (collapse separator l).map f := by
  induction l using collapse.induct separator with
  | case1 => rfl
  | case2 => rfl
  | case3 b c l run inductionHypothesis =>
      obtain ⟨rfl, rfl⟩ := run
      rw [collapse, if_pos ⟨rfl, rfl⟩, ← inductionHypothesis]
      simp [collapse]
  | case4 b c l noRun inductionHypothesis =>
      have renamed : ¬ (f b = f separator ∧ f c = f separator) :=
        fun both => noRun ⟨injective both.1, injective both.2⟩
      calc collapse (f separator) ((b :: c :: l).map f)
          = f b :: collapse (f separator) ((c :: l).map f) := by
            rw [List.map_cons, List.map_cons, collapse, if_neg renamed]
        _ = (b :: collapse separator (c :: l)).map f := by rw [inductionHypothesis, List.map_cons]
        _ = (collapse separator (b :: c :: l)).map f := by rw [collapse, if_neg noRun]

variable {blank : α → Bool}

/-- With the separator as the only blank, and none at the end, squeezing is
dropping the blanks in front and merging the runs. -/
theorem squeeze_eq_collapse_dropWhile (isBlank : blank separator = true) {l : List α}
    (only : ∀ a ∈ l.dropWhile blank, blank a = true → a = separator)
    (ends : ∀ nonempty : l ≠ [], blank (l.getLast nonempty) = false) :
    squeeze blank separator l = collapse separator (l.dropWhile blank) := by
  induction l with
  | nil => simp [squeeze, collapse]
  | cons a l inductionHypothesis =>
      have ends' : ∀ nonempty : l ≠ [], blank (l.getLast nonempty) = false := by
        intro nonempty
        have last := ends (List.cons_ne_nil a l)
        rwa [List.getLast_cons nonempty] at last
      cases letter : blank a with
      | true =>
          rw [List.dropWhile_cons_of_pos letter] at only ⊢
          rw [squeeze, words_blank letter]
          exact inductionHypothesis only ends'
      | false =>
          have notSeparator : a ≠ separator := by
            rintro rfl
            rw [isBlank] at letter
            cases letter
          rw [List.dropWhile_cons_of_neg (by simp [letter])] at only ⊢
          rw [collapse_letter notSeparator]
          have only' : ∀ b ∈ l.dropWhile blank, blank b = true → b = separator :=
            fun b member => only b (List.mem_cons_of_mem _ ((List.dropWhile_sublist blank).mem member))
          have rest := inductionHypothesis only' ends'
          cases l with
          | nil => simp [squeeze, words, List.splitOnP_cons_eq_if_modifyHead, letter, collapse]
          | cons b l =>
              cases next : blank b with
              | false =>
                  obtain ⟨word, others, equal, equal'⟩ := words_letter_letter letter next l
                  rw [List.dropWhile_cons_of_neg (by simp [next])] at rest
                  rw [← rest, squeeze, squeeze, equal', List.intercalate_cons_cons_left, equal]
              | true =>
                  obtain rfl : b = separator :=
                    only b (List.mem_cons_of_mem _ List.mem_cons_self) next
                  -- a letter still follows, so the separator is written
                  have remains : words blank l ≠ [] := by
                    intro none
                    have blanks : ∀ c ∈ b :: l, blank c = true := by
                      intro c member
                      rcases List.mem_cons.mp member with rfl | later
                      · exact next
                      · exact blank_of_words_eq_nil none c later
                    have last := ends' (List.cons_ne_nil b l)
                    rw [blanks _ (List.getLast_mem _)] at last
                    cases last
                  have same : l.dropWhile (· = b) = l.dropWhile blank := by
                    apply dropWhile_congr
                    intro c member
                    cases found : blank c with
                    | true =>
                        simpa using only c
                          (List.mem_cons_of_mem _ (List.mem_cons_of_mem _ member)) found
                    | false =>
                        have different : c ≠ b := fun equal => by
                          rw [equal, next] at found
                          cases found
                        simpa using different
                  rw [List.dropWhile_cons_of_pos next] at rest
                  rw [squeeze, words_blank next] at rest
                  rw [collapse_separator, same, ← rest, squeeze, words_letter_blank letter next,
                    List.intercalate_cons_of_ne_nil remains]
                  rfl

/-- **Squeezing is stripping and merging runs**, when the separator is the only
blank between the ends. -/
theorem squeeze_eq_collapse (isBlank : blank separator = true) {l : List α}
    (only : ∀ a ∈ strip blank l, blank a = true → a = separator) :
    squeeze blank separator l = collapse separator (strip blank l) := by
  rw [← squeeze_rdropWhile]
  refine squeeze_eq_collapse_dropWhile isBlank only ?_
  intro nonempty
  simpa using List.rdropWhile_last_not blank l nonempty

end Collapse

end Words

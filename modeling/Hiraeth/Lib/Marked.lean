import Hiraeth.Lib.Separated

/-!
# Passages between marks

A sequence is searched from left to right for an opening mark, and from there
for the next closing mark; what stands between the two is replaced.  Both marks
start with the same element and contain it nowhere else, as the tags of a markup
language do, so occurrences of them never overlap.

## Main definitions

* `Marks` — a pair of such marks
* `Marks.passage` — a sequence with a marked passage in it
* `Marks.replace` — the search with replacement
* `Marks.Keeps`, `Marks.Settled` — what a replacement leaves alone, and the
  sequences in which that is everything but a permitted passage

## Main results

* `Marks.append_closing_inj` — a passage ends at the first closing mark
* `Marks.keeps_iff` — when a replacement changes at most one passage, and that
  passage is one it may change
-/

namespace Separated

universe u

variable {α : Type u} [DecidableEq α]

/-- An opening and a closing mark that start with the same element, contain it
nowhere else, and are told apart by what follows. -/
structure Marks (α : Type u) where
  opening : List α
  closing : List α
  lead : α
  opening_head : opening.head? = some lead
  closing_head : closing.head? = some lead
  opening_tail : lead ∉ opening.tail
  closing_tail : lead ∉ closing.tail
  apart : ∀ after after', closing ++ after ≠ opening ++ after'

namespace Marks

variable (marks : Marks α)

/-- The sequence in which `inner` stands between the marks. -/
def passage (before inner after : List α) : List α :=
  before ++ marks.opening ++ inner ++ marks.closing ++ after

omit [DecidableEq α] in
theorem length_opening_pos : 0 < marks.opening.length := by
  have head := marks.opening_head
  cases opening : marks.opening with
  | nil => simp [opening] at head
  | cons c tail => simp

omit [DecidableEq α] in
theorem closing_ne_nil : marks.closing ≠ [] := by
  intro empty
  simpa [empty] using marks.closing_head

/-- What stands between an opening mark and the next closing mark is replaced by
`new`, from left to right. -/
def replace (new : List α) (remaining : List α) : List α :=
  match _start : cutAt marks.opening remaining with
  | none => remaining
  | some (before, afterOpen) =>
      match _stop : cutAt marks.closing afterOpen with
      | none => before ++ marks.opening ++ afterOpen
      | some (_, rest) =>
          before ++ marks.opening ++ new ++ marks.closing ++ replace new rest
termination_by remaining.length
decreasing_by
  have positive := marks.length_opening_pos
  rw [cutAt_glued _start, cutAt_glued _stop]
  simp only [List.length_append]
  omega

/-! ### One pass of the search -/

/-- A sequence without an opening mark is left alone. -/
theorem replace_none {new remaining : List α} (start : cutAt marks.opening remaining = none) :
    marks.replace new remaining = remaining := by
  rw [replace]
  split
  · rfl
  · rename_i found
    rw [start] at found
    cases found

/-- So is one whose first opening mark is never closed. -/
theorem replace_unclosed {new remaining before afterOpen : List α}
    (start : cutAt marks.opening remaining = some (before, afterOpen))
    (stop : cutAt marks.closing afterOpen = none) :
    marks.replace new remaining = remaining := by
  rw [replace]
  split
  · rfl
  · rename_i found
    obtain ⟨rfl, rfl⟩ := Prod.mk.inj (Option.some.inj (start.symm.trans found))
    split
    · exact (cutAt_glued start).symm
    · rename_i closed
      rw [stop] at closed
      cases closed

/-- The first passage is replaced, and the search goes on behind it. -/
theorem replace_passage {new remaining before afterOpen old rest : List α}
    (start : cutAt marks.opening remaining = some (before, afterOpen))
    (stop : cutAt marks.closing afterOpen = some (old, rest)) :
    marks.replace new remaining = marks.passage before new (marks.replace new rest) := by
  rw [replace]
  split
  · rename_i missing
    rw [start] at missing
    cases missing
  · rename_i found
    obtain ⟨rfl, rfl⟩ := Prod.mk.inj (Option.some.inj (start.symm.trans found))
    split
    · rename_i unclosed
      rw [stop] at unclosed
      cases unclosed
    · rename_i closed
      obtain ⟨rfl, rfl⟩ := Prod.mk.inj (Option.some.inj (stop.symm.trans closed))
      rfl

/-! ### Where passages begin and end -/

section Position

variable {marks}

omit [DecidableEq α] in
/-- A passage ends at the first closing mark. -/
theorem append_closing_inj {inner inner' after after' : List α}
    (free : ¬ marks.closing <:+: inner) (free' : ¬ marks.closing <:+: inner')
    (equal : inner ++ marks.closing ++ after = inner' ++ marks.closing ++ after') :
    inner = inner' ∧ after = after' :=
  append_needle_inj marks.closing_tail marks.closing_head free free' equal

omit [DecidableEq α] in
/-- A sequence without the leading element contains no mark. -/
theorem closing_free_of_plain {inner : List α} (plain : marks.lead ∉ inner) :
    ¬ marks.closing <:+: inner := by
  rintro ⟨left, right, rfl⟩
  apply plain
  have inside : marks.lead ∈ marks.closing := List.mem_of_mem_head? marks.closing_head
  simp [inside]

omit [DecidableEq α] in
/-- Behind a plain passage, the next opening mark comes after the closing one. -/
theorem opening_after_closing {inner before after after' : List α} (plain : marks.lead ∉ inner)
    (equal : inner ++ marks.closing ++ after = before ++ marks.opening ++ after') :
    ∃ between, before = inner ++ marks.closing ++ between ∧
      after = between ++ marks.opening ++ after' := by
  rcases Nat.lt_trichotomy inner.length before.length with less | same | greater
  · exact occurrences_disjoint marks.closing_tail marks.opening_head equal less
  · rw [List.append_assoc, List.append_assoc] at equal
    exact absurd (List.append_inj equal same).2 (marks.apart after after')
  · obtain ⟨between, rfl, -⟩ :=
      occurrences_disjoint marks.opening_tail marks.closing_head equal.symm greater
    exact absurd (by simp [List.mem_of_mem_head? marks.opening_head]) plain

/-- The first opening mark that is found comes no later than any other: either
the passages are the same, or the other one starts behind the mark. -/
theorem first_opening {remaining before afterOpen before' after' : List α}
    (start : cutAt marks.opening remaining = some (before, afterOpen))
    (other : remaining = before' ++ marks.opening ++ after') :
    (before' = before ∧ after' = afterOpen) ∨
      ∃ between, before' = before ++ marks.opening ++ between ∧
        afterOpen = between ++ marks.opening ++ after' := by
  obtain ⟨decomposition, least⟩ := cutAt_eq_some.mp start
  rcases Nat.lt_or_eq_of_le (least before' after' other) with less | same
  · right
    exact occurrences_disjoint marks.opening_tail marks.opening_head
      (decomposition.symm.trans other) less
  · left
    have equal := decomposition.symm.trans other
    rw [List.append_assoc, List.append_assoc] at equal
    obtain ⟨left, right⟩ := List.append_inj equal same
    exact ⟨left.symm, (List.append_cancel_left right).symm⟩

end Position

/-! ### What a replacement changes -/

section Replacement

variable {marks} {new : List α}

/-- A replacement changed nothing, or one plain passage that `own` permits. -/
def Keeps (marks : Marks α) (new : List α) (own : List α → List α → Prop) (text : List α) : Prop :=
  marks.replace new text = text ∨
    ∃ before old other after, own before after ∧ marks.lead ∉ old ∧
      text = marks.passage before old after ∧
      marks.replace new text = marks.passage before other after

/-- Every passage already reads `new`, or is a plain one that `own` permits. -/
def Settled (marks : Marks α) (new : List α) (own : List α → List α → Prop) (text : List α) :
    Prop :=
  ∀ before old after, text = marks.passage before old after → ¬ marks.closing <:+: old →
    old = new ∨ (own before after ∧ marks.lead ∉ old)

omit [DecidableEq α] in
/-- What holds of every passage of a sequence holds of those behind a passage. -/
theorem Settled.behind {own : List α → List α → Prop} {before old rest : List α}
    (settled : marks.Settled new own (marks.passage before old rest)) :
    marks.Settled new
      (fun left right => own (marks.passage before old left) right) rest := by
  rintro left inner right rfl free
  exact settled (marks.passage before old left) inner right
    (by simp [passage, List.append_assoc]) free

/-- A sequence in which no mark opens a passage has none. -/
theorem replace_eq_self {text : List α} (unopened : ¬ marks.opening <:+: text) :
    marks.replace new text = text :=
  marks.replace_none (cutAt_eq_none.mpr unopened)

/-- Settled passages are kept. -/
theorem keeps_of_settled {text : List α} {own : List α → List α → Prop}
    (last : ∀ before after, own before after → ¬ marks.opening <:+: after)
    (settled : marks.Settled new own text) : marks.Keeps new own text := by
  -- along the search; what is permitted behind a passage depends on what precedes
  induction length : text.length using Nat.strongRecOn generalizing text own with
  | ind n inductionHypothesis =>
      cases start : cutAt marks.opening text with
      | none => exact Or.inl (marks.replace_none start)
      | some parts =>
          obtain ⟨before, afterOpen⟩ := parts
          cases stop : cutAt marks.closing afterOpen with
          | none => exact Or.inl (marks.replace_unclosed start stop)
          | some parts =>
              obtain ⟨old, rest⟩ := parts
              have whole : text = marks.passage before old rest := by
                rw [cutAt_glued start, cutAt_glued stop]
                simp [passage, List.append_assoc]
              have replaced : marks.replace new _ = _ := marks.replace_passage start stop
              rcases settled before old rest whole (cutAt_free marks.closing_ne_nil stop) with
                rfl | ⟨permitted, plain⟩
              · -- the passage reads `new` already
                have shorter : rest.length < n := by
                  have positive := marks.length_opening_pos
                  rw [← length, whole]
                  simp only [passage, List.length_append]
                  omega
                subst whole
                rcases inductionHypothesis _ shorter
                    (fun left right allowed => last _ right allowed) settled.behind rfl with
                  kept | ⟨left, inner, other, right, permitted, plain, split, joined⟩
                · left
                  rw [replaced, kept]
                · right
                  refine ⟨marks.passage before old left, inner, other, right, permitted, plain,
                    ?_, ?_⟩
                  · rw [split]
                    simp [passage, List.append_assoc]
                  · rw [replaced, joined]
                    simp [passage, List.append_assoc]
              · -- the passage may change, and none follows it
                right
                refine ⟨before, old, new, rest, permitted, plain, whole, ?_⟩
                rw [replaced, replace_eq_self (last before rest permitted)]

omit [DecidableEq α] in
/-- A passage that starts behind a plain passage lies behind its closing mark. -/
theorem passage_behind {inner rest before old after : List α} (plain : marks.lead ∉ inner)
    (equal : inner ++ marks.closing ++ rest = marks.passage before old after) :
    ∃ between, before = inner ++ marks.closing ++ between ∧
      rest = marks.passage between old after := by
  have shifted : inner ++ marks.closing ++ rest =
      before ++ marks.opening ++ (old ++ marks.closing ++ after) := by
    rw [equal]
    simp [passage, List.append_assoc]
  obtain ⟨between, rfl, rfl⟩ := opening_after_closing plain shifted
  exact ⟨between, rfl, by simp [passage, List.append_assoc]⟩

/-- What a kept sequence says about its first passage and about what follows. -/
theorem Keeps.first {own : List α → List α → Prop} {before afterOpen old rest : List α}
    (plainNew : marks.lead ∉ new)
    (start : cutAt marks.opening (marks.passage before old rest) = some (before, afterOpen))
    (stop : cutAt marks.closing afterOpen = some (old, rest))
    (keeps : marks.Keeps new own (marks.passage before old rest)) :
    (old = new ∧ marks.Keeps new
        (fun left right => own (marks.passage before old left) right) rest) ∨
      (own before rest ∧ marks.lead ∉ old) := by
  have free : ¬ marks.closing <:+: old := cutAt_free marks.closing_ne_nil stop
  have freeNew : ¬ marks.closing <:+: new := closing_free_of_plain plainNew
  have replaced : marks.replace new _ = _ := marks.replace_passage start stop
  have tail (inner after : List α) :
      marks.passage before inner after = before ++ (marks.opening ++ (inner ++ marks.closing ++ after)) := by
    simp [passage, List.append_assoc]
  rcases keeps with kept | ⟨left, inner, other, right, permitted, plain, split, joined⟩
  · -- nothing changed
    rw [replaced, tail, tail] at kept
    obtain ⟨rfl, rest'⟩ := append_closing_inj freeNew free
      (List.append_cancel_left (List.append_cancel_left kept))
    exact Or.inl ⟨rfl, Or.inl rest'⟩
  · have opened : marks.passage before old rest =
        left ++ marks.opening ++ (inner ++ marks.closing ++ right) := by
      rw [split]
      simp [passage, List.append_assoc]
    have afterOpening : afterOpen = old ++ marks.closing ++ rest := cutAt_glued stop
    rcases first_opening start opened with ⟨rfl, same⟩ | ⟨between, rfl, behind⟩
    · -- this passage changed
      obtain ⟨rfl, rfl⟩ := append_closing_inj (closing_free_of_plain plain) free
        (same.trans afterOpening)
      exact Or.inr ⟨permitted, plain⟩
    · -- a later one did
      have later : new ++ marks.closing ++ marks.replace new rest =
          marks.passage between other right := by
        rw [replaced] at joined
        rw [tail] at joined
        have shifted : before ++ (marks.opening ++ marks.passage between other right) =
            marks.passage (before ++ marks.opening ++ between) other right := by
          simp [passage, List.append_assoc]
        exact List.append_cancel_left (List.append_cancel_left (joined.trans shifted.symm))
      obtain ⟨gap, rfl, remaining⟩ := passage_behind plainNew later
      have unchanged : old ++ marks.closing ++ rest =
          new ++ marks.closing ++ marks.passage gap inner right := by
        rw [← afterOpening, behind]
        simp [passage, List.append_assoc]
      obtain ⟨rfl, rfl⟩ := append_closing_inj free freeNew unchanged
      refine Or.inl ⟨rfl, Or.inr ⟨gap, inner, other, right, ?_, plain, rfl, remaining⟩⟩
      simpa [passage, List.append_assoc] using permitted

/-- What is kept was settled. -/
theorem settled_of_keeps {text : List α} {own : List α → List α → Prop}
    (plainNew : marks.lead ∉ new)
    (last : ∀ before after, own before after → ¬ marks.opening <:+: after)
    (keeps : marks.Keeps new own text) : marks.Settled new own text := by
  induction length : text.length using Nat.strongRecOn generalizing text own with
  | ind n inductionHypothesis =>
      intro left inner right split free
      have opened : text = left ++ marks.opening ++ (inner ++ marks.closing ++ right) := by
        rw [split]
        simp [passage, List.append_assoc]
      cases start : cutAt marks.opening text with
      | none => exact absurd ⟨left, _, opened.symm⟩ (cutAt_eq_none.mp start)
      | some parts =>
          obtain ⟨before, afterOpen⟩ := parts
          have reached : marks.closing <:+: afterOpen := by
            rcases first_opening start opened with ⟨-, rfl⟩ | ⟨between, -, rfl⟩
            · exact ⟨inner, right, rfl⟩
            · exact ⟨between ++ marks.opening ++ inner, right, by simp [List.append_assoc]⟩
          cases stop : cutAt marks.closing afterOpen with
          | none => exact absurd reached (cutAt_eq_none.mp stop)
          | some parts =>
              obtain ⟨old, rest⟩ := parts
              have afterOpening : afterOpen = old ++ marks.closing ++ rest := cutAt_glued stop
              have whole : text = marks.passage before old rest := by
                rw [cutAt_glued start, afterOpening]
                simp [passage, List.append_assoc]
              subst whole
              have first := keeps.first plainNew start stop
              rcases first_opening start opened with ⟨rfl, same⟩ | ⟨between, rfl, behind⟩
              · obtain ⟨rfl, rfl⟩ := append_closing_inj free (cutAt_free marks.closing_ne_nil stop)
                  (same.trans afterOpening)
                exact first.imp And.left id
              · have plainOld : marks.lead ∉ old := by
                  rcases first with ⟨rfl, -⟩ | ⟨-, plain⟩
                  · exact plainNew
                  · exact plain
                have later : old ++ marks.closing ++ rest = marks.passage between inner right := by
                  rw [← afterOpening, behind]
                  simp [passage, List.append_assoc]
                obtain ⟨gap, rfl, rfl⟩ := passage_behind plainOld later
                rcases first with ⟨rfl, keepsRest⟩ | ⟨permitted, -⟩
                · have shorter : (marks.passage gap inner right).length < n := by
                    have positive := marks.length_opening_pos
                    rw [← length]
                    simp only [passage, List.length_append]
                    omega
                  have settledRest := inductionHypothesis _ shorter
                    (fun left' right' allowed => last _ right' allowed) keepsRest rfl
                  simpa [passage, List.append_assoc] using settledRest gap inner right rfl free
                · exact absurd ⟨gap, inner ++ marks.closing ++ right,
                    by simp [passage, List.append_assoc]⟩ (last before _ permitted)

/-- **A replacement by a plain text changes at most one permitted passage exactly
when every other passage reads so already.**  No passage follows a permitted
one. -/
theorem keeps_iff {text : List α} {own : List α → List α → Prop} (plainNew : marks.lead ∉ new)
    (last : ∀ before after, own before after → ¬ marks.opening <:+: after) :
    marks.Keeps new own text ↔ marks.Settled new own text :=
  ⟨settled_of_keeps plainNew last, keeps_of_settled last⟩

end Replacement

end Marks

end Separated

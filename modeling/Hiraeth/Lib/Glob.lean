import Mathlib.Computability.Language

/-!
# Glob patterns

Patterns over an arbitrary alphabet, made of literal symbols, a wildcard for one symbol and a
wildcard for any run of symbols.  A pattern denotes a language, the product of the languages of
its tokens; `isMatch` decides membership.

## Main definitions

* `Glob.Token`, `Glob.language` — patterns and the language each denotes
* `Glob.isMatch` — the matcher

## Main results

* `Glob.isMatch_iff` — the matcher decides the language of the pattern
-/

namespace Glob

variable {α : Type*}

/-- One token of a pattern. -/
inductive Token (α : Type*) where
  | literal (symbol : α)
  | one
  | many

/-- The texts one token stands for. -/
def Token.language : Token α → Language α
  | .literal symbol => {[symbol]}
  | .one => {text | ∃ symbol, text = [symbol]}
  | .many => ⊤

/-- The texts a pattern stands for. -/
def language (pattern : List (Token α)) : Language α := (pattern.map Token.language).prod

/-- Does the whole text match the pattern?  A `many` token tries every suffix. -/
def isMatch [DecidableEq α] : List (Token α) → List α → Bool
  | [], text => text.isEmpty
  | .literal symbol :: pattern, text =>
      match text with
      | [] => false
      | c :: rest => decide (c = symbol) && isMatch pattern rest
  | .one :: pattern, text =>
      match text with
      | [] => false
      | _ :: rest => isMatch pattern rest
  | .many :: pattern, text => text.tails.any (isMatch pattern)

/-! ### The language, token by token -/

theorem mem_language_nil (text : List α) : text ∈ language ([] : List (Token α)) ↔ text = [] :=
  Language.mem_one text

theorem language_cons (token : Token α) (pattern : List (Token α)) :
    language (token :: pattern) = token.language * language pattern := by
  rw [language, List.map_cons, List.prod_cons]
  rfl

theorem mem_language_literal (symbol : α) (pattern : List (Token α)) (text : List α) :
    text ∈ language (.literal symbol :: pattern) ↔
      ∃ rest, text = symbol :: rest ∧ rest ∈ language pattern := by
  rw [language_cons, Language.mem_mul]
  constructor
  · rintro ⟨front, rfl, rest, member, rfl⟩
    exact ⟨rest, rfl, member⟩
  · rintro ⟨rest, rfl, member⟩
    exact ⟨[symbol], rfl, rest, member, rfl⟩

theorem mem_language_one (pattern : List (Token α)) (text : List α) :
    text ∈ language (.one :: pattern) ↔
      ∃ symbol rest, text = symbol :: rest ∧ rest ∈ language pattern := by
  rw [language_cons, Language.mem_mul]
  constructor
  · rintro ⟨front, ⟨symbol, rfl⟩, rest, member, rfl⟩
    exact ⟨symbol, rest, rfl, member⟩
  · rintro ⟨symbol, rest, rfl, member⟩
    exact ⟨[symbol], ⟨symbol, rfl⟩, rest, member, rfl⟩

theorem mem_language_many (pattern : List (Token α)) (text : List α) :
    text ∈ language (.many :: pattern) ↔ ∃ rest, rest <:+ text ∧ rest ∈ language pattern := by
  rw [language_cons, Language.mem_mul]
  constructor
  · rintro ⟨front, -, rest, member, rfl⟩
    exact ⟨rest, List.suffix_append front rest, member⟩
  · rintro ⟨rest, ⟨front, rfl⟩, member⟩
    exact ⟨front, trivial, rest, member, rfl⟩

/-- **The matcher decides the pattern's language.** -/
theorem isMatch_iff [DecidableEq α] (pattern : List (Token α)) (text : List α) :
    isMatch pattern text = true ↔ text ∈ language pattern := by
  induction pattern generalizing text with
  | nil =>
      rw [mem_language_nil]
      exact List.isEmpty_iff
  | cons token pattern inductionHypothesis =>
      cases token with
      | literal symbol =>
          rw [mem_language_literal]
          cases text with
          | nil => simp [isMatch]
          | cons c rest => simp [isMatch, inductionHypothesis]
      | one =>
          rw [mem_language_one]
          cases text with
          | nil => simp [isMatch]
          | cons c rest => simp [isMatch, inductionHypothesis]
      | many =>
          rw [mem_language_many, isMatch, List.any_eq_true]
          simp only [List.mem_tails, inductionHypothesis]

/-- A text matches itself, whatever its symbols are read as. -/
theorem mem_language_map {read : α → Token α} (reads : ∀ symbol, [symbol] ∈ (read symbol).language)
    (text : List α) : text ∈ language (text.map read) := by
  induction text with
  | nil => exact (mem_language_nil []).mpr rfl
  | cons c rest inductionHypothesis =>
      rw [List.map_cons, language_cons, Language.mem_mul]
      exact ⟨[c], reads c, rest, inductionHypothesis, rfl⟩

/-- A pattern of literals stands for its own text only. -/
theorem mem_language_literals {text symbols : List α} :
    text ∈ language (symbols.map Token.literal) ↔ text = symbols := by
  induction symbols generalizing text with
  | nil => exact mem_language_nil text
  | cons c rest inductionHypothesis =>
      rw [List.map_cons, mem_language_literal]
      simp only [inductionHypothesis, exists_eq_right]

/-- Symbols that fit the tokens of a pattern one by one. -/
theorem mem_language_of_forall₂ {pattern : List (Token α)} {text : List α}
    (fits : List.Forall₂ (fun token symbol => [symbol] ∈ token.language) pattern text) :
    text ∈ language pattern := by
  induction fits with
  | nil => exact (mem_language_nil []).mpr rfl
  | @cons token symbol pattern text fit _ inductionHypothesis =>
      rw [language_cons, Language.mem_mul]
      exact ⟨[symbol], fit, text, inductionHypothesis, rfl⟩

theorem language_append (first second : List (Token α)) :
    language (first ++ second) = language first * language second := by
  rw [language, List.map_append, List.prod_append]
  rfl

/-- **A stem before a wildcard stands for the texts that start with it.** -/
theorem mem_language_stem {stem text : List α} :
    text ∈ language (stem.map Token.literal ++ [.many]) ↔ stem <+: text := by
  rw [language_append, Language.mem_mul]
  constructor
  · rintro ⟨front, isStem, rest, -, rfl⟩
    rw [mem_language_literals.mp isStem]
    exact List.prefix_append stem rest
  · rintro ⟨rest, rfl⟩
    exact ⟨stem, mem_language_literals.mpr rfl, rest,
      (mem_language_many _ _).mpr ⟨[], List.nil_suffix, (mem_language_nil []).mpr rfl⟩, rfl⟩

/-- A literal of the pattern occurs in every text that matches. -/
theorem mem_of_literal_mem {pattern : List (Token α)} {text : List α} {symbol : α}
    (matched : text ∈ language pattern) (literal : .literal symbol ∈ pattern) : symbol ∈ text := by
  induction pattern generalizing text with
  | nil => cases literal
  | cons token pattern inductionHypothesis =>
      rw [language_cons, Language.mem_mul] at matched
      obtain ⟨front, fits, rest, member, rfl⟩ := matched
      rcases List.mem_cons.mp literal with rfl | later
      · obtain rfl : front = [symbol] := fits
        exact List.mem_append_left _ List.mem_cons_self
      · exact List.mem_append_right _ (inductionHypothesis member later)

end Glob

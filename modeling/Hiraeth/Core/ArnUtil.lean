import Hiraeth.Core.Text

/-!
# ARNs of users and policies

How the services spell the ARNs they build themselves.  The path is trimmed and
put between two slashes.

## Main definitions

* `normalizeUserPath`, `userArn`, `policyArn`

## Main results

* `normalizeUserPath_eq_self_iff` — which paths are left as they are
-/

namespace Hiraeth

/-- `normalize_user_path`. -/
def normalizeUserPath (path : Text) : Text :=
  let trimmed := trim path
  if trimmed = [] ∨ trimmed = "/" then "/"
  else '/' :: (trimMatches '/' trimmed ++ ['/'])

/-- `user_arn`. -/
def userArn (accountId path userName : Text) : Text :=
  ("arn:aws:iam::" : Text) ++ accountId ++ ":user".toList ++ normalizeUserPath path ++ userName

/-- `policy_arn`. -/
def policyArn (accountId path policyName : Text) : Text :=
  ("arn:aws:iam::" : Text) ++ accountId ++ ":policy".toList ++ normalizeUserPath path ++ policyName

/-! ### Trimming -/

section Trim

variable {drop : Char → Bool} {text : Text} {c : Char}

theorem length_trimBy_le (drop : Char → Bool) (text : Text) :
    (trimBy drop text).length ≤ text.length := by
  unfold trimBy
  rw [List.length_reverse]
  calc ((text.dropWhile drop).reverse.dropWhile drop).length
      ≤ (text.dropWhile drop).reverse.length := (List.dropWhile_sublist drop).length_le
    _ = (text.dropWhile drop).length := List.length_reverse
    _ ≤ text.length := (List.dropWhile_sublist drop).length_le

theorem trimBy_cons (dropped : drop c = true) (text : Text) :
    trimBy drop (c :: text) = trimBy drop text := by
  unfold trimBy
  rw [List.dropWhile_cons_of_pos dropped]

theorem trimBy_concat (dropped : drop c = true) (text : Text) :
    trimBy drop (text ++ [c]) = trimBy drop text := by
  unfold trimBy
  rw [List.dropWhile_append]
  split_ifs with all
  · rw [List.isEmpty_iff.mp all, List.dropWhile_cons_of_pos dropped]
    rfl
  · rw [List.reverse_append, List.reverse_singleton, List.singleton_append,
      List.dropWhile_cons_of_pos dropped]

/-- A text is its own trimmed form exactly when neither end is dropped. -/
theorem trimBy_eq_self_iff : trimBy drop text = text ↔
    (∀ c ∈ text.head?, drop c = false) ∧ ∀ c ∈ text.getLast?, drop c = false := by
  constructor
  · intro same
    refine ⟨fun c first => ?_, fun c last => ?_⟩
    · by_contra dropped
      obtain ⟨rest, rfl⟩ := List.head?_eq_some_iff.mp first
      have shorter := length_trimBy_le drop rest
      rw [← trimBy_cons (by simpa using dropped) rest, same, List.length_cons] at shorter
      omega
    · by_contra dropped
      obtain ⟨front, rfl⟩ := List.getLast?_eq_some_iff.mp last
      have shorter := length_trimBy_le drop front
      rw [← trimBy_concat (by simpa using dropped) front, same, List.length_append,
        List.length_singleton] at shorter
      omega
  · rintro ⟨first, last⟩
    have front : text.dropWhile drop = text := by
      cases text with
      | nil => rfl
      | cons c rest => exact List.dropWhile_cons_of_neg (by simp [first c rfl])
    have back : text.reverse.dropWhile drop = text.reverse := by
      cases reversed : text.reverse with
      | nil => rfl
      | cons c rest =>
          have lastChar : text.getLast? = some c := by
            rw [← List.head?_reverse, reversed]
            rfl
          exact List.dropWhile_cons_of_neg (by simp [last c lastChar])
    rw [trimBy, front, back, List.reverse_reverse]

end Trim

/-! ### Normalised paths -/

theorem normalizeUserPath_root : normalizeUserPath "/" = "/" := by decide

/-- Whitespace inside of slashes is not trimmed. -/
theorem trim_enclosed (body : Text) : trim ('/' :: (body ++ ['/'])) = '/' :: (body ++ ['/']) := by
  have slash : isWhitespace '/' = false := by decide
  refine trimBy_eq_self_iff.mpr ⟨fun c first => ?_, fun c last => ?_⟩
  · cases Option.some.inj first
    exact slash
  · rw [← List.cons_append, List.getLast?_concat] at last
    cases Option.some.inj last
    exact slash

/-- A path between slashes is normalised by trimming what stands between them. -/
theorem normalizeUserPath_enclosed (body : Text) :
    normalizeUserPath ('/' :: (body ++ ['/'])) = '/' :: (trimMatches '/' body ++ ['/']) := by
  have long : '/' :: (body ++ ['/']) ≠ ("/" : Text) := fun same => by
    have length := congrArg List.length same
    simp at length
  unfold normalizeUserPath
  simp only [trim_enclosed, long, List.cons_ne_nil, or_self, if_false]
  rw [trimMatches, trimBy_cons (by decide), trimBy_concat (by decide)]
  rfl

/-- **A path between slashes is left as it is exactly when what stands between
them has no slash at either end.** -/
theorem normalizeUserPath_eq_self_iff (body : Text) :
    normalizeUserPath ('/' :: (body ++ ['/'])) = '/' :: (body ++ ['/']) ↔
      body.head? ≠ some '/' ∧ body.getLast? ≠ some '/' := by
  rw [normalizeUserPath_enclosed, List.cons.injEq, List.append_left_inj, trimMatches,
    trimBy_eq_self_iff]
  simp only [true_and, decide_eq_false_iff_not]
  refine and_congr ?_ ?_
  · exact ⟨fun free slash => free _ slash rfl, fun free c first same => free (same ▸ first)⟩
  · exact ⟨fun free slash => free _ slash rfl, fun free c last same => free (same ▸ last)⟩

end Hiraeth
